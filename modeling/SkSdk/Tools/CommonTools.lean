import Mathlib.Data.List.TakeWhile
import Mathlib.Data.List.DropRight
import SkSdk.Library.ByteMemory
import SkSdk.Library.Stdio

/-!
The reader of configuration texts (`common_tools.c`). A line is the C string in
`sline`; an index of it is at most its length, where the terminating zero is.
-/

namespace SkSdk
open ByteMemory Stdio
open File (newline)

abbrev elpCommongParsingLineSize : Nat := 2048

def ascii (s : String) : List UInt8 := s.toList.map fun c => UInt8.ofNat c.toNat

/-- The bytes before the first zero. -/
def cString (line : List UInt8) : List UInt8 := line.takeWhile (· ≠ 0)

def whiteSpace : UInt8 := 0x20
def isWhite (c : UInt8) : Bool := c = whiteSpace

/-- From `ZERO` to `NINE`. -/
def isDigit (c : UInt8) : Bool := 0x30 ≤ c && c ≤ 0x39

/-- `while(p(sline[i]) && (i++ < line_length))`, the list being what the line has
from `i` on. The zero at its end stops the loop. -/
def skip (p : UInt8 → Bool) : List UInt8 → Nat → Nat
  | [], i => i
  | c :: rest, i => if p c then skip p rest (i + 1) else i

/-! ## The values on a line -/

/-- `while((sline[i] == WHITE_SPACE) && (&sline[i] != start) && (i-- >= 0))`. -/
def skipBack (sline : List UInt8) (start : Nat) : Nat → Nat
  | 0 => 0
  | i + 1 =>
    if isWhite (sline.getD (i + 1) 0) ∧ i + 1 ≠ start then skipBack sline start i else i + 1

/-- What `read_string` makes of the line. The byte at the last index is
overwritten unless white space follows the value. -/
def lineString (sline : List UInt8) : Option (List UInt8) :=
  let start := skip isWhite sline 0
  if start = sline.length then none
  else
    let i := skipBack sline start (sline.length - 1)
    let i := if i < sline.length - 1 then i + 1 else i
    some ((sline.take i).drop start)

/-- `strncpy` of `max_op_size - 1` bytes, and the zero behind them. -/
def copyString (maxOpSize : Nat) (start : List UInt8) : Blk maxOpSize :=
  Blk.ofList maxOpSize (start.take (maxOpSize - 1))

/-- The digits that the number readers hand to the C library. Where the line ends
with them the last one is overwritten. -/
def lineNumber (sline : List UInt8) : Option (List UInt8) :=
  let snum := skip isWhite sline 0
  if snum = sline.length then none
  else
    let i := skip isDigit (sline.drop snum) snum
    let i := if i < sline.length then i else i - 1
    some ((sline.take i).drop snum)

def decimal (snum : List UInt8) : Nat := snum.foldl (fun v c => 10 * v + (c.toNat - 48)) 0

/-- `strtol` of a string of digits for a type of `bits` bits, as the C library
computes it: what is too large gives the largest number. -/
def strtol (bits : Nat) (snum : List UInt8) : Nat := min (decimal snum) (2 ^ (bits - 1) - 1)

def atoll (snum : List UInt8) : Nat := strtol 64 snum

/-- `atoi` is `strtol`, whose type has `longBits` bits. -/
def atoi (longBits : Nat) (snum : List UInt8) : Nat := strtol longBits snum

/-! ## The readers

Each gives the value that it stores, if any, and the file. -/

def readString (file : File) (maxOpSize : Nat) : Option (Blk maxOpSize) × File :=
  match file.fgets elpCommongParsingLineSize with
  | (none, file) => (none, file)
  | (some sline, file) => ((lineString (cString sline)).map (copyString maxOpSize), file)

/-- The three number readers but for the conversion. -/
def readNumber {α : Type} (convert : List UInt8 → α) (file : File) : Option α × File :=
  match file.fgets elpCommongParsingLineSize with
  | (none, file) => (none, file)
  | (some sline, file) => ((lineNumber (cString sline)).map convert, file)

/-- `*u` is the number stored in an `unsigned long` of `longBits` bits. -/
def readLong (longBits : Nat) (file : File) : Option Nat × File :=
  readNumber (fun snum => atoll snum % 2 ^ longBits) file

def readShort (longBits : Nat) (file : File) : Option UInt16 × File :=
  readNumber (fun snum => UInt16.ofNat (atoi longBits snum)) file

def readByte (longBits : Nat) (file : File) : Option UInt8 × File :=
  readNumber (fun snum => UInt8.ofNat (atoi longBits snum)) file

def convertchar2hex (a : UInt8) : UInt8 :=
  match a.toNat with
  | 65 | 97 => 0x0a
  | 66 | 98 => 0x0b
  | 67 | 99 => 0x0c
  | 68 | 100 => 0x0d
  | 69 | 101 => 0x0e
  | 70 | 102 => 0x0f
  | 48 => 0x00
  | 49 => 0x01
  | 50 => 0x02
  | 51 => 0x03
  | 52 => 0x04
  | 53 => 0x05
  | 54 => 0x06
  | 55 => 0x07
  | 56 => 0x08
  | _ => 0x09

def isHexDigit (a : UInt8) : Bool :=
  (48 ≤ a && a ≤ 57) || (65 ≤ a && a ≤ 70) || (97 ≤ a && a ≤ 102)

/-- The locals of `read_bytes`; `oplen` is the number of bytes stored so far. -/
structure HexState where
  value : UInt8
  bitcnt : Nat
  op : List UInt8

/-- The case of two digits, and of one that something else follows. -/
def HexState.store (s : HexState) : HexState := ⟨0, 0, s.op ++ [s.value]⟩

/-- `switch(bitcnt)`. -/
def HexState.switch (s : HexState) (bvalid : Bool) : HexState :=
  match s.bitcnt with
  | 0 => s
  | 1 => if bvalid then s else s.store
  | 2 => s.store
  | _ => { s with bitcnt := 0 }

/-- A hex digit joins the value. -/
def HexState.digit (s : HexState) (a : UInt8) : HexState :=
  { s with
    bitcnt := s.bitcnt + 1
    value := ((s.value <<< 4) &&& 0xf0) ||| convertchar2hex a }

theorem fscanfChar_decreases (file : File) (h : file.eof = false) :
    file.fscanfChar.2.rest.length + (if file.fscanfChar.2.eof then 0 else 1) <
      file.rest.length + (if file.eof then 0 else 1) := by
  obtain ⟨past, rest, eof⟩ := file
  cases h
  cases rest with
  | nil => exact Nat.lt_succ_self 0
  | cons c rest => exact Nat.lt_succ_self _

/-- The loop of `read_bytes`. At the end of the file `a` keeps what it held, and is
looked at once more. -/
def readBytesLoop (iplen : Nat) (file : File) (a : UInt8) (s : HexState) :
    Int × List UInt8 × File :=
  if h : file.eof = false ∧ s.op.length < iplen then
    let a := file.fscanfChar.1.getD a
    if isHexDigit a then
      let s := (s.digit a).switch true
      if iplen < s.op.length then (-1, s.op, file.fscanfChar.2)
      else readBytesLoop iplen file.fscanfChar.2 a s
    else if a = 0x2f ∨ a = 0x5b then
      (-2, if s.bitcnt = 1 then s.op ++ [s.value] else s.op, file.fscanfChar.2.fseekBack)
    else
      let s := s.switch false
      if iplen < s.op.length then (-1, s.op, file.fscanfChar.2)
      else readBytesLoop iplen file.fscanfChar.2 a s
  else (0, s.op, file)
termination_by file.rest.length + (if file.eof then 0 else 1)
decreasing_by all_goals exact fscanfChar_decreases file h.1

/-- The status, the bytes stored from `op` on, and the file. -/
def readBytes (file : File) (iplen : Nat) (a : UInt8) : Int × List UInt8 × File :=
  readBytesLoop iplen file a ⟨0, 0, []⟩

/-! ## The sections -/

inductive ParseType
  | elpCharHex
  | elpCharString
  | elpLong
  | elpShort
  | elpByte
  deriving DecidableEq

/-- A section: `m`, `u` and `s` store at the place they point to. -/
structure ParseConfigInfo (τ : Type) where
  name : List UInt8
  type : ParseType
  size : Nat
  m : List UInt8 → τ → τ
  u : Nat → τ → τ
  s : UInt16 → τ → τ

/-- The loop that copies a name to `svar`, from index `i` on: a byte is copied
before it is looked at what follows. -/
def copyName : List UInt8 → Nat → List UInt8 × Nat
  | [], i => ([], i)
  | [c], i => ([c], i + 1)
  | c :: d :: rest, i =>
    if d ≠ 0x5d ∧ d ≠ whiteSpace then
      let (svar, i) := copyName (d :: rest) (i + 1)
      (c :: svar, i)
    else ([c], i + 1)

/-- The name that a line opens a section with. -/
def sectionName (sline : List UInt8) : Option (List UInt8) :=
  let i := skip isWhite sline 0
  if i = sline.length then none
  else if sline.getD i 0 ≠ 0x5b then none
  else if i + 1 = sline.length then none
  else
    let (svar, i) := copyName (sline.drop (i + 1)) (i + 1)
    if i = sline.length then none
    else if sline.getD i 0 ≠ 0x5d then none
    else if i + 1 = sline.length then none
    else some svar

section Parser

variable {τ : Type} (longBits : Nat) (ptr : List (ParseConfigInfo τ)) (a : UInt8)

/-- The value of a section, by its type. -/
def readSection (p : ParseConfigInfo τ) (file : File) (data : τ) : File × τ :=
  match p.type with
  | .elpCharHex =>
    let (_, op, file) := readBytes file p.size a
    (file, p.m op data)
  | .elpCharString =>
    let (op, file) := readString file p.size
    (file, op.elim data fun op => p.m (List.ofFn op) data)
  | .elpByte =>
    let (m, file) := readByte longBits file
    (file, m.elim data fun m => p.m [m] data)
  | .elpShort =>
    let (s, file) := readShort longBits file
    (file, s.elim data fun s => p.s s data)
  | .elpLong =>
    let (u, file) := readLong longBits file
    (file, u.elim data fun u => p.u u data)

/-- What a line that has been read leads to. -/
def parseLine (sline : List UInt8) (file : File) (data : τ) : File × τ :=
  match sectionName sline with
  | none => (file, data)
  | some svar =>
    match ptr.find? fun p => p.name = svar with
    | none => (file, data)
    | some p => readSection longBits a p file data

/-- The loop over the lines, `none` when it takes more than `fuel` rounds. -/
def parseLoop : Nat → File → τ → Option τ
  | 0, _, _ => none
  | fuel + 1, file, data =>
    if file.eof then some data
    else
      match file.fgets elpCommongParsingLineSize with
      | (none, file) => parseLoop fuel file data
      | (some sline, file) =>
        let (file, data) := parseLine longBits ptr a (cString sline) file data
        parseLoop fuel file data

/-- `file` is the content of the file unless it cannot be opened, `a` what the local
of `read_bytes` holds before it is read to. -/
def parseConfig (fuel : Nat) (file : Option (List UInt8)) (data : τ) : Option (Int × τ) :=
  match file with
  | none => some (-1, data)
  | some bytes =>
    (parseLoop longBits ptr a fuel (File.ofBytes bytes) data).map fun data => (0, data)

end Parser

/-! ## What a line gives -/

theorem skip_append {p : UInt8 → Bool} {w s : List UInt8} (i : Nat) (hw : ∀ c ∈ w, p c = true)
    (hs : ∀ c ∈ s.head?, p c = false) : skip p (w ++ s) i = i + w.length := by
  induction w generalizing i with
  | nil =>
    cases s with
    | nil => rfl
    | cons c s => simp [skip, hs c rfl]
  | cons c w ih =>
    rw [List.cons_append, skip, if_pos (hw c List.mem_cons_self),
      ih _ fun b hb => hw b (List.mem_cons_of_mem c hb), List.length_cons]
    omega

/-- The way back stops at the last byte that is not white, at `start` at the latest. -/
theorem skipBack_eq {sline : List UInt8} {start i : Nat} (hstart : start ≤ i)
    (hi : i < sline.length) (hhead : isWhite (sline.getD start 0) = false) :
    skipBack sline start i + 1 =
      start + (((sline.take (i + 1)).drop start).rdropWhile isWhite).length := by
  induction i with
  | zero =>
    obtain rfl := Nat.le_zero.mp hstart
    cases sline with
    | nil => cases hi
    | cons c sline =>
      have hc : isWhite c = false := hhead
      simp [skipBack, List.rdropWhile_singleton, hc]
  | succ i ih =>
    have hget : sline.getD (i + 1) 0 = sline[i + 1] := List.getD_eq_getElem _ _ hi
    have htake : sline.take (i + 1 + 1) = sline.take (i + 1) ++ [sline[i + 1]] :=
      (List.take_concat_get' _ _ hi).symm
    have hlen : (sline.take (i + 1)).length = i + 1 := List.length_take_of_le (Nat.le_of_lt hi)
    have hdrop : (sline.take (i + 1 + 1)).drop start =
        (sline.take (i + 1)).drop start ++ [sline[i + 1]] := by
      rw [htake, List.drop_append_of_le_length (by omega)]
    have hwhole : ((sline.take (i + 1)).drop start).length = i + 1 - start := by
      rw [List.length_drop, hlen]
    rw [skipBack, hget, hdrop]
    by_cases hwhite : isWhite sline[i + 1] = true
    · rw [List.rdropWhile_concat_pos _ _ _ hwhite]
      have hne : i + 1 ≠ start := by
        rintro rfl
        rw [hget, hwhite] at hhead
        cases hhead
      rw [if_pos ⟨hwhite, hne⟩]
      exact ih (by omega) (by omega)
    · rw [List.rdropWhile_concat_neg _ _ _ hwhite, if_neg fun h => hwhite h.1, List.length_append,
        List.length_singleton, hwhole]
      omega

/-- The indices of the leading white space end where it ends. -/
theorem skip_white {w s : List UInt8} (hw : ∀ c ∈ w, isWhite c = true) (hs : s ≠ [])
    (hhead : isWhite (s.head hs) = false) : skip isWhite (w ++ s) 0 = w.length := by
  refine (skip_append 0 hw fun c hc => ?_).trans (Nat.zero_add _)
  rw [List.head?_eq_some_head hs] at hc
  cases hc
  exact hhead

theorem skip_all_white {w : List UInt8} (hw : ∀ c ∈ w, isWhite c = true) :
    skip isWhite w 0 = w.length := by
  have happend := skip_append (s := []) 0 hw fun c hc => by cases hc
  rwa [List.append_nil, Nat.zero_add] at happend

theorem drop_take_append (w s : List UInt8) (k : Nat) :
    ((w ++ s).take (w.length + k)).drop w.length = s.take k := by
  rw [List.drop_take, List.drop_left, Nat.add_sub_cancel_left]

theorem getD_append_head (w : List UInt8) {s : List UInt8} (hs : s ≠ []) :
    (w ++ s).getD w.length 0 = s.head hs := by
  rw [List.getD_append_right _ _ _ _ (Nat.le_refl _), Nat.sub_self,
    List.getD_eq_getElem _ _ (List.length_pos_of_ne_nil hs), ← List.head_eq_getElem hs]

theorem lineString_white {w : List UInt8} (hw : ∀ c ∈ w, isWhite c = true) :
    lineString w = none := by
  rw [lineString, if_pos (skip_all_white hw)]

theorem length_rdropWhile_lt {s : List UInt8} (hs : s ≠ [])
    (hlast : isWhite (s.getLast hs) = true) : (s.rdropWhile isWhite).length < s.length := by
  have hne : s.rdropWhile isWhite ≠ s := fun h => List.rdropWhile_eq_self_iff.mp h hs hlast
  have hfront : s.rdropWhile isWhite <+: s := List.rdropWhile_prefix _ _
  exact Nat.lt_of_le_of_ne hfront.length_le fun h => hne (hfront.eq_of_length h)

/-- Of what follows the leading white space the trailing white space is cut off, or
else the last byte. -/
theorem lineString_append {w s : List UInt8} (hw : ∀ c ∈ w, isWhite c = true) (hs : s ≠ [])
    (hhead : isWhite (s.head hs) = false) :
    lineString (w ++ s) =
      some (if isWhite (s.getLast hs) then s.rdropWhile isWhite else s.dropLast) := by
  have hpos : 0 < s.length := List.length_pos_of_ne_nil hs
  have hlen : (w ++ s).length = w.length + s.length := List.length_append
  have hfirst : isWhite ((w ++ s).getD w.length 0) = false := by
    rw [getD_append_head w hs]
    exact hhead
  have hback := skipBack_eq (i := (w ++ s).length - 1) (by omega) (by omega) hfirst
  rw [Nat.sub_add_cancel (by omega), List.take_length, List.drop_left] at hback
  have hfront : s.rdropWhile isWhite <+: s := List.rdropWhile_prefix _ _
  rw [lineString, skip_white hw hs hhead, if_neg (by omega)]
  dsimp only
  by_cases hlast : isWhite (s.getLast hs) = true
  · have hlt := length_rdropWhile_lt hs hlast
    rw [if_pos hlast, if_pos (by omega), hback, drop_take_append,
      ← List.prefix_iff_eq_take.mp hfront]
  · have hself : s.rdropWhile isWhite = s := List.rdropWhile_eq_self_iff.mpr fun _ => hlast
    rw [hself] at hback
    have hend : skipBack (w ++ s) w.length ((w ++ s).length - 1) = w.length + (s.length - 1) := by
      omega
    rw [if_neg hlast, if_neg (by omega), hend, drop_take_append, List.dropLast_eq_take]

theorem lineNumber_white {w : List UInt8} (hw : ∀ c ∈ w, isWhite c = true) :
    lineNumber w = none := by
  rw [lineNumber, if_pos (skip_all_white hw)]

/-- Of what follows the leading white space the digits are kept, or all but the last
if there is nothing else. -/
theorem lineNumber_append {w s : List UInt8} (hw : ∀ c ∈ w, isWhite c = true) (hs : s ≠ [])
    (hhead : isWhite (s.head hs) = false) :
    lineNumber (w ++ s) =
      some (if (s.takeWhile isDigit).length < s.length then s.takeWhile isDigit
        else s.dropLast) := by
  have hpos : 0 < s.length := List.length_pos_of_ne_nil hs
  have hlen : (w ++ s).length = w.length + s.length := List.length_append
  have hsplit : s.takeWhile isDigit ++ s.dropWhile isDigit = s := List.takeWhile_append_dropWhile
  have hfront : s.takeWhile isDigit <+: s := List.takeWhile_prefix _
  have hskip : skip isDigit s w.length = w.length + (s.takeWhile isDigit).length := by
    conv_lhs => rw [← hsplit]
    refine skip_append _ (fun c => List.mem_takeWhile_imp) fun c hc => ?_
    have hhead := List.head?_dropWhile_not isDigit s
    rw [hc] at hhead
    simpa using hhead
  rw [lineNumber, skip_white hw hs hhead, if_neg (by omega), List.drop_left, hskip]
  dsimp only
  by_cases hlt : (s.takeWhile isDigit).length < s.length
  · rw [if_pos hlt, if_pos (by omega), drop_take_append, ← List.prefix_iff_eq_take.mp hfront]
  · have hall : (s.takeWhile isDigit).length = s.length := by
      have hle := hfront.length_le
      omega
    rw [if_neg hlt, if_neg (by omega), hall, Nat.add_sub_assoc hpos, drop_take_append,
      List.dropLast_eq_take]

/-! ## A line that a newline ends -/

/-- The line without its leading white space. -/
def trimmed (line : List UInt8) : List UInt8 := line.dropWhile isWhite

theorem takeWhile_trimmed (line : List UInt8) : line.takeWhile isWhite ++ trimmed line = line :=
  List.takeWhile_append_dropWhile

theorem isWhite_head_trimmed (line : List UInt8) (h : trimmed line ≠ []) :
    isWhite ((trimmed line).head h) = false :=
  List.head_dropWhile_not isWhite h

theorem cString_of_zero {line : List UInt8} (rest : List UInt8) (h : 0 ∈ line) :
    cString (line ++ rest) = cString line := by
  unfold cString
  rw [List.takeWhile_append, if_neg]
  intro hlen
  have hself := (List.takeWhile_prefix fun c : UInt8 => decide (c ≠ 0)).eq_of_length hlen
  exact absurd (List.takeWhile_eq_self_iff.mp hself 0 h) (by decide)

theorem cString_of_nonzero {line : List UInt8} (h : 0 ∉ line) : cString line = line :=
  List.takeWhile_eq_self_iff.mpr fun _ hc => decide_eq_true fun hzero => h (hzero ▸ hc)

section Newline

variable {line : List UInt8}

theorem cString_newline (hzero : 0 ∉ line) : cString (line ++ [newline]) = line ++ [newline] := by
  refine cString_of_nonzero fun h => ?_
  rcases List.mem_append.mp h with h | h
  · exact hzero h
  · exact absurd (List.mem_singleton.mp h) (by decide)

theorem isWhite_head_newline (line : List UInt8) (h : trimmed line ++ [newline] ≠ []) :
    isWhite ((trimmed line ++ [newline]).head h) = false := by
  by_cases hempty : trimmed line = []
  · simp only [hempty, List.nil_append, List.head_cons]
    decide
  · rw [List.head_append_of_ne_nil hempty]
    exact isWhite_head_trimmed line hempty

/-- The newline is the byte that is cut off. -/
theorem lineString_newline (hzero : 0 ∉ line) :
    lineString (cString (line ++ [newline])) = some (trimmed line) := by
  have hne : trimmed line ++ [newline] ≠ [] := by simp
  have hlast : ¬ isWhite newline = true := by decide
  rw [cString_newline hzero, ← takeWhile_trimmed line, List.append_assoc,
    lineString_append (fun c => List.mem_takeWhile_imp) hne (isWhite_head_newline line hne),
    List.getLast_concat, if_neg hlast, List.dropLast_concat, takeWhile_trimmed]

theorem lineNumber_newline (hzero : 0 ∉ line) :
    lineNumber (cString (line ++ [newline])) = some ((trimmed line).takeWhile isDigit) := by
  have hne : trimmed line ++ [newline] ≠ [] := by simp
  have hend : (trimmed line ++ [newline]).takeWhile isDigit = (trimmed line).takeWhile isDigit := by
    rw [List.takeWhile_append]
    split
    · next hall =>
      have hself := (List.takeWhile_prefix isDigit).eq_of_length hall
      have hstop : [newline].takeWhile isDigit = [] := by decide
      rw [hstop, List.append_nil, hself]
    · rfl
  have hle := (List.takeWhile_prefix isDigit : (trimmed line).takeWhile isDigit <+: _).length_le
  rw [cString_newline hzero, ← takeWhile_trimmed line, List.append_assoc,
    lineNumber_append (fun c => List.mem_takeWhile_imp) hne (isWhite_head_newline line hne), hend,
    takeWhile_trimmed, if_pos]
  rw [List.length_append, List.length_singleton]
  omega

variable (past rest : List UInt8)

theorem readString_newline (hline : newline ∉ line) (hlen : line.length < 2047) (maxOpSize : Nat) :
    readString ⟨past, line ++ newline :: rest, false⟩ maxOpSize =
      ((lineString (cString (line ++ [newline]))).map (copyString maxOpSize),
        ⟨(line ++ [newline]).reverse ++ past, rest, false⟩) := by
  rw [readString, File.fgets_of_newline past rest hline (Nat.succ_lt_succ hlen)]

theorem readNumber_newline {α : Type} (convert : List UInt8 → α) (hline : newline ∉ line)
    (hlen : line.length < 2047) :
    readNumber convert ⟨past, line ++ newline :: rest, false⟩ =
      ((lineNumber (cString (line ++ [newline]))).map convert,
        ⟨(line ++ [newline]).reverse ++ past, rest, false⟩) := by
  rw [readNumber, File.fgets_of_newline past rest hline (Nat.succ_lt_succ hlen)]

end Newline

end SkSdk
