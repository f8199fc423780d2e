import SkSdk.Tools.CommonTools

/-!
A value on a line that a newline ends and on the last line of a file without one.
The readers cut the last byte of the line off whatever it is, except after
trailing white space or, of a number, after any other byte.
-/

namespace SkSdk
open ByteMemory Stdio
open File (newline)

/-! ## At the end of the file -/

/-- What a string keeps of its line: the trailing white space goes, or else the
last byte. -/
def keptString (s : List UInt8) : List UInt8 :=
  if s.getLast? = some whiteSpace then s.rdropWhile isWhite else s.dropLast

section End

variable {line : List UInt8}

theorem lineString_end (hzero : 0 ∉ line) :
    lineString (cString line) =
      if trimmed line = [] then none else some (keptString (trimmed line)) := by
  rw [cString_of_nonzero hzero]
  by_cases hempty : trimmed line = []
  · rw [if_pos hempty]
    exact lineString_white fun c => List.dropWhile_eq_nil_iff.mp hempty c
  · have hlast : isWhite ((trimmed line).getLast hempty) = true ↔
        (trimmed line).getLast? = some whiteSpace := by
      rw [List.getLast?_eq_some_getLast hempty, Option.some.injEq]
      exact decide_eq_true_iff
    have hvalue := lineString_append (fun c => List.mem_takeWhile_imp) hempty
      (isWhite_head_trimmed line hempty) (w := line.takeWhile isWhite)
    rw [takeWhile_trimmed] at hvalue
    rw [if_neg hempty, hvalue]
    simp only [keptString, hlast]

theorem lineNumber_end (hzero : 0 ∉ line) :
    lineNumber (cString line) =
      if trimmed line = [] then none
      else some (if ((trimmed line).takeWhile isDigit).length < (trimmed line).length then
        (trimmed line).takeWhile isDigit else (trimmed line).dropLast) := by
  rw [cString_of_nonzero hzero]
  by_cases hempty : trimmed line = []
  · rw [if_pos hempty]
    exact lineNumber_white fun c => List.dropWhile_eq_nil_iff.mp hempty c
  · have hvalue := lineNumber_append (fun c => List.mem_takeWhile_imp) hempty
      (isWhite_head_trimmed line hempty) (w := line.takeWhile isWhite)
    rw [takeWhile_trimmed] at hvalue
    rw [if_neg hempty, hvalue]

variable (past : List UInt8)

/-- An empty last line is none at all, but neither has it a value. -/
theorem readString_end (hline : newline ∉ line) (hlen : line.length < 2047) (maxOpSize : Nat) :
    (readString ⟨past, line, false⟩ maxOpSize).1 =
      (lineString (cString line)).map (copyString maxOpSize) := by
  cases line with
  | nil =>
    rw [readString, File.fgets_nil past (by decide)]
    rfl
  | cons c line =>
    rw [readString, File.fgets_of_end past hline (List.cons_ne_nil c line) (Nat.succ_lt_succ hlen)]

theorem readNumber_end {α : Type} (convert : List UInt8 → α) (hline : newline ∉ line)
    (hlen : line.length < 2047) :
    (readNumber convert ⟨past, line, false⟩).1 = (lineNumber (cString line)).map convert := by
  cases line with
  | nil =>
    rw [readNumber, File.fgets_nil past (by decide)]
    rfl
  | cons c line =>
    rw [readNumber, File.fgets_of_end past hline (List.cons_ne_nil c line) (Nat.succ_lt_succ hlen)]

end End

/-! ## The two compared -/

/-- A string is read the same if a zero ends it, or if the bytes that fit stand
before what the end of the file costs it. -/
def StringEnds (maxOpSize : Nat) (line : List UInt8) : Prop :=
  0 ∈ line ∨ trimmed line ≠ [] ∧ maxOpSize - 1 ≤ (keptString (trimmed line)).length

/-- A number is read the same if a zero ends its line, or a byte other than a digit
stands on it, or it is stored as the same without its last digit, all numbers
being cut to a type of `bits` bits and stored in `width`. -/
def NumberEnds (bits width : Nat) (line : List UInt8) : Prop :=
  0 ∈ line ∨ ∃ front c, trimmed line = front ++ [c] ∧
    ((∃ b ∈ trimmed line, isDigit b = false) ∨
      min (10 * decimal front + (c.toNat - 48)) (2 ^ (bits - 1) - 1) % 2 ^ width =
        min (decimal front) (2 ^ (bits - 1) - 1) % 2 ^ width)

theorem keptString_isPrefix (s : List UInt8) : keptString s <+: s := by
  unfold keptString
  split
  · exact List.rdropWhile_prefix _ _
  · exact List.dropLast_prefix _

theorem length_keptString_lt {s : List UInt8} (hs : s ≠ []) : (keptString s).length < s.length := by
  unfold keptString
  split
  · next hlast =>
    have hwhite : isWhite (s.getLast hs) = true := by
      rw [List.getLast?_eq_some_getLast hs, Option.some.injEq] at hlast
      exact decide_eq_true hlast
    exact length_rdropWhile_lt hs hwhite
  · have hpos := List.length_pos_of_ne_nil hs
    rw [List.length_dropLast]
    omega

/-- A string and one cut short are copied alike only if what fits is in both. -/
theorem copyString_prefix_iff {s k : List UInt8} (n : Nat) (hfront : k <+: s)
    (hlt : k.length < s.length) (hzero : 0 ∉ s) :
    copyString n s = copyString n k ↔ n - 1 ≤ k.length := by
  constructor
  · intro h
    by_contra hlong
    have hbyte := congrFun h ⟨k.length, by omega⟩
    simp only [copyString, Blk.ofList] at hbyte
    rw [List.getD_eq_getElem _ _ (by rw [List.length_take]; omega), List.getElem_take,
      List.getD_eq_default _ _ (by rw [List.length_take]; omega)] at hbyte
    exact hzero (hbyte ▸ List.getElem_mem hlt)
  · intro hfits
    have htake : s.take (n - 1) = k.take (n - 1) := by
      obtain ⟨r, rfl⟩ := hfront
      exact List.take_append_of_le_length hfits
    rw [copyString, copyString, htake]

theorem decimal_concat (front : List UInt8) (c : UInt8) :
    decimal (front ++ [c]) = 10 * decimal front + (c.toNat - 48) := by
  rw [decimal, List.foldl_append]
  rfl

section Compared

variable {line : List UInt8} (past past' rest : List UInt8)

theorem readString_same_iff (n : Nat) (hline : newline ∉ line) (hlen : line.length < 2047) :
    (readString ⟨past, line ++ newline :: rest, false⟩ n).1 =
        (readString ⟨past', line, false⟩ n).1 ↔ StringEnds n line := by
  rw [readString_newline past rest hline hlen, readString_end past' hline hlen]
  by_cases hzero : 0 ∈ line
  · rw [cString_of_zero [newline] hzero]
    exact iff_of_true rfl (Or.inl hzero)
  · have htrimmed : 0 ∉ trimmed line := fun h => hzero ((List.dropWhile_suffix isWhite).mem h)
    rw [lineString_newline hzero, lineString_end hzero, StringEnds, or_iff_right hzero]
    by_cases hempty : trimmed line = []
    · rw [if_pos hempty]
      exact iff_of_false (Option.some_ne_none _) fun h => h.1 hempty
    · rw [if_neg hempty, Option.map_some, Option.map_some, Option.some.injEq,
        copyString_prefix_iff n (keptString_isPrefix _) (length_keptString_lt hempty) htrimmed]
      exact (and_iff_right hempty).symm

/-- The three number readers: `hconvert` says which numbers are stored alike. -/
theorem readNumber_same_iff {α : Type} {convert : List UInt8 → α} {bits width : Nat}
    (hconvert : ∀ x y, convert x = convert y ↔
      strtol bits x % 2 ^ width = strtol bits y % 2 ^ width)
    (hline : newline ∉ line) (hlen : line.length < 2047) :
    (readNumber convert ⟨past, line ++ newline :: rest, false⟩).1 =
        (readNumber convert ⟨past', line, false⟩).1 ↔ NumberEnds bits width line := by
  rw [readNumber_newline past rest convert hline hlen, readNumber_end past' convert hline hlen]
  by_cases hzero : 0 ∈ line
  · rw [cString_of_zero [newline] hzero]
    exact iff_of_true rfl (Or.inl hzero)
  · rw [lineNumber_newline hzero, lineNumber_end hzero, NumberEnds, or_iff_right hzero]
    rcases List.eq_nil_or_concat (trimmed line) with hempty | ⟨front, c, hconcat⟩
    · rw [if_pos hempty]
      refine iff_of_false (Option.some_ne_none _) ?_
      rintro ⟨front, c, hconcat, -⟩
      exact absurd (hempty.symm.trans hconcat) (by simp)
    · rw [List.concat_eq_append] at hconcat
      have hne : trimmed line ≠ [] := by simp [hconcat]
      rw [if_neg hne, Option.map_some, Option.map_some, Option.some.injEq]
      by_cases hdigits : ∀ b ∈ trimmed line, isDigit b = true
      · have hall : (trimmed line).takeWhile isDigit = trimmed line :=
          List.takeWhile_eq_self_iff.mpr hdigits
        have hcut : (trimmed line).dropLast = front := by rw [hconcat, List.dropLast_concat]
        rw [hall, if_neg (Nat.lt_irrefl _), hcut, hconvert, hconcat, strtol, strtol, decimal_concat]
        constructor
        · intro h
          exact ⟨front, c, rfl, Or.inr h⟩
        · rintro ⟨front', c', hsame, ⟨b, hb, hother⟩ | h⟩
          · rw [← hconcat] at hb
            exact absurd (hdigits b hb) (by rw [hother]; decide)
          · obtain ⟨rfl, hlast⟩ := List.append_inj' hsame rfl
            cases hlast
            exact h
      · have hlt : ((trimmed line).takeWhile isDigit).length < (trimmed line).length := by
          have hfront : (trimmed line).takeWhile isDigit <+: trimmed line :=
            List.takeWhile_prefix _
          refine Nat.lt_of_le_of_ne hfront.length_le fun h => hdigits ?_
          exact List.takeWhile_eq_self_iff.mp (hfront.eq_of_length h)
        rw [if_pos hlt]
        refine iff_of_true rfl ⟨front, c, hconcat, Or.inl ?_⟩
        simpa using hdigits

/-- A value is stored the same from a last line without a newline exactly if the
byte that is cut off there does not count. -/
theorem last_line_iff (line past past' rest : List UInt8) (maxOpSize longBits : Nat)
    (hline : newline ∉ line) (hlen : line.length < elpCommongParsingLineSize - 1) :
    ((readString ⟨past, line ++ newline :: rest, false⟩ maxOpSize).1 =
        (readString ⟨past', line, false⟩ maxOpSize).1 ↔ StringEnds maxOpSize line) ∧
    ((readLong longBits ⟨past, line ++ newline :: rest, false⟩).1 =
        (readLong longBits ⟨past', line, false⟩).1 ↔ NumberEnds 64 longBits line) ∧
    ((readShort longBits ⟨past, line ++ newline :: rest, false⟩).1 =
        (readShort longBits ⟨past', line, false⟩).1 ↔ NumberEnds longBits 16 line) ∧
    ((readByte longBits ⟨past, line ++ newline :: rest, false⟩).1 =
        (readByte longBits ⟨past', line, false⟩).1 ↔ NumberEnds longBits 8 line) := by
  have hshort (x y : List UInt8) : UInt16.ofNat (atoi longBits x) = UInt16.ofNat (atoi longBits y) ↔
      strtol longBits x % 2 ^ 16 = strtol longBits y % 2 ^ 16 := by
    rw [← UInt16.toNat_inj, UInt16.toNat_ofNat', UInt16.toNat_ofNat']
    rfl
  have hbyte (x y : List UInt8) : UInt8.ofNat (atoi longBits x) = UInt8.ofNat (atoi longBits y) ↔
      strtol longBits x % 2 ^ 8 = strtol longBits y % 2 ^ 8 := by
    rw [← UInt8.toNat_inj, UInt8.toNat_ofNat', UInt8.toNat_ofNat']
    rfl
  exact ⟨readString_same_iff past past' rest maxOpSize hline hlen,
    readNumber_same_iff past past' rest (fun _ _ => Iff.rfl) hline hlen,
    readNumber_same_iff past past' rest hshort hline hlen,
    readNumber_same_iff past past' rest hbyte hline hlen⟩

end Compared

/-- A single digit and a space: the space is what the end of the file costs. -/
theorem last_line_spaced :
    ((readString ⟨[], ascii "5 \n", false⟩ 2).1 = (readString ⟨[], ascii "5 ", false⟩ 2).1) ∧
    ((readLong 32 ⟨[], ascii "5 \n", false⟩).1 = (readLong 32 ⟨[], ascii "5 ", false⟩).1) ∧
    ((readShort 32 ⟨[], ascii "5 \n", false⟩).1 = (readShort 32 ⟨[], ascii "5 ", false⟩).1) ∧
    ((readByte 32 ⟨[], ascii "5 \n", false⟩).1 = (readByte 32 ⟨[], ascii "5 ", false⟩).1) := by
  have hline : ascii "5 \n" = ascii "5 " ++ newline :: [] := by decide
  have htrimmed : trimmed (ascii "5 ") = [0x35] ++ [0x20] := by decide
  have hspace : ∃ b ∈ trimmed (ascii "5 "), isDigit b = false := by decide
  obtain ⟨hstring, hlong, hshort, hbyte⟩ :=
    last_line_iff (ascii "5 ") [] [] [] 2 32 (by decide) (by decide)
  rw [hline]
  exact ⟨hstring.mpr (Or.inr ⟨by decide, by decide⟩),
    hlong.mpr (Or.inr ⟨_, _, htrimmed, Or.inl hspace⟩),
    hshort.mpr (Or.inr ⟨_, _, htrimmed, Or.inl hspace⟩),
    hbyte.mpr (Or.inr ⟨_, _, htrimmed, Or.inl hspace⟩)⟩

/-- A file that ends with 12 and no newline gives 1, and "1". -/
theorem last_line_cut :
    ((readString ⟨[], ascii "12\n", false⟩ 3).1.map List.ofFn = some [0x31, 0x32, 0] ∧
      (readString ⟨[], ascii "12", false⟩ 3).1.map List.ofFn = some [0x31, 0, 0]) ∧
    ((readLong 32 ⟨[], ascii "12\n", false⟩).1 = some 12 ∧
      (readLong 32 ⟨[], ascii "12", false⟩).1 = some 1) ∧
    ((readShort 32 ⟨[], ascii "12\n", false⟩).1 = some 12 ∧
      (readShort 32 ⟨[], ascii "12", false⟩).1 = some 1) ∧
    ((readByte 32 ⟨[], ascii "12\n", false⟩).1 = some 12 ∧
      (readByte 32 ⟨[], ascii "12", false⟩).1 = some 1) := by
  decide

end SkSdk
