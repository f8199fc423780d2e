import Mathlib.Tactic.IntervalCases
import SkSdk.Swld.TappToc
import SkSdk.Tools.CommonTools

/-!
The text of a manifest and what the tool reads of it (`tapp_config` in
`tapp_manifest.c`). The text is a relation, since blanks, comments, leading
zeros, the case of the digits and the order of the sections are free.
-/

namespace SkSdk
open ByteMemory Stdio
open File (newline)

/-! ## The table of the tool -/

/-- The bytes stored at the start of a member. -/
def storeAt {n : Nat} (b : Blk n) (bs : List UInt8) : Blk n := fun i => bs.getD i (b i)

/-- An `unsigned long` has the 32 bits of the two sizes. A null pointer stores
nothing. -/
def tappConfig : List (ParseConfigInfo TappsInfoData) :=
  [⟨ascii "TAID", .elpCharHex, 16, fun bs d => { d with taid := storeAt d.taid bs },
      fun _ d => d, fun _ d => d⟩,
    ⟨ascii "MULTI_INSTANCE", .elpByte, 1,
      fun bs d => { d with multiInstance := bs.getD 0 d.multiInstance },
      fun _ d => d, fun _ d => d⟩,
    ⟨ascii "MULTI_SESSION", .elpByte, 1,
      fun bs d => { d with multiSession := bs.getD 0 d.multiSession },
      fun _ d => d, fun _ d => d⟩,
    ⟨ascii "MAX_HEAP_SIZE", .elpLong, 4, fun _ d => d,
      fun u d => { d with maxHeapSize := UInt32.ofNat u }, fun _ d => d⟩,
    ⟨ascii "MAX_STACK_SIZE", .elpLong, 4, fun _ d => d,
      fun u d => { d with maxStackSize := UInt32.ofNat u }, fun _ d => d⟩,
    ⟨ascii "SERVICE_NAME", .elpCharString, skTappMaxServiceName,
      fun bs d => { d with serviceName := storeAt d.serviceName bs }, fun _ d => d, fun _ d => d⟩,
    ⟨ascii "VENDOR_NAME", .elpCharString, skTappMaxVendorName,
      fun bs d => { d with vendorName := storeAt d.vendorName bs }, fun _ d => d, fun _ d => d⟩,
    ⟨ascii "DECRIPTION", .elpCharString, skTappMaxDescriptionName,
      fun bs d => { d with description := storeAt d.description bs }, fun _ d => d, fun _ d => d⟩]

/-! ## The text -/

/-- The members, each with a section of its own. -/
inductive ConfigField
  | taid
  | multiInstance
  | multiSession
  | maxHeapSize
  | maxStackSize
  | serviceName
  | vendorName
  | description
  deriving DecidableEq

def ConfigField.name : ConfigField → List UInt8
  | taid => ascii "TAID"
  | multiInstance => ascii "MULTI_INSTANCE"
  | multiSession => ascii "MULTI_SESSION"
  | maxHeapSize => ascii "MAX_HEAP_SIZE"
  | maxStackSize => ascii "MAX_STACK_SIZE"
  | serviceName => ascii "SERVICE_NAME"
  | vendorName => ascii "VENDOR_NAME"
  | description => ascii "DECRIPTION"

/-- The line that opens a section, without its newline. -/
def ConfigField.header (field : ConfigField) : List UInt8 := 0x5b :: field.name ++ [0x5d]

/-- Its row of the table. -/
def ConfigField.row (field : ConfigField) : ParseConfigInfo TappsInfoData :=
  tappConfig.get ⟨field.ctorIdx, by cases field <;> decide⟩

def ConfigField.all : List ConfigField :=
  [.taid, .multiInstance, .multiSession, .maxHeapSize, .maxStackSize, .serviceName, .vendorName,
    .description]

/-- `c` is the hex digit of `v`, in either case. -/
def HexDigit (v : Nat) (c : UInt8) : Prop :=
  v < 10 ∧ c.toNat = 48 + v ∨ 10 ≤ v ∧ v < 16 ∧ (c.toNat = 55 + v ∨ c.toNat = 87 + v)

/-- The bytes in hex, two digits each, with spaces and newlines before them. -/
inductive HexText : List UInt8 → List UInt8 → Prop
  | nil : HexText [] []
  | byte {b hi lo : UInt8} {bs gap text : List UInt8}
      (hgap : ∀ c ∈ gap, c = whiteSpace ∨ c = newline) (hhi : HexDigit (b.toNat / 16) hi)
      (hlo : HexDigit (b.toNat % 16) lo) :
      HexText bs text → HexText (b :: bs) (gap ++ hi :: lo :: text)

/-- The number in decimal on a line. -/
structure DecimalText (n : Nat) (line : List UInt8) : Prop where
  ne_nil : line ≠ []
  digits : ∀ c ∈ line, isDigit c = true
  value : decimal line = n
  short : line.length < elpCommongParsingLineSize - 1

/-- A blank line, or a comment behind white space. -/
structure GapLine (line : List UInt8) : Prop where
  gap : trimmed line = [] ∨ ascii "//" <+: trimmed line
  noNewline : newline ∉ line
  short : line.length < elpCommongParsingLineSize - 1

/-- A string of at most `n - 1` bytes with zeros behind it. -/
structure Printable {n : Nat} (b : Blk n) : Prop where
  padded : Blk.ofList n (cString (List.ofFn b)) = b
  short : (cString (List.ofFn b)).length < n
  noNewline : newline ∉ cString (List.ofFn b)
  noSpace : (cString (List.ofFn b)).head? ≠ some whiteSpace

/-- The lines of a value, without the newline of the last one. -/
def ValueText (d : TappsInfoData) : ConfigField → List UInt8 → Prop
  | .taid, text => ∃ hex pad, HexText (List.ofFn d.taid) hex ∧ GapLine pad ∧ text = hex ++ pad
  | .multiInstance, text => DecimalText d.multiInstance.toNat text
  | .multiSession, text => DecimalText d.multiSession.toNat text
  | .maxHeapSize, text => DecimalText d.maxHeapSize.toNat text
  | .maxStackSize, text => DecimalText d.maxStackSize.toNat text
  | .serviceName, text => text = cString (List.ofFn d.serviceName)
  | .vendorName, text => text = cString (List.ofFn d.vendorName)
  | .description, text => text = cString (List.ofFn d.description)

/-- A text with these sections in this order. -/
inductive ManifestText (d : TappsInfoData) : List ConfigField → List UInt8 → Prop
  | nil : ManifestText d [] []
  | gap {line : List UInt8} {fields : List ConfigField} {text : List UInt8} (hline : GapLine line) :
      ManifestText d fields text → ManifestText d fields (line ++ newline :: text)
  | entry {field : ConfigField} {value : List UInt8} {fields : List ConfigField} {text : List UInt8}
      (hvalue : ValueText d field value) : ManifestText d fields text →
      ManifestText d (field :: fields)
        (field.header ++ newline :: (value ++ newline :: text))

/-! ## The bytes in hex -/

theorem hexDigit_spec {v : Nat} {c : UInt8} (h : HexDigit v c) :
    isHexDigit c = true ∧ convertchar2hex c = UInt8.ofNat v := by
  have hle (a b : UInt8) : a ≤ b ↔ a.toNat ≤ b.toNat := UInt8.le_iff_toNat_le
  unfold isHexDigit convertchar2hex
  simp only [Bool.or_eq_true, Bool.and_eq_true, decide_eq_true_eq, hle, UInt8.reduceToNat]
  rcases h with ⟨hv, hc⟩ | ⟨hlow, hv, hc | hc⟩
  · rw [hc]
    refine ⟨by omega, ?_⟩
    interval_cases v <;> rfl
  · rw [hc]
    refine ⟨by omega, ?_⟩
    interval_cases v <;> rfl
  · rw [hc]
    refine ⟨by omega, ?_⟩
    interval_cases v <;> rfl

/-- Two digits put together. -/
theorem digits_value (b : UInt8) :
    ((((((0 : UInt8) <<< 4) &&& 0xf0) ||| UInt8.ofNat (b.toNat / 16)) <<< 4) &&& 0xf0) |||
      UInt8.ofNat (b.toNat % 16) = b := by
  have hall : ∀ n < 256,
      ((((((0 : UInt8) <<< 4) &&& 0xf0) ||| UInt8.ofNat (n / 16)) <<< 4) &&& 0xf0) |||
        UInt8.ofNat (n % 16) = UInt8.ofNat n := by
    decide +kernel
  rw [hall b.toNat b.toNat_lt, UInt8.ofNat_toNat]

section Hex

variable {iplen : Nat} {op : List UInt8} (past rest : List UInt8) (a : UInt8)

theorem readBytesLoop_gap {c : UInt8} (hroom : op.length < iplen)
    (hc : c = whiteSpace ∨ c = newline) :
    readBytesLoop iplen ⟨past, c :: rest, false⟩ a ⟨0, 0, op⟩ =
      readBytesLoop iplen ⟨c :: past, rest, false⟩ c ⟨0, 0, op⟩ := by
  have hhex : isHexDigit c = false := by rcases hc with rfl | rfl <;> decide
  have hstop : ¬ (c = 0x2f ∨ c = 0x5b) := by rcases hc with rfl | rfl <;> decide
  rw [readBytesLoop, dif_pos ⟨rfl, hroom⟩]
  simp only [File.fscanfChar_cons, Option.getD_some, hhex, hstop, Bool.false_eq_true, ↓reduceIte,
    HexState.switch, Nat.not_lt.mpr (Nat.le_of_lt hroom)]

theorem readBytesLoop_byte {b hi lo : UInt8} (hroom : op.length < iplen)
    (hhi : HexDigit (b.toNat / 16) hi) (hlo : HexDigit (b.toNat % 16) lo) :
    readBytesLoop iplen ⟨past, hi :: lo :: rest, false⟩ a ⟨0, 0, op⟩ =
      readBytesLoop iplen ⟨lo :: hi :: past, rest, false⟩ lo ⟨0, 0, op ++ [b]⟩ := by
  obtain ⟨hhiHex, hhiValue⟩ := hexDigit_spec hhi
  obtain ⟨hloHex, hloValue⟩ := hexDigit_spec hlo
  have hstored : (op ++ [b]).length = op.length + 1 := by simp
  rw [readBytesLoop, dif_pos ⟨rfl, hroom⟩]
  simp only [File.fscanfChar_cons, Option.getD_some, hhiHex, ↓reduceIte, HexState.digit,
    HexState.switch, Nat.zero_add, Nat.not_lt.mpr (Nat.le_of_lt hroom)]
  rw [readBytesLoop, dif_pos ⟨rfl, hroom⟩]
  simp only [File.fscanfChar_cons, Option.getD_some, hloHex, ↓reduceIte, HexState.digit,
    HexState.switch, HexState.store, Nat.reduceAdd, hhiValue, hloValue, digits_value, hstored,
    Nat.not_lt.mpr (Nat.succ_le_of_lt hroom)]

theorem readBytesLoop_gaps {gap : List UInt8} (hroom : op.length < iplen)
    (hgap : ∀ c ∈ gap, c = whiteSpace ∨ c = newline) :
    ∃ a', readBytesLoop iplen ⟨past, gap ++ rest, false⟩ a ⟨0, 0, op⟩ =
      readBytesLoop iplen ⟨gap.reverse ++ past, rest, false⟩ a' ⟨0, 0, op⟩ := by
  induction gap generalizing past a with
  | nil => exact ⟨a, rfl⟩
  | cons c gap ih =>
    obtain ⟨a', hrest⟩ := ih (c :: past) c fun b hb => hgap b (List.mem_cons_of_mem c hb)
    refine ⟨a', ?_⟩
    rw [List.cons_append, readBytesLoop_gap past _ a hroom (hgap c List.mem_cons_self), hrest,
      List.reverse_cons, List.append_assoc, List.singleton_append]

/-- The induction is on the text; the bytes already stored move with it. -/
theorem readBytesLoop_text {bs text : List UInt8} (htext : HexText bs text)
    (hlen : op.length + bs.length = iplen) :
    readBytesLoop iplen ⟨past, text ++ rest, false⟩ a ⟨0, 0, op⟩ =
      (0, op ++ bs, ⟨text.reverse ++ past, rest, false⟩) := by
  induction htext generalizing op past a with
  | nil =>
    rw [List.length_nil, Nat.add_zero] at hlen
    rw [readBytesLoop, dif_neg fun h => Nat.lt_irrefl _ (hlen ▸ h.2), List.append_nil]
    rfl
  | @byte b hi lo bs gap text hgap hhi hlo _ ih =>
    rw [List.length_cons] at hlen
    have hroom : op.length < iplen := by omega
    obtain ⟨a', hgaps⟩ := readBytesLoop_gaps past (hi :: lo :: text ++ rest) a hroom hgap
    rw [List.append_assoc, hgaps, List.cons_append, List.cons_append,
      readBytesLoop_byte _ _ a' hroom hhi hlo,
      ih _ _ (by rw [List.length_append, List.length_singleton]; omega), List.append_assoc]
    simp

end Hex

/-! ## A section -/

section Sections

variable {d : TappsInfoData} (past rest : List UInt8) (a : UInt8)

/-- The member of `d` in the place of that of `e`. -/
def ConfigField.copy (d e : TappsInfoData) : ConfigField → TappsInfoData
  | taid => { e with taid := d.taid }
  | multiInstance => { e with multiInstance := d.multiInstance }
  | multiSession => { e with multiSession := d.multiSession }
  | maxHeapSize => { e with maxHeapSize := d.maxHeapSize }
  | maxStackSize => { e with maxStackSize := d.maxStackSize }
  | serviceName => { e with serviceName := d.serviceName }
  | vendorName => { e with vendorName := d.vendorName }
  | description => { e with description := d.description }

theorem storeAt_ofFn {n : Nat} (b v : Blk n) : storeAt b (List.ofFn v) = v := by
  funext i
  simp [storeAt]

/-- A string is read verbatim. -/
theorem readString_printable {n : Nat} {b : Blk n} (h : Printable b) (hn : n < 2048) :
    readString ⟨past, cString (List.ofFn b) ++ newline :: rest, false⟩ n =
      (some b, ⟨(cString (List.ofFn b) ++ [newline]).reverse ++ past, rest, false⟩) := by
  have hzero : 0 ∉ cString (List.ofFn b) := fun hmem =>
    absurd (List.mem_takeWhile_imp hmem) (by decide)
  have htrimmed : trimmed (cString (List.ofFn b)) = cString (List.ofFn b) := by
    refine List.dropWhile_eq_self_iff.mpr fun hpos hwhite => h.noSpace ?_
    rw [List.head?_eq_getElem?, List.getElem?_eq_getElem hpos]
    exact congrArg some (of_decide_eq_true hwhite)
  have hshort := h.short
  have hcopy : copyString n (cString (List.ofFn b)) = b := by
    rw [copyString, List.take_of_length_le (by omega), h.padded]
  rw [readString_newline past rest h.noNewline (by omega), lineString_newline hzero, htrimmed,
    Option.map_some, hcopy]

theorem lineNumber_decimal {n : Nat} {line : List UInt8} (h : DecimalText n line) :
    lineNumber (cString (line ++ [newline])) = some line := by
  have hzero : 0 ∉ line := fun hmem => absurd (h.digits 0 hmem) (by decide)
  have htrimmed : trimmed line = line := by
    refine List.dropWhile_eq_self_iff.mpr fun hpos hwhite => ?_
    have hdigit := h.digits _ (List.getElem_mem hpos)
    rw [of_decide_eq_true hwhite] at hdigit
    exact absurd hdigit (by decide)
  rw [lineNumber_newline hzero, htrimmed, List.takeWhile_eq_self_iff.mpr h.digits]

theorem readNumber_decimal {α : Type} (convert : List UInt8 → α) {n : Nat} {line : List UInt8}
    (h : DecimalText n line) :
    readNumber convert ⟨past, line ++ newline :: rest, false⟩ =
      (some (convert line), ⟨(line ++ [newline]).reverse ++ past, rest, false⟩) := by
  have hline : newline ∉ line := fun hmem => absurd (h.digits _ hmem) (by decide)
  rw [readNumber_newline past rest convert hline h.short, lineNumber_decimal h, Option.map_some]

theorem readByte_decimal {v : UInt8} {line : List UInt8} (h : DecimalText v.toNat line) :
    readByte 32 ⟨past, line ++ newline :: rest, false⟩ =
      (some v, ⟨(line ++ [newline]).reverse ++ past, rest, false⟩) := by
  have hlt := v.toNat_lt
  have hvalue : UInt8.ofNat (atoi 32 line) = v := by
    rw [atoi, strtol, h.value, Nat.min_eq_left (by omega), UInt8.ofNat_toNat]
  rw [readByte, readNumber_decimal past rest _ h, hvalue]

theorem readLong_decimal {v : UInt32} {line : List UInt8} (h : DecimalText v.toNat line) :
    readLong 32 ⟨past, line ++ newline :: rest, false⟩ =
      (some v.toNat, ⟨(line ++ [newline]).reverse ++ past, rest, false⟩) := by
  have hlt := v.toNat_lt
  have hvalue : atoll line % 2 ^ 32 = v.toNat := by
    rw [atoll, strtol, h.value, Nat.min_eq_left (by omega), Nat.mod_eq_of_lt hlt]
  rw [readLong, readNumber_decimal past rest _ h, hvalue]

theorem sectionName_header (field : ConfigField) :
    sectionName (cString (field.header ++ [newline])) = some field.name := by
  cases field <;> decide

theorem header_line (field : ConfigField) :
    newline ∉ field.header ∧ field.header.length < 2047 := by
  cases field <;> decide

theorem parseLine_header (field : ConfigField) (file : File) (e : TappsInfoData) :
    parseLine 32 tappConfig a (cString (field.header ++ [newline])) file e =
      readSection 32 a field.row file e := by
  rw [parseLine, sectionName_header]
  cases field <;> rfl

section Kinds

variable {p : ParseConfigInfo TappsInfoData} {file file' : File} {e : TappsInfoData}

theorem readSection_hex {err : Int} {op : List UInt8} (htype : p.type = .elpCharHex)
    (hread : readBytes file p.size a = (err, op, file')) :
    readSection 32 a p file e = (file', p.m op e) := by
  simp only [readSection, htype, hread]

theorem readSection_string {v : Blk p.size} (htype : p.type = .elpCharString)
    (hread : readString file p.size = (some v, file')) :
    readSection 32 a p file e = (file', p.m (List.ofFn v) e) := by
  simp only [readSection, htype, hread, Option.elim_some]

theorem readSection_byte {v : UInt8} (htype : p.type = .elpByte)
    (hread : readByte 32 file = (some v, file')) :
    readSection 32 a p file e = (file', p.m [v] e) := by
  simp only [readSection, htype, hread, Option.elim_some]

theorem readSection_long {v : Nat} (htype : p.type = .elpLong)
    (hread : readLong 32 file = (some v, file')) :
    readSection 32 a p file e = (file', p.u v e) := by
  simp only [readSection, htype, hread, Option.elim_some]

end Kinds

/-- The three strings of a manifest are such that a line can hold them. -/
structure PrintableManifest (d : TappsInfoData) : Prop where
  serviceName : Printable d.serviceName
  vendorName : Printable d.vendorName
  description : Printable d.description

/-- A value is read to its last byte or, of the TAID, to the end of its last line. -/
theorem readSection_value (hprint : PrintableManifest d) {field : ConfigField} {value : List UInt8}
    (hvalue : ValueText d field value) (e : TappsInfoData) :
    ∃ past' left, readSection 32 a field.row ⟨past, value ++ newline :: rest, false⟩ e =
        (⟨past', left, false⟩, field.copy d e) ∧
      (left = rest ∨ ∃ line, GapLine line ∧ left = line ++ newline :: rest) := by
  cases field with
  | taid =>
    obtain ⟨hex, pad, hhex, hpad, rfl⟩ := hvalue
    have hlen : ([] : List UInt8).length + (List.ofFn d.taid).length = 16 := by
      rw [List.length_nil, List.length_ofFn]
    have hread : readBytes ⟨past, hex ++ (pad ++ newline :: rest), false⟩ 16 a =
        (0, List.ofFn d.taid, ⟨hex.reverse ++ past, pad ++ newline :: rest, false⟩) :=
      readBytesLoop_text past _ a hhex hlen
    rw [List.append_assoc, readSection_hex a rfl hread]
    exact ⟨_, _, congrArg (Prod.mk _) (congrArg (fun b => { e with taid := b })
      (storeAt_ofFn e.taid d.taid)), Or.inr ⟨pad, hpad, rfl⟩⟩
  | multiInstance =>
    rw [readSection_byte a rfl (readByte_decimal past rest hvalue)]
    exact ⟨_, _, rfl, Or.inl rfl⟩
  | multiSession =>
    rw [readSection_byte a rfl (readByte_decimal past rest hvalue)]
    exact ⟨_, _, rfl, Or.inl rfl⟩
  | maxHeapSize =>
    rw [readSection_long a rfl (readLong_decimal past rest hvalue)]
    exact ⟨_, _, congrArg (Prod.mk _) (congrArg (fun u => { e with maxHeapSize := u })
      (UInt32.ofNat_toNat)), Or.inl rfl⟩
  | maxStackSize =>
    rw [readSection_long a rfl (readLong_decimal past rest hvalue)]
    exact ⟨_, _, congrArg (Prod.mk _) (congrArg (fun u => { e with maxStackSize := u })
      (UInt32.ofNat_toNat)), Or.inl rfl⟩
  | serviceName =>
    have hline : value = cString (List.ofFn d.serviceName) := hvalue
    have hread := readString_printable past rest hprint.serviceName (by decide)
    rw [hline, readSection_string a (p := ConfigField.row .serviceName) rfl hread]
    exact ⟨_, _, congrArg (Prod.mk _) (congrArg (fun b => { e with serviceName := b })
      (storeAt_ofFn e.serviceName d.serviceName)), Or.inl rfl⟩
  | vendorName =>
    have hline : value = cString (List.ofFn d.vendorName) := hvalue
    have hread := readString_printable past rest hprint.vendorName (by decide)
    rw [hline, readSection_string a (p := ConfigField.row .vendorName) rfl hread]
    exact ⟨_, _, congrArg (Prod.mk _) (congrArg (fun b => { e with vendorName := b })
      (storeAt_ofFn e.vendorName d.vendorName)), Or.inl rfl⟩
  | description =>
    have hline : value = cString (List.ofFn d.description) := hvalue
    have hread := readString_printable past rest hprint.description (by decide)
    rw [hline, readSection_string a (p := ConfigField.row .description) rfl hread]
    exact ⟨_, _, congrArg (Prod.mk _) (congrArg (fun b => { e with description := b })
      (storeAt_ofFn e.description d.description)), Or.inl rfl⟩

end Sections

/-! ## The text -/

/-- The first byte of a line that is not white is that of any longer line as well. -/
theorem head?_trimmed {l l' : List UInt8} (h : l <+: l') {c : UInt8}
    (hc : (trimmed l).head? = some c) : (trimmed l').head? = some c := by
  obtain ⟨r, rfl⟩ := h
  unfold trimmed at hc ⊢
  rw [List.dropWhile_append]
  split
  · next hempty =>
    rw [List.isEmpty_iff.mp hempty] at hc
    cases hc
  · next hne =>
    rw [List.head?_append_of_ne_nil]
    · exact hc
    · exact fun h => hne (List.isEmpty_iff.mpr h)

/-- Only a bracket opens a section. -/
theorem sectionName_none {sline : List UInt8} (h : (trimmed sline).head? ≠ some 0x5b) :
    sectionName sline = none := by
  have hwhite : ∀ c ∈ sline.takeWhile isWhite, isWhite c = true := fun c => List.mem_takeWhile_imp
  rw [← takeWhile_trimmed sline]
  by_cases hempty : trimmed sline = []
  · rw [hempty, List.append_nil, sectionName, if_pos (skip_all_white hwhite)]
  · have hskip := skip_white hwhite hempty (isWhite_head_trimmed sline hempty)
    have hget := getD_append_head (sline.takeWhile isWhite) hempty
    rw [List.head?_eq_some_head hempty, ne_eq, Option.some.injEq] at h
    rw [sectionName, hskip, hget, if_pos h]
    exact ite_self none

theorem GapLine.sectionName {line : List UInt8} (h : GapLine line) :
    sectionName (cString (line ++ [newline])) = none := by
  refine sectionName_none fun hc => ?_
  have hwhole := head?_trimmed (List.takeWhile_prefix _) hc
  rcases h.gap with hblank | hcomment
  · have hline : trimmed (line ++ [newline]) = [newline] := by
      rw [trimmed, List.dropWhile_append, ← trimmed, hblank]
      rfl
    rw [hline] at hwhole
    exact absurd hwhole (by decide)
  · obtain ⟨text, htext⟩ := hcomment
    have hslash : (trimmed line).head? = some 0x2f := by
      rw [← htext]
      rfl
    rw [head?_trimmed (List.prefix_append line [newline]) hslash] at hwhole
    exact absurd hwhole (by decide)

section Text

variable {d : TappsInfoData} (past rest : List UInt8) (a : UInt8) (e : TappsInfoData) (fuel : Nat)

/-- A round of the loop. -/
theorem parseLoop_line {line : List UInt8} (hline : newline ∉ line) (hlen : line.length < 2047) :
    ∃ past', parseLoop 32 tappConfig a (fuel + 1) ⟨past, line ++ newline :: rest, false⟩ e =
      parseLoop 32 tappConfig a fuel
        (parseLine 32 tappConfig a (cString (line ++ [newline])) ⟨past', rest, false⟩ e).1
        (parseLine 32 tappConfig a (cString (line ++ [newline])) ⟨past', rest, false⟩ e).2 := by
  refine ⟨(line ++ [newline]).reverse ++ past, ?_⟩
  rw [parseLoop, if_neg Bool.false_ne_true,
    File.fgets_of_newline past rest hline (Nat.succ_lt_succ hlen)]

theorem parseLoop_gap {line : List UInt8} (h : GapLine line) :
    ∃ past', parseLoop 32 tappConfig a (fuel + 1) ⟨past, line ++ newline :: rest, false⟩ e =
      parseLoop 32 tappConfig a fuel ⟨past', rest, false⟩ e := by
  obtain ⟨past', hround⟩ := parseLoop_line past rest a e fuel h.noNewline h.short
  refine ⟨past', hround.trans ?_⟩
  rw [parseLine, h.sectionName]

/-- The induction is on the text. A section takes a round, and the rest of the line
that the TAID ends on another one. -/
theorem parseLoop_text (hprint : PrintableManifest d) {fields : List ConfigField}
    {text : List UInt8} (htext : ManifestText d fields text) (hfuel : text.length + 1 < fuel) :
    parseLoop 32 tappConfig a fuel ⟨past, text, false⟩ e =
      some (fields.foldl (fun e field => field.copy d e) e) := by
  induction htext generalizing fuel past e with
  | nil =>
    obtain ⟨k, rfl⟩ := Nat.exists_eq_add_of_le' (Nat.succ_le_of_lt hfuel)
    have hend : File.fgets ⟨past, [], false⟩ elpCommongParsingLineSize = (none, ⟨past, [], true⟩) :=
      File.fgets_nil past (by decide)
    rw [List.length_nil, Nat.zero_add, show k + (1 + 1) = k + 1 + 1 from rfl, parseLoop,
      if_neg Bool.false_ne_true, hend]
    rfl
  | @gap line fields text hline _ ih =>
    obtain ⟨k, rfl⟩ := Nat.exists_eq_add_of_le' (Nat.succ_le_of_lt (Nat.zero_lt_of_lt hfuel))
    obtain ⟨past', hround⟩ := parseLoop_gap past text a e k hline
    rw [List.length_append, List.length_cons] at hfuel
    exact hround.trans (ih past' e k (by omega))
  | @entry field value fields text hvalue _ ih =>
    obtain ⟨hheader, hshort⟩ := header_line field
    obtain ⟨k, rfl⟩ := Nat.exists_eq_add_of_le' (Nat.succ_le_of_lt (Nat.zero_lt_of_lt hfuel))
    obtain ⟨past₁, hround⟩ := parseLoop_line past (value ++ newline :: text) a e k hheader hshort
    obtain ⟨past₂, left, hsection, hleft⟩ := readSection_value past₁ text a hprint hvalue e
    have hpos : 0 < field.header.length := Nat.zero_lt_succ _
    simp only [List.length_append, List.length_cons] at hfuel
    rw [hround, parseLine_header, hsection, List.foldl_cons]
    rcases hleft with rfl | ⟨line, hline, rfl⟩
    · exact ih past₂ _ k (by omega)
    · obtain ⟨j, rfl⟩ := Nat.exists_eq_add_of_le' (Nat.succ_le_of_lt (by omega : 0 < k))
      obtain ⟨past₃, hgap⟩ := parseLoop_gap past₂ text a (field.copy d e) j hline
      exact hgap.trans (ih past₃ _ j (by omega))

end Text

/-- The sections store different members. -/
theorem copy_comm (d e : TappsInfoData) (f g : ConfigField) :
    g.copy d (f.copy d e) = f.copy d (g.copy d e) := by
  cases f <;> cases g <;> rfl

theorem foldl_copy (d e : TappsInfoData) {fields : List ConfigField}
    (h : fields.Perm ConfigField.all) : fields.foldl (fun e field => field.copy d e) e = d := by
  have hcomm : RightCommutative fun (e : TappsInfoData) (field : ConfigField) => field.copy d e :=
    ⟨fun e f g => copy_comm d e f g⟩
  rw [h.foldl_eq e]
  simp only [ConfigField.all, List.foldl_cons, List.foldl_nil, ConfigField.copy]

/-- A text with the eight sections of a manifest in any order is read as that
manifest, whatever the tool's structure held. -/
theorem manifest_text_parses (d e : TappsInfoData) (hprint : PrintableManifest d)
    (fields : List ConfigField) (hfields : fields.Perm ConfigField.all) (text : List UInt8)
    (htext : ManifestText d fields text) (a : UInt8) (fuel : Nat)
    (hfuel : text.length + 1 < fuel) :
    parseConfig 32 tappConfig a fuel (some text) e = some (0, d) := by
  have hloop := parseLoop_text [] a e fuel hprint htext hfuel
  rw [foldl_copy d e hfields] at hloop
  rw [parseConfig, File.ofBytes, hloop, Option.map_some]

/-! ## A text -/

theorem cString_ofList {n : Nat} {s : List UInt8} (hshort : s.length < n) (hzero : 0 ∉ s) :
    cString (List.ofFn (Blk.ofList n s)) = s := by
  obtain ⟨k, rfl⟩ := Nat.exists_eq_add_of_lt hshort
  have hbytes : List.ofFn (Blk.ofList (s.length + k + 1) s) = s ++ List.replicate (k + 1) 0 := by
    refine List.ext_getElem (by simp [Nat.add_assoc]) fun i hi hi' => ?_
    rw [List.getElem_ofFn, Blk.ofList]
    by_cases hlt : i < s.length
    · rw [List.getD_eq_getElem _ _ hlt, List.getElem_append_left hlt]
    · rw [List.getD_eq_default _ _ (Nat.le_of_not_lt hlt),
        List.getElem_append_right (Nat.le_of_not_lt hlt), List.getElem_replicate]
  have hnonzero : ∀ c ∈ s, decide (c ≠ 0) = true := fun _ hc =>
    decide_eq_true fun h => hzero (h ▸ hc)
  rw [hbytes, cString, List.takeWhile_append_of_pos hnonzero, List.replicate_succ]
  simp

theorem printable_ofList {n : Nat} {s : List UInt8} (hshort : s.length < n) (hzero : 0 ∉ s)
    (hline : newline ∉ s) (hspace : s.head? ≠ some whiteSpace) : Printable (Blk.ofList n s) := by
  have hstring := cString_ofList hshort hzero
  exact ⟨by rw [hstring], by rwa [hstring], by rwa [hstring], by rwa [hstring]⟩

theorem hexText_zeros (n : Nat) :
    HexText (List.replicate n 0) (List.replicate n (ascii " 00")).flatten := by
  induction n with
  | zero => exact HexText.nil
  | succ n ih =>
    have hzero : HexDigit ((0 : UInt8).toNat / 16) 0x30 := Or.inl ⟨by decide, rfl⟩
    have hgap : ∀ c ∈ [whiteSpace], c = whiteSpace ∨ c = newline := fun c hc =>
      Or.inl (List.mem_singleton.mp hc)
    exact HexText.byte hgap hzero hzero ih

def echoManifest : TappsInfoData :=
  ⟨Blk.zero 16, 1, 0, 4096, 512, Blk.ofList 256 (ascii "echo"), Blk.ofList 256 (ascii "none"),
    Blk.ofList 512 []⟩

def echoText : List UInt8 :=
  ascii "// The echo TApp.\n[SERVICE_NAME]\necho\n[VENDOR_NAME]\nnone\n[DECRIPTION]\n\n\n" ++
    ascii "[TAID]\n 00 00 00 00 00 00 00 00 00 00 00 00 00 00 00 00  \n" ++
    ascii "[MULTI_INSTANCE]\n1\n[MULTI_SESSION]\n0\n" ++
    ascii "[MAX_HEAP_SIZE]\n4096\n[MAX_STACK_SIZE]\n0512\n"

theorem echo_printable : PrintableManifest echoManifest := by
  have hempty : Printable (Blk.ofList skTappMaxDescriptionName []) :=
    printable_ofList (by decide) (by decide) (by decide) (by decide)
  exact ⟨printable_ofList (by decide) (by decide) (by decide) (by decide),
    printable_ofList (by decide) (by decide) (by decide) (by decide), hempty⟩

theorem echo_text : ManifestText echoManifest
    [.serviceName, .vendorName, .description, .taid, .multiInstance, .multiSession, .maxHeapSize,
      .maxStackSize] echoText := by
  have hlines : echoText =
      ascii "// The echo TApp." ++ newline :: (
      ConfigField.serviceName.header ++ newline :: (ascii "echo" ++ newline :: (
      ConfigField.vendorName.header ++ newline :: (ascii "none" ++ newline :: (
      ConfigField.description.header ++ newline :: ([] ++ newline :: ([] ++ newline :: (
      ConfigField.taid.header ++ newline ::
        ((List.replicate 16 (ascii " 00")).flatten ++ ascii "  " ++ newline :: (
      ConfigField.multiInstance.header ++ newline :: (ascii "1" ++ newline :: (
      ConfigField.multiSession.header ++ newline :: (ascii "0" ++ newline :: (
      ConfigField.maxHeapSize.header ++ newline :: (ascii "4096" ++ newline :: (
      ConfigField.maxStackSize.header ++ newline :: (ascii "0512" ++
        newline :: []))))))))))))))))) := by
    decide +kernel
  rw [hlines]
  refine .gap ⟨Or.inr (by decide), by decide, by decide⟩ ?_
  refine .entry (cString_ofList (by decide) (by decide)).symm ?_
  refine .entry (cString_ofList (by decide) (by decide)).symm ?_
  refine .entry (cString_ofList (by decide) (by decide)).symm ?_
  refine .gap ⟨Or.inl rfl, by decide, by decide⟩ ?_
  refine .entry ⟨_, _, hexText_zeros 16, ⟨Or.inl rfl, by decide, by decide⟩, rfl⟩ ?_
  refine .entry ⟨by decide, List.all_eq_true.mp (by decide), by decide, by decide⟩ ?_
  refine .entry ⟨by decide, List.all_eq_true.mp (by decide), by decide, by decide⟩ ?_
  refine .entry ⟨by decide, List.all_eq_true.mp (by decide), by decide, by decide⟩ ?_
  exact .entry ⟨by decide, List.all_eq_true.mp (by decide), by decide, by decide⟩ .nil

theorem echo_text_parses :
    parseConfig 32 tappConfig 0 300 (some echoText) .zero = some (0, echoManifest) :=
  manifest_text_parses echoManifest .zero echo_printable _ (by decide) echoText echo_text 0
    300 (by decide +kernel)

end SkSdk
