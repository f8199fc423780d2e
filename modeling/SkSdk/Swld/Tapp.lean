import SkSdk.Library.Stdio
import SkSdk.Swld.TappTocEntries

/-!
The loading of a TApp by its TAID (`tapp.c`) with its effects: the reads of the
TOC file through the storage driver, the call of the platform loader, and the
close at the label that every path reaches after a successful open. The status
and the entry it hands over are those of `tappLoad`.
-/

namespace SkSdk
open ByteMemory Format Stdio

/-! ## The function with its effects -/

/-- The calls whose order and number matter. -/
inductive TappCall
  | storageOpen (opened : Bool)
  | platformLoad (entry : TappTocEntry)
  | storageClose
  deriving DecidableEq

/-- The entry that the platform loader is called with. -/
@[simp] def TappCall.loaded : TappCall → Option TappTocEntry
  | platformLoad entry => some entry
  | _ => none

/-- The locals of `tapp_load`, the file behind `sh`, the caller's instance and
the calls made. -/
structure TappLoadState where
  sh : File
  buffer : Mem
  entry : TappTocEntry
  tapp : SkSwldTappInstance
  calls : List TappCall

/-- `sk_drv_swld_secure_storage_read` into `buffer`. -/
def secureStorageRead (bufferSize : Nat) (s : TappLoadState) : Nat × TappLoadState :=
  let (bytes, sh) := s.sh.fread bufferSize
  (bytes.length, { s with sh, buffer := s.buffer.write 0 bytes })

/-- The loop over the entries; `none` stands for `found_entry == 0`, an error
for a jump to `DONE`. -/
def findEntry (taid : SkTaid) :
    Nat → TappLoadState → Except SkStatus (Option TappTocEntry) × TappLoadState
  | 0, s => (.ok none, s)
  | k + 1, s =>
    let (n, s) := secureStorageRead tappTocIndexEntryTotalSize s
    if n ≠ tappTocIndexEntryTotalSize then (.error skErrorReadFailed, s)
    else
      let (err, entry) := tappTocGetEntry s.buffer tappTocIndexEntryTotalSize s.entry
      let s := { s with entry }
      if err ≠ skErrorSuccess then (.error skErrorEntryFailed, s)
      else if entry.taid = taid then (.ok (some entry), s)
      else findEntry taid k s

section Load

variable (platformLoad : TappTocEntry → SkSwldTappInstance → SkStatus × SkSwldTappInstance)

/-- `sk_swld_platform_tapp_load` on the caller's instance. -/
def swldPlatformTappLoad (entry : TappTocEntry) (s : TappLoadState) : SkStatus × TappLoadState :=
  let (err, tapp) := platformLoad entry s.tapp
  (err, { s with tapp, calls := s.calls ++ [TappCall.platformLoad entry] })

/-- From the open to the label `DONE`. -/
def tappLoadBody (taid : SkTaid) (s : TappLoadState) : SkStatus × TappLoadState :=
  let (n, s) := secureStorageRead tappTocIndexHdrTotalSize s
  if n ≠ tappTocIndexHdrTotalSize then (skErrorReadFailed, s)
  else
    let (err, header) := tappTocReadHeader s.buffer tappTocIndexHdrTotalSize ⟨0, 0⟩
    if err ≠ skErrorSuccess then (skErrorHeaderFailed, s)
    else if header.cookie ≠ tappTocIndexHdrCookie then (skErrorInvalidCookie, s)
    else match findEntry taid header.entries.toNat s with
      | (.error err, s) => (err, s)
      | (.ok none, s) => (skErrorEntryNotFound, s)
      | (.ok (some entry), s) =>
        let (err, s) := swldPlatformTappLoad platformLoad entry s
        if err ≠ skErrorSuccess then (skErrorLoadFailed, s) else (err, s)

/-- `toc` is the TOC file unless it cannot be opened. -/
def tappLoadCalls (toc : Option (List UInt8)) (buffer : Mem) (entry : TappTocEntry)
    (taid : SkTaid) (tapp : SkSwldTappInstance) : SkStatus × TappLoadState :=
  match toc with
  | none => (skErrorOpenFailed, ⟨.ofBytes [], buffer, entry, tapp, [.storageOpen false]⟩)
  | some file =>
    let (err, s) := tappLoadBody platformLoad taid
      ⟨.ofBytes file, buffer, entry, tapp, [.storageOpen true]⟩
    (err, { s with calls := s.calls ++ [TappCall.storageClose] })

end Load

/-! ## Which entry a file names -/

/-- Entry `k` is counted by a complete header, is there with all before it, and
starts with the TAID. -/
structure Names (file : List UInt8) (taid : SkTaid) (k : Nat) : Prop where
  header : tappTocIndexHdrTotalSize ≤ file.length
  cookie : be32.dec (file.take 4) = tappTocIndexHdrCookie
  counted : k < (be32.dec ((file.drop 4).take 4)).toNat
  complete : entryPos k + 84 ≤ file.length
  found : (file.drop (entryPos k)).take 16 = List.ofFn taid

theorem Names.least_unique {file : List UInt8} {taid : SkTaid} {j k : Nat}
    (hj : Names file taid j) (hjleast : ∀ i < j, ¬ Names file taid i)
    (hk : Names file taid k) (hkleast : ∀ i < k, ¬ Names file taid i) : j = k := by
  rcases Nat.lt_trichotomy j k with hlt | heq | hlt
  · exact absurd hj (hkleast j hlt)
  · exact heq
  · exact absurd hk (hjleast k hlt)

/-- An entry at the start of these bytes. -/
def entryOfBytes (bytes : List UInt8) : TappTocEntry :=
  ⟨(blk 16).dec (bytes.take 16), be32.dec ((bytes.drop 16).take 4),
    (blk 32).dec ((bytes.drop 20).take 32)⟩

/-! ## The search -/

theorem take_drop_take (l : List UInt8) {off n m : Nat} (h : off + n ≤ m) :
    ((l.take m).drop off).take n = (l.drop off).take n := by
  rw [List.drop_take, List.take_take, Nat.min_eq_left (by omega)]

theorem get_of_chunk {α : Type} {n : Nat} (f : Format α n) (buffer : Mem) {bytes : List UInt8}
    {off m : Nat} (hbytes : m ≤ bytes.length) (h : off + n ≤ m) :
    f.get (buffer.write 0 (bytes.take m)) off = f.dec ((bytes.drop off).take n) := by
  have hlen : (bytes.take m).length = m := by
    rw [List.length_take, Nat.min_eq_left hbytes]
  have hread := Mem.drop_take_read (buffer.write 0 (bytes.take m)) 0 h
  rw [Mem.read_write_eq _ _ _ _ hlen, Nat.zero_add, take_drop_take _ h] at hread
  rw [Format.get, hread]

theorem tappTocReadHeader_of_chunk (buffer : Mem) {bytes : List UInt8}
    (h : tappTocIndexHdrTotalSize ≤ bytes.length) :
    tappTocReadHeader (buffer.write 0 (bytes.take tappTocIndexHdrTotalSize))
        tappTocIndexHdrTotalSize ⟨0, 0⟩ =
      if be32.dec (bytes.take 4) = tappTocIndexHdrCookie then
        (skErrorSuccess, ⟨tappTocIndexHdrCookie, be32.dec ((bytes.drop 4).take 4)⟩)
      else (skErrorInvalidCookie, ⟨be32.dec (bytes.take 4), 0⟩) := by
  have hcookie := get_of_chunk be32 buffer h (by decide : 0 + 4 ≤ tappTocIndexHdrTotalSize)
  have hentries := get_of_chunk be32 buffer h (by decide : 4 + 4 ≤ tappTocIndexHdrTotalSize)
  rw [List.drop_zero] at hcookie
  have hsize : tappTocIndexHdrTotalSize ≠ 0 := by decide
  unfold tappTocReadHeader
  simp only [sysvByteGet_four, hcookie, hentries, if_neg hsize, ne_eq, ite_not]
  by_cases hvalid : be32.dec (bytes.take 4) = tappTocIndexHdrCookie
  · rw [if_pos hvalid, if_pos hvalid, hvalid]
  · rw [if_neg hvalid, if_neg hvalid]

theorem tappTocGetEntry_of_chunk (buffer : Mem) {bytes : List UInt8}
    (h : tappTocIndexEntryTotalSize ≤ bytes.length) (entry : TappTocEntry) :
    tappTocGetEntry (buffer.write 0 (bytes.take tappTocIndexEntryTotalSize))
      tappTocIndexEntryTotalSize entry = (skErrorSuccess, entryOfBytes bytes) := by
  rw [tappTocGetEntry_of_le _ (by decide), entryOfBytes, ← get_blk, ← get_blk,
    get_of_chunk _ _ h (by decide), get_of_chunk _ _ h (by decide),
    get_of_chunk _ _ h (by decide), List.drop_zero]

/-- What the search comes to on the bytes after the header. -/
inductive Searched (taid : SkTaid) (c : Nat) (rest : List UInt8) :
    Except SkStatus (Option TappTocEntry) → Prop
  | found (k : Nat) : k < c → 84 * k + 84 ≤ rest.length →
    (rest.drop (84 * k)).take 16 = List.ofFn taid →
    (∀ j < k, (rest.drop (84 * j)).take 16 ≠ List.ofFn taid) →
    Searched taid c rest (.ok (some (entryOfBytes (rest.drop (84 * k)))))
  | absent : (∀ j < c, (rest.drop (84 * j)).take 16 ≠ List.ofFn taid) →
    Searched taid c rest (.ok none)
  | short (k : Nat) : k < c → rest.length < 84 * k + 84 →
    (∀ j < k, (rest.drop (84 * j)).take 16 ≠ List.ofFn taid) →
    Searched taid c rest (.error skErrorReadFailed)

theorem taid_entryOfBytes (bytes : List UInt8) (h : 16 ≤ bytes.length) (taid : SkTaid) :
    (entryOfBytes bytes).taid = taid ↔ bytes.take 16 = List.ofFn taid := by
  have hlen : (bytes.take 16).length = 16 := by
    rw [List.length_take, Nat.min_eq_left h]
  constructor
  · intro heq
    rw [← heq]
    exact ((blk 16).enc_dec _ hlen).symm
  · intro heq
    change (blk 16).dec (bytes.take 16) = taid
    rw [heq]
    exact (blk 16).dec_enc taid

theorem searched (taid : SkTaid) (buffer : Mem) (entry : TappTocEntry) (c : Nat)
    (rest : List UInt8) : Searched taid c rest (searchEntries taid buffer entry c rest) := by
  induction c generalizing buffer entry rest with
  | zero => exact .absent fun j hj => absurd hj (Nat.not_lt_zero j)
  | succ c ih =>
    have hsize : tappTocIndexEntryTotalSize = 84 := rfl
    rw [searchEntries]
    simp only [fread, List.length_take]
    by_cases hshort : rest.length < 84
    · rw [if_pos (by omega)]
      exact .short 0 (Nat.succ_pos c) (by omega) fun j hj => absurd hj (Nat.not_lt_zero j)
    · rw [if_neg (by omega), tappTocGetEntry_of_chunk _ (by omega)]
      simp only [ne_eq, not_true_eq_false, ↓reduceIte]
      have htaid := taid_entryOfBytes rest (by omega) taid
      by_cases hfound : (entryOfBytes rest).taid = taid
      · rw [if_pos hfound]
        exact .found 0 (Nat.succ_pos c) (by omega) (htaid.mp hfound)
          fun j hj => absurd hj (Nat.not_lt_zero j)
      · rw [if_neg hfound]
        -- The entries of the rest are those of the whole, one further on.
        have hdrop (j : Nat) : (rest.drop 84).drop (84 * j) = rest.drop (84 * (j + 1)) := by
          rw [List.drop_drop]
          congr 1
          omega
        have hbefore {k : Nat}
            (h : ∀ j < k, ((rest.drop 84).drop (84 * j)).take 16 ≠ List.ofFn taid) :
            ∀ j < k + 1, (rest.drop (84 * j)).take 16 ≠ List.ofFn taid := by
          intro j hj
          cases j with
          | zero => exact fun heq => hfound (htaid.mpr heq)
          | succ j =>
            rw [← hdrop]
            exact h j (by omega)
        have hlen : (rest.drop 84).length = rest.length - 84 := List.length_drop
        have hrest := ih (buffer.write 0 (rest.take 84)) (entryOfBytes rest) (rest.drop 84)
        generalize searchEntries taid (buffer.write 0 (rest.take 84)) (entryOfBytes rest) c
          (rest.drop 84) = result at hrest ⊢
        cases hrest with
        | found k hk hcomplete hmatch hfirst =>
          rw [hdrop] at hmatch ⊢
          exact .found (k + 1) (by omega) (by omega) hmatch (hbefore hfirst)
        | absent hall => exact .absent (hbefore hall)
        | short k hk hcut hfirst => exact .short (k + 1) (by omega) (by omega) (hbefore hfirst)

/-! ## The effects -/

theorem secureStorageRead_eq (n : Nat) {s : TappLoadState} {file : List UInt8}
    (h : s.sh.rest = file) :
    ∃ sh : File, sh.rest = file.drop n ∧ secureStorageRead n s =
      ((file.take n).length, { s with sh, buffer := s.buffer.write 0 (file.take n) }) := by
  subst h
  exact ⟨_, rfl, rfl⟩

/-- The loop makes no call and leaves the instance alone. -/
theorem findEntry_run (taid : SkTaid) (c : Nat) (s : TappLoadState) :
    ∃ sh buffer entry, findEntry taid c s =
      (searchEntries taid s.buffer s.entry c s.sh.rest, { s with sh, buffer, entry }) := by
  induction c generalizing s with
  | zero => exact ⟨_, _, _, rfl⟩
  | succ c ih =>
    obtain ⟨sh, hrest, hread⟩ := secureStorageRead_eq tappTocIndexEntryTotalSize
      (rfl : s.sh.rest = s.sh.rest)
    rw [searchEntries, findEntry]
    simp only [fread, hread]
    by_cases hfull : (s.sh.rest.take tappTocIndexEntryTotalSize).length =
        tappTocIndexEntryTotalSize
    · have hsize : 52 ≤ tappTocIndexEntryTotalSize := by decide
      simp only [hfull, tappTocGetEntry_of_le _ hsize, ne_eq, not_true_eq_false, ↓reduceIte]
      by_cases htaid :
          (s.buffer.write 0 (s.sh.rest.take tappTocIndexEntryTotalSize)).blk 0 16 = taid
      · simp only [htaid, ↓reduceIte]
        exact ⟨_, _, _, rfl⟩
      · simp only [htaid, ↓reduceIte]
        rw [← hrest]
        exact ih _
    · simp only [hfull, ne_eq, not_false_eq_true, ↓reduceIte]
      exact ⟨_, _, _, rfl⟩

section Run

variable (platformLoad : TappTocEntry → SkSwldTappInstance → SkStatus × SkSwldTappInstance)
  (taid : SkTaid) {s : TappLoadState} {file : List UInt8}

/-- What the search makes of the file behind a valid header. -/
def afterHeader (s : TappLoadState) (file : List UInt8) : Except SkStatus (Option TappTocEntry) :=
  searchEntries taid (s.buffer.write 0 (file.take tappTocIndexHdrTotalSize)) s.entry
    (be32.dec ((file.drop 4).take 4)).toNat (file.drop tappTocIndexHdrTotalSize)

/-- The status, the calls of the platform loader and the instance it leaves. -/
theorem tappLoadBody_run (hfile : s.sh.rest = file) :
    ∃ sh buffer entry, tappLoadBody platformLoad taid s =
      if file.length < tappTocIndexHdrTotalSize then
        (skErrorReadFailed, { s with sh, buffer, entry })
      else if be32.dec (file.take 4) ≠ tappTocIndexHdrCookie then
        (skErrorHeaderFailed, { s with sh, buffer, entry })
      else match afterHeader taid s file with
        | .error err => (err, { s with sh, buffer, entry })
        | .ok none => (skErrorEntryNotFound, { s with sh, buffer, entry })
        | .ok (some found) =>
          let (err, tapp) := platformLoad found s.tapp
          (if err ≠ skErrorSuccess then skErrorLoadFailed else err,
            { s with sh, buffer, entry, tapp, calls := s.calls ++ [.platformLoad found] }) := by
  obtain ⟨sh, hrest, hread⟩ := secureStorageRead_eq tappTocIndexHdrTotalSize hfile
  have hlen : (file.take tappTocIndexHdrTotalSize).length =
      min tappTocIndexHdrTotalSize file.length := List.length_take
  rw [tappLoadBody, hread]
  by_cases hshort : file.length < tappTocIndexHdrTotalSize
  · have hcut : (file.take tappTocIndexHdrTotalSize).length ≠ tappTocIndexHdrTotalSize := by omega
    simp only [if_pos hcut, if_pos hshort]
    exact ⟨_, _, _, rfl⟩
  · have hfull : ¬ (file.take tappTocIndexHdrTotalSize).length ≠ tappTocIndexHdrTotalSize := by
      omega
    simp only [if_neg hfull, if_neg hshort,
      tappTocReadHeader_of_chunk s.buffer (Nat.le_of_not_lt hshort)]
    by_cases hcookie : be32.dec (file.take 4) = tappTocIndexHdrCookie
    · obtain ⟨sh', buffer, entry, hrun⟩ := findEntry_run taid
        (be32.dec ((file.drop 4).take 4)).toNat
        { s with sh, buffer := s.buffer.write 0 (file.take tappTocIndexHdrTotalSize) }
      rw [hrest] at hrun
      simp only [hcookie, ne_eq, not_true_eq_false, ↓reduceIte, hrun, ← afterHeader.eq_1]
      cases afterHeader taid s file with
      | error err => exact ⟨_, _, _, rfl⟩
      | ok found =>
        cases found with
        | none => exact ⟨_, _, _, rfl⟩
        | some found =>
          refine ⟨sh', buffer, entry, ?_⟩
          by_cases hload : (platformLoad found s.tapp).1 = skErrorSuccess
          · simp only [swldPlatformTappLoad, hload, not_true_eq_false, ↓reduceIte]
          · simp only [swldPlatformTappLoad, hload, not_false_eq_true, ↓reduceIte]
    · have hbad : skErrorInvalidCookie ≠ skErrorSuccess := by decide
      simp only [if_neg hcookie, if_pos hbad, if_pos (ne_eq _ _ ▸ hcookie)]
      exact ⟨_, _, _, rfl⟩

/-- The same cases without the effects. -/
theorem tappLoad_run (load : TappTocEntry → SkStatus) :
    tappLoad (some file) load s.buffer s.entry taid =
      if file.length < tappTocIndexHdrTotalSize then (skErrorReadFailed, none)
      else if be32.dec (file.take 4) ≠ tappTocIndexHdrCookie then (skErrorHeaderFailed, none)
      else match afterHeader taid s file with
        | .error err => (err, none)
        | .ok none => (skErrorEntryNotFound, none)
        | .ok (some found) => (if load found ≠ skErrorSuccess then skErrorLoadFailed
            else skErrorSuccess, some found) := by
  have hlen : (file.take tappTocIndexHdrTotalSize).length =
      min tappTocIndexHdrTotalSize file.length := List.length_take
  have hread : fread s.buffer tappTocIndexHdrTotalSize file =
      ((file.take tappTocIndexHdrTotalSize).length,
        s.buffer.write 0 (file.take tappTocIndexHdrTotalSize),
        file.drop tappTocIndexHdrTotalSize) := rfl
  simp only [tappLoad, hread]
  by_cases hshort : file.length < tappTocIndexHdrTotalSize
  · have hcut : (file.take tappTocIndexHdrTotalSize).length ≠ tappTocIndexHdrTotalSize := by omega
    simp only [if_pos hcut, if_pos hshort]
  · have hfull : ¬ (file.take tappTocIndexHdrTotalSize).length ≠ tappTocIndexHdrTotalSize := by
      omega
    simp only [if_neg hfull, if_neg hshort,
      tappTocReadHeader_of_chunk s.buffer (Nat.le_of_not_lt hshort)]
    by_cases hcookie : be32.dec (file.take 4) = tappTocIndexHdrCookie
    · simp only [hcookie, ne_eq, not_true_eq_false, ↓reduceIte]
      rfl
    · have hbad : skErrorInvalidCookie ≠ skErrorSuccess := by decide
      simp only [if_neg hcookie, if_pos hbad, if_pos (ne_eq _ _ ▸ hcookie)]

end Run

/-! ## The selection -/

/-- The search past a complete and valid header. -/
structure HeaderOf (file : List UInt8) (c : Nat) : Prop where
  complete : tappTocIndexHdrTotalSize ≤ file.length
  cookie : be32.dec (file.take 4) = tappTocIndexHdrCookie
  entries : (be32.dec ((file.drop 4).take 4)).toNat = c

theorem names_iff {file : List UInt8} {c : Nat} (h : HeaderOf file c) (taid : SkTaid) (k : Nat) :
    Names file taid k ↔ k < c ∧ 84 * k + 84 ≤ (file.drop tappTocIndexHdrTotalSize).length ∧
      ((file.drop tappTocIndexHdrTotalSize).drop (84 * k)).take 16 = List.ofFn taid := by
  have hcomplete := h.complete
  have hpos : entryPos k = tappTocIndexHdrTotalSize + 84 * k := rfl
  rw [List.drop_drop, ← hpos, List.length_drop]
  constructor
  · intro hk
    have hlen := hk.complete
    exact ⟨h.entries ▸ hk.counted, by omega, hk.found⟩
  · rintro ⟨hcounted, hlen, hfound⟩
    exact ⟨hcomplete, h.cookie, h.entries ▸ hcounted, by omega, hfound⟩

/-- What a search result says about the entries that the file names. -/
theorem Searched.names {file : List UInt8} {c : Nat} (h : HeaderOf file c) {taid : SkTaid}
    {result : Except SkStatus (Option TappTocEntry)}
    (hs : Searched taid c (file.drop tappTocIndexHdrTotalSize) result) :
    (∃ k, Names file taid k ∧ (∀ j < k, ¬ Names file taid j) ∧
      result = .ok (some (entryOfBytes (file.drop (entryPos k))))) ∨
    ((∀ k, ¬ Names file taid k) ∧ (result = .ok none ∨ result = .error skErrorReadFailed)) := by
  cases hs with
  | found k hk hcomplete hmatch hfirst =>
    refine .inl ⟨k, (names_iff h taid k).mpr ⟨hk, hcomplete, hmatch⟩, fun j hj hnames => ?_, ?_⟩
    · exact hfirst j hj ((names_iff h taid j).mp hnames).2.2
    · rw [List.drop_drop]
      rfl
  | absent hall =>
    refine .inr ⟨fun k hnames => ?_, .inl rfl⟩
    obtain ⟨hk, -, hmatch⟩ := (names_iff h taid k).mp hnames
    exact hall k hk hmatch
  | short k hk hcut hfirst =>
    refine .inr ⟨fun j hnames => ?_, .inr rfl⟩
    obtain ⟨-, hlen, hmatch⟩ := (names_iff h taid j).mp hnames
    exact hfirst j (by omega) hmatch

theorem not_names_of_short {file : List UInt8} (h : file.length < tappTocIndexHdrTotalSize)
    (taid : SkTaid) (k : Nat) : ¬ Names file taid k :=
  fun hnames => absurd hnames.header (Nat.not_le_of_lt h)

/-- What the status of the platform loader becomes. -/
def statusOfLoad (err : SkStatus) : SkStatus :=
  if err ≠ skErrorSuccess then skErrorLoadFailed else skErrorSuccess

theorem statusOfLoad_eq (err : SkStatus) :
    (if err ≠ skErrorSuccess then skErrorLoadFailed else err) = statusOfLoad err := by
  unfold statusOfLoad
  split
  · rfl
  · next h => exact not_not.mp h

/-- The outcomes of a load from a file that opens. -/
inductive Selected
    (platformLoad : TappTocEntry → SkSwldTappInstance → SkStatus × SkSwldTappInstance)
    (file : List UInt8) (taid : SkTaid) (s : TappLoadState) : SkStatus × TappLoadState → Prop
  | loaded (k : Nat) (s' : TappLoadState) : Names file taid k → (∀ j < k, ¬ Names file taid j) →
    s'.calls = s.calls ++ [.platformLoad (entryOfBytes (file.drop (entryPos k)))] →
    s'.tapp = (platformLoad (entryOfBytes (file.drop (entryPos k))) s.tapp).2 →
    Selected platformLoad file taid s
      (statusOfLoad (platformLoad (entryOfBytes (file.drop (entryPos k))) s.tapp).1, s')
  | refused (err : SkStatus) (s' : TappLoadState) : (∀ k, ¬ Names file taid k) →
    err ∈ [skErrorReadFailed, skErrorHeaderFailed, skErrorEntryNotFound] → s'.calls = s.calls →
    s'.tapp = s.tapp → Selected platformLoad file taid s (err, s')

theorem tappLoadBody_eq
    (platformLoad : TappTocEntry → SkSwldTappInstance → SkStatus × SkSwldTappInstance)
    (taid : SkTaid) {s : TappLoadState} {file : List UInt8} (hfile : s.sh.rest = file)
    (hcalls : s.calls.findSome? TappCall.loaded = none) :
    tappLoad (some file) (fun found => (platformLoad found s.tapp).1) s.buffer s.entry taid =
      ((tappLoadBody platformLoad taid s).1,
        (tappLoadBody platformLoad taid s).2.calls.findSome? TappCall.loaded) := by
  obtain ⟨sh, buffer, entry, hrun⟩ := tappLoadBody_run platformLoad taid hfile
  rw [hrun, tappLoad_run]
  by_cases hshort : file.length < tappTocIndexHdrTotalSize
  · simp [if_pos hshort, hcalls]
  · rw [if_neg hshort, if_neg hshort]
    by_cases hcookie : be32.dec (file.take 4) ≠ tappTocIndexHdrCookie
    · simp [if_pos hcookie, hcalls]
    · rw [if_neg hcookie, if_neg hcookie]
      cases afterHeader taid s file with
      | error err => simp [hcalls]
      | ok found =>
        cases found with
        | none => simp [hcalls]
        | some found =>
          refine Prod.ext (statusOfLoad_eq _).symm ?_
          simp [hcalls]

/-- The effects aside, the function is `tappLoad`. -/
theorem tappLoadCalls_eq
    (platformLoad : TappTocEntry → SkSwldTappInstance → SkStatus × SkSwldTappInstance)
    (toc : Option (List UInt8)) (buffer : Mem) (entry : TappTocEntry) (taid : SkTaid)
    (tapp : SkSwldTappInstance) :
    tappLoad toc (fun found => (platformLoad found tapp).1) buffer entry taid =
      ((tappLoadCalls platformLoad toc buffer entry taid tapp).1,
        (tappLoadCalls platformLoad toc buffer entry taid tapp).2.calls.findSome?
          TappCall.loaded) := by
  cases toc with
  | none => rfl
  | some file =>
    refine (tappLoadBody_eq platformLoad taid (rfl : (TappLoadState.mk (.ofBytes file)
      buffer entry tapp [.storageOpen true]).sh.rest = file) rfl).trans ?_
    simp [tappLoadCalls]

theorem tappLoadBody_selected
    (platformLoad : TappTocEntry → SkSwldTappInstance → SkStatus × SkSwldTappInstance)
    (taid : SkTaid) {s : TappLoadState} {file : List UInt8} (hfile : s.sh.rest = file) :
    Selected platformLoad file taid s (tappLoadBody platformLoad taid s) := by
  obtain ⟨sh, buffer, entry, hrun⟩ := tappLoadBody_run platformLoad taid hfile
  rw [hrun]
  split
  · next hshort => exact .refused _ _ (not_names_of_short hshort taid) (by simp) rfl rfl
  · next hfull =>
    split
    · next hcookie =>
      exact .refused _ _ (fun k hnames => hcookie hnames.cookie) (by simp) rfl rfl
    · next hcookie =>
      have hheader : HeaderOf file (be32.dec ((file.drop 4).take 4)).toNat :=
        ⟨Nat.le_of_not_lt hfull, not_not.mp hcookie, rfl⟩
      have hsearch : Searched taid _ _ (afterHeader taid s file) := searched taid _ _ _ _
      rcases hsearch.names hheader with ⟨k, hnames, hleast, hfound⟩ | ⟨hnone, hresult⟩
      · have hstatus := statusOfLoad_eq
          (platformLoad (entryOfBytes (file.drop (entryPos k))) s.tapp).1
        rw [hfound]
        simp only [hstatus]
        exact .loaded k _ hnames hleast rfl rfl
      · rcases hresult with hresult | hresult
        · rw [hresult]
          exact .refused _ _ hnone (by simp) rfl rfl
        · rw [hresult]
          exact .refused _ _ hnone (by simp) rfl rfl

/-- The platform loader is called once, with the first entry the file names,
if it names one, and never else. The file that was opened is closed on every path.
The status and the entry are those of `tappLoad`. -/
theorem tapp_load_selects
    (platformLoad : TappTocEntry → SkSwldTappInstance → SkStatus × SkSwldTappInstance)
    (file : List UInt8) (buffer : Mem) (entry : TappTocEntry) (taid : SkTaid)
    (tapp : SkSwldTappInstance) :
    (∀ k, Names file taid k → (∀ j < k, ¬ Names file taid j) →
      let named := entryOfBytes (file.drop (entryPos k))
      let run := tappLoadCalls platformLoad (some file) buffer entry taid tapp
      run.2.calls = [.storageOpen true, .platformLoad named, .storageClose] ∧
      run.1 = statusOfLoad (platformLoad named tapp).1 ∧
      run.2.tapp = (platformLoad named tapp).2) ∧
    ((∀ k, ¬ Names file taid k) →
      let run := tappLoadCalls platformLoad (some file) buffer entry taid tapp
      run.2.calls = [.storageOpen true, .storageClose] ∧
      run.1 ∈ [skErrorReadFailed, skErrorHeaderFailed, skErrorEntryNotFound] ∧
      run.2.tapp = tapp) ∧
    (let run := tappLoadCalls platformLoad none buffer entry taid tapp
    run.2.calls = [.storageOpen false] ∧ run.1 = skErrorOpenFailed ∧ run.2.tapp = tapp) ∧
    ∀ toc, tappLoad toc (fun found => (platformLoad found tapp).1) buffer entry taid =
      let run := tappLoadCalls platformLoad toc buffer entry taid tapp
      (run.1, run.2.calls.findSome? TappCall.loaded) := by
  have hbody := tappLoadBody_selected platformLoad taid (rfl :
    (TappLoadState.mk (.ofBytes file) buffer entry tapp [.storageOpen true]).sh.rest = file)
  refine ⟨fun k hnames hleast => ?_, fun hnone => ?_, ⟨rfl, rfl, rfl⟩,
    fun toc => tappLoadCalls_eq platformLoad toc buffer entry taid tapp⟩
  all_goals
    unfold tappLoadCalls
    simp only
    generalize tappLoadBody platformLoad taid
      ⟨.ofBytes file, buffer, entry, tapp, [.storageOpen true]⟩ = result at hbody ⊢
  · cases hbody with
    | loaded k' s' hnames' hleast' hcalls htapp =>
      obtain rfl := hnames'.least_unique hleast' hnames hleast
      exact ⟨by rw [hcalls]; rfl, rfl, htapp⟩
    | refused err s' hnone => exact absurd hnames (hnone k)
  · cases hbody with
    | loaded k' s' hnames' => exact absurd hnames' (hnone k')
    | refused err s' hnone' herr hcalls htapp => exact ⟨by rw [hcalls]; rfl, herr, htapp⟩

end SkSdk
