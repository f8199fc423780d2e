import SkSdk.Library.Access
import SkSdk.Swld.TappManifestPack
import SkSdk.Swld.TappTocEntries

/-!
Which bytes of the table of contents its functions touch
(`tapp_toc_shared.c`, `tapp_toc.c`). Each is written again with its accesses to
the table; the value is that of the function of the same name. None of them
compares `toc_size` with what it is about to touch, but for the stores of the
header and the two sums in `STOREBUF`, which start at nought instead of at the
entry.
-/

namespace SkSdk.Accesses
open ByteMemory Format Access

/-! ## The functions with their accesses -/

/-- `sysv_byte_get` of `count` bytes at `p`. -/
def sysvByteGet (toc : Mem) (p count : Nat) : Traced UInt64 :=
  .read p count (SkSdk.sysvByteGet (toc.ptr p) count)

/-- A call of `sysv_byte_put` with as many bytes stored at `p` as it returns. -/
def stored (p : Nat) (put : Nat × Mem) : Traced (Nat × Mem) :=
  if put.1 = 0 then pure put else .write p put.1 put

def tappTocReadHeader (toc : Mem) (tocSize : Nat) (header : TappTocHeader) :
    Traced (SkStatus × TappTocHeader) :=
  if tocSize = 0 then pure (skErrorInvalidParam, header)
  else do
    let cookie ← sysvByteGet toc tappTocIndexHdrCookiePos 4
    let header := { header with cookie := cookie.toUInt32 }
    if header.cookie ≠ tappTocIndexHdrCookie then pure (skErrorInvalidCookie, header)
    else do
      let entries ← sysvByteGet toc tappTocIndexHdrNumEntriesPos 4
      pure (skErrorSuccess, { header with entries := entries.toUInt32 })

def tappTocWriteHeader (toc : Mem) (tocSize : Nat) (header : TappTocHeader) :
    Traced (SkStatus × Mem) :=
  if tocSize = 0 then pure (skErrorInvalidParam, toc)
  else do
    let (cnt, toc) ← stored tappTocIndexHdrCookiePos
      (sysvBytePut toc tappTocIndexHdrCookiePos tocSize 4 header.cookie.toUInt64)
    if cnt = 0 then pure (skErrorHeaderFailed, toc)
    else do
      let (cnt, toc) ← stored tappTocIndexHdrNumEntriesPos
        (sysvBytePut toc tappTocIndexHdrNumEntriesPos tocSize 4 header.entries.toUInt64)
      if cnt = 0 then pure (skErrorHeaderFailed, toc) else pure (skErrorSuccess, toc)

/-- The entry is at `p`. -/
def tappTocGetEntry (toc : Mem) (p entrySize : Nat) (entryInfo : TappTocEntry) :
    Traced (SkStatus × TappTocEntry) :=
  if entrySize = 0 then pure (skErrorInvalidParam, entryInfo)
  else if skTapiSessionTaidSize + tappTocIndexEntrySizeSize + tappTocIndexEntryAddrSize >
      entrySize then pure (skErrorHeaderFailed, entryInfo)
  else do
    let taid ← .read p skTapiSessionTaidSize (toc.blk p 16)
    let tappSize ← sysvByteGet toc (p + tappTocIndexEntryTaidSize) 4
    let address ← .read (p + 20) tappTocIndexEntryAddrSize (toc.blk (p + 20) 32)
    pure (skErrorSuccess, ⟨taid, tappSize.toUInt32, address⟩)

def tappTocAddEntry (toc : Mem) (tocSize : Nat) (tappManifestBin : Mem) (tappManifestBinSize : Nat)
    (tappSize : UInt32) (address : Blk tappTocIndexEntryAddrSize) (tappInfo : TappsInfoData) :
    Traced (SkStatus × Mem) :=
  if tocSize = 0 ∨ tappManifestBinSize = 0 ∨ tappSize = 0 then pure (skErrorInvalidParam, toc)
  else do
    let (err, header) ← tappTocReadHeader toc tocSize ⟨0, 0⟩
    if err ≠ skErrorSuccess then pure (skErrorHeaderFailed, toc)
    else
      let ptoc := tappTocIndexHdrTappStartPos +
        u32 (header.entries.toNat * tappTocIndexEntryTotalSize)
      let tappInfo := (tappManifestPackGet tappManifestBin tappManifestBinSize tappInfo).out
      if skTapiSessionTaidSize > tocSize then pure (skErrorHeaderFailed, toc)
      else do
        let toc ← .write ptoc skTapiSessionTaidSize (toc.write ptoc (List.ofFn tappInfo.taid))
        let (_, entry) ← stored ptoc (sysvBytePut (toc.ptr ptoc) 0
          (tocSize - tappTocIndexEntryTaidSize) 4 tappSize.toUInt64)
        let toc := toc.setPtr ptoc entry
        let ptoc := ptoc + tappTocIndexEntrySizeSize
        if skTapiSessionTaidSize + tappTocIndexEntryAddrSize > tocSize then
          pure (skErrorHeaderFailed, toc)
        else do
          let toc ← .write ptoc tappTocIndexEntryAddrSize (toc.write ptoc (List.ofFn address))
          let (err, toc) ← tappTocWriteHeader toc tocSize
            { header with entries := header.entries + 1 }
          if err ≠ skErrorSuccess then pure (skErrorHeaderFailed, toc)
          else pure (skErrorSuccess, toc)

/-- The loop over `c` entries from `ptoc` on: what is printed of them. `entry` is
what the local of that name holds. -/
def listEntries (toc : Mem) (ptoc : Nat) (entry : TappTocEntry) : Nat → Traced (List TappTocEntry)
  | 0 => pure []
  | c + 1 => do
    let (_, entry) ← tappTocGetEntry toc ptoc tappTocIndexEntryTotalSize entry
    let printed ← listEntries toc (ptoc + tappTocIndexEntryTotalSize) entry c
    pure (entry :: printed)

/-- The status and what is printed. -/
def tappTocList (toc : Mem) (tocSize : Nat) (entry : TappTocEntry) :
    Traced (SkStatus × Option (TappTocHeader × List TappTocEntry)) :=
  if tocSize = 0 then pure (skErrorInvalidParam, none)
  else do
    let (err, header) ← tappTocReadHeader toc tocSize ⟨0, 0⟩
    if err ≠ skErrorSuccess then pure (skErrorHeaderFailed, none)
    else do
      let printed ← listEntries toc tappTocIndexHdrTappStartPos entry header.entries.toNat
      pure (err, some (header, printed))

def searchToc (toc : Mem) (taid : SkTaid) (i ptoc : Nat) : Nat → Traced (Option Nat)
  | 0 => pure none
  | c + 1 => do
    let entryTaid ← .read ptoc tappTocIndexEntryTaidSize (toc.blk ptoc tappTocIndexEntryTaidSize)
    if entryTaid = taid then pure (some i)
    else searchToc toc taid (i + 1) (ptoc + tappTocIndexEntryTotalSize) c

def tappTocSearchEntries (toc : Mem) (tocSize : Nat) (taid : SkTaid) (entryIdx : Nat)
    (header : TappTocHeader) : Traced (SkStatus × Nat) :=
  if tocSize = 0 then pure (skErrorInvalidParam, entryIdx)
  else if header.cookie ≠ tappTocIndexHdrCookie then pure (skErrorInvalidCookie, entryIdx)
  else do
    match ← searchToc toc taid 0 tappTocIndexHdrTappStartPos header.entries.toNat with
    | some i => pure (skErrorSuccess, i)
    | none => pure (skErrorFailed, entryIdx)

def moveUp (toc : Mem) (ptoc : Nat) : Nat → Traced Mem
  | 0 => pure toc
  | c + 1 => do
    let next ← .read (ptoc + tappTocIndexEntryTotalSize) tappTocIndexEntryTotalSize
      (toc.read (ptoc + tappTocIndexEntryTotalSize) tappTocIndexEntryTotalSize)
    let toc ← .write ptoc tappTocIndexEntryTotalSize (toc.write ptoc next)
    moveUp toc ptoc c

def tappTocRemoveEntry (toc : Mem) (tocSize : Nat) (taid : SkTaid) (header : TappTocHeader)
    (entryIdx : Nat) : Traced (Except Fault (SkStatus × Mem × TappTocHeader)) := do
  let (err, entryIdx) ← tappTocSearchEntries toc tocSize taid entryIdx header
  if err ≠ skErrorSuccess then pure (.ok (skErrorFailed, toc, header))
  else
    let ptoc := tappTocGetEntryIndex entryIdx
    let toc ← .write ptoc tappTocIndexEntryTotalSize
      (toc.write ptoc (List.replicate tappTocIndexEntryTotalSize 0))
    if header.entries = 0 then pure (.error .assert)
    else
      let header := { header with entries := header.entries - 1 }
      let toc ← moveUp toc ptoc (header.entries.toNat - entryIdx)
      pure (.ok (err, toc, header))

/-! ## The values are those of the functions -/

@[simp] theorem value_sysvByteGet (toc : Mem) (p count : Nat) :
    (sysvByteGet toc p count).value = SkSdk.sysvByteGet (toc.ptr p) count := rfl

@[simp] theorem value_stored (p : Nat) (put : Nat × Mem) : (stored p put).value = put := by
  unfold stored
  split <;> rfl

@[simp] theorem value_tappTocReadHeader (toc : Mem) (tocSize : Nat) (header : TappTocHeader) :
    (tappTocReadHeader toc tocSize header).value = SkSdk.tappTocReadHeader toc tocSize header := by
  unfold tappTocReadHeader SkSdk.tappTocReadHeader
  rw [Traced.value_ite]
  congr 1
  exact Traced.value_ite _ _ _

@[simp] theorem value_tappTocWriteHeader (toc : Mem) (tocSize : Nat) (header : TappTocHeader) :
    (tappTocWriteHeader toc tocSize header).value =
      SkSdk.tappTocWriteHeader toc tocSize header := by
  unfold tappTocWriteHeader SkSdk.tappTocWriteHeader
  simp only [Traced.value_ite, Traced.value_pure, Traced.value_bind, value_stored]

@[simp] theorem value_tappTocGetEntry (toc : Mem) (p entrySize : Nat) (entryInfo : TappTocEntry) :
    (tappTocGetEntry toc p entrySize entryInfo).value =
      SkSdk.tappTocGetEntry (toc.ptr p) entrySize entryInfo := by
  unfold tappTocGetEntry SkSdk.tappTocGetEntry
  simp only [Traced.value_ite, Mem.ptr_ptr, Mem.blk_ptr_add]
  rfl

theorem value_tappTocAddEntry (toc : Mem) (tocSize : Nat) (tappManifestBin : Mem)
    (tappManifestBinSize : Nat) (tappSize : UInt32) (address : Blk tappTocIndexEntryAddrSize)
    (tappInfo : TappsInfoData) :
    (tappTocAddEntry toc tocSize tappManifestBin tappManifestBinSize tappSize address
        tappInfo).value =
      SkSdk.tappTocAddEntry toc tocSize tappManifestBin tappManifestBinSize tappSize address
        tappInfo := by
  unfold tappTocAddEntry SkSdk.tappTocAddEntry
  simp only [Traced.value_ite, Traced.value_pure, Traced.value_bind, Traced.value_write,
    value_stored, value_tappTocReadHeader, value_tappTocWriteHeader]

@[simp] theorem value_searchToc (toc : Mem) (taid : SkTaid) (i ptoc c : Nat) :
    (searchToc toc taid i ptoc c).value = SkSdk.searchToc toc taid i ptoc c := by
  induction c generalizing i ptoc with
  | zero => rfl
  | succ c ih =>
    rw [searchToc, SkSdk.searchToc, ← ih]
    exact Traced.value_ite _ _ _

@[simp] theorem value_tappTocSearchEntries (toc : Mem) (tocSize : Nat) (taid : SkTaid)
    (entryIdx : Nat) (header : TappTocHeader) :
    (tappTocSearchEntries toc tocSize taid entryIdx header).value =
      SkSdk.tappTocSearchEntries toc tocSize taid entryIdx header := by
  unfold tappTocSearchEntries SkSdk.tappTocSearchEntries
  simp only [Traced.value_ite, Traced.value_pure, Traced.value_bind, value_searchToc]
  cases SkSdk.searchToc toc taid 0 tappTocIndexHdrTappStartPos header.entries.toNat <;> rfl

@[simp] theorem value_moveUp (toc : Mem) (ptoc c : Nat) :
    (moveUp toc ptoc c).value = SkSdk.moveUp toc ptoc c := by
  induction c generalizing toc with
  | zero => rfl
  | succ c ih =>
    rw [moveUp, SkSdk.moveUp]
    simp only [Traced.value_bind, Traced.value_read, Traced.value_write, ih]

theorem value_tappTocRemoveEntry (toc : Mem) (tocSize : Nat) (taid : SkTaid)
    (header : TappTocHeader) (entryIdx : Nat) :
    (tappTocRemoveEntry toc tocSize taid header entryIdx).value =
      SkSdk.tappTocRemoveEntry toc tocSize taid header entryIdx := by
  unfold tappTocRemoveEntry SkSdk.tappTocRemoveEntry
  simp only [Traced.value_ite, Traced.value_pure, Traced.value_bind, Traced.value_write,
    value_tappTocSearchEntries, value_moveUp]

/-! ## Which accesses they are -/

section Spans

variable (P : Span → Prop)

theorem all_stored (p : Nat) (put : Nat × Mem) :
    (stored p put).All P ↔ put.1 = 0 ∨ P ⟨.write, p, put.1⟩ := by
  unfold stored
  by_cases hput : put.1 = 0
  · simp [hput]
  · simp [hput]

theorem all_tappTocReadHeader (toc : Mem) {tocSize : Nat} (header : TappTocHeader)
    (hsize : tocSize ≠ 0) :
    (tappTocReadHeader toc tocSize header).All P ↔
      P ⟨.read, 0, 4⟩ ∧ (be32.get toc 0 = tappTocIndexHdrCookie → P ⟨.read, 4, 4⟩) := by
  have hvalue : ((sysvByteGet toc tappTocIndexHdrCookiePos 4).value).toUInt32 = be32.get toc 0 :=
    sysvByteGet_four toc 0
  unfold tappTocReadHeader
  rw [if_neg hsize, Traced.all_bind]
  refine and_congr (Traced.all_read P _ _ _) ?_
  by_cases hcookie : be32.get toc 0 = tappTocIndexHdrCookie
  · simp only [hvalue, hcookie, ne_eq, not_true_eq_false, ↓reduceIte, Traced.all_bind,
      Traced.all_pure, forall_const, and_true]
    exact Traced.all_read P _ _ _
  · simp only [hvalue, hcookie, ne_eq, not_false_eq_true, ↓reduceIte, Traced.all_pure,
      false_implies]

theorem all_tappTocWriteHeader (toc : Mem) {tocSize : Nat} (header : TappTocHeader)
    (hsize : 8 ≤ tocSize) :
    (tappTocWriteHeader toc tocSize header).All P ↔ P ⟨.write, 0, 4⟩ ∧ P ⟨.write, 4, 4⟩ := by
  have h₀ : u32 (tappTocIndexHdrCookiePos + 4) ≤ tocSize := Nat.le_trans (by decide) hsize
  have h₁ : u32 (tappTocIndexHdrNumEntriesPos + 4) ≤ tocSize := Nat.le_trans (by decide) hsize
  unfold tappTocWriteHeader
  rw [if_neg (by omega), sysvBytePut_four _ _ _ _ h₀]
  simp only [Traced.all_bind, value_stored, all_stored, sysvBytePut_four _ _ _ _ h₁,
    OfNat.ofNat_ne_zero, ↓reduceIte, false_or, Traced.all_pure, and_true]

theorem all_tappTocGetEntry (toc : Mem) (p : Nat) (entryInfo : TappTocEntry) :
    (tappTocGetEntry toc p tappTocIndexEntryTotalSize entryInfo).All P ↔
      P ⟨.read, p, 16⟩ ∧ P ⟨.read, p + 16, 4⟩ ∧ P ⟨.read, p + 20, 32⟩ := by
  have hfit : ¬ skTapiSessionTaidSize + tappTocIndexEntrySizeSize + tappTocIndexEntryAddrSize >
      tappTocIndexEntryTotalSize := by decide
  unfold tappTocGetEntry
  rw [if_neg (by decide), if_neg hfit]
  simp only [Traced.all_bind, Traced.all_read, Traced.all_pure, and_true]
  exact and_congr_right fun _ => and_congr_left fun _ => Traced.all_read P _ _ _

/-- Entry `j` of the loop is at `ptoc + 84 * j`. -/
theorem all_listEntries (toc : Mem) (ptoc : Nat) (entry : TappTocEntry) (c : Nat) :
    (listEntries toc ptoc entry c).All P ↔
      ∀ j < c, P ⟨.read, ptoc + 84 * j, 16⟩ ∧ P ⟨.read, ptoc + 84 * j + 16, 4⟩ ∧
        P ⟨.read, ptoc + 84 * j + 20, 32⟩ := by
  induction c generalizing ptoc entry with
  | zero =>
    exact ⟨fun _ j hj => absurd hj (Nat.not_lt_zero j),
      fun _ => (Traced.all_pure P _).mpr trivial⟩
  | succ c ih =>
    have hshift (j : Nat) : ptoc + 84 * (j + 1) = ptoc + tappTocIndexEntryTotalSize + 84 * j := by
      change ptoc + 84 * (j + 1) = ptoc + 84 + 84 * j
      omega
    rw [listEntries, Traced.all_bind, all_tappTocGetEntry, Nat.forall_lt_succ_left]
    refine and_congr Iff.rfl ?_
    simp only [Traced.all_bind, Traced.all_pure, and_true, ih, hshift]

/-- Entry `i + j` is looked at while none before it has the TAID. -/
theorem all_searchToc (toc : Mem) (taid : SkTaid) (i c : Nat) :
    (searchToc toc taid i (entryPos i) c).All P ↔
      ∀ j, i ≤ j → j < i + c → (∀ j', i ≤ j' → j' < j → toc.blk (entryPos j') 16 ≠ taid) →
        P ⟨.read, entryPos j, 16⟩ := by
  induction c generalizing i with
  | zero =>
    refine ⟨fun _ j hle hlt => absurd hle (by omega), fun _ => (Traced.all_pure P _).mpr trivial⟩
  | succ c ih =>
    rw [searchToc, Traced.all_bind, Traced.all_read, Traced.value_read, Traced.all_ite]
    by_cases htaid : toc.blk (entryPos i) tappTocIndexEntryTaidSize = taid
    · rw [if_pos htaid, Traced.all_pure, and_true]
      constructor
      · intro h j hle hlt hbefore
        rcases Nat.eq_or_lt_of_le hle with rfl | hlt
        · exact h
        · exact absurd htaid (hbefore i (Nat.le_refl i) hlt)
      · intro h
        exact h i (Nat.le_refl i) (by omega) fun j' hle hlt => absurd hle (by omega)
    · rw [if_neg htaid, ← show entryPos (i + 1) = entryPos i + tappTocIndexEntryTotalSize from rfl,
        ih]
      constructor
      · rintro ⟨hfirst, hrest⟩ j hle hlt hbefore
        rcases Nat.eq_or_lt_of_le hle with rfl | hij
        · exact hfirst
        · exact hrest j hij (by omega) fun j' hle' => hbefore j' (by omega)
      · intro h
        refine ⟨h i (Nat.le_refl i) (by omega) fun j' hle hlt => absurd hle (by omega), ?_⟩
        intro j hle hlt hbefore
        refine h j (by omega) (by omega) fun j' hle' hlt' => ?_
        rcases Nat.eq_or_lt_of_le hle' with rfl | hij
        · exact htaid
        · exact hbefore j' hij hlt'

theorem all_moveUp (toc : Mem) (ptoc c : Nat) :
    (moveUp toc ptoc c).All P ↔
      (0 < c → P ⟨.read, ptoc + 84, 84⟩ ∧ P ⟨.write, ptoc, 84⟩) := by
  induction c generalizing toc with
  | zero => simp [moveUp]
  | succ c ih =>
    rw [moveUp]
    simp only [Traced.all_bind, Traced.all_read, Traced.all_write, ih, Nat.zero_lt_succ,
      forall_const]
    constructor
    · rintro ⟨hread, hwrite, -⟩
      exact ⟨hread, hwrite⟩
    · rintro ⟨hread, hwrite⟩
      exact ⟨hread, hwrite, fun _ => ⟨hread, hwrite⟩⟩

theorem all_tappTocSearchEntries (toc : Mem) {tocSize : Nat} (taid : SkTaid) (entryIdx : Nat)
    {header : TappTocHeader} (hsize : tocSize ≠ 0)
    (hcookie : header.cookie = tappTocIndexHdrCookie) :
    (tappTocSearchEntries toc tocSize taid entryIdx header).All P ↔
      ∀ j < header.entries.toNat, (∀ j' < j, toc.blk (entryPos j') 16 ≠ taid) →
        P ⟨.read, entryPos j, 16⟩ := by
  have hloop := all_searchToc P toc taid 0 header.entries.toNat
  simp only [Nat.zero_le, Nat.zero_add, forall_const] at hloop
  rw [tappTocSearchEntries, if_neg hsize, if_neg (not_not.mpr hcookie), Traced.all_bind, ← hloop]
  refine and_iff_left ?_
  split
  · exact (Traced.all_pure P _).mpr trivial
  · exact (Traced.all_pure P _).mpr trivial

theorem all_tappTocRemoveEntry_found {toc : Mem} {tocSize entryIdx k : Nat} {taid : SkTaid}
    {header : TappTocHeader} (hentries : header.entries ≠ 0)
    (hsearch : SkSdk.tappTocSearchEntries toc tocSize taid entryIdx header = (skErrorSuccess, k)) :
    (tappTocRemoveEntry toc tocSize taid header entryIdx).All P ↔
      (tappTocSearchEntries toc tocSize taid entryIdx header).All P ∧
        P ⟨.write, tappTocGetEntryIndex k, 84⟩ ∧
        (0 < (header.entries - 1).toNat - k →
          P ⟨.read, tappTocGetEntryIndex k + 84, 84⟩ ∧ P ⟨.write, tappTocGetEntryIndex k, 84⟩) := by
  rw [tappTocRemoveEntry, Traced.all_bind, value_tappTocSearchEntries, hsearch]
  refine and_congr_right fun _ => ?_
  simp only [ne_eq, not_true_eq_false, ↓reduceIte, hentries, Traced.all_bind, Traced.all_write,
    Traced.all_pure, and_true, all_moveUp]

theorem all_tappTocRemoveEntry_absent {toc : Mem} {tocSize entryIdx k : Nat} {taid : SkTaid}
    {header : TappTocHeader} {err : SkStatus} (herr : err ≠ skErrorSuccess)
    (hsearch : SkSdk.tappTocSearchEntries toc tocSize taid entryIdx header = (err, k)) :
    (tappTocRemoveEntry toc tocSize taid header entryIdx).All P ↔
      (tappTocSearchEntries toc tocSize taid entryIdx header).All P := by
  rw [tappTocRemoveEntry, Traced.all_bind, value_tappTocSearchEntries, hsearch]
  simp only [ne_eq, herr, not_false_eq_true, ↓reduceIte, Traced.all_pure, and_true]

end Spans

/-! ## The readers -/

/-- Nothing at `tocSize` or beyond is touched, and what does not fit is an error. -/
structure Inside {α : Type} (tocSize : Nat) (fits : Prop) (succeeds : α → Prop) (x : Traced α) :
    Prop where
  below : x.All (Span.Below tocSize)
  refuses : ¬ fits → ¬ succeeds x.value

/-- No counted entry has the TAID, and the TAIDs that are looked at fit. -/
def SearchedInVain (toc : Mem) (tocSize : Nat) (taid : SkTaid) (c : Nat) : Prop :=
  (∀ j < c, toc.blk (entryPos j) 16 ≠ taid) ∧ ∀ j < c, entryPos j + 16 ≤ tocSize

section Readers

variable {toc : Mem} {tocSize : Nat} {taid : SkTaid} {header : TappTocHeader} {entryIdx : Nat}

theorem readHeader_inside_iff (toc : Mem) (header : TappTocHeader) (hsize : tocSize ≠ 0) :
    Inside tocSize (tappTocIndexHdrTotalSize ≤ tocSize) (fun r => r.1 = skErrorSuccess)
        (tappTocReadHeader toc tocSize header) ↔
      if be32.get toc 0 = tappTocIndexHdrCookie then tappTocIndexHdrTotalSize ≤ tocSize
      else 4 ≤ tocSize := by
  have hall := all_tappTocReadHeader (Span.Below tocSize) toc header hsize
  simp only [below_iff] at hall
  split
  · next hcookie =>
    have hvalue := tappTocReadHeader_of_cookie header hsize hcookie
    constructor
    · intro h
      by_contra hfits
      exact h.refuses hfits (by rw [value_tappTocReadHeader, hvalue])
    · intro hfits
      have hlen : tappTocIndexHdrTotalSize = 16 := rfl
      exact ⟨hall.mpr ⟨by omega, fun _ => by omega⟩, fun h => absurd hfits h⟩
  · next hcookie =>
    have hvalue : (SkSdk.tappTocReadHeader toc tocSize header).1 ≠ skErrorSuccess := by
      have hrefused : skErrorInvalidCookie ≠ skErrorSuccess := by decide
      rwa [tappTocReadHeader_of_bad_cookie header hsize hcookie]
    constructor
    · intro h
      exact (hall.mp h.below).1
    · intro hfits
      exact ⟨hall.mpr ⟨hfits, fun h => absurd h hcookie⟩,
        fun _ => by rwa [value_tappTocReadHeader]⟩

theorem list_inside_iff (toc : Mem) (entry : TappTocEntry) (hsize : tocSize ≠ 0) :
    Inside tocSize (TocFits tocSize (be32.get toc 4).toNat) (fun r => r.1 = skErrorSuccess)
        (tappTocList toc tocSize entry) ↔
      if be32.get toc 0 = tappTocIndexHdrCookie then TocFits tocSize (be32.get toc 4).toNat
      else 4 ≤ tocSize := by
  have hheader := all_tappTocReadHeader (Span.Below tocSize) toc ⟨0, 0⟩ hsize
  simp only [below_iff] at hheader
  split
  · next hcookie =>
    have hread : (tappTocReadHeader toc tocSize ⟨0, 0⟩).value =
        (skErrorSuccess, ⟨tappTocIndexHdrCookie, be32.get toc 4⟩) := by
      rw [value_tappTocReadHeader, tappTocReadHeader_of_cookie _ hsize hcookie]
    constructor
    · intro h
      by_contra hfits
      refine h.refuses hfits ?_
      unfold tappTocList
      rw [if_neg hsize, Traced.value_bind, hread]
      rfl
    · intro hfits
      have hlen : tappTocIndexHdrTotalSize = 16 := rfl
      refine ⟨?_, fun h => absurd hfits h⟩
      unfold TocFits at hfits
      unfold tappTocList
      rw [if_neg hsize, Traced.all_bind, hheader, hread]
      refine ⟨⟨by omega, fun _ => by omega⟩, ?_⟩
      simp only [ne_eq, not_true_eq_false, ↓reduceIte, Traced.all_bind, Traced.all_pure, and_true]
      refine (all_listEntries _ toc _ entry _).mpr fun j hj => ?_
      have hpos := entryPos_le hj
      have hstart : tappTocIndexHdrTappStartPos = 16 := rfl
      unfold entryPos at hpos
      simp only [below_iff]
      exact ⟨by omega, by omega, by omega⟩
  · next hcookie =>
    have hread : (tappTocReadHeader toc tocSize ⟨0, 0⟩).value =
        (skErrorInvalidCookie, ⟨be32.get toc 0, 0⟩) := by
      rw [value_tappTocReadHeader, tappTocReadHeader_of_bad_cookie _ hsize hcookie]
    have hrefused : skErrorInvalidCookie ≠ skErrorSuccess := by decide
    unfold tappTocList
    rw [if_neg hsize]
    constructor
    · intro h
      exact (hheader.mp ((Traced.all_bind _ _ _).mp h.below).1).1
    · intro hfits
      refine ⟨(Traced.all_bind _ _ _).mpr ⟨hheader.mpr ⟨hfits, fun h => absurd h hcookie⟩, ?_⟩,
        fun _ => ?_⟩
      · simp only [hread, ne_eq, hrefused, not_false_eq_true, ↓reduceIte, Traced.all_pure]
      · simp only [Traced.value_bind, hread, ne_eq, hrefused, not_false_eq_true, ↓reduceIte,
          Traced.value_pure]
        decide

/-- What the search returns of a TAID that is found and of one that is not. -/
theorem tappTocSearchEntries_cases (toc : Mem) (entryIdx : Nat) (taid : SkTaid)
    (hsize : tocSize ≠ 0) (hcookie : header.cookie = tappTocIndexHdrCookie) :
    (∃ k, FirstAt toc header.entries.toNat taid k ∧
      SkSdk.tappTocSearchEntries toc tocSize taid entryIdx header = (skErrorSuccess, k)) ∨
    ((∀ j < header.entries.toNat, toc.blk (entryPos j) 16 ≠ taid) ∧
      SkSdk.tappTocSearchEntries toc tocSize taid entryIdx header = (skErrorFailed, entryIdx)) := by
  cases hsearch : SkSdk.searchToc toc taid 0 (entryPos 0) header.entries.toNat with
  | some k =>
    obtain ⟨-, hlt, htaid, hfirst⟩ := searchToc_some toc taid 0 _ hsearch
    have hk : FirstAt toc header.entries.toNat taid k :=
      ⟨by omega, htaid, fun j hj => hfirst j (Nat.zero_le j) hj⟩
    exact Or.inl ⟨k, hk, tappTocSearchEntries_of_first hsize hcookie hk⟩
  | none =>
    have habsent := searchToc_none toc taid 0 _ hsearch
    refine Or.inr ⟨fun j hj => habsent j (Nat.zero_le j) (by omega), ?_⟩
    exact tappTocSearchEntries_of_absent hsize hcookie fun k hk =>
      habsent k (Nat.zero_le k) (by have := hk.lt; omega) hk.found

theorem search_inside_iff (toc : Mem) (taid : SkTaid) (entryIdx : Nat) (hsize : tocSize ≠ 0)
    (hcookie : header.cookie = tappTocIndexHdrCookie) :
    Inside tocSize (TocFits tocSize header.entries.toNat) (fun r => r.1 = skErrorSuccess)
        (tappTocSearchEntries toc tocSize taid entryIdx header) ↔
      TocFits tocSize header.entries.toNat ∨
        SearchedInVain toc tocSize taid header.entries.toNat := by
  have hall := all_tappTocSearchEntries (Span.Below tocSize) toc taid entryIdx hsize hcookie
  have hcases := tappTocSearchEntries_cases toc entryIdx taid hsize hcookie
  simp only [below_iff] at hall
  constructor
  · intro h
    by_contra hneither
    obtain ⟨hfits, hvain⟩ := not_or.mp hneither
    rcases hcases with ⟨k, -, hvalue⟩ | ⟨habsent, -⟩
    · exact h.refuses hfits (by rw [value_tappTocSearchEntries, hvalue])
    · exact hvain ⟨habsent, fun j hj => hall.mp h.below j hj fun j' hj' => habsent j' (by omega)⟩
  · rintro (hfits | ⟨habsent, hlooked⟩)
    · refine ⟨hall.mpr fun j hj _ => ?_, fun h => absurd hfits h⟩
      have hpos := entryPos_le hj
      unfold TocFits at hfits
      omega
    · refine ⟨hall.mpr fun j hj _ => hlooked j hj, fun _ => ?_⟩
      rcases hcases with ⟨k, hk, -⟩ | ⟨-, hvalue⟩
      · exact absurd hk.found (habsent k hk.lt)
      · have hfailed : skErrorFailed ≠ skErrorSuccess := by decide
        rwa [value_tappTocSearchEntries, hvalue]

theorem remove_inside_iff (toc : Mem) (taid : SkTaid) (entryIdx : Nat) (hsize : tocSize ≠ 0)
    (htoc : tocSize < 4294967296) (hcookie : header.cookie = tappTocIndexHdrCookie) :
    Inside tocSize (TocFits tocSize header.entries.toNat)
        (fun r => ∃ toc' header', r = .ok (skErrorSuccess, toc', header'))
        (tappTocRemoveEntry toc tocSize taid header entryIdx) ↔
      TocFits tocSize header.entries.toNat ∨
        SearchedInVain toc tocSize taid header.entries.toNat := by
  rw [← search_inside_iff toc taid entryIdx hsize hcookie]
  rcases tappTocSearchEntries_cases toc entryIdx taid hsize hcookie with
    ⟨k, hk, hvalue⟩ | ⟨-, hvalue⟩
  · have hne : header.entries ≠ 0 := fun hzero => by
      have hlt := hk.lt
      simp [hzero] at hlt
    have hsucceeds : ∃ toc' header', (tappTocRemoveEntry toc tocSize taid header entryIdx).value =
        .ok (skErrorSuccess, toc', header') := by
      rw [value_tappTocRemoveEntry, SkSdk.tappTocRemoveEntry, hvalue]
      simp only [ne_eq, not_true_eq_false, ↓reduceIte, hne]
      exact ⟨_, _, rfl⟩
    have hall := all_tappTocRemoveEntry_found (Span.Below tocSize) hne hvalue
    constructor
    · intro h
      exact ⟨(hall.mp h.below).1, fun hfits => absurd hsucceeds (h.refuses hfits)⟩
    · intro h
      have hfits : TocFits tocSize header.entries.toNat := by
        by_contra hfits
        exact h.refuses hfits (by rw [value_tappTocSearchEntries, hvalue])
      have hpos := entryPos_le hk.lt
      have hpred := toNat_pred hne
      unfold TocFits at hfits
      have hindex : tappTocGetEntryIndex k = entryPos k := tappTocGetEntryIndex_eq (by omega)
      refine ⟨hall.mpr ⟨h.below, ?_, fun hrounds => ?_⟩, fun h => absurd hfits h⟩
      · rw [hindex, below_iff]
        omega
      · have hnext := entryPos_le (by omega : k + 1 < header.entries.toNat)
        have hstep := entryPos_succ k
        simp only [hindex, below_iff]
        omega
  · have hfailed : skErrorFailed ≠ skErrorSuccess := by decide
    have hall := all_tappTocRemoveEntry_absent (Span.Below tocSize) hfailed hvalue
    have hrun : (tappTocRemoveEntry toc tocSize taid header entryIdx).value =
        .ok (skErrorFailed, toc, header) := by
      rw [value_tappTocRemoveEntry, SkSdk.tappTocRemoveEntry, hvalue]
      rfl
    constructor
    · intro h
      refine ⟨hall.mp h.below, fun _ => ?_⟩
      rwa [value_tappTocSearchEntries, hvalue]
    · intro h
      refine ⟨hall.mpr h.below, fun _ => ?_⟩
      rw [hrun]
      rintro ⟨toc', header', hok⟩
      cases hok

/-- When the four readers stay inside the table, each for its own reasons: the two
that read the header themselves take its length for granted, and all but the
first take the count for granted. -/
theorem toc_readers_inside_iff (toc : Mem) (tocSize : Nat) (taid : SkTaid)
    (header headerBefore : TappTocHeader) (entryIdx : Nat) (entryBefore : TappTocEntry)
    (hsize : tocSize ≠ 0) (htoc : tocSize < 4294967296)
    (hcookie : header.cookie = tappTocIndexHdrCookie) :
    (Inside tocSize (tappTocIndexHdrTotalSize ≤ tocSize) (fun r => r.1 = skErrorSuccess)
        (tappTocReadHeader toc tocSize headerBefore) ↔
      if be32.get toc 0 = tappTocIndexHdrCookie then tappTocIndexHdrTotalSize ≤ tocSize
      else 4 ≤ tocSize) ∧
    (Inside tocSize (TocFits tocSize (be32.get toc 4).toNat) (fun r => r.1 = skErrorSuccess)
        (tappTocList toc tocSize entryBefore) ↔
      if be32.get toc 0 = tappTocIndexHdrCookie then TocFits tocSize (be32.get toc 4).toNat
      else 4 ≤ tocSize) ∧
    (Inside tocSize (TocFits tocSize header.entries.toNat) (fun r => r.1 = skErrorSuccess)
        (tappTocSearchEntries toc tocSize taid entryIdx header) ↔
      TocFits tocSize header.entries.toNat ∨
        SearchedInVain toc tocSize taid header.entries.toNat) ∧
    (Inside tocSize (TocFits tocSize header.entries.toNat)
        (fun r => ∃ toc' header', r = .ok (skErrorSuccess, toc', header'))
        (tappTocRemoveEntry toc tocSize taid header entryIdx) ↔
      TocFits tocSize header.entries.toNat ∨
        SearchedInVain toc tocSize taid header.entries.toNat) :=
  ⟨readHeader_inside_iff toc headerBefore hsize, list_inside_iff toc entryBefore hsize,
    search_inside_iff toc taid entryIdx hsize hcookie,
    remove_inside_iff toc taid entryIdx hsize htoc hcookie⟩

end Readers

/-- A table that starts with the cookie and a count, zero from there on. -/
def tocOf (count : UInt32) : Mem :=
  Mem.ofList (be32.enc tappTocIndexHdrCookie ++ be32.enc count)

theorem cookie_tocOf (count : UInt32) : be32.get (tocOf count) 0 = tappTocIndexHdrCookie := by
  have hread : (tocOf count).read 0 4 = be32.enc tappTocIndexHdrCookie := by
    rw [tocOf, Mem.read_ofList _ _ (by rw [List.length_append, be32.length_enc]; omega),
      List.take_left' (be32.length_enc _)]
  rw [Format.get, hread, be32.dec_enc]

def noEntry : TappTocEntry := ⟨Blk.zero 16, 0, Blk.zero 32⟩

/-- With room for the header and its one entry all four stay inside. -/
theorem toc_readers_inside_one :
    Inside 100 (16 ≤ 100) (fun r => r.1 = skErrorSuccess)
      (tappTocReadHeader (tocOf 1) 100 ⟨0, 0⟩) ∧
    Inside 100 (TocFits 100 1) (fun r => r.1 = skErrorSuccess)
      (tappTocList (tocOf 1) 100 noEntry) ∧
    Inside 100 (TocFits 100 1) (fun r => r.1 = skErrorSuccess)
      (tappTocSearchEntries (tocOf 1) 100 (Blk.zero 16) 0 ⟨tappTocIndexHdrCookie, 1⟩) ∧
    Inside 100 (TocFits 100 1)
      (fun r => ∃ toc' header', r = .ok (skErrorSuccess, toc', header'))
      (tappTocRemoveEntry (tocOf 1) 100 (Blk.zero 16) ⟨tappTocIndexHdrCookie, 1⟩ 0) := by
  have hentries : (be32.get (tocOf 1) 4).toNat = 1 := by decide
  have hfits : TocFits 100 1 := by decide
  obtain ⟨hread, hlist, hsearch, hremove⟩ :=
    toc_readers_inside_iff (tocOf 1) 100 (Blk.zero 16) ⟨tappTocIndexHdrCookie, 1⟩ ⟨0, 0⟩ 0 noEntry
      (by decide) (by decide) rfl
  rw [if_pos (cookie_tocOf 1)] at hread hlist
  rw [hentries] at hlist
  exact ⟨hread.mpr (by decide), hlist.mpr hfits, hsearch.mpr (Or.inl hfits),
    hremove.mpr (Or.inl hfits)⟩

/-- Of a table of one byte all four touch more than that byte. -/
theorem toc_readers_leave :
    ¬ (tappTocReadHeader (tocOf 1) 1 ⟨0, 0⟩).All (Span.Below 1) ∧
    ¬ (tappTocList (tocOf 1) 1 noEntry).All (Span.Below 1) ∧
    ¬ (tappTocSearchEntries (tocOf 1) 1 (Blk.zero 16) 0 ⟨tappTocIndexHdrCookie, 1⟩).All
      (Span.Below 1) ∧
    ¬ (tappTocRemoveEntry (tocOf 1) 1 (Blk.zero 16) ⟨tappTocIndexHdrCookie, 1⟩ 0).All
      (Span.Below 1) := by
  have hheader : ¬ (tappTocReadHeader (tocOf 1) 1 ⟨0, 0⟩).All (Span.Below 1) := by
    rw [all_tappTocReadHeader _ _ _ (by decide), below_iff]
    omega
  have hsearch : ¬ (tappTocSearchEntries (tocOf 1) 1 (Blk.zero 16) 0
      ⟨tappTocIndexHdrCookie, 1⟩).All (Span.Below 1) := by
    rw [all_tappTocSearchEntries _ _ _ _ (by decide) rfl]
    intro h
    exact absurd (h 0 (by decide) fun j hj => absurd hj (Nat.not_lt_zero j)) (by decide)
  refine ⟨hheader, ?_, hsearch, ?_⟩
  · unfold tappTocList
    rw [if_neg (by decide), Traced.all_bind]
    exact fun h => hheader h.1
  · unfold tappTocRemoveEntry
    rw [Traced.all_bind]
    exact fun h => hsearch h.1

end SkSdk.Accesses
