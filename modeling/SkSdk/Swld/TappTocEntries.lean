import SkSdk.Swld.Tapi
import SkSdk.Swld.TappToc

/-!
The entries of the table of contents (`tapp_toc.c`): the search for a TAID and
the removal of its entry. The header is the caller's, its copy in the table is
not touched. The loop that is to move the later entries up copies into the same
entry every time, so that only the next one moves.
-/

namespace SkSdk
open ByteMemory

/-! ## Search and removal -/

/-- The loop of the search over `c` entries, entry `i` being at `ptoc`. -/
def searchToc (toc : Mem) (taid : SkTaid) (i ptoc : Nat) : Nat → Option Nat
  | 0 => none
  | c + 1 =>
    if toc.blk ptoc tappTocIndexEntryTaidSize = taid then some i
    else searchToc toc taid (i + 1) (ptoc + tappTocIndexEntryTotalSize) c

/-- The status and `*entry_idx`. -/
def tappTocSearchEntries (toc : Mem) (tocSize : Nat) (taid : SkTaid) (entryIdx : Nat)
    (header : TappTocHeader) : SkStatus × Nat :=
  if tocSize = 0 then (skErrorInvalidParam, entryIdx)
  else if header.cookie ≠ tappTocIndexHdrCookie then (skErrorInvalidCookie, entryIdx)
  else
    match searchToc toc taid 0 tappTocIndexHdrTappStartPos header.entries.toNat with
    | some i => (skErrorSuccess, i)
    | none => (skErrorFailed, entryIdx)

/-- `TAPP_TOC_GET_ENTRY_INDEX`. -/
def tappTocGetEntryIndex (entry : Nat) : Nat :=
  u32 (tappTocIndexHdrTotalSize + u32 (entry * tappTocIndexEntryTotalSize))

/-- `c` rounds of the loop that moves the entries up; `toc` stays where it is. -/
def moveUp (toc : Mem) (ptoc : Nat) : Nat → Mem
  | 0 => toc
  | c + 1 =>
    moveUp (toc.write ptoc (toc.read (ptoc + tappTocIndexEntryTotalSize)
      tappTocIndexEntryTotalSize)) ptoc c

/-- `entryIdx` is what the local of that name held. -/
def tappTocRemoveEntry (toc : Mem) (tocSize : Nat) (taid : SkTaid) (header : TappTocHeader)
    (entryIdx : Nat) : Except Fault (SkStatus × Mem × TappTocHeader) :=
  let (err, entryIdx) := tappTocSearchEntries toc tocSize taid entryIdx header
  if err ≠ skErrorSuccess then .ok (skErrorFailed, toc, header)
  else
    let ptoc := tappTocGetEntryIndex entryIdx
    let toc := toc.write ptoc (List.replicate tappTocIndexEntryTotalSize 0)
    if header.entries = 0 then .error .assert
    else
      let header := { header with entries := header.entries - 1 }
      .ok (err, moveUp toc ptoc (header.entries.toNat - entryIdx), header)

/-! ## The entries as a list -/

/-- Where entry `j` stands. -/
def entryPos (j : Nat) : Nat := 16 + 84 * j

/-- There is room for the header and `c` entries. -/
def TocFits (tocSize c : Nat) : Prop :=
  tappTocIndexHdrTotalSize + c * tappTocIndexEntryTotalSize ≤ tocSize

instance (tocSize c : Nat) : Decidable (TocFits tocSize c) := Nat.decLe _ _

def entryAt (toc : Mem) (j : Nat) : List UInt8 := toc.read (entryPos j) 84

def tocEntries (toc : Mem) (n : Nat) : List (List UInt8) := (List.range n).map (entryAt toc)

/-- Entry `k` is the first of `n` with this TAID. -/
structure FirstAt (toc : Mem) (n : Nat) (taid : SkTaid) (k : Nat) : Prop where
  lt : k < n
  found : toc.blk (entryPos k) 16 = taid
  first : ∀ j < k, toc.blk (entryPos j) 16 ≠ taid

section Statements

variable (toc : Mem) (tocSize : Nat) (taid : SkTaid) (header : TappTocHeader) (entryIdx : Nat)

/-- A TAID that occurs costs the table its first entry with it and nothing else,
one that does not occur is an error. -/
structure DeletesOne : Prop where
  removed : ∀ k, FirstAt toc header.entries.toNat taid k →
    ∃ toc' header', tappTocRemoveEntry toc tocSize taid header entryIdx =
        .ok (skErrorSuccess, toc', header') ∧
      header'.entries.toNat = header.entries.toNat - 1 ∧ header'.cookie = header.cookie ∧
      tocEntries toc' (header.entries.toNat - 1) =
        (tocEntries toc header.entries.toNat).eraseIdx k
  unknown : (∀ k, ¬ FirstAt toc header.entries.toNat taid k) →
    ∃ err, tappTocRemoveEntry toc tocSize taid header entryIdx = .ok (err, toc, header) ∧
      err ≠ skErrorSuccess

/-- From the entry after the removed one on, all are the same. -/
def RestAlike : Prop :=
  ∀ k, FirstAt toc header.entries.toNat taid k →
    ∀ j, k < j → j + 1 < header.entries.toNat → entryAt toc j = entryAt toc (j + 1)

end Statements

/-! ## What the functions compute -/

theorem entryPos_succ (j : Nat) : entryPos (j + 1) = entryPos j + 84 := rfl

/-- One of `c` entries ends where the last one ends or before. -/
theorem entryPos_le {j c : Nat} (h : j < c) :
    entryPos j + 84 ≤ tappTocIndexHdrTotalSize + c * tappTocIndexEntryTotalSize := by
  have hlen : tappTocIndexHdrTotalSize = 16 := rfl
  have hstride : tappTocIndexEntryTotalSize = 84 := rfl
  rw [hlen, hstride, entryPos]
  omega

theorem searchToc_some (toc : Mem) (taid : SkTaid) (i c : Nat) {k : Nat}
    (h : searchToc toc taid i (entryPos i) c = some k) :
    i ≤ k ∧ k < i + c ∧ toc.blk (entryPos k) 16 = taid ∧
      ∀ j, i ≤ j → j < k → toc.blk (entryPos j) 16 ≠ taid := by
  induction c generalizing i with
  | zero => cases h
  | succ c ih =>
    rw [searchToc] at h
    split at h
    · next htaid =>
      cases h
      exact ⟨Nat.le_refl _, by omega, htaid, fun j hle hlt => absurd hle (Nat.not_le.mpr hlt)⟩
    · next htaid =>
      obtain ⟨hle, hlt, hk, hbefore⟩ := ih (i + 1) h
      refine ⟨by omega, by omega, hk, fun j hij hjk => ?_⟩
      rcases Nat.eq_or_lt_of_le hij with rfl | hij
      · exact htaid
      · exact hbefore j hij hjk

theorem searchToc_none (toc : Mem) (taid : SkTaid) (i c : Nat)
    (h : searchToc toc taid i (entryPos i) c = none) :
    ∀ j, i ≤ j → j < i + c → toc.blk (entryPos j) 16 ≠ taid := by
  induction c generalizing i with
  | zero => exact fun j hle hlt => absurd hle (by omega)
  | succ c ih =>
    rw [searchToc] at h
    split at h
    · cases h
    · next htaid =>
      intro j hij hj
      rcases Nat.eq_or_lt_of_le hij with rfl | hij
      · exact htaid
      · exact ih (i + 1) h j hij (by omega)

theorem FirstAt.unique {toc : Mem} {n k k' : Nat} {taid : SkTaid} (h : FirstAt toc n taid k)
    (h' : FirstAt toc n taid k') : k = k' := by
  rcases Nat.lt_trichotomy k k' with hlt | heq | hlt
  · exact absurd h.found (h'.first k hlt)
  · exact heq
  · exact absurd h'.found (h.first k' hlt)

/-- The loop only ever writes the entry at `ptoc`. -/
theorem read_moveUp_other (toc : Mem) (ptoc c : Nat) {q : Nat} (h : q + 84 ≤ ptoc ∨ ptoc + 84 ≤ q) :
    (moveUp toc ptoc c).read q 84 = toc.read q 84 := by
  induction c generalizing toc with
  | zero => rfl
  | succ c ih =>
    rw [moveUp, ih]
    exact Mem.read_write_disjoint _ _ _ _ _ (by rw [Mem.length_read]; exact h)

/-- After any number of rounds it holds the next one. -/
theorem read_moveUp (toc : Mem) (ptoc : Nat) {c : Nat} (hc : 0 < c) :
    (moveUp toc ptoc c).read ptoc 84 = toc.read (ptoc + 84) 84 := by
  induction c generalizing toc with
  | zero => exact absurd hc (Nat.lt_irrefl 0)
  | succ c ih =>
    rw [moveUp]
    rcases Nat.eq_zero_or_pos c with rfl | hpos
    · exact Mem.read_write_eq _ _ _ _ (Mem.length_read _ _ _)
    · rw [ih _ hpos]
      refine Mem.read_write_disjoint _ _ _ _ _ (Or.inr ?_)
      rw [Mem.length_read]

/-! ## The removal -/

section Removal

variable {toc : Mem} {tocSize : Nat} {taid : SkTaid} {header : TappTocHeader} {entryIdx : Nat}

theorem tappTocSearchEntries_of_first {k : Nat} (hsize : tocSize ≠ 0)
    (hcookie : header.cookie = tappTocIndexHdrCookie)
    (h : FirstAt toc header.entries.toNat taid k) :
    tappTocSearchEntries toc tocSize taid entryIdx header = (skErrorSuccess, k) := by
  rw [tappTocSearchEntries, if_neg hsize, if_neg (not_not.mpr hcookie)]
  cases hsearch : searchToc toc taid 0 tappTocIndexHdrTappStartPos header.entries.toNat with
  | none =>
    have habsent := searchToc_none toc taid 0 _ hsearch k (Nat.zero_le k)
      (by rw [Nat.zero_add]; exact h.lt)
    exact absurd h.found habsent
  | some i =>
    obtain ⟨-, hlt, htaid, hfirst⟩ := searchToc_some toc taid 0 _ hsearch
    have hi : FirstAt toc header.entries.toNat taid i :=
      ⟨by omega, htaid, fun j hj => hfirst j (Nat.zero_le j) hj⟩
    rw [h.unique hi]

theorem tappTocSearchEntries_of_absent (hsize : tocSize ≠ 0)
    (hcookie : header.cookie = tappTocIndexHdrCookie)
    (h : ∀ k, ¬ FirstAt toc header.entries.toNat taid k) :
    tappTocSearchEntries toc tocSize taid entryIdx header = (skErrorFailed, entryIdx) := by
  rw [tappTocSearchEntries, if_neg hsize, if_neg (not_not.mpr hcookie)]
  cases hsearch : searchToc toc taid 0 tappTocIndexHdrTappStartPos header.entries.toNat with
  | none => rfl
  | some i =>
    obtain ⟨-, hlt, htaid, hfirst⟩ := searchToc_some toc taid 0 _ hsearch
    exact absurd ⟨by omega, htaid, fun j hj => hfirst j (Nat.zero_le j) hj⟩ (h i)

theorem tappTocGetEntryIndex_eq {k : Nat} (h : entryPos k < 4294967296) :
    tappTocGetEntryIndex k = entryPos k := by
  have hmul : u32 (k * 84) = 84 * k := by
    rw [Nat.mul_comm]
    exact Nat.mod_eq_of_lt (by unfold entryPos at h; omega)
  rw [tappTocGetEntryIndex, hmul]
  exact Nat.mod_eq_of_lt h

theorem toNat_pred {n : UInt32} (h : n ≠ 0) : (n - 1).toNat = n.toNat - 1 := by
  have hpos : n.toNat ≠ 0 := fun hzero => h (UInt32.toNat_inj.mp hzero)
  refine UInt32.toNat_sub_of_le _ _ (UInt32.le_iff_toNat_le.mpr ?_)
  have hone : (1 : UInt32).toNat = 1 := rfl
  omega

/-- The table after the removal of entry `k`. -/
def removedEntry (toc : Mem) (n k : Nat) : Mem :=
  moveUp (toc.write (entryPos k) (List.replicate tappTocIndexEntryTotalSize 0)) (entryPos k)
    (n - 1 - k)

theorem tappTocRemoveEntry_of_first (entryIdx : Nat) {k : Nat} (hsize : tocSize ≠ 0)
    (hcookie : header.cookie = tappTocIndexHdrCookie) (hpos : entryPos k < 4294967296)
    (h : FirstAt toc header.entries.toNat taid k) :
    tappTocRemoveEntry toc tocSize taid header entryIdx =
      .ok (skErrorSuccess, removedEntry toc header.entries.toNat k,
        { header with entries := header.entries - 1 }) ∧
      (header.entries - 1).toNat = header.entries.toNat - 1 := by
  have hlt := h.lt
  have hne : header.entries ≠ 0 := fun hzero => by simp [hzero] at hlt
  have hpred := toNat_pred hne
  refine ⟨?_, hpred⟩
  rw [tappTocRemoveEntry, tappTocSearchEntries_of_first hsize hcookie h]
  simp only [ne_eq, not_true_eq_false, ↓reduceIte, hne, tappTocGetEntryIndex_eq hpos, hpred,
    removedEntry]

theorem entryAt_removedEntry_of_ne {n k j : Nat} (h : j ≠ k) :
    entryAt (removedEntry toc n k) j = entryAt toc j := by
  have hapart : entryPos j + 84 ≤ entryPos k ∨ entryPos k + 84 ≤ entryPos j := by
    unfold entryPos
    omega
  unfold entryAt removedEntry
  rw [read_moveUp_other _ _ _ hapart]
  exact Mem.read_write_disjoint _ _ _ _ _ (by rw [List.length_replicate]; exact hapart)

theorem entryAt_removedEntry_self {n k : Nat} (h : k < n - 1) :
    entryAt (removedEntry toc n k) k = entryAt toc (k + 1) := by
  have hnext := entryPos_succ k
  unfold entryAt removedEntry
  rw [read_moveUp _ _ (by omega), hnext]
  refine Mem.read_write_disjoint _ _ _ _ _ (Or.inr ?_)
  rw [List.length_replicate]

theorem tocEntries_eq_eraseIdx_iff (toc toc' : Mem) {n k : Nat} (hk : k < n) :
    tocEntries toc' (n - 1) = (tocEntries toc n).eraseIdx k ↔
      ∀ j < n - 1, entryAt toc' j = entryAt toc (if j < k then j else j + 1) := by
  have hlen (toc : Mem) (n : Nat) : (tocEntries toc n).length = n := by simp [tocEntries]
  have herase : ((tocEntries toc n).eraseIdx k).length = n - 1 := by
    rw [List.length_eraseIdx_of_lt (by rwa [hlen]), hlen]
  constructor
  · intro h j hj
    have hget := congrArg (fun l => l[j]?) h
    rw [List.getElem?_eraseIdx] at hget
    split at hget
    · next hlt =>
      rw [if_pos hlt]
      simpa [tocEntries, hj, show j < n by omega] using hget
    · next hge =>
      rw [if_neg hge]
      simpa [tocEntries, hj, show j + 1 < n by omega] using hget
  · intro h
    refine List.ext_getElem ((hlen _ _).trans herase.symm) fun j hj hj' => ?_
    rw [hlen] at hj
    have hj₁ := h j hj
    rw [List.getElem_eraseIdx]
    split
    · next hlt =>
      rw [if_pos hlt] at hj₁
      simpa [tocEntries] using hj₁
    · next hge =>
      rw [if_neg hge] at hj₁
      simpa [tocEntries] using hj₁

/-- What is left is the table without the entry exactly if all later ones are alike. -/
theorem tocEntries_removedEntry_iff {n k : Nat} (hk : k < n) :
    tocEntries (removedEntry toc n k) (n - 1) = (tocEntries toc n).eraseIdx k ↔
      ∀ j, k < j → j + 1 < n → entryAt toc j = entryAt toc (j + 1) := by
  rw [tocEntries_eq_eraseIdx_iff _ _ hk]
  constructor
  · intro h j hkj hj
    have hentry := h j (by omega)
    rwa [entryAt_removedEntry_of_ne (by omega), if_neg (by omega)] at hentry
  · intro h j hj
    rcases Nat.lt_trichotomy j k with hlt | rfl | hlt
    · rw [if_pos hlt, entryAt_removedEntry_of_ne (by omega)]
    · rw [if_neg (Nat.lt_irrefl j), entryAt_removedEntry_self hj]
    · rw [if_neg (by omega), entryAt_removedEntry_of_ne (by omega)]
      exact h j hlt (by omega)

/-- The removal deletes its entry and no other exactly if the entries after the
next one are all copies of that one. -/
theorem remove_entry_iff (entryIdx : Nat) (taid : SkTaid)
    (hcookie : header.cookie = tappTocIndexHdrCookie)
    (hfits : 16 + 84 * header.entries.toNat ≤ tocSize) (hsize : tocSize < 4294967296) :
    DeletesOne toc tocSize taid header entryIdx ↔ RestAlike toc taid header := by
  have hne : tocSize ≠ 0 := by omega
  have hrun {k : Nat} (h : FirstAt toc header.entries.toNat taid k) :=
    tappTocRemoveEntry_of_first entryIdx hne hcookie (by unfold entryPos; have := h.lt; omega) h
  constructor
  · intro hdeletes k hk
    obtain ⟨toc', header', hok, -, -, hentries⟩ := hdeletes.removed k hk
    cases (hrun hk).1.symm.trans hok
    exact (tocEntries_removedEntry_iff hk.lt).mp hentries
  · intro halike
    refine ⟨fun k hk => ?_, fun habsent => ⟨skErrorFailed, ?_, by decide⟩⟩
    · exact ⟨_, _, (hrun hk).1, (hrun hk).2, rfl,
        (tocEntries_removedEntry_iff hk.lt).mpr (halike k hk)⟩
    · rw [tappTocRemoveEntry, tappTocSearchEntries_of_absent hne hcookie habsent]
      rfl

end Removal

/-- Entry `j` is the byte `j` eighty-four times. -/
def numberedToc : Mem := fun a => UInt8.ofNat ((a - tappTocIndexHdrTotalSize) / 84)

def numberedHeader (n : UInt32) : TappTocHeader := ⟨tappTocIndexHdrCookie, n⟩

/-- The first of two entries is removed as it should be. -/
theorem remove_entry_iff_two :
    DeletesOne numberedToc 184 (Blk.zero 16) (numberedHeader 2) 0 := by
  refine (remove_entry_iff 0 (Blk.zero 16) rfl (by decide) (by decide)).mpr ?_
  intro k _ j hkj hj
  have hn : (numberedHeader 2).entries.toNat = 2 := rfl
  omega

/-- Of three entries the first is to go: the second stands there twice, the
third is lost. -/
theorem remove_entry_loses :
    ¬ DeletesOne numberedToc 268 (Blk.zero 16) (numberedHeader 3) 0 := by
  have hfirst : FirstAt numberedToc (numberedHeader 3).entries.toNat (Blk.zero 16) 0 :=
    ⟨by decide, by decide, fun j hj => absurd hj (Nat.not_lt_zero j)⟩
  intro h
  obtain ⟨toc', header', hok, -, -, hentries⟩ := h.removed 0 hfirst
  have hsize : 268 ≠ 0 := by decide
  have hpos : entryPos 0 < 4294967296 := by decide
  have hrun := tappTocRemoveEntry_of_first 0 hsize rfl hpos hfirst
  cases hrun.1.symm.trans hok
  have halike := (tocEntries_removedEntry_iff hfirst.lt).mp hentries 1 (by decide) (by decide)
  exact absurd halike (by decide)

end SkSdk
