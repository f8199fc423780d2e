import Mathlib.Data.Set.Lattice
import Mathlib.Logic.Function.Basic
import Mathlib.Order.CompletePartialOrder

/-!
Owners and the blocks they hold. Nothing is held by two owners, everything held
is live, and what is live and held by nobody is leaked. Three moves cover what
an owner does with an allocator; what a move leaks is known before it is made.
-/

namespace Ownership

variable {ι α : Type}

/-- The live blocks, and those that each owner can reach. -/
@[ext] structure Holdings (ι α : Type) where
  live : Set α
  held : ι → Set α

/-- An owner keeps to what it has, is given fresh blocks in place of what it
held, or gives everything back. -/
inductive Move (ι α : Type)
  | keep
  | assign (i : ι) (fresh : Set α)
  | release (i : ι)

namespace Holdings

structure Owned (h : Holdings ι α) : Prop where
  live : ∀ i, h.held i ⊆ h.live
  disjoint : ∀ i j, i ≠ j → Disjoint (h.held i) (h.held j)

/-- The live blocks that no owner can give back any more. -/
def leaked (h : Holdings ι α) : Set α := h.live \ ⋃ i, h.held i

theorem mem_leaked {h : Holdings ι α} {a : α} :
    a ∈ h.leaked ↔ a ∈ h.live ∧ ∀ i, a ∉ h.held i := by
  simp [leaked]

variable [DecidableEq ι]

def apply (h : Holdings ι α) : Move ι α → Holdings ι α
  | .keep => h
  | .assign i fresh => ⟨h.live ∪ fresh, Function.update h.held i fresh⟩
  | .release i => ⟨h.live \ h.held i, Function.update h.held i ∅⟩

/-- The allocator gives nothing that is live. -/
def Allows (h : Holdings ι α) : Move ι α → Prop
  | .assign _ fresh => Disjoint fresh h.live
  | _ => True

/-- What an owner still held when it was given something else. -/
def dropped (h : Holdings ι α) : Move ι α → Set α
  | .assign i _ => h.held i
  | _ => ∅

theorem Owned.apply {h : Holdings ι α} (ho : h.Owned) {m : Move ι α} (hm : h.Allows m) :
    (h.apply m).Owned := by
  cases m with
  | keep => exact ho
  | assign i fresh =>
    have hfresh : ∀ j, Disjoint fresh (h.held j) := fun j => hm.mono_right (ho.live j)
    refine ⟨fun j => ?_, fun j k hjk => ?_⟩
    · by_cases hj : j = i
      · simp [Holdings.apply, hj]
      · simpa [Holdings.apply, hj] using Set.subset_union_of_subset_left (ho.live j) fresh
    · by_cases hj : j = i
      · have hk : k ≠ i := fun hk => hjk (hj.trans hk.symm)
        simpa [Holdings.apply, hj, hk] using hfresh k
      · by_cases hk : k = i
        · simpa [Holdings.apply, hj, hk] using (hfresh j).symm
        · simpa [Holdings.apply, hj, hk] using ho.disjoint j k hjk
  | release i =>
    refine ⟨fun j => ?_, fun j k hjk => ?_⟩
    · by_cases hj : j = i
      · simp [Holdings.apply, hj]
      · simpa [Holdings.apply, hj] using
          Set.subset_sdiff.mpr ⟨ho.live j, ho.disjoint j i hj⟩
    · by_cases hj : j = i
      · simp [Holdings.apply, hj]
      · by_cases hk : k = i
        · simp [Holdings.apply, hk]
        · simpa [Holdings.apply, hj, hk] using ho.disjoint j k hjk

/-- A move leaks what its owner drops, and nothing else. -/
theorem Owned.leaked_apply {h : Holdings ι α} (ho : h.Owned) {m : Move ι α} (hm : h.Allows m) :
    (h.apply m).leaked = h.leaked ∪ h.dropped m := by
  cases m with
  | keep => simp [Holdings.apply, dropped]
  | assign i fresh =>
    ext a
    simp only [Set.mem_union, mem_leaked, Holdings.apply, dropped]
    constructor
    · rintro ⟨hlive, hheld⟩
      have ha : a ∉ fresh := by simpa using hheld i
      by_cases hi : a ∈ h.held i
      · exact Or.inr hi
      · refine Or.inl ⟨hlive.resolve_right ha, fun j => ?_⟩
        by_cases hj : j = i
        · rwa [hj]
        · simpa [hj] using hheld j
    · have hnot : a ∈ h.live → a ∉ fresh := fun hlive hfresh => hm.le_bot ⟨hfresh, hlive⟩
      rintro (⟨hlive, hheld⟩ | hi)
      · refine ⟨Or.inl hlive, fun j => ?_⟩
        by_cases hj : j = i
        · simpa [hj] using hnot hlive
        · simpa [hj] using hheld j
      · have hlive := ho.live i hi
        refine ⟨Or.inl hlive, fun j => ?_⟩
        by_cases hj : j = i
        · simpa [hj] using hnot hlive
        · simpa [hj] using fun haj => (ho.disjoint j i hj).le_bot ⟨haj, hi⟩
  | release i =>
    ext a
    simp only [Set.mem_union, mem_leaked, Holdings.apply, dropped, Set.mem_empty_iff_false,
      or_false]
    constructor
    · rintro ⟨⟨hlive, hi⟩, hheld⟩
      refine ⟨hlive, fun j => ?_⟩
      by_cases hj : j = i
      · rwa [hj]
      · simpa [hj] using hheld j
    · rintro ⟨hlive, hheld⟩
      refine ⟨⟨hlive, hheld i⟩, fun j => ?_⟩
      by_cases hj : j = i
      · simp [hj]
      · simpa [hj] using hheld j

end Holdings

end Ownership
