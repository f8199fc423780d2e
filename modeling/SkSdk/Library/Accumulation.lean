import Mathlib.Algebra.BigOperators.Group.Finset.Basic

/-!
Slots that a stream is added into. Element `k` of the stream goes into the slot
named at position `k` of a list of draws; what a slot holds is then the sum of the
elements drawn for it. Where every element is its own negative, a stream of which
no choice of elements adds up to zero never brings two slots to the same sum.
-/

namespace Accumulation

variable {ι M : Type} [DecidableEq ι] [AddCommGroup M]

/-- The positions of the stream that went into slot `x`. -/
def positions (draws : List ι) (x : ι) : Finset ℕ :=
  (Finset.range draws.length).filter fun k => draws[k]? = some x

def held (stream : ℕ → M) (draws : List ι) (x : ι) : M := ∑ k ∈ positions draws x, stream k

theorem mem_positions {draws : List ι} {x : ι} {k : ℕ} :
    k ∈ positions draws x ↔ draws[k]? = some x := by
  rw [positions, Finset.mem_filter, Finset.mem_range, and_iff_right_iff_imp]
  exact fun h => (List.getElem?_eq_some_iff.mp h).1

theorem positions_subset (draws : List ι) (x : ι) :
    positions draws x ⊆ Finset.range draws.length := Finset.filter_subset _ _

theorem length_notMem_positions (draws : List ι) (x : ι) : draws.length ∉ positions draws x :=
  fun h => absurd (Finset.mem_range.mp (positions_subset draws x h)) (Nat.lt_irrefl _)

theorem positions_concat_self (draws : List ι) (x : ι) :
    positions (draws ++ [x]) x = insert draws.length (positions draws x) := by
  ext k
  rw [Finset.mem_insert, mem_positions, mem_positions, List.getElem?_append]
  split
  · rename_i hlt
    exact ⟨.inr, fun h => h.resolve_left hlt.ne⟩
  · rename_i hge
    have hnone : draws[k]? = none := List.getElem?_eq_none (Nat.not_lt.mp hge)
    rw [hnone]
    constructor
    · intro h
      have hlt := (List.getElem?_eq_some_iff.mp h).1
      rw [List.length_singleton] at hlt
      exact .inl (by omega)
    · rintro (rfl | h)
      · rw [Nat.sub_self]
        rfl
      · cases h

theorem positions_concat_of_ne {x y : ι} (h : x ≠ y) (draws : List ι) :
    positions (draws ++ [y]) x = positions draws x := by
  ext k
  rw [mem_positions, mem_positions, List.getElem?_append]
  split
  · rfl
  · rename_i hge
    have hnone : draws[k]? = none := List.getElem?_eq_none (Nat.not_lt.mp hge)
    rw [hnone]
    refine iff_of_false (fun hlast => h ?_) nofun
    obtain ⟨hlt, hlast⟩ := List.getElem?_eq_some_iff.mp hlast
    rw [List.getElem_singleton] at hlast
    exact hlast.symm

theorem disjoint_positions {x y : ι} (h : x ≠ y) (draws : List ι) :
    Disjoint (positions draws x) (positions draws y) := by
  refine Finset.disjoint_left.mpr fun k hx hy => h ?_
  rw [mem_positions] at hx hy
  exact Option.some.inj (hx.symm.trans hy)

section Sums

variable (stream : ℕ → M) (draws : List ι)

theorem held_nil (x : ι) : held stream [] x = 0 := rfl

theorem held_concat_self (x : ι) :
    held stream (draws ++ [x]) x = held stream draws x + stream draws.length := by
  rw [held, positions_concat_self, Finset.sum_insert (length_notMem_positions draws x), add_comm,
    held]

theorem held_concat_of_ne {x y : ι} (h : x ≠ y) :
    held stream (draws ++ [y]) x = held stream draws x := by
  rw [held, positions_concat_of_ne h, held]

end Sums

/-- No choice of the first `n` elements, but for the empty one, adds up to zero. -/
def Independent (stream : ℕ → M) (n : ℕ) : Prop :=
  ∀ S ⊆ Finset.range n, ∑ k ∈ S, stream k = 0 → S = ∅

theorem Independent.mono {stream : ℕ → M} {m n : ℕ} (h : Independent stream n) (hmn : m ≤ n) :
    Independent stream m :=
  fun S hS => h S (hS.trans (Finset.range_subset_range.mpr hmn))

/-- The sum that a draw leaves in its slot was in no slot before. -/
theorem Independent.fresh (hself : ∀ m : M, m + m = 0) {stream : ℕ → M} {draws : List ι}
    (h : Independent stream (draws.length + 1)) (x y : ι) :
    held stream draws y ≠ held stream (draws ++ [x]) x := by
  intro heq
  have hlast : draws.length ∈ Finset.range (draws.length + 1) := by simp
  by_cases hy : y = x
  · subst hy
    rw [held_concat_self, left_eq_add] at heq
    have hnil := h {draws.length} (Finset.singleton_subset_iff.mpr hlast)
      (by rw [Finset.sum_singleton, heq])
    exact Finset.singleton_ne_empty _ hnil
  · have hdisjoint : Disjoint (positions draws y) (positions (draws ++ [x]) x) := by
      rw [← positions_concat_of_ne hy]
      exact disjoint_positions hy _
    have hsum : ∑ k ∈ positions draws y ∪ positions (draws ++ [x]) x, stream k = 0 := by
      rw [Finset.sum_union hdisjoint]
      exact (congrArg (· + _) heq).trans (hself _)
    have hsub : positions draws y ∪ positions (draws ++ [x]) x ⊆
        Finset.range (draws.length + 1) := by
      refine Finset.union_subset ((positions_subset draws y).trans ?_) ?_
      · exact Finset.range_subset_range.mpr (Nat.le_succ _)
      · simpa using positions_subset (draws ++ [x]) x
    have hmem : draws.length ∈ positions draws y ∪ positions (draws ++ [x]) x := by
      rw [positions_concat_self]
      exact Finset.mem_union_right _ (Finset.mem_insert_self _ _)
    rw [h _ hsub hsum] at hmem
    exact absurd hmem (Finset.notMem_empty _)

end Accumulation
