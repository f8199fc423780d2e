import Mathlib.Logic.Function.Basic

/-!
Holders of the names of a table. A holder has one name at a time; `null` is the name
of a holder that has none, though the table may use it like any other. As long as a
holder gets a name that the table does not use, and forgets the name that it gives
back, no other name than `null` has two holders.
-/

namespace NameTable

variable {obj name val : Type} {null : name} {held held' : obj → name}
  {table table' : name → Option val} {source source' : obj → val → Prop}

/-- Every name but `null` has one holder, and its entry comes from that holder. -/
structure Held (null : name) (held : obj → name) (table : name → Option val)
    (source : obj → val → Prop) : Prop where
  exclusive : ∀ p p', held p ≠ null → held p = held p' → p = p'
  entry : ∀ p, held p ≠ null → ∃ v, table (held p) = some v ∧ source p v

/-- Some holders lose their names; the table may drop what nobody holds. -/
theorem Held.restrict (h : Held null held table source)
    (hheld : ∀ p, held' p ≠ null → held' p = held p)
    (htable : ∀ p, held' p ≠ null → table' (held p) = table (held p))
    (hsource : ∀ p v, held' p ≠ null → source p v → source' p v) :
    Held null held' table' source' := by
  constructor
  · intro p p' hnull heq
    have hp := hheld p hnull
    have hp' := hheld p' (heq ▸ hnull)
    rw [hp] at hnull heq
    exact h.exclusive p p' hnull (heq.trans hp')
  · intro p hnull
    have hsame := hheld p hnull
    obtain ⟨v, hv, hpv⟩ := h.entry p (hsame ▸ hnull)
    exact ⟨v, by rw [hsame, htable p hnull, hv], hsource p v hnull hpv⟩

theorem Held.keep (h : Held null held table source)
    (hsource : ∀ p v, source p v → source' p v) : Held null held table source' :=
  h.restrict (fun _ _ => rfl) (fun _ _ => rfl) fun p v _ => hsource p v

theorem Held.of_null (h : ∀ p, held p = null) : Held null held table source :=
  ⟨fun p _ hp _ => absurd (h p) hp, fun p hp => absurd (h p) hp⟩

variable [DecidableEq obj]

/-- A holder gets a name that the table has not used. -/
theorem Held.acquire [DecidableEq name] (h : Held null held table source) {p : obj} {n : name}
    {v : val} (hfree : table n = none) (hv : source' p v)
    (hsource : ∀ p' v, p' ≠ p → source p' v → source' p' v) :
    Held null (Function.update held p n) (Function.update table n (some v)) source' := by
  have hother : ∀ p', p' ≠ p → held p' ≠ null → held p' ≠ n := by
    rintro p' - hp' rfl
    obtain ⟨v', hv', -⟩ := h.entry p' hp'
    rw [hfree] at hv'
    cases hv'
  constructor
  · intro p₁ p₂ hnull heq
    rcases eq_or_ne p₁ p with h₁ | h₁ <;> rcases eq_or_ne p₂ p with h₂ | h₂
    · rw [h₁, h₂]
    · rw [h₁, Function.update_self] at heq hnull
      rw [Function.update_of_ne h₂] at heq
      exact absurd heq.symm (hother p₂ h₂ (heq ▸ hnull))
    · rw [Function.update_of_ne h₁] at heq hnull
      rw [h₂, Function.update_self] at heq
      exact absurd heq (hother p₁ h₁ hnull)
    · rw [Function.update_of_ne h₁] at heq hnull
      rw [Function.update_of_ne h₂] at heq
      exact h.exclusive p₁ p₂ hnull heq
  · intro p' hnull
    rcases eq_or_ne p' p with rfl | hp'
    · exact ⟨v, by rw [Function.update_self, Function.update_self], hv⟩
    · rw [Function.update_of_ne hp'] at hnull ⊢
      obtain ⟨v', hv', hsource'⟩ := h.entry p' hnull
      rw [Function.update_of_ne (hother p' hp' hnull)]
      exact ⟨v', hv', hsource p' v' hp' hsource'⟩

/-- A holder loses its name, of which the table may keep the entry or not. -/
theorem Held.drop (h : Held null held table source) {p : obj}
    (htable : ∀ n, n ≠ held p → table' n = table n)
    (hsource : ∀ p' v, p' ≠ p → source p' v → source' p' v) :
    Held null (Function.update held p null) table' source' := by
  have hne : ∀ p', Function.update held p null p' ≠ null → p' ≠ p ∧ held p' ≠ null := by
    intro p' hnull
    have hp' : p' ≠ p := by
      rintro rfl
      exact hnull (Function.update_self ..)
    rw [Function.update_of_ne hp'] at hnull
    exact ⟨hp', hnull⟩
  refine h.restrict (fun p' hnull => Function.update_of_ne (hne p' hnull).1 _ _)
    (fun p' hnull => htable _ fun heq => ?_) fun p' v hnull => hsource p' v (hne p' hnull).1
  obtain ⟨hp', hheld⟩ := hne p' hnull
  exact hp' (h.exclusive p' p hheld heq)

/-- A table under names that leave room for a null name. -/
def lift (table : name → Option val) (n : Option name) : Option val := n.bind table

theorem lift_update [DecidableEq name] (table : name → Option val) (n : name)
    (entry : Option val) :
    lift (Function.update table n entry) = Function.update (lift table) (some n) entry := by
  funext m
  cases m with
  | none => rfl
  | some m => simp [lift, Function.update_apply]

end NameTable
