/-!
Weakest preconditions for deterministic programs that thread a state and may
stop with a fault. The state is lost at a fault, as it is when a process dies.
The rules are equivalences, so unfolding a program by `simp` gives the exact
condition under which it meets its postcondition, and not only a sufficient one.
-/

namespace FaultState

variable {σ τ ε α β ι : Type}

abbrev Prog (σ ε α : Type) := StateT σ (Except ε) α

/-- `m` from `s` ends in `Q`, or stops with a fault that `E` allows. -/
def wp (m : Prog σ ε α) (Q : α → σ → Prop) (E : ε → Prop) (s : σ) : Prop :=
  match m s with
  | .ok (a, s') => Q a s'
  | .error e => E e

theorem wp_of_ok {m : Prog σ ε α} {s s' : σ} {a : α} (h : m s = .ok (a, s'))
    (Q : α → σ → Prop) (E : ε → Prop) : wp m Q E s ↔ Q a s' := by
  unfold wp
  rw [h]

/-- What a program that returns has established. -/
theorem of_wp {m : Prog σ ε α} {Q : α → σ → Prop} {E : ε → Prop} {s s' : σ} {a : α}
    (hw : wp m Q E s) (h : m s = .ok (a, s')) : Q a s' :=
  (wp_of_ok h Q E).mp hw

/-- With every fault allowed, only what is returned counts. -/
theorem wp_of_returns {m : Prog σ ε α} {Q : α → σ → Prop} {s : σ}
    (h : ∀ a s', m s = .ok (a, s') → Q a s') : wp m Q (fun _ => True) s := by
  unfold wp
  cases hm : m s with
  | error e => trivial
  | ok p => exact h p.1 p.2 hm

/-- A program that no fault can stop returns. -/
theorem returns_of_wp {m : Prog σ ε α} {Q : α → σ → Prop} {s : σ}
    (hw : wp m Q (fun _ => False) s) : ∃ a s', m s = .ok (a, s') ∧ Q a s' := by
  unfold wp at hw
  cases h : m s with
  | error e => rw [h] at hw; exact hw.elim
  | ok p => rw [h] at hw; exact ⟨p.1, p.2, rfl, hw⟩

/-- A program determined up to equality of its result. -/
theorem ok_of_wp {m : Prog σ ε α} {s s' : σ} {a : α}
    (hw : wp m (fun b t => b = a ∧ t = s') (fun _ => False) s) : m s = .ok (a, s') := by
  obtain ⟨b, t, hrun, rfl, rfl⟩ := returns_of_wp hw
  exact hrun

theorem error_of_wp {m : Prog σ ε α} {s : σ} {e : ε}
    (hw : wp m (fun _ _ => False) (· = e) s) : m s = .error e := by
  unfold wp at hw
  cases h : m s with
  | error e' => rw [h] at hw; rw [hw]
  | ok p => rw [h] at hw; exact hw.elim

theorem wp_mono {m : Prog σ ε α} {Q Q' : α → σ → Prop} {E E' : ε → Prop} {s : σ}
    (hQ : ∀ a s', Q a s' → Q' a s') (hE : ∀ e, E e → E' e) (h : wp m Q E s) : wp m Q' E' s := by
  unfold wp at *
  split <;> simp_all

@[simp] theorem wp_pure (a : α) (Q : α → σ → Prop) (E : ε → Prop) (s : σ) :
    wp (pure a : Prog σ ε α) Q E s ↔ Q a s := Iff.rfl

@[simp] theorem wp_bind (m : Prog σ ε α) (f : α → Prog σ ε β) (Q : β → σ → Prop)
    (E : ε → Prop) (s : σ) :
    wp (m >>= f) Q E s ↔ wp m (fun a s' => wp (f a) Q E s') E s := by
  simp only [wp, bind, StateT.bind, Except.bind]
  cases m s <;> rfl

@[simp] theorem wp_map (f : α → β) (m : Prog σ ε α) (Q : β → σ → Prop)
    (E : ε → Prop) (s : σ) :
    wp (f <$> m) Q E s ↔ wp m (fun a s' => Q (f a) s') E s := by
  simp only [wp, Functor.map, StateT.map, bind, Except.bind]
  cases m s <;> rfl

@[simp] theorem wp_get (Q : σ → σ → Prop) (E : ε → Prop) (s : σ) :
    wp (get : Prog σ ε σ) Q E s ↔ Q s s := Iff.rfl

@[simp] theorem wp_set (s' : σ) (Q : PUnit → σ → Prop) (E : ε → Prop) (s : σ) :
    wp (set s' : Prog σ ε PUnit) Q E s ↔ Q ⟨⟩ s' := Iff.rfl

@[simp] theorem wp_modify (f : σ → σ) (Q : PUnit → σ → Prop) (E : ε → Prop) (s : σ) :
    wp (modify f : Prog σ ε PUnit) Q E s ↔ Q ⟨⟩ (f s) := Iff.rfl

@[simp] theorem wp_throw (e : ε) (Q : α → σ → Prop) (E : ε → Prop) (s : σ) :
    wp (throw e : Prog σ ε α) Q E s ↔ E e := Iff.rfl

/-- Stop with `e` unless `c` holds. -/
def require (e : ε) (c : Prop) [Decidable c] : Prog σ ε PUnit :=
  if c then pure ⟨⟩ else throw e

@[simp] theorem wp_require (e : ε) (c : Prop) [Decidable c] (Q : PUnit → σ → Prop)
    (E : ε → Prop) (s : σ) :
    wp (require e c : Prog σ ε PUnit) Q E s ↔ (c ∧ Q ⟨⟩ s) ∨ (¬c ∧ E e) := by
  unfold require
  by_cases h : c <;> simp [h]

/-- Follow a pointer, stopping with `e` at the null pointer. -/
def deref (e : ε) : Option α → Prog σ ε α
  | some a => pure a
  | none => throw e

@[simp] theorem wp_deref_some (e : ε) (a : α) (Q : α → σ → Prop) (E : ε → Prop) (s : σ) :
    wp (deref e (some a) : Prog σ ε α) Q E s ↔ Q a s := Iff.rfl

@[simp] theorem wp_deref_none (e : ε) (Q : α → σ → Prop) (E : ε → Prop) (s : σ) :
    wp (deref e none : Prog σ ε α) Q E s ↔ E e := Iff.rfl

/-- Run a program on the part of a larger state that `proj` and `put` describe. -/
def onPart (proj : τ → σ) (put : σ → τ → τ) (m : Prog σ ε α) : Prog τ ε α := fun t =>
  match m (proj t) with
  | .ok (a, s') => .ok (a, put s' t)
  | .error e => .error e

@[simp] theorem wp_onPart (proj : τ → σ) (put : σ → τ → τ) (m : Prog σ ε α)
    (Q : α → τ → Prop) (E : ε → Prop) (t : τ) :
    wp (onPart proj put m) Q E t ↔ wp m (fun a s' => Q a (put s' t)) E (proj t) := by
  simp only [wp, onPart]
  cases m (proj t) <;> rfl

/-! Runs of straight-line programs. -/

theorem bind_of_ok {m : Prog σ ε α} {s s' : σ} {a : α} (h : m s = .ok (a, s'))
    (f : α → Prog σ ε β) : (m >>= f) s = f a s' := by
  change (m s >>= fun p => f p.1 p.2) = _
  rw [h]
  rfl

theorem bind_of_error {m : Prog σ ε α} {s : σ} {e : ε} (h : m s = .error e)
    (f : α → Prog σ ε β) : (m >>= f) s = .error e := by
  change (m s >>= fun p => f p.1 p.2) = _
  rw [h]
  rfl

theorem map_eq_ok {f : α → β} {m : Prog σ ε α} {s s' : σ} {b : β}
    (h : (f <$> m) s = .ok (b, s')) : ∃ a, m s = .ok (a, s') ∧ b = f a := by
  change (m s >>= fun p => .ok (f p.1, p.2)) = _ at h
  cases hm : m s with
  | error e =>
    rw [hm] at h
    cases h
  | ok p =>
    rw [hm] at h
    cases h
    exact ⟨p.1, rfl, rfl⟩

theorem map_of_ok {m : Prog σ ε α} {s s' : σ} {a : α} (h : m s = .ok (a, s')) (f : α → β) :
    (f <$> m) s = .ok (f a, s') := by
  change (m s >>= fun p => .ok (f p.1, p.2)) = _
  rw [h]
  rfl

theorem require_of {c : Prop} [Decidable c] (h : c) (e : ε) (s : σ) :
    (require e c : Prog σ ε PUnit) s = .ok (⟨⟩, s) := by
  rw [require, if_pos h]
  rfl

theorem require_of_not {c : Prop} [Decidable c] (h : ¬ c) (e : ε) (s : σ) :
    (require e c : Prog σ ε PUnit) s = .error e := by
  rw [require, if_neg h]
  rfl

theorem get_bind_run (k : σ → Prog σ ε α) (s : σ) : (do let s ← get; k s) s = k s s := rfl

theorem modify_bind_run (f : σ → σ) (k : Prog σ ε α) (s : σ) : (do modify f; k) s = k (f s) := rfl

theorem deref_some_bind_run (e : ε) (a : α) (k : α → Prog σ ε β) (s : σ) :
    (do let x ← deref e (some a); k x) s = k a s := rfl

theorem require_bind_of {c : Prop} [Decidable c] (h : c) (e : ε) (k : Prog σ ε α) (s : σ) :
    (do require e c; k) s = k s := bind_of_ok (require_of h e s) _

theorem require_bind_of_not {c : Prop} [Decidable c] (h : ¬ c) (e : ε) (k : Prog σ ε α) (s : σ) :
    (do require e c; k) s = .error e := bind_of_error (require_of_not h e s) _

theorem onPart_of_ok {proj : τ → σ} {put : σ → τ → τ} {m : Prog σ ε α} {t : τ} {s' : σ} {a : α}
    (h : m (proj t) = .ok (a, s')) : onPart proj put m t = .ok (a, put s' t) := by
  rw [onPart, h]

theorem onPart_of_error {proj : τ → σ} {put : σ → τ → τ} {m : Prog σ ε α} {t : τ} {e : ε}
    (h : m (proj t) = .error e) : onPart proj put m t = .error e := by
  rw [onPart, h]

/-! Runs of a step program over a list of inputs. -/

/-- One completed step of a run. -/
structure Step (ι σ α : Type) where
  input : ι
  pre : σ
  result : α
  post : σ

/-- The runs from `s₀`: every step returns, a fault ends the run. -/
inductive Run (step : ι → Prog σ ε α) (s₀ : σ) : List (Step ι σ α) → σ → Prop
  | start : Run step s₀ [] s₀
  | next {tr : List (Step ι σ α)} {s s' : σ} {i : ι} {a : α} :
      Run step s₀ tr s → step i s = .ok (a, s') → Run step s₀ (tr ++ [⟨i, s, a, s'⟩]) s'

/-- A property that holds at the start and that every step preserves holds in
every state of every run. -/
theorem Run.invariant {step : ι → Prog σ ε α} {s₀ s : σ} {tr : List (Step ι σ α)}
    (h : Run step s₀ tr s) (I : σ → Prop) (h₀ : I s₀)
    (hs : ∀ i s, I s → wp (step i) (fun _ s' => I s') (fun _ => True) s) : I s := by
  induction h with
  | start => exact h₀
  | next _ hstep ih => exact of_wp (hs _ _ ih) hstep

/-- The same with the completed steps in view: a step may rely on a condition
`C` that the run promises for each of its steps. -/
theorem Run.invariant_of {step : ι → Prog σ ε α} {s₀ s : σ} {tr : List (Step ι σ α)}
    (h : Run step s₀ tr s) (C : Step ι σ α → Prop) (hC : ∀ x ∈ tr, C x)
    (I : List (Step ι σ α) → σ → Prop) (h₀ : I [] s₀)
    (hs : ∀ tr s i a s', I tr s → step i s = .ok (a, s') → C ⟨i, s, a, s'⟩ →
      I (tr ++ [⟨i, s, a, s'⟩]) s') : I tr s := by
  induction h with
  | start => exact h₀
  | next _ hstep ih =>
    have hpre := ih (fun x hx => hC x (List.mem_append_left _ hx))
    exact hs _ _ _ _ _ hpre hstep (hC _ (by simp))

/-- A run up to one of its steps, and that step. -/
theorem Run.split {step : ι → Prog σ ε α} {s₀ s : σ} {tr before after : List (Step ι σ α)}
    {x : Step ι σ α} (h : Run step s₀ tr s) (htr : tr = before ++ x :: after) :
    Run step s₀ before x.pre ∧ step x.input x.pre = .ok (x.result, x.post) := by
  induction h generalizing after with
  | start => simp at htr
  | @next tr s s' i a hrun hstep ih =>
    rcases List.eq_nil_or_concat after with rfl | ⟨after', y, rfl⟩
    · obtain ⟨rfl, hx⟩ := List.append_inj' htr rfl
      simp only [List.cons.injEq, and_true] at hx
      subst hx
      exact ⟨hrun, hstep⟩
    · rw [List.concat_eq_append, ← List.cons_append, ← List.append_assoc] at htr
      exact ih (List.append_inj' htr rfl).1

theorem Run.eq_of_nil {step : ι → Prog σ ε α} {s₀ s : σ} (h : Run step s₀ [] s) : s = s₀ := by
  generalize htr : [] = tr at h
  cases h with
  | start => rfl
  | next _ _ => simp at htr

/-- A run ends in the state that its last step leaves. -/
theorem Run.eq_post {step : ι → Prog σ ε α} {s₀ s : σ} {tr : List (Step ι σ α)} {x : Step ι σ α}
    (h : Run step s₀ (tr ++ [x]) s) : s = x.post := by
  generalize htr : tr ++ [x] = tr' at h
  cases h with
  | start => simp at htr
  | next _ _ =>
    obtain ⟨_, hx⟩ := List.append_inj' htr rfl
    simp only [List.cons.injEq, and_true] at hx
    rw [hx]

/-- `x` is a step with `P` that no later one with `Q` has overtaken. -/
def Latest {α : Type} (P Q : α → Prop) (tr : List α) (x : α) : Prop :=
  ∃ before after, tr = before ++ x :: after ∧ P x ∧ ∀ y ∈ after, ¬ Q y

theorem Latest.last {α : Type} {P : α → Prop} {x : α} (h : P x) (Q : α → Prop) (tr : List α) :
    Latest P Q (tr ++ [x]) x :=
  ⟨tr, [], rfl, h, fun y hy => by cases hy⟩

theorem Latest.snoc {α : Type} {P Q : α → Prop} {tr : List α} {x y : α} (h : Latest P Q tr x)
    (hy : ¬ Q y) : Latest P Q (tr ++ [y]) x := by
  obtain ⟨before, after, rfl, hx, hafter⟩ := h
  refine ⟨before, after ++ [y], by simp, hx, fun z hz => ?_⟩
  rcases List.mem_append.mp hz with hz | hz
  · exact hafter z hz
  · rw [List.mem_singleton.mp hz]
    exact hy

/-- After one more step the latest is that step, or the one before if it has not
been overtaken. -/
theorem latest_concat {α : Type} {P Q : α → Prop} {tr : List α} {x y : α} :
    Latest P Q (tr ++ [y]) x ↔ x = y ∧ P y ∨ Latest P Q tr x ∧ ¬ Q y := by
  constructor
  · rintro ⟨before, after, heq, hx, hafter⟩
    rcases List.eq_nil_or_concat after with rfl | ⟨after', z, rfl⟩
    · obtain ⟨-, hlast⟩ := List.append_inj' heq rfl
      cases hlast
      exact .inl ⟨rfl, hx⟩
    · rw [List.concat_eq_append, ← List.cons_append, ← List.append_assoc] at heq
      obtain ⟨hinit, hlast⟩ := List.append_inj' heq rfl
      cases hlast
      rw [List.concat_eq_append] at hafter
      exact .inr ⟨⟨before, after', hinit, hx, fun z hz => hafter z (List.mem_append_left _ hz)⟩,
        hafter y (by simp)⟩
  · rintro (⟨rfl, hy⟩ | ⟨h, hy⟩)
    · exact .last hy Q tr
    · exact h.snoc hy

/-- There is one latest step that counts for `Q`. -/
theorem Latest.unique {α : Type} {P P' Q : α → Prop} {tr : List α} {x x' : α}
    (h : Latest P Q tr x) (h' : Latest P' Q tr x') (hP : ∀ y, P y → Q y) (hP' : ∀ y, P' y → Q y) :
    x = x' := by
  obtain ⟨before, after, rfl, hx, hafter⟩ := h
  obtain ⟨before', after', heq, hx', hafter'⟩ := h'
  rcases List.append_eq_append_iff.mp heq with ⟨c, -, hc⟩ | ⟨c, -, hc⟩
  · cases c with
    | nil => exact (List.cons.inj hc).1
    | cons y c =>
      have hmem : x' ∈ after := by rw [(List.cons.inj hc).2]; simp
      exact absurd (hP' _ hx') (hafter _ hmem)
  · cases c with
    | nil => exact (List.cons.inj hc).1.symm
    | cons y c =>
      have hmem : x ∈ after' := by rw [(List.cons.inj hc).2]; simp
      exact absurd (hP _ hx) (hafter' _ hmem)

/-- The run over a list of inputs, if no step faults. -/
def execute (step : ι → Prog σ ε α) : List ι → σ → Option (List (Step ι σ α) × σ)
  | [], s => some ([], s)
  | i :: is, s => match step i s with
    | .error _ => none
    | .ok (a, s') => (execute step is s').map fun r => (⟨i, s, a, s'⟩ :: r.1, r.2)

theorem Run.trans {step : ι → Prog σ ε α} {s₀ s s' : σ} {tr tr' : List (Step ι σ α)}
    (h : Run step s₀ tr s) (h' : Run step s tr' s') : Run step s₀ (tr ++ tr') s' := by
  induction h' with
  | start => rwa [List.append_nil]
  | next _ hstep ih =>
    rw [← List.append_assoc]
    exact ih.next hstep

theorem run_of_execute {step : ι → Prog σ ε α} {is : List ι} {s s' : σ}
    {tr : List (Step ι σ α)} (h : execute step is s = some (tr, s')) : Run step s tr s' := by
  induction is generalizing s tr with
  | nil =>
    simp only [execute, Option.some.injEq, Prod.mk.injEq] at h
    obtain ⟨rfl, rfl⟩ := h
    exact .start
  | cons i is ih =>
    rw [execute] at h
    split at h
    · simp at h
    · rename_i a t hstep
      obtain ⟨⟨rest, t'⟩, hrest, heq⟩ := Option.map_eq_some_iff.mp h
      simp only [Prod.mk.injEq] at heq
      obtain ⟨rfl, rfl⟩ := heq
      exact (Run.start.next hstep).trans (ih hrest)

theorem inputs_of_execute {step : ι → Prog σ ε α} {is : List ι} {s s' : σ}
    {tr : List (Step ι σ α)} (h : execute step is s = some (tr, s')) :
    tr.map Step.input = is := by
  induction is generalizing s tr with
  | nil =>
    simp only [execute, Option.some.injEq, Prod.mk.injEq] at h
    rw [← h.1]
    rfl
  | cons i is ih =>
    rw [execute] at h
    split at h
    · simp at h
    · obtain ⟨⟨rest, t'⟩, hrest, heq⟩ := Option.map_eq_some_iff.mp h
      simp only [Prod.mk.injEq] at heq
      obtain ⟨rfl, rfl⟩ := heq
      rw [List.map_cons, ih hrest]

/-- An executed list of inputs that ends as `P` says is a run that does. -/
theorem exists_run_of_execute (step : ι → Prog σ ε α) (s₀ : σ) (is : List ι)
    (P : List (Step ι σ α) → σ → Prop) [∀ tr s, Decidable (P tr s)]
    (h : (execute step is s₀).any (fun r => P r.1 r.2) = true) :
    ∃ tr s, Run step s₀ tr s ∧ tr.map Step.input = is ∧ P tr s := by
  cases hrun : execute step is s₀ with
  | none => simp [hrun] at h
  | some r =>
    obtain ⟨tr, s⟩ := r
    simp only [hrun, Option.any_some, decide_eq_true_eq] at h
    exact ⟨tr, s, run_of_execute hrun, inputs_of_execute hrun, h⟩

end FaultState
