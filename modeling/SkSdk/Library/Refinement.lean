import Mathlib.Data.List.Forall2
import SkSdk.Library.FaultState

/-!
Refinement of a step program by a labelled transition relation. Every completed
step is one transition between the abstractions of its two states, under a label
that the step shows; a run is then a path over what its steps show.
-/

namespace FaultState

variable {ι σ α ε τ lab : Type}

/-- The paths of `next` from `t₀`, by the labels they carry. -/
inductive Path (next : τ → lab → τ → Prop) (t₀ : τ) : List lab → τ → Prop
  | start : Path next t₀ [] t₀
  | snoc {ls : List lab} {t t' : τ} {l : lab} :
      Path next t₀ ls t → next t l t' → Path next t₀ (ls ++ [l]) t'

/-- What holds at the start and is kept by every transition holds at the end. -/
theorem Path.invariant {next : τ → lab → τ → Prop} {t₀ t : τ} {ls : List lab}
    (h : Path next t₀ ls t) (I : List lab → τ → Prop) (h₀ : I [] t₀)
    (hstep : ∀ ls t l t', I ls t → next t l t' → I (ls ++ [l]) t') : I ls t := by
  induction h with
  | start => exact h₀
  | snoc _ hnext ih => exact hstep _ _ _ _ ih hnext

/-- The same of the states alone, by transitions under labels that `C` allows. -/
theorem Path.preserves {next : τ → lab → τ → Prop} {t₀ t : τ} {ls : List lab}
    (h : Path next t₀ ls t) {C : lab → Prop} (hC : ∀ l ∈ ls, C l) (I : τ → Prop) (h₀ : I t₀)
    (hstep : ∀ t l t', C l → I t → next t l t' → I t') : I t := by
  refine h.invariant (fun ls t => (∀ l ∈ ls, C l) → I t) (fun _ => h₀) ?_ hC
  intro ls t l t' hI hnext hC
  exact hstep t l t' (hC l (by simp)) (hI fun l hl => hC l (List.mem_append_left _ hl)) hnext

/-- A path up to one of its labels, that transition, and the rest. -/
theorem Path.split {next : τ → lab → τ → Prop} {t₀ t : τ} {ls before after : List lab} {l : lab}
    (h : Path next t₀ ls t) (hls : ls = before ++ l :: after) :
    ∃ t₁ t₂, Path next t₀ before t₁ ∧ next t₁ l t₂ ∧ Path next t₂ after t := by
  induction h generalizing after with
  | start => simp at hls
  | @snoc ls t t' l' hpath hnext ih =>
    rcases List.eq_nil_or_concat after with rfl | ⟨after', x, rfl⟩
    · obtain ⟨rfl, hl⟩ := List.append_inj' hls rfl
      cases hl
      exact ⟨t, t', hpath, hnext, .start⟩
    · rw [List.concat_eq_append, ← List.cons_append, ← List.append_assoc] at hls
      obtain ⟨hinit, hlast⟩ := List.append_inj' hls rfl
      cases hlast
      obtain ⟨t₁, t₂, hbefore, hfirst, hafter⟩ := ih hinit
      rw [List.concat_eq_append]
      exact ⟨t₁, t₂, hbefore, hfirst, hafter.snoc hnext⟩

/-- Forward simulation: `abs` abstracts the states and `label` what the steps show.
`I` may be assumed of every state, `C` of every step. -/
theorem Run.refines {step : ι → Prog σ ε α} {s₀ s : σ} {tr : List (Step ι σ α)}
    (h : Run step s₀ tr s) (C : Step ι σ α → Prop) (hC : ∀ y ∈ tr, C y) (I : σ → Prop)
    (h₀ : I s₀) (abs : σ → τ) (label : Step ι σ α → lab) (next : τ → lab → τ → Prop)
    (hsim : ∀ y : Step ι σ α, I y.pre → step y.input y.pre = .ok (y.result, y.post) → C y →
      I y.post ∧ next (abs y.pre) (label y) (abs y.post)) :
    I s ∧ Path next (abs s₀) (tr.map label) (abs s) := by
  induction h with
  | start => exact ⟨h₀, .start⟩
  | @next tr s s' i a _ hstep ih =>
    obtain ⟨hI, hpath⟩ := ih fun y hy => hC y (List.mem_append_left _ hy)
    obtain ⟨hI', hnext⟩ := hsim ⟨i, s, a, s'⟩ hI hstep (hC _ (by simp))
    rw [List.map_append]
    exact ⟨hI', hpath.snoc hnext⟩

/-- A part of a program with steps of its own: every completed step of the whole is,
in the part's own terms, a completed step of the part. -/
theorem Run.project {κ ρ δ β : Type} {step : ι → Prog σ ε α} {step' : κ → Prog ρ δ β} {s₀ s : σ}
    {tr : List (Step ι σ α)} (h : Run step s₀ tr s) (abs : σ → ρ) (part : Step ι σ α → Step κ ρ β)
    (hpre : ∀ y, (part y).pre = abs y.pre) (hpost : ∀ y, (part y).post = abs y.post)
    (hstep : ∀ y : Step ι σ α, step y.input y.pre = .ok (y.result, y.post) →
      step' (part y).input (part y).pre = .ok ((part y).result, (part y).post)) :
    Run step' (abs s₀) (tr.map part) (abs s) := by
  induction h with
  | start => exact .start
  | @next tr s s' i a _ hnext ih =>
    have hpart := hstep ⟨i, s, a, s'⟩ hnext
    rw [hpre, hpost] at hpart
    have hrun := ih.next hpart
    have heq : part ⟨i, s, a, s'⟩ =
        ⟨(part ⟨i, s, a, s'⟩).input, abs s, (part ⟨i, s, a, s'⟩).result, abs s'⟩ := by
      rw [← hpre ⟨i, s, a, s'⟩, ← hpost ⟨i, s, a, s'⟩]
    rw [List.map_append, List.map_singleton, heq]
    exact hrun

/-- A part that only some steps of the whole concern: those are, in order, the steps of
a run of the part, each standing in `rel` to its own, and the others leave the part as
it was. `C` may be assumed of every step. -/
theorem Run.restrict {κ ρ δ β : Type} {step : ι → Prog σ ε α} {step' : κ → Prog ρ δ β} {s₀ s : σ}
    {tr : List (Step ι σ α)} (h : Run step s₀ tr s) (C : Step ι σ α → Prop) (hC : ∀ y ∈ tr, C y)
    (abs : σ → ρ) (concerns : Step ι σ α → Bool) (rel : Step ι σ α → Step κ ρ β → Prop)
    (hturn : ∀ y : Step ι σ α, step y.input y.pre = .ok (y.result, y.post) → C y →
      concerns y → ∃ i b, step' i (abs y.pre) = .ok (b, abs y.post) ∧
        rel y ⟨i, abs y.pre, b, abs y.post⟩)
    (hother : ∀ y : Step ι σ α, step y.input y.pre = .ok (y.result, y.post) → C y →
      ¬ concerns y → abs y.post = abs y.pre) :
    ∃ turns, Run step' (abs s₀) turns (abs s) ∧
      List.Forall₂ rel (tr.filter concerns) turns := by
  induction h with
  | start => exact ⟨[], .start, .nil⟩
  | @next tr s s' i a _ hnext ih =>
    obtain ⟨turns, hrun, hrel⟩ := ih fun y hy => hC y (List.mem_append_left _ hy)
    have hlast : C ⟨i, s, a, s'⟩ := hC _ (by simp)
    rw [List.filter_append]
    cases hy : concerns ⟨i, s, a, s'⟩ with
    | true =>
      obtain ⟨j, b, hstep', hb⟩ := hturn _ hnext hlast hy
      refine ⟨_, hrun.next hstep', ?_⟩
      rw [List.filter_cons_of_pos hy, List.filter_nil]
      exact List.rel_append hrel (.cons hb .nil)
    | false =>
      have hsame : abs s' = abs s := hother ⟨i, s, a, s'⟩ hnext hlast (by simp [hy])
      rw [List.filter_cons_of_neg (by simp [hy]), List.filter_nil, List.append_nil, hsame]
      exact ⟨turns, hrun, hrel⟩

/-- The inputs determine a run. -/
theorem Run.unique {step : ι → Prog σ ε α} {s₀ s s' : σ} {tr tr' : List (Step ι σ α)}
    (h : Run step s₀ tr s) (h' : Run step s₀ tr' s')
    (hinputs : tr.map Step.input = tr'.map Step.input) : tr = tr' ∧ s = s' := by
  induction h generalizing tr' s' with
  | start =>
    obtain rfl := List.map_eq_nil_iff.mp hinputs.symm
    exact ⟨rfl, h'.eq_of_nil.symm⟩
  | @next tr s t i a _ hstep ih =>
    cases h' with
    | start => simp at hinputs
    | @next tr₂ s₂ _ i₂ a₂ h₂ hstep₂ =>
      rw [List.map_append, List.map_append] at hinputs
      obtain ⟨hbefore, hlast⟩ := List.append_inj' hinputs rfl
      obtain ⟨rfl, rfl⟩ := ih h₂ hbefore
      obtain rfl : i = i₂ := (List.cons.inj hlast).1
      obtain ⟨rfl, rfl⟩ := Prod.mk.inj (Except.ok.inj (hstep.symm.trans hstep₂))
      exact ⟨rfl, rfl⟩

end FaultState
