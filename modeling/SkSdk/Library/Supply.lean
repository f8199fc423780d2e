import SkSdk.Library.Duplex

/-!
A process run alone on what arrives for it. The supply says of each symbol
whether it is there: where it has `none`, and past its end, a read that is under
way finds nothing more and returns what it has.
-/

namespace Duplex

variable {β ε α γ : Type}

abbrev Supply (β : Type) := List (Option β)

/-- How a process ends, what it has put and what it has left of the supply. -/
structure Outcome (β ε α : Type) where
  result : Except ε α
  sent : List β
  rest : Supply β

/-- The outcome of a process that puts `bs` first. -/
def Outcome.after (bs : List β) (o : Outcome β ε α) : Outcome β ε α :=
  { o with sent := bs ++ o.sent }

/-- What follows a process that has returned. -/
def Outcome.bind (o : Outcome β ε α) (f : α → Supply β → Outcome β ε γ) : Outcome β ε γ :=
  match o.result with
  | .ok a => (f a o.rest).after o.sent
  | .error e => ⟨.error e, o.sent, o.rest⟩

theorem Outcome.bind_after (bs : List β) (o : Outcome β ε α)
    (f : α → Supply β → Outcome β ε γ) : (o.after bs).bind f = (o.bind f).after bs := by
  obtain ⟨result, sent, rest⟩ := o
  cases result with
  | ok a => simp only [Outcome.bind, Outcome.after, List.append_assoc]
  | error e => rfl

/-- What a read of `n` symbols obtains, and what it leaves. -/
def arriving : Nat → Supply β → List β × Supply β
  | 0, supply => ([], supply)
  | _ + 1, [] => ([], [])
  | _ + 1, none :: supply => ([], supply)
  | n + 1, some b :: supply => (b :: (arriving n supply).1, (arriving n supply).2)

theorem length_arriving (n : Nat) (supply : Supply β) : (arriving n supply).1.length ≤ n := by
  induction n generalizing supply with
  | zero => exact Nat.le_refl 0
  | succ n ih =>
    rcases supply with _ | ⟨_ | b, supply⟩
    · exact Nat.zero_le _
    · exact Nat.zero_le _
    · exact Nat.succ_le_succ (ih supply)

/-- A read that obtains all it asks for has taken the beginning of the supply. -/
theorem eq_of_arriving {n : Nat} {supply : Supply β} (h : (arriving n supply).1.length = n) :
    supply = (arriving n supply).1.map some ++ (arriving n supply).2 := by
  induction n generalizing supply with
  | zero => rfl
  | succ n ih =>
    rcases supply with _ | ⟨_ | b, supply⟩
    · cases h
    · cases h
    · exact congrArg (some b :: ·) (ih (Nat.succ_inj.mp h))

namespace Proc

def run : Proc β ε α → Supply β → Outcome β ε α
  | ret a, supply => ⟨.ok a, [], supply⟩
  | fail e, supply => ⟨.error e, [], supply⟩
  | put b k, supply => (k.run supply).after [b]
  | get k, [] => (k none).run []
  | get k, b :: supply => (k b).run supply

/-- One process after another. -/
theorem run_bind (p : Proc β ε α) (f : α → Proc β ε γ) (supply : Supply β) :
    (p >>= f).run supply = (p.run supply).bind fun a rest => (f a).run rest := by
  change (p.bind f).run supply = _
  induction p generalizing supply with
  | ret a => rfl
  | fail e => rfl
  | put b k ih =>
    change ((k.bind f).run supply).after [b] = ((k.run supply).after [b]).bind _
    rw [ih, Outcome.bind_after]
  | get k ih =>
    cases supply with
    | nil => exact ih none []
    | cons b supply => exact ih b supply

theorem run_bind_of_ok {p : Proc β ε α} {supply rest : Supply β} {a : α} {bs : List β}
    (h : p.run supply = ⟨.ok a, bs, rest⟩) (f : α → Proc β ε γ) :
    (p >>= f).run supply = ((f a).run rest).after bs := by
  rw [run_bind, h]
  rfl

theorem run_bind_of_error {p : Proc β ε α} {supply rest : Supply β} {e : ε} {bs : List β}
    (h : p.run supply = ⟨.error e, bs, rest⟩) (f : α → Proc β ε γ) :
    (p >>= f).run supply = ⟨.error e, bs, rest⟩ := by
  rw [run_bind, h]
  rfl

theorem run_recv (n : Nat) (supply : Supply β) :
    (recv n : Proc β ε (List β)).run supply =
      ⟨.ok (arriving n supply).1, [], (arriving n supply).2⟩ := by
  induction n generalizing supply with
  | zero => cases supply <;> rfl
  | succ n ih =>
    rcases supply with _ | ⟨_ | b, supply⟩
    · rfl
    · rfl
    · exact run_bind_of_ok (ih supply) _

theorem run_recv_bind (n : Nat) (f : List β → Proc β ε γ) (supply : Supply β) :
    (recv n >>= f).run supply = (f (arriving n supply).1).run (arriving n supply).2 :=
  run_bind_of_ok (run_recv n supply) f

/-- A process that puts nothing. -/
def Silent : Proc β ε α → Prop
  | ret _ => True
  | fail _ => True
  | put _ _ => False
  | get k => ∀ b, (k b).Silent

theorem Silent.bind {p : Proc β ε α} (h : p.Silent) {f : α → Proc β ε γ}
    (hf : ∀ a, (f a).Silent) : (p >>= f).Silent := by
  change (p.bind f).Silent
  induction p with
  | ret a => exact hf a
  | fail e => trivial
  | put b k => exact h.elim
  | get k ih => exact fun b => ih b (h b)

theorem silent_recv (n : Nat) : (recv n : Proc β ε (List β)).Silent := by
  induction n with
  | zero => trivial
  | succ n ih =>
    intro b
    cases b with
    | none => trivial
    | some b => exact ih.bind fun bs => trivial

theorem Silent.sent {p : Proc β ε α} (h : p.Silent) (supply : Supply β) :
    (p.run supply).sent = [] := by
  induction p generalizing supply with
  | ret a => rfl
  | fail e => rfl
  | put b k => exact h.elim
  | get k ih =>
    cases supply with
    | nil => exact ih none (h none) []
    | cons b supply => exact ih b (h b) supply

/-- A process run on what it reads. -/
theorem Reads.run {p q : Proc β ε α} {bs : List β} (h : p.Reads bs q) (supply : Supply β) :
    p.run (bs.map some ++ supply) = q.run supply := by
  induction h with
  | done => rfl
  | get _ ih => exact ih

theorem Writes.run {p q : Proc β ε α} {bs : List β} (h : p.Writes bs q) (supply : Supply β) :
    p.run supply = (q.run supply).after bs := by
  induction h with
  | done => rfl
  | put _ ih => exact congrArg (Outcome.after [_]) ih

end Proc

end Duplex
