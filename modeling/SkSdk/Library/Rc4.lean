import Mathlib.Algebra.Ring.Nat
import Mathlib.GroupTheory.Perm.Basic

/-!
The RC4 stream cipher over `n` symbols, as the textbook has it. Its state is a
permutation, which no step can make anything else.
-/

namespace Rc4

variable {n : Nat}

/-- The permutation with the entries at `i` and `j` exchanged. -/
def exchange (perm : Equiv.Perm (Fin n)) (i j : Fin n) : Equiv.Perm (Fin n) :=
  perm * Equiv.swap i j

theorem exchange_apply (perm : Equiv.Perm (Fin n)) (i j k : Fin n) :
    exchange perm i j k = if k = i then perm j else if k = j then perm i else perm k := by
  rw [exchange, Equiv.Perm.mul_apply, Equiv.swap_apply_def]
  split
  · rfl
  · split <;> rfl

/-! ## Key schedule -/

variable [NeZero n]

/-- Round `i` of the key schedule. -/
def mix (key : List (Fin n)) (r : Fin n × Equiv.Perm (Fin n)) (i : Fin n) :
    Fin n × Equiv.Perm (Fin n) :=
  let j := r.1 + r.2 i + key.getD (i % key.length) 0
  (j, exchange r.2 i j)

def schedule (key : List (Fin n)) : Equiv.Perm (Fin n) :=
  ((List.finRange n).foldl (mix key) (0, 1)).2

/-! ## Output -/

structure State (n : Nat) where
  i : Fin n
  j : Fin n
  perm : Equiv.Perm (Fin n)

def State.init (key : List (Fin n)) : State n := ⟨0, 0, schedule key⟩

def State.next (st : State n) : State n :=
  let i := st.i + 1
  let j := st.j + st.perm i
  ⟨i, j, exchange st.perm i j⟩

/-- The symbol that goes out in a state. -/
def State.out (st : State n) : Fin n := st.perm (st.perm st.i + st.perm st.j)

/-- The next `k` symbols. -/
def keystream : Nat → State n → List (Fin n)
  | 0, _ => []
  | k + 1, st => st.next.out :: keystream k st.next

@[simp] theorem length_keystream (k : Nat) (st : State n) : (keystream k st).length = k := by
  induction k generalizing st with
  | zero => rfl
  | succ k ih => rw [keystream, List.length_cons, ih]

/-- Output in two pieces is output in one. -/
theorem keystream_add (k m : Nat) (st : State n) :
    keystream (k + m) st = keystream k st ++ keystream m (State.next^[k] st) := by
  induction k generalizing st with
  | zero => simp [keystream]
  | succ k ih =>
    rw [Nat.succ_add, keystream, ih st.next, keystream, List.cons_append,
      Function.iterate_succ_apply]

end Rc4
