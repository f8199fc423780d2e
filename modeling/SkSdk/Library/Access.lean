/-!
The accesses of a computation to one object, kept beside its value in the order
in which they are made, each as the offset and the number of bytes touched.
-/

namespace Access

variable {α β : Type}

inductive Kind
  | read
  | write
  deriving DecidableEq

structure Span where
  kind : Kind
  off : Nat
  len : Nat
  deriving DecidableEq

/-- The access ends at `n` or before. -/
def Span.Below (n : Nat) (s : Span) : Prop := s.off + s.len ≤ n

instance (n : Nat) (s : Span) : Decidable (s.Below n) := Nat.decLe _ _

/-- What is written stays below `n`, wherever is read. -/
def Span.WritesBelow (n : Nat) (s : Span) : Prop := s.kind = .write → s.Below n

structure Traced (α : Type) where
  value : α
  spans : List Span

namespace Traced

instance : Monad Traced where
  pure a := ⟨a, []⟩
  bind x f := ⟨(f x.value).value, x.spans ++ (f x.value).spans⟩

/-- A value read from `len` bytes at `off`. -/
def read (off len : Nat) (a : α) : Traced α := ⟨a, [⟨.read, off, len⟩]⟩

/-- The object once `len` bytes at `off` are written. -/
def write (off len : Nat) (a : α) : Traced α := ⟨a, [⟨.write, off, len⟩]⟩

/-- Every access is as `P` says. -/
def All (P : Span → Prop) (x : Traced α) : Prop := ∀ s ∈ x.spans, P s

@[simp] theorem value_pure (a : α) : (pure a : Traced α).value = a := rfl

@[simp] theorem value_bind (x : Traced α) (f : α → Traced β) :
    (x >>= f).value = (f x.value).value := rfl

@[simp] theorem value_read (off len : Nat) (a : α) : (read off len a).value = a := rfl

@[simp] theorem value_write (off len : Nat) (a : α) : (write off len a).value = a := rfl

@[simp] theorem value_ite (c : Prop) [Decidable c] (x y : Traced α) :
    (if c then x else y).value = if c then x.value else y.value := by
  split <;> rfl

variable (P : Span → Prop)

@[simp] theorem all_pure (a : α) : (pure a : Traced α).All P ↔ True :=
  ⟨fun _ => trivial, fun _ _ hs => by cases hs⟩

@[simp] theorem all_bind (x : Traced α) (f : α → Traced β) :
    (x >>= f).All P ↔ x.All P ∧ (f x.value).All P := by
  constructor
  · intro h
    exact ⟨fun s hs => h s (List.mem_append_left _ hs),
      fun s hs => h s (List.mem_append_right _ hs)⟩
  · rintro ⟨hx, hf⟩ s hs
    rcases List.mem_append.mp hs with hs | hs
    · exact hx s hs
    · exact hf s hs

@[simp] theorem all_read (off len : Nat) (a : α) :
    (read off len a).All P ↔ P ⟨.read, off, len⟩ := by
  simp [All, read]

@[simp] theorem all_write (off len : Nat) (a : α) :
    (write off len a).All P ↔ P ⟨.write, off, len⟩ := by
  simp [All, write]

theorem all_ite (c : Prop) [Decidable c] (x y : Traced α) :
    (if c then x else y).All P ↔ if c then x.All P else y.All P := by
  split <;> rfl

end Traced

@[simp] theorem below_iff (n : Nat) (k : Kind) (off len : Nat) :
    (Span.mk k off len).Below n ↔ off + len ≤ n := Iff.rfl

@[simp] theorem writesBelow_read (n off len : Nat) :
    (Span.mk .read off len).WritesBelow n ↔ True :=
  ⟨fun _ => trivial, fun _ h => by cases h⟩

@[simp] theorem writesBelow_write (n off len : Nat) :
    (Span.mk .write off len).WritesBelow n ↔ off + len ≤ n :=
  ⟨fun h => h rfl, fun h _ => h⟩

end Access
