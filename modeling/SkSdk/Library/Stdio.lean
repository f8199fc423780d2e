import Mathlib.Data.List.Basic

/-!
Reading a file through the C library: the bytes behind the position, nearest
first, those before it, and the end-of-file mark. The mark is set by a read that
wants more than there is, never by one that takes the last byte.
-/

namespace Stdio

structure File where
  past : List UInt8
  rest : List UInt8
  eof : Bool

namespace File

def ofBytes (bytes : List UInt8) : File := ⟨[], bytes, false⟩

/-- The position moved over the next `n` bytes, or to the end. -/
def advance (f : File) (n : Nat) : File :=
  { f with past := (f.rest.take n).reverse ++ f.past, rest := f.rest.drop n }

/-- `fread` of `n` bytes: those that are there. -/
def fread (f : File) (n : Nat) : List UInt8 × File :=
  (f.rest.take n, { f.advance n with eof := f.eof || f.rest.length < n })

/-- `fscanf` of `%c`; nothing is assigned at the end. -/
def fscanfChar (f : File) : Option UInt8 × File :=
  match f.rest with
  | [] => (none, { f with eof := true })
  | c :: _ => (some c, f.advance 1)

/-- `fseek` by minus one from the position, which fails at the start. -/
def fseekBack (f : File) : File :=
  match f.past with
  | [] => f
  | c :: past => ⟨past, c :: f.rest, false⟩

def newline : UInt8 := 10

/-- The next `n` bytes at most, up to and with the first newline. -/
def line : Nat → List UInt8 → List UInt8
  | 0, _ => []
  | _, [] => []
  | n + 1, c :: cs => if c = newline then [c] else c :: line n cs

/-- `fgets` into a buffer of `size` bytes; `none` is the null pointer. -/
def fgets (f : File) (size : Nat) : Option (List UInt8) × File :=
  let l := line (size - 1) f.rest
  let f := { f.advance l.length with
    eof := f.eof || (l.length < size - 1 && l.getLast? ≠ some newline) }
  if l = [] then (none, f) else (some l, f)

/-! ## Lines -/

theorem line_of_newline {n : Nat} {l : List UInt8} (rest : List UInt8) (hline : newline ∉ l)
    (hlen : l.length < n) : line n (l ++ newline :: rest) = l ++ [newline] := by
  induction l generalizing n with
  | nil =>
    obtain ⟨k, rfl⟩ := Nat.exists_eq_succ_of_ne_zero (Nat.ne_of_gt hlen)
    rw [List.nil_append, line, if_pos rfl, List.nil_append]
  | cons c l ih =>
    obtain ⟨k, rfl⟩ := Nat.exists_eq_succ_of_ne_zero (Nat.ne_of_gt (Nat.zero_lt_of_lt hlen))
    obtain ⟨hc, hline⟩ := not_or.mp (fun h => hline (List.mem_cons.mpr h))
    rw [List.length_cons] at hlen
    rw [List.cons_append, line, if_neg (Ne.symm hc), ih hline (by omega), List.cons_append]

theorem line_of_end {n : Nat} {l : List UInt8} (hline : newline ∉ l) (hlen : l.length ≤ n) :
    line n l = l := by
  induction l generalizing n with
  | nil => cases n <;> rfl
  | cons c l ih =>
    rw [List.length_cons] at hlen
    obtain ⟨k, rfl⟩ := Nat.exists_eq_succ_of_ne_zero (by omega : n ≠ 0)
    obtain ⟨hc, hline⟩ := not_or.mp (fun h => hline (List.mem_cons.mpr h))
    rw [line, if_neg (Ne.symm hc), ih hline (by omega)]

/-- A line that a newline ends is read whole and nothing past it. -/
theorem fgets_of_newline {l : List UInt8} (past rest : List UInt8) {size : Nat}
    (hline : newline ∉ l) (hlen : l.length + 1 < size) :
    fgets ⟨past, l ++ newline :: rest, false⟩ size =
      (some (l ++ [newline]), ⟨(l ++ [newline]).reverse ++ past, rest, false⟩) := by
  have hne : l ++ [newline] ≠ [] := by simp
  have hsplit : l ++ newline :: rest = (l ++ [newline]) ++ rest := by simp
  simp only [fgets, line_of_newline rest hline (by omega : l.length < size - 1), if_neg hne]
  simp only [advance, hsplit, List.take_left, List.drop_left, Bool.false_or]
  simp

/-- The last line, when no newline ends it. -/
theorem fgets_of_end {l : List UInt8} (past : List UInt8) {size : Nat} (hline : newline ∉ l)
    (hne : l ≠ []) (hlen : l.length + 1 < size) :
    fgets ⟨past, l, false⟩ size = (some l, ⟨l.reverse ++ past, [], true⟩) := by
  have hlast : l.getLast? ≠ some newline := fun h => hline (List.mem_of_getLast? h)
  simp only [fgets, line_of_end hline (by omega : l.length ≤ size - 1), if_neg hne]
  simp only [advance, List.take_length, List.drop_length, Bool.false_or]
  simp [hlast]
  omega

theorem fgets_nil (past : List UInt8) {size : Nat} (hsize : 1 < size) :
    fgets ⟨past, [], false⟩ size = (none, ⟨past, [], true⟩) := by
  have hroom : 0 < size - 1 := by omega
  have hline : line (size - 1) [] = [] := by cases size - 1 <;> rfl
  simp [fgets, hline, advance, hroom]

theorem fread_of_le {f : File} {n : Nat} (h : n ≤ f.rest.length) :
    f.fread n = (f.rest.take n, f.advance n) := by
  have hnot : ¬ f.rest.length < n := Nat.not_lt.mpr h
  simp [fread, hnot, advance]

theorem fread_of_lt {f : File} {n : Nat} (h : f.rest.length < n) :
    f.fread n = (f.rest, ⟨f.rest.reverse ++ f.past, [], true⟩) := by
  simp [fread, advance, h, List.take_of_length_le (Nat.le_of_lt h),
    List.drop_of_length_le (Nat.le_of_lt h)]

theorem fscanfChar_cons (past : List UInt8) (c : UInt8) (rest : List UInt8) (eof : Bool) :
    fscanfChar ⟨past, c :: rest, eof⟩ = (some c, ⟨c :: past, rest, eof⟩) := rfl

end File

end Stdio
