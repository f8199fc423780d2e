import Mathlib.Data.List.GetD
import Mathlib.Data.List.Range
import Mathlib.Data.Fintype.Pi
import Mathlib.Tactic.Ring

/-!
Byte memory seen from one pointer, fixed-size blocks, and the big-endian
digits of a natural number. An address is the offset from the pointer, so
reading or writing past the end of an object is an ordinary offset here and
"nothing past `n` is touched" is a statement about the memory function.
-/

namespace ByteMemory

abbrev Mem := Nat → UInt8

/-- `n` bytes held by value, such as a C array member of a structure. -/
abbrev Blk (n : Nat) := Fin n → UInt8

def Blk.zero (n : Nat) : Blk n := fun _ => 0

/-- Byte-wise exclusive or. -/
def Blk.xor {n : Nat} (a b : Blk n) : Blk n := fun i => a i ^^^ b i

/-- The first `n` bytes of a list, zero where the list is shorter. -/
def Blk.ofList (n : Nat) (bs : List UInt8) : Blk n := fun i => bs.getD i 0

namespace Mem

def read (m : Mem) (off n : Nat) : List UInt8 := (List.range n).map fun i => m (off + i)

def write (m : Mem) (off : Nat) (bs : List UInt8) : Mem := fun a =>
  if off ≤ a ∧ a < off + bs.length then bs.getD (a - off) 0 else m a

def blk (m : Mem) (off n : Nat) : Blk n := fun i => m (off + i)

def ofList (bs : List UInt8) : Mem := fun a => bs.getD a 0

/-- The same memory seen from `off` bytes further on. -/
def ptr (m : Mem) (off : Nat) : Mem := fun a => m (off + a)

/-- The memory once what is seen from `off` on has become `m'`. -/
def setPtr (m : Mem) (off : Nat) (m' : Mem) : Mem := fun a => if off ≤ a then m' (a - off) else m a

@[simp] theorem length_read (m : Mem) (off n : Nat) : (m.read off n).length = n := by
  simp [read]

@[simp] theorem read_zero (m : Mem) (off : Nat) : m.read off 0 = [] := rfl

theorem getElem_read (m : Mem) (off n i : Nat) (h : i < (m.read off n).length) :
    (m.read off n)[i] = m (off + i) := by
  simp [read]

theorem read_add (m : Mem) (off a b : Nat) :
    m.read off (a + b) = m.read off a ++ m.read (off + a) b := by
  simp [read, List.range_add, Nat.add_assoc]

theorem take_read (m : Mem) (off k n : Nat) (h : k ≤ n) :
    (m.read off n).take k = m.read off k := by
  obtain ⟨r, rfl⟩ := Nat.exists_eq_add_of_le h
  rw [read_add, List.take_left' (length_read m off k)]

theorem drop_take_read (m : Mem) (base : Nat) {off n len : Nat} (h : off + n ≤ len) :
    ((m.read base len).drop off).take n = m.read (base + off) n := by
  obtain ⟨r, rfl⟩ := Nat.exists_eq_add_of_le h
  rw [Nat.add_assoc, read_add, List.drop_left' (length_read m base off),
    take_read _ _ _ _ (Nat.le_add_right n r)]

@[simp] theorem read_ptr (m : Mem) (off n : Nat) : (m.ptr off).read 0 n = m.read off n := by
  simp [read, ptr]

theorem read_ptr_add (m : Mem) (base off n : Nat) :
    (m.ptr base).read off n = m.read (base + off) n := by
  simp [read, ptr, Nat.add_assoc]

theorem blk_ptr_add (m : Mem) (base off n : Nat) :
    (m.ptr base).blk off n = m.blk (base + off) n := by
  funext i
  simp only [blk, ptr, Nat.add_assoc]

theorem ptr_ptr (m : Mem) (base off : Nat) : (m.ptr base).ptr off = m.ptr (base + off) := by
  funext a
  simp only [ptr, Nat.add_assoc]

theorem setPtr_write (m : Mem) (off : Nat) (bs : List UInt8) :
    m.setPtr off ((m.ptr off).write 0 bs) = m.write off bs := by
  funext a
  simp only [setPtr, write, ptr]
  by_cases ha : off ≤ a
  · rw [if_pos ha, Nat.add_sub_cancel' ha, Nat.sub_zero]
    congr 1
    simp only [Nat.zero_le, Nat.zero_add, true_and, ha, eq_iff_iff]
    omega
  · rw [if_neg ha, if_neg fun h => ha h.1]

theorem read_congr {m m' : Mem} {off n : Nat} (h : ∀ a, off ≤ a → a < off + n → m a = m' a) :
    m.read off n = m'.read off n := by
  unfold read
  apply List.map_congr_left
  intro i hi
  exact h (off + i) (by omega) (by have := List.mem_range.mp hi; omega)

theorem blk_congr {m m' : Mem} {off n : Nat} (h : ∀ a, off ≤ a → a < off + n → m a = m' a) :
    m.blk off n = m'.blk off n := by
  funext i
  exact h (off + i) (by omega) (by omega)

theorem write_nil (m : Mem) (off : Nat) : m.write off [] = m := by
  funext a
  have : ¬(off ≤ a ∧ a < off + ([] : List UInt8).length) := by simp
  simp only [write, if_neg this]

theorem write_outside (m : Mem) (off : Nat) (bs : List UInt8) (a : Nat)
    (h : a < off ∨ off + bs.length ≤ a) : m.write off bs a = m a := by
  have : ¬(off ≤ a ∧ a < off + bs.length) := by omega
  simp only [write, if_neg this]

theorem write_append (m : Mem) (off : Nat) (bs cs : List UInt8) :
    m.write off (bs ++ cs) = (m.write off bs).write (off + bs.length) cs := by
  funext a
  simp only [write, List.length_append]
  by_cases h₁ : off + bs.length ≤ a ∧ a < off + bs.length + cs.length
  · rw [if_pos (by omega), if_pos h₁, List.getD_append_right _ _ _ _ (by omega), Nat.sub_sub]
  · rw [if_neg h₁]
    by_cases h₂ : off ≤ a ∧ a < off + bs.length
    · rw [if_pos (by omega), if_pos h₂, List.getD_append _ _ _ _ (by omega)]
    · rw [if_neg (by omega), if_neg h₂]

/-- A second write in the same place, no longer than the first. -/
theorem write_over (m : Mem) (off : Nat) (bs cs : List UInt8) (h : cs.length ≤ bs.length) :
    (m.write off bs).write off cs = m.write off (cs ++ bs.drop cs.length) := by
  funext a
  simp only [write, List.length_append, List.length_drop]
  by_cases hnew : off ≤ a ∧ a < off + cs.length
  · rw [if_pos hnew, if_pos (by omega), List.getD_append _ _ _ _ (by omega)]
  · rw [if_neg hnew]
    by_cases hold : off ≤ a ∧ a < off + bs.length
    · rw [if_pos hold, if_pos (by omega), List.getD_append_right _ _ _ _ (by omega),
        List.getD_eq_getElem?_getD, List.getD_eq_getElem?_getD, List.getElem?_drop]
      congr 2
      omega
    · rw [if_neg hold, if_neg (by omega)]

/-- Reading back exactly what was written. -/
@[simp] theorem read_write_same (m : Mem) (off : Nat) (bs : List UInt8) :
    (m.write off bs).read off bs.length = bs := by
  apply List.ext_getElem (by simp)
  intro i h₁ h₂
  rw [getElem_read]
  simp only [write]
  rw [if_pos (by omega), Nat.add_sub_cancel_left]
  exact List.getD_eq_getElem _ _ h₂

/-- Writing what is there already. -/
theorem write_read_same (m : Mem) (off n : Nat) : m.write off (m.read off n) = m := by
  funext a
  simp only [write, length_read]
  split
  · next h =>
    rw [List.getD_eq_getElem _ _ (by rw [length_read]; omega), getElem_read]
    congr 1
    omega
  · rfl

theorem read_write_eq (m : Mem) (off n : Nat) (bs : List UInt8) (h : bs.length = n) :
    (m.write off bs).read off n = bs := by
  subst h
  exact read_write_same m off bs

/-- A write leaves every read outside its range alone. -/
theorem read_write_disjoint (m : Mem) (off off' n : Nat) (bs : List UInt8)
    (h : off' + n ≤ off ∨ off + bs.length ≤ off') :
    (m.write off bs).read off' n = m.read off' n := by
  apply read_congr
  intro a h₁ h₂
  exact write_outside m off bs a (by omega)

theorem blk_write_disjoint (m : Mem) (off off' n : Nat) (bs : List UInt8)
    (h : off' + n ≤ off ∨ off + bs.length ≤ off') :
    (m.write off bs).blk off' n = m.blk off' n := by
  apply blk_congr
  intro a h₁ h₂
  exact write_outside m off bs a (by omega)

theorem blk_write_same (m : Mem) (off n : Nat) (b : Blk n) :
    (m.write off (List.ofFn b)).blk off n = b := by
  funext i
  simp only [blk, write, List.length_ofFn]
  rw [if_pos (by omega), Nat.add_sub_cancel_left, List.getD_eq_getElem _ _ (by simp)]
  simp

@[simp] theorem read_ofList (bs : List UInt8) (n : Nat) (h : n ≤ bs.length) :
    (ofList bs).read 0 n = bs.take n := by
  apply List.ext_getElem
  · simp [h]
  · intro i h₁ h₂
    have hi : i < bs.length := by simp at h₁; omega
    simp [read, ofList, hi]

end Mem

/-! Big-endian digits, most significant byte first. -/

def beBytes : Nat → Nat → List UInt8
  | 0, _ => []
  | k + 1, v => UInt8.ofNat (v / 256 ^ k) :: beBytes k v

def beNat : List UInt8 → Nat
  | [] => 0
  | b :: bs => b.toNat * 256 ^ bs.length + beNat bs

@[simp] theorem length_beBytes (k v : Nat) : (beBytes k v).length = k := by
  induction k with
  | zero => rfl
  | succ k ih => simp [beBytes, ih]

theorem beNat_lt (bs : List UInt8) : beNat bs < 256 ^ bs.length := by
  induction bs with
  | nil => simp [beNat]
  | cons b bs ih =>
    have hb : b.toNat + 1 ≤ 256 := b.toNat_lt
    have hm := Nat.mul_le_mul_right (256 ^ bs.length) hb
    rw [Nat.add_mul] at hm
    simp only [beNat, List.length_cons, Nat.pow_succ']
    omega

theorem beNat_beBytes (k v : Nat) : beNat (beBytes k v) = v % 256 ^ k := by
  induction k with
  | zero => simp [beBytes, beNat, Nat.mod_one]
  | succ k ih =>
    have hb : (UInt8.ofNat (v / 256 ^ k)).toNat = v / 256 ^ k % 256 := UInt8.toNat_ofNat'
    rw [beBytes, beNat, hb, ih, length_beBytes, Nat.mod_pow_succ, Nat.mul_comm, Nat.add_comm]

theorem beNat_inj {bs cs : List UInt8} (hl : bs.length = cs.length) (h : beNat bs = beNat cs) :
    bs = cs := by
  induction bs generalizing cs with
  | nil => exact (List.length_eq_zero_iff.mp hl.symm).symm
  | cons b bs ih =>
    cases cs with
    | nil => simp at hl
    | cons c cs =>
      have hlen : bs.length = cs.length := by simpa using hl
      have hB := beNat_lt bs
      have hC := beNat_lt cs
      simp only [beNat, hlen] at h hB
      have hpos : 0 < 256 ^ cs.length := Nat.pow_pos (by decide)
      have hdiv : ∀ (x y : Nat), y < 256 ^ cs.length →
          (x * 256 ^ cs.length + y) / 256 ^ cs.length = x := by
        intro x y hy
        rw [Nat.mul_comm, Nat.mul_add_div hpos, Nat.div_eq_of_lt hy, Nat.add_zero]
      have hbc : b.toNat = c.toNat := by
        rw [← hdiv b.toNat _ hB, h, hdiv _ _ hC]
      have hrest : beNat bs = beNat cs := by
        rw [hbc] at h
        exact Nat.add_left_cancel h
      rw [UInt8.toNat_inj.mp hbc, ih hlen hrest]

theorem beBytes_beNat (bs : List UInt8) : beBytes bs.length (beNat bs) = bs := by
  apply beNat_inj (length_beBytes _ _)
  rw [beNat_beBytes, Nat.mod_eq_of_lt (beNat_lt bs)]

/-- Digit `i` counted from the most significant one. -/
theorem beBytes_eq_map (k v : Nat) :
    beBytes k v = (List.range k).map fun i => UInt8.ofNat (v / 256 ^ (k - i - 1)) := by
  induction k with
  | zero => rfl
  | succ k ih =>
    rw [beBytes, ih, List.range_succ_eq_map, List.map_cons, List.map_map]
    congr 1
    apply List.map_congr_left
    intro i hi
    simp only [Function.comp_apply]
    congr 3
    omega

/-- One more byte at the end, as a left to right accumulation sees it. -/
theorem beNat_concat (bs : List UInt8) (b : UInt8) :
    beNat (bs ++ [b]) = beNat bs * 256 + b.toNat := by
  induction bs with
  | nil => simp [beNat]
  | cons c bs ih =>
    rw [List.cons_append, beNat, beNat, ih, List.length_append, List.length_singleton]
    ring

end ByteMemory
