import Mathlib.Logic.Equiv.Defs
import SkSdk.Library.ByteMemory

/-!
Fixed-width wire formats. A `Format α n` is a bijection between the values of
`α` and the byte strings of length `n`; both laws are fields, so a layout put
together from `blk`, `be32` and `seq` is a bijection by construction.
-/

open ByteMemory

structure Format (α : Type) (n : Nat) where
  enc : α → List UInt8
  dec : List UInt8 → α
  length_enc : ∀ a, (enc a).length = n
  dec_enc : ∀ a, dec (enc a) = a
  enc_dec : ∀ bs, bs.length = n → enc (dec bs) = bs

namespace Format

variable {α β : Type} {m n : Nat}

/-- Two values side by side. -/
def seq (f : Format α m) (g : Format β n) : Format (α × β) (m + n) where
  enc p := f.enc p.1 ++ g.enc p.2
  dec bs := (f.dec (bs.take m), g.dec (bs.drop m))
  length_enc p := by rw [List.length_append, f.length_enc, g.length_enc]
  dec_enc p := by
    rw [List.take_left' (f.length_enc _), List.drop_left' (f.length_enc _), f.dec_enc, g.dec_enc]
  enc_dec bs h := by
    rw [f.enc_dec _ (by simp [h]), g.enc_dec _ (by simp [h]), List.take_append_drop]

/-- No bytes. -/
def unit : Format Unit 0 where
  enc _ := []
  dec _ := ()
  length_enc _ := rfl
  dec_enc _ := rfl
  enc_dec _ h := (List.length_eq_zero_iff.mp h).symm

/-- The same bytes read as a value of an equivalent type. -/
def iso (f : Format α n) (e : α ≃ β) : Format β n where
  enc b := f.enc (e.symm b)
  dec bs := e (f.dec bs)
  length_enc b := f.length_enc _
  dec_enc b := by rw [f.dec_enc, e.apply_symm_apply]
  enc_dec bs h := by rw [e.symm_apply_apply, f.enc_dec bs h]

def blk (n : Nat) : Format (Blk n) n where
  enc := List.ofFn
  dec := Blk.ofList n
  length_enc b := List.length_ofFn
  dec_enc b := by
    funext i
    rw [Blk.ofList, List.getD_eq_getElem _ _ (by simp)]
    simp
  enc_dec bs h := by
    apply List.ext_getElem (by simp [h])
    intro i h₁ h₂
    simp [Blk.ofList, h₂]

/-- A 32-bit word, most significant byte first. -/
def be32 : Format UInt32 4 where
  enc v := beBytes 4 v.toNat
  dec bs := UInt32.ofNat (beNat bs)
  length_enc v := length_beBytes _ _
  dec_enc v := by
    have hv : v.toNat % 256 ^ 4 = v.toNat := Nat.mod_eq_of_lt v.toNat_lt
    rw [beNat_beBytes, hv, UInt32.ofNat_toNat]
  enc_dec bs h := by
    have hlt := beNat_lt bs
    rw [h] at hlt
    rw [UInt32.toNat_ofNat_of_lt' hlt, ← h, beBytes_beNat]

def int32Equiv : UInt32 ≃ Int32 where
  toFun := UInt32.toInt32
  invFun := Int32.toUInt32
  left_inv v := by simp
  right_inv v := by simp

def beInt32 : Format Int32 4 := be32.iso int32Equiv

/-- A 32-bit word, least significant byte first. -/
def le32 : Format UInt32 4 where
  enc v := (be32.enc v).reverse
  dec bs := be32.dec bs.reverse
  length_enc v := by rw [List.length_reverse, be32.length_enc]
  dec_enc v := by rw [List.reverse_reverse, be32.dec_enc]
  enc_dec bs h := by rw [be32.enc_dec _ (by simpa using h), List.reverse_reverse]

/-- The value a format reads at an offset of a memory. -/
def get (f : Format α n) (m : Mem) (off : Nat) : α := f.dec (m.read off n)

theorem get_write (f : Format α n) (m : Mem) (off : Nat) (a : α) :
    f.get (m.write off (f.enc a)) off = a := by
  rw [get, Mem.read_write_eq _ _ _ _ (f.length_enc a), f.dec_enc]

theorem enc_get (f : Format α n) (m : Mem) (off : Nat) : f.enc (f.get m off) = m.read off n :=
  f.enc_dec _ (Mem.length_read _ _ _)

@[simp] theorem get_blk (m : Mem) (off n : Nat) : (blk n).get m off = m.blk off n := by
  funext i
  simp [get, blk, Blk.ofList, Mem.blk, Mem.read]

theorem get_seq (f : Format α m) (g : Format β n) (mem : Mem) (off : Nat) :
    (f.seq g).get mem off = (f.get mem off, g.get mem (off + m)) := by
  simp only [get, seq, Mem.read_add]
  rw [List.take_left' (Mem.length_read _ _ _), List.drop_left' (Mem.length_read _ _ _)]

theorem get_iso (f : Format α n) (e : α ≃ β) (m : Mem) (off : Nat) :
    (f.iso e).get m off = e (f.get m off) := rfl

theorem get_unit (m : Mem) (off : Nat) : unit.get m off = () := rfl

end Format
