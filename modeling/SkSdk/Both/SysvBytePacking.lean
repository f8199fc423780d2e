import Mathlib.Tactic.Linarith
import SkSdk.Library.Format

/-! The integer packing helpers of `sysv_byte_packing.c`. -/

namespace SkSdk
open ByteMemory

/-- Offsets and sizes are `uint32_t`: sums are taken modulo 2^32. -/
abbrev u32 (n : Nat) : Nat := n % 4294967296

/-- Returns the number of bytes stored, 0 when they do not fit. -/
def sysvBytePut (image : Mem) (offset buflen valueSize : Nat) (value : UInt64) : Nat × Mem :=
  if u32 (offset + valueSize) > buflen then (0, image)
  else
    (valueSize, (List.range valueSize).foldl (fun img i =>
      Function.update img (offset + i)
        ((0xff &&& (value >>> UInt64.ofNat ((valueSize - i - 1) * 8))).toUInt8)) image)

/-- The accumulator is a `uint32_t` although the result is 64 bits wide. -/
def sysvByteGet (image : Mem) (valueSize : Nat) : UInt64 :=
  ((List.range valueSize).foldl (fun (value : UInt32) i =>
    (value <<< 8) + (0xff &&& (image i).toUInt32)) 0).toUInt64

private theorem storeLoop_eq_write (image : Mem) (offset n : Nat) (f : Nat → UInt8) :
    (List.range n).foldl (fun img i => Function.update img (offset + i) (f i)) image =
      image.write offset ((List.range n).map f) := by
  induction n with
  | zero => exact (Mem.write_nil image offset).symm
  | succ n ih =>
    rw [List.range_succ, List.foldl_append, ih, List.map_append, Mem.write_append]
    funext a
    simp only [List.foldl_cons, List.foldl_nil, Function.update_apply, List.map_cons,
      List.map_nil, List.length_map, List.length_range]
    by_cases ha : a = offset + n
    · subst ha
      simp [Mem.write]
    · have hout : a < offset + n ∨ offset + n + [f n].length ≤ a := by simp; omega
      rw [if_neg ha, Mem.write_outside _ (offset + n) _ a hout]

private theorem byte_of_shift (v : UInt64) (k : Nat) (hk : k < 8) :
    (0xff &&& (v >>> UInt64.ofNat (k * 8))).toUInt8 = UInt8.ofNat (v.toNat / 256 ^ k) := by
  apply UInt8.toNat_inj.mp
  have hs : (UInt64.ofNat (k * 8)).toNat = k * 8 :=
    UInt64.toNat_ofNat_of_lt' (by simp [UInt64.size]; omega)
  have hp : (2 : Nat) ^ (k * 8) = 256 ^ k := by rw [Nat.mul_comm, Nat.pow_mul]
  have hff : ∀ x : Nat, 255 &&& x = x % 256 := fun x => by
    rw [Nat.and_comm]
    exact Nat.and_two_pow_sub_one_eq_mod x 8
  simp only [UInt64.toNat_toUInt8, UInt64.toNat_and, UInt64.toNat_shiftRight, hs,
    UInt8.toNat_ofNat', Nat.mod_eq_of_lt (show k * 8 < 64 by omega), Nat.shiftRight_eq_div_pow, hp]
  rw [show UInt64.toNat 255 = 255 from rfl, hff]
  omega

/-- What `sysv_byte_put` does for every width its 64-bit value allows. -/
theorem sysvBytePut_eq (image : Mem) (offset buflen n : Nat) (v : UInt64) (hn : n ≤ 8) :
    sysvBytePut image offset buflen n v =
      if u32 (offset + n) > buflen then (0, image)
      else (n, image.write offset (beBytes n v.toNat)) := by
  unfold sysvBytePut
  split
  · rfl
  · rw [storeLoop_eq_write, beBytes_eq_map]
    congr 2
    apply List.map_congr_left
    intro i hi
    have hlt := List.mem_range.mp hi
    exact byte_of_shift v (n - i - 1) (by omega)

private theorem getLoop_toNat (image : Mem) (n : Nat) :
    ((List.range n).foldl (fun (value : UInt32) i =>
      (value <<< 8) + (0xff &&& (image i).toUInt32)) 0).toNat = beNat (image.read 0 n) % 2 ^ 32 := by
  induction n with
  | zero => rfl
  | succ n ih =>
    have hb : (image n).toNat < 256 := (image n).toNat_lt
    have hone : image.read (0 + n) 1 = [image n] := by simp [Mem.read]
    have hsnoc : beNat (image.read 0 (n + 1)) = beNat (image.read 0 n) * 256 + (image n).toNat := by
      rw [Mem.read_add, hone, beNat_concat]
    have hand : (255 : Nat) &&& (image n).toNat = (image n).toNat % 256 := by
      rw [Nat.and_comm]
      exact Nat.and_two_pow_sub_one_eq_mod _ 8
    rw [List.range_succ, List.foldl_append, hsnoc]
    simp only [List.foldl_cons, List.foldl_nil, UInt32.toNat_add, UInt32.toNat_shiftLeft,
      UInt32.toNat_and, UInt8.toNat_toUInt32, ih]
    rw [show UInt32.toNat 255 = 255 from rfl, show UInt32.toNat 8 % 32 = 8 from rfl, hand,
      Nat.shiftLeft_eq]
    omega

theorem sysvByteGet_toNat (image : Mem) (n : Nat) :
    (sysvByteGet image n).toNat = beNat (image.read 0 n) % 2 ^ 32 := by
  rw [sysvByteGet, UInt32.toNat_toUInt64, getLoop_toNat]

/-- Up to four bytes the accumulator holds all of the field. -/
theorem sysvByteGet_of_le_four (m : Mem) (off : Nat) {n : Nat} (hn : n ≤ 4) :
    (sysvByteGet (m.ptr off) n).toNat = beNat (m.read off n) := by
  have hlt : beNat (m.read off n) < 256 ^ n := by
    simpa using beNat_lt (m.read off n)
  have hwide : 256 ^ n ≤ 256 ^ 4 := Nat.pow_le_pow_right (by decide) hn
  rw [sysvByteGet_toNat, Mem.read_ptr]
  exact Nat.mod_eq_of_lt (Nat.lt_of_lt_of_le hlt hwide)

/-- A 32-bit read is the `be32` format. -/
theorem sysvByteGet_four (m : Mem) (off : Nat) :
    (sysvByteGet (m.ptr off) 4).toUInt32 = Format.be32.get m off := by
  apply UInt32.toNat_inj.mp
  rw [UInt64.toNat_toUInt32, sysvByteGet_of_le_four m off (Nat.le_refl 4), Format.get, Format.be32,
    UInt32.toNat_ofNat']

/-! ## A field put and got back -/

theorem sysvBytePut_of_fits (image : Mem) {offset buflen n : Nat} (v : UInt64) (hn : n ≤ 8)
    (hfit : offset + n ≤ buflen) (hbuf : buflen < 2 ^ 32) :
    sysvBytePut image offset buflen n v = (n, image.write offset (beBytes n v.toNat)) := by
  have hsum : u32 (offset + n) = offset + n := Nat.mod_eq_of_lt (Nat.lt_of_le_of_lt hfit hbuf)
  rw [sysvBytePut_eq image offset buflen n v hn, hsum, if_neg (Nat.not_lt.mpr hfit)]

/-- The field is stored whole and nothing beside it, and read back from its place. -/
structure RoundTrips (image : Mem) (offset buflen valueSize : Nat) (value : UInt64) : Prop where
  stored : (sysvBytePut image offset buflen valueSize value).1 = valueSize
  kept : ∀ a, a < offset ∨ offset + valueSize ≤ a →
    (sysvBytePut image offset buflen valueSize value).2 a = image a
  returned : (sysvByteGet ((sysvBytePut image offset buflen valueSize value).2.ptr offset)
    valueSize).toNat = value.toNat % 2 ^ (8 * valueSize)

theorem sysvByteGet_sysvBytePut (image : Mem) {offset buflen n : Nat} (v : UInt64) (hn : n ≤ 8)
    (hfit : offset + n ≤ buflen) (hbuf : buflen < 2 ^ 32) :
    (sysvByteGet ((sysvBytePut image offset buflen n v).2.ptr offset) n).toNat =
      v.toNat % 2 ^ (8 * n) % 2 ^ 32 := by
  have hlen : (beBytes n v.toNat).length = n := length_beBytes n v.toNat
  have hbase : 256 ^ n = 2 ^ (8 * n) := (Nat.pow_mul 2 8 n).symm
  rw [sysvBytePut_of_fits image v hn hfit hbuf, sysvByteGet_toNat, Mem.read_ptr,
    Mem.read_write_eq _ _ _ _ hlen, beNat_beBytes, hbase]

/-- Of a field wider than the accumulator only the low 32 bits come back. -/
theorem sysvByte_roundTrips_iff (image : Mem) {offset buflen valueSize : Nat} (value : UInt64)
    (hsize : valueSize ≤ 8) (hfit : offset + valueSize ≤ buflen) (hbuf : buflen < 2 ^ 32) :
    RoundTrips image offset buflen valueSize value ↔
      valueSize ≤ 4 ∨ value.toNat % 2 ^ (8 * valueSize) < 2 ^ 32 := by
  have hget := sysvByteGet_sysvBytePut image value hsize hfit hbuf
  have hput := sysvBytePut_of_fits image value hsize hfit hbuf
  constructor
  · intro h
    have hmod : value.toNat % 2 ^ (8 * valueSize) % 2 ^ 32 = value.toNat % 2 ^ (8 * valueSize) :=
      hget.symm.trans h.returned
    exact Or.inr ((Nat.mod_eq_iff_lt (by decide)).mp hmod)
  · intro h
    have hlow : value.toNat % 2 ^ (8 * valueSize) < 2 ^ 32 := by
      rcases h with hnarrow | hlow
      · have hmod : value.toNat % 2 ^ (8 * valueSize) < 2 ^ (8 * valueSize) :=
          Nat.mod_lt _ (Nat.two_pow_pos _)
        exact Nat.lt_of_lt_of_le hmod (Nat.pow_le_pow_right (by decide) (by omega))
      · exact hlow
    refine ⟨by rw [hput], fun a ha => ?_, hget.trans (Nat.mod_eq_of_lt hlow)⟩
    rw [hput]
    exact Mem.write_outside image offset _ a (by rwa [length_beBytes])

/-- Eight bytes of which the four high ones are zero come back, and 2^32 does not. -/
theorem sysvByte_roundTrips_wide : RoundTrips (fun _ => 0) 1 9 8 0x12345678 ∧
    ¬RoundTrips (fun _ => 0) 1 9 8 0x100000000 :=
  ⟨(sysvByte_roundTrips_iff _ _ (by decide) (by decide) (by decide)).mpr (by decide),
    fun h => absurd ((sysvByte_roundTrips_iff _ _ (by decide) (by decide) (by decide)).mp h)
      (by decide)⟩

/-- From the eight bytes of 2^32 the reader returns 0. -/
theorem sysvByte_roundTrips_false : ¬∀ (image : Mem) (offset buflen valueSize : Nat)
    (value : UInt64), 1 ≤ valueSize → valueSize ≤ 8 → offset + valueSize ≤ buflen →
      buflen < 2 ^ 32 → RoundTrips image offset buflen valueSize value := by
  intro h
  have hreturned := (h (fun _ => 0) 0 8 8 0x100000000 (by decide) (by decide) (by decide)
    (by decide)).returned
  exact absurd hreturned (by decide)

end SkSdk
