import SkSdk.Swld.MyRc4Prng

/-!
What the state of the generator keeps under any seeding, the empty one included.
An index past `buf` or `key` is the fault `outOfRange`, so that a run that
returns has used none.
-/

namespace SkSdk
open ByteMemory FaultState

/-! ## The invariant -/

/-- Between `my_rc4_prng_ready` and the next seeding. -/
structure Rc4Invariant (prng : Rc4PrngState) : Prop where
  x : prng.x < 256
  y : prng.y < 256
  buf : Function.Bijective prng.buf

/-- A chunk of seed is collected round by round, and `x` stays a position of
`buf` or its end. -/
def SeedBounded (prng : Rc4PrngState) (c : Chunk) : Prop :=
  ∃ rounds, myRc4PrngSeed c.bytes c.len prng =
      (do seedLoop rounds c.bytes; return myRc4ErrSuccess : Rc4M Int32) prng ∧
    ∀ k ≤ rounds, ∃ prng', seedLoop k c.bytes prng = .ok ((), prng') ∧ prng'.x ≤ 256

/-! ## Reading keeps it -/

theorem bijective_permBytes (perm : Equiv.Perm (Fin 256)) : Function.Bijective (permBytes perm) :=
  (Function.bijective_iff_has_inverse.mpr
    ⟨UInt8.toFin, UInt8.toFin_ofFin, UInt8.ofFin_toFin⟩).comp perm.bijective

theorem ofFin_toUInt32_lt (i : Fin 256) : (UInt8.ofFin i).toUInt32 < 256 := by
  rw [UInt32.lt_iff_toNat_lt, UInt8.toNat_toUInt32]
  exact i.isLt

theorem Stands.invariant {prng : Rc4PrngState} {st : Rc4.State 256} (h : Stands prng st) :
    Rc4Invariant prng where
  x := h.x ▸ ofFin_toUInt32_lt st.i
  y := h.y ▸ ofFin_toUInt32_lt st.j
  buf := h.buf ▸ bijective_permBytes st.perm

/-! ## The key schedule under any key length -/

/-- Whatever the key and the count of its bytes, a round exchanges two bytes,
and `j` moves by one or back to the start. -/
theorem readyRound_perm (key : Blk 256) (keylen : Nat) {y j : Nat} (hj : j < 256)
    (perm : Equiv.Perm (Fin 256)) (x : Fin 256) :
    ∃ y' j' perm', readyRound key keylen (y, j, permBytes perm) x =
      .ok (y', j', permBytes perm') ∧ j' ≤ j + 1 := by
  have hy : (y + (permBytes perm x).toNat + (key ⟨j, hj⟩).toNat) &&& 255 < 256 :=
    Nat.lt_succ_of_le Nat.and_le_right
  have hround : readyRound key keylen (y, j, permBytes perm) x =
      .ok ((y + (permBytes perm x).toNat + (key ⟨j, hj⟩).toNat) &&& 255,
        if j + 1 = keylen then 0 else j + 1,
        permBytes (Rc4.exchange perm x ⟨_, hy⟩)) := by
    change (if hj : j < 256 then _ else _) = _
    rw [dif_pos hj]
    rw [dif_pos hy, exchangeEntries_permBytes]
    rfl
  refine ⟨_, _, _, hround, ?_⟩
  split <;> omega

/-- `j` never overtakes the round it is used in. -/
theorem readyRounds_perm (key : Blk 256) (keylen : Nat) {k x : Nat} (hk : x + k = 256) {y j : Nat}
    (hj : j ≤ x) (perm : Equiv.Perm (Fin 256)) :
    ∃ y' j' perm', ((List.finRange 256).drop x).foldlM (readyRound key keylen)
      (y, j, permBytes perm) = .ok (y', j', permBytes perm') := by
  induction k generalizing x y j perm with
  | zero =>
    obtain rfl : x = 256 := by omega
    rw [List.drop_of_length_le (by simp)]
    exact ⟨_, _, _, rfl⟩
  | succ k ih =>
    have hx : x < 256 := by omega
    obtain ⟨y', j', perm', hround, hj'⟩ :=
      readyRound_perm key keylen (y := y) (by omega : j < 256) perm ⟨x, hx⟩
    obtain ⟨y'', j'', perm'', hrest⟩ :=
      ih (x := x + 1) (y := y') (j := j') (by omega) (by omega) perm'
    refine ⟨y'', j'', perm'', ?_⟩
    rw [List.drop_eq_getElem_cons (by simpa using hx), List.getElem_finRange, List.foldlM_cons]
    exact (congrArg (fun m => m >>= _) hround).trans hrest

/-- After the key schedule the state is one of the textbook cipher. -/
theorem myRc4PrngReady_stands (prng : Rc4PrngState) :
    ∃ prng' st, myRc4PrngReady prng = .ok (myRc4ErrSuccess, prng') ∧ Stands prng' st := by
  obtain ⟨y, j, perm, hloop⟩ := readyRounds_perm prng.buf prng.x.toNat (Nat.zero_add 256) (y := 0)
    (Nat.le_refl 0) 1
  rw [List.drop_zero] at hloop
  have hrun : myRc4PrngReady prng = (readyLoop prng.buf prng.x.toNat).bind fun r =>
      .ok (myRc4ErrSuccess, ⟨0, 0, r.2.2⟩) := by
    change ((readyLoop _ _).bind fun r => .ok (r, prng)).bind _ = _
    cases readyLoop prng.buf prng.x.toNat <;> rfl
  have hdone : readyLoop prng.buf prng.x.toNat = .ok (y, j, permBytes perm) := hloop
  have hzero : (0 : UInt32) = (UInt8.ofFin 0).toUInt32 := by decide
  rw [hdone] at hrun
  exact ⟨⟨0, 0, permBytes perm⟩, ⟨0, 0, perm⟩, hrun, hzero, hzero, rfl⟩

/-! ## Seeding -/

theorem Collected.x_le {prng : Rc4PrngState} {bytes : List UInt8} (h : Collected prng bytes) :
    prng.x ≤ 256 := by
  rw [UInt32.le_iff_toNat_le, h.toNat_x]
  exact h.le

theorem Collected.seedBounded {prng : Rc4PrngState} {bytes : List UInt8}
    (h : Collected prng bytes) (c : Chunk) : SeedBounded prng c := by
  have hle := h.le
  have hx := h.toNat_x
  refine ⟨_, myRc4PrngSeed_rounds (by omega) c, fun k hk => ?_⟩
  obtain ⟨prng', hloop, hcollected⟩ := seedLoop_run h
    (by omega : k ≤ c.bytes.length) (by omega)
  exact ⟨prng', hloop, hcollected.x_le⟩

/-- Every seeding stays inside `buf`, the key schedule leaves a permutation in
it, and every further read keeps one there. -/
theorem rc4_state_invariant (prng : Rc4PrngState) (chunks buffers : List Chunk) :
    ∃ seeded, rc4Seed chunks prng = .ok ((), seeded) ∧ seeded.x ≤ 256 ∧
      (∀ c, SeedBounded seeded c) ∧
      ∃ readied, myRc4PrngReady seeded = .ok (myRc4ErrSuccess, readied) ∧ Rc4Invariant readied ∧
        ∃ outs last, (buffers.mapM fun b => myRc4PrngRead b.bytes b.len : Rc4M _) readied =
          .ok (outs, last) ∧ Rc4Invariant last := by
  obtain ⟨seeded, hseed, hcollected⟩ := rc4Seed_run prng chunks
  obtain ⟨readied, st, hready, hstands⟩ := myRc4PrngReady_stands seeded
  obtain ⟨outs, last, st', hreads, hstands', -⟩ := reads_run hstands buffers
  exact ⟨seeded, hseed, hcollected.x_le, hcollected.seedBounded, readied, hready,
    hstands.invariant, outs, last, hreads, hstands'.invariant⟩

end SkSdk
