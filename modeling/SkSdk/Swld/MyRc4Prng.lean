import SkSdk.Library.Rc4
import SkSdk.Swld.TapiTables

/-!
The generator of handles, `my_rc4_prng.c`. Between `init` and `ready` the field
`x` counts the bytes of the key collected in `buf`.
-/

namespace SkSdk
open ByteMemory FaultState

structure Rc4PrngState where
  x : UInt32
  y : UInt32
  buf : Blk 256

abbrev Rc4M := Prog Rc4PrngState Fault

abbrev myRc4ErrSuccess : Int32 := 0

/-- `tmp = s[x]; s[x] = s[y]; s[y] = tmp`. -/
def exchangeEntries (s : Blk 256) (x y : Fin 256) : Blk 256 :=
  Function.update (Function.update s x (s y)) y (s x)

/-- The body of the second loop of `my_rc4_prng_ready`, with `y`, `j` and `s`. -/
def readyRound (key : Blk 256) (keylen : Nat) (r : Nat × Nat × Blk 256) (x : Fin 256) :
    Except Fault (Nat × Nat × Blk 256) := do
  let (y, j, s) := r
  if hj : j < 256 then
    let y := (y + (s x).toNat + (key ⟨j, hj⟩).toNat) &&& 255
    let j := if j + 1 = keylen then 0 else j + 1
    if hy : y < 256 then
      return (y, j, exchangeEntries s x ⟨y, hy⟩)
    else throw .outOfRange
  else throw .outOfRange

def readyLoop (key : Blk 256) (keylen : Nat) : Except Fault (Nat × Nat × Blk 256) :=
  (List.finRange 256).foldlM (readyRound key keylen) (0, 0, fun x => UInt8.ofFin x)

def myRc4PrngReady : Rc4M Int32 := do
  let prng ← get
  let key := prng.buf
  let keylen := prng.x.toNat
  let (_, _, s) ← readyLoop key keylen
  set { prng with x := 0, y := 0, buf := s : Rc4PrngState }
  return myRc4ErrSuccess

def myRc4PrngInit : Rc4M Int32 := do
  modify fun prng => { prng with x := 0 }
  return myRc4ErrSuccess

/-- `while (inlen--) { prng->buf[prng->x++] = (*in); in++; }` -/
def seedLoop : Nat → List UInt8 → Rc4M Unit
  | 0, _ => pure ()
  | _ + 1, [] => throw .outOfRange
  | k + 1, b :: input => do
    let i : Fin 256 ← slot .outOfRange (← get).x.toNat
    modify fun prng => { prng with x := prng.x + 1, buf := Function.update prng.buf i b }
    seedLoop k input

/-- `inlen` is converted to `uint32_t` where it meets `x`; a negative one counts
past the end of any buffer. -/
def myRc4PrngSeed (input : List UInt8) (inlen : Int32) : Rc4M Int32 := do
  let x := (← get).x
  if x + inlen.toUInt32 > 256 then
    if x = 256 then return myRc4ErrSuccess
    else
      seedLoop (256 - x).toNat input
      return myRc4ErrSuccess
  else
    seedLoop inlen.toUInt32.toNat input
    return myRc4ErrSuccess

/-- The loop of `my_rc4_prng_read`, with `x`, `y` and `s`. -/
def readLoop : Nat → List UInt8 → UInt8 × UInt8 × Blk 256 →
    Except Fault (List UInt8 × UInt8 × UInt8 × Blk 256)
  | 0, out, r => return (out, r)
  | _ + 1, [], _ => throw .outOfRange
  | k + 1, b :: out, (x, y, s) => do
    let x := (x + 1) &&& 255
    let y := (y + s x.toFin) &&& 255
    let s := exchangeEntries s x.toFin y.toFin
    let tmp := (s x.toFin + s y.toFin) &&& 255
    let (out, r) ← readLoop k out (x, y, s)
    return ((b ^^^ s tmp.toFin) :: out, r)

def myRc4PrngRead (out : List UInt8) (outlen : Int32) : Rc4M (UInt32 × List UInt8) := do
  let prng ← get
  let n := outlen.toUInt32
  let (out, x, y, s) ← readLoop n.toNat out (prng.x.toUInt8, prng.y.toUInt8, prng.buf)
  set { prng with x := x.toUInt32, y := y.toUInt32, buf := s : Rc4PrngState }
  return (n, out)

/-! ## The textbook cipher -/

/-- A byte needs no reduction. -/
theorem and_255 (a : UInt8) : a &&& 255 = a := by
  apply UInt8.toNat_inj.mp
  rw [UInt8.toNat_and]
  exact Nat.and_two_pow_sub_one_of_lt_two_pow (n := 8) a.toNat_lt

/-- The bytes of the permutation. -/
def permBytes (perm : Equiv.Perm (Fin 256)) : Blk 256 := fun i => UInt8.ofFin (perm i)

theorem exchangeEntries_permBytes (perm : Equiv.Perm (Fin 256)) (i j : Fin 256) :
    exchangeEntries (permBytes perm) i j = permBytes (Rc4.exchange perm i j) := by
  funext k
  by_cases hj : k = j
  · subst hj
    by_cases hi : k = i <;> simp [exchangeEntries, permBytes, Rc4.exchange_apply, hi]
  · by_cases hi : k = i
    · subst hi
      simp [exchangeEntries, permBytes, Rc4.exchange_apply, Function.update_of_ne hj]
    · simp [exchangeEntries, permBytes, Rc4.exchange_apply, hi, hj]

/-- The state stands at `st` of the textbook cipher. -/
structure Stands (prng : Rc4PrngState) (st : Rc4.State 256) : Prop where
  x : prng.x = (UInt8.ofFin st.i).toUInt32
  y : prng.y = (UInt8.ofFin st.j).toUInt32
  buf : prng.buf = permBytes st.perm

/-- `bytes` XORed with the keystream from `st` on. -/
def xorKeystream (bytes : List UInt8) (st : Rc4.State 256) : List UInt8 :=
  List.zipWith (· ^^^ UInt8.ofFin ·) bytes (Rc4.keystream bytes.length st)

@[simp] theorem length_xorKeystream (bytes : List UInt8) (st : Rc4.State 256) :
    (xorKeystream bytes st).length = bytes.length := by
  simp [xorKeystream]

theorem xorKeystream_append (bytes more : List UInt8) (st : Rc4.State 256) :
    xorKeystream (bytes ++ more) st =
      xorKeystream bytes st ++ xorKeystream more (Rc4.State.next^[bytes.length] st) := by
  unfold xorKeystream
  rw [List.length_append, Rc4.keystream_add, List.zipWith_append (by simp)]

theorem readLoop_run (out : List UInt8) (st : Rc4.State 256) :
    readLoop out.length out (UInt8.ofFin st.i, UInt8.ofFin st.j, permBytes st.perm) =
      let st' := Rc4.State.next^[out.length] st
      .ok (xorKeystream out st, UInt8.ofFin st'.i, UInt8.ofFin st'.j, permBytes st'.perm) := by
  induction out generalizing st with
  | nil => rfl
  | cons b out ih =>
    have hi : UInt8.ofFin st.i + 1 = UInt8.ofFin st.next.i := (UInt8.ofFin_add st.i 1).symm
    have hj : UInt8.ofFin st.j + permBytes st.perm st.next.i = UInt8.ofFin st.next.j :=
      (UInt8.ofFin_add st.j (st.perm st.next.i)).symm
    have hs : exchangeEntries (permBytes st.perm) st.next.i st.next.j = permBytes st.next.perm :=
      exchangeEntries_permBytes _ _ _
    have hout : permBytes st.next.perm (permBytes st.next.perm st.next.i +
        permBytes st.next.perm st.next.j).toFin = UInt8.ofFin st.next.out := by
      rw [permBytes, permBytes, permBytes, ← UInt8.ofFin_add, UInt8.toFin_ofFin]
      rfl
    rw [List.length_cons, readLoop]
    simp only [and_255, hi, UInt8.toFin_ofFin, hj, hs, hout, ih st.next]
    rfl

/-- Bytes with a length that an `int32_t` holds. -/
structure Chunk where
  bytes : List UInt8
  length_lt : bytes.length < 2 ^ 31

def Chunk.len (c : Chunk) : Int32 := Int32.ofNat c.bytes.length

theorem Chunk.len_toUInt32 (c : Chunk) : c.len.toUInt32 = UInt32.ofNat c.bytes.length := rfl

theorem Chunk.toNat_len (c : Chunk) : c.len.toUInt32.toNat = c.bytes.length := by
  have hlt := c.length_lt
  rw [c.len_toUInt32, UInt32.toNat_ofNat', Nat.mod_eq_of_lt (by omega)]

theorem myRc4PrngRead_run {prng : Rc4PrngState} {st : Rc4.State 256} (h : Stands prng st)
    (c : Chunk) :
    ∃ prng', myRc4PrngRead c.bytes c.len prng =
        .ok ((c.len.toUInt32, xorKeystream c.bytes st), prng') ∧
      Stands prng' (Rc4.State.next^[c.bytes.length] st) := by
  have hx : prng.x.toUInt8 = UInt8.ofFin st.i := by rw [h.x, UInt8.toUInt8_toUInt32]
  have hy : prng.y.toUInt8 = UInt8.ofFin st.j := by rw [h.y, UInt8.toUInt8_toUInt32]
  have hloop := readLoop_run c.bytes st
  rw [← h.buf, ← hx, ← hy] at hloop
  have hrun : myRc4PrngRead c.bytes c.len prng = (readLoop c.len.toUInt32.toNat c.bytes
      (prng.x.toUInt8, prng.y.toUInt8, prng.buf)).bind fun r => .ok ((c.len.toUInt32, r.1),
        { x := r.2.1.toUInt32, y := r.2.2.1.toUInt32, buf := r.2.2.2 }) := by
    change ((readLoop _ _ _).bind fun r => .ok (r, prng)).bind _ = _
    cases readLoop c.len.toUInt32.toNat c.bytes (prng.x.toUInt8, prng.y.toUInt8, prng.buf) <;> rfl
  rw [c.toNat_len, hloop] at hrun
  exact ⟨_, hrun, rfl, rfl, rfl⟩

/-! ## Seed and key schedule -/

/-- `bytes` have been collected for the key. -/
structure Collected (prng : Rc4PrngState) (bytes : List UInt8) : Prop where
  le : bytes.length ≤ 256
  x : prng.x = UInt32.ofNat bytes.length
  buf : ∀ i : Fin 256, ∀ h : i.val < bytes.length, prng.buf i = bytes[i.val]

theorem seedLoop_run {prng : Rc4PrngState} {bytes : List UInt8} (h : Collected prng bytes)
    {input : List UInt8} {k : Nat} (hk : k ≤ input.length) (hle : bytes.length + k ≤ 256) :
    ∃ prng', seedLoop k input prng = .ok ((), prng') ∧
      Collected prng' (bytes ++ input.take k) := by
  induction k generalizing prng bytes input with
  | zero => exact ⟨prng, rfl, by simpa using h⟩
  | succ k ih =>
    cases input with
    | nil => simp at hk
    | cons b input =>
      have hlt : bytes.length < 256 := by omega
      have hx : prng.x.toNat = bytes.length := by
        rw [h.x, UInt32.toNat_ofNat', Nat.mod_eq_of_lt (by omega)]
      let prng' : Rc4PrngState :=
        ⟨prng.x + 1, prng.y, Function.update prng.buf ⟨bytes.length, hlt⟩ b⟩
      have hslot : (slot .outOfRange prng.x.toNat : Rc4M (Fin 256)) = pure ⟨bytes.length, hlt⟩ := by
        rw [slot, dif_pos (hx ▸ hlt)]
        simp [hx]
      have hstep : seedLoop (k + 1) (b :: input) prng = seedLoop k input prng' := by
        change ((slot .outOfRange prng.x.toNat : Rc4M (Fin 256)) >>= fun i => do
          modify fun prng => { prng with x := prng.x + 1, buf := Function.update prng.buf i b }
          seedLoop k input) prng = _
        rw [hslot]
        rfl
      have hnext : Collected prng' (bytes ++ [b]) := by
        refine ⟨by simp; omega, ?_, fun i hi => ?_⟩
        · simp [prng', h.x, UInt32.ofNat_add]
        · simp only [List.length_append, List.length_singleton] at hi
          by_cases hib : i.val = bytes.length
          · simp [prng', Function.update_apply, Fin.ext_iff, hib]
          · have hlt' : i.val < bytes.length := by omega
            rw [List.getElem_append_left hlt', ← h.buf i hlt']
            simp [prng', Fin.ext_iff, hib]
      obtain ⟨prng'', hrun, hcollected⟩ := ih hnext (Nat.le_of_succ_le_succ hk) (by simp; omega)
      refine ⟨prng'', hstep.trans hrun, ?_⟩
      rw [List.take_succ_cons]
      simpa using hcollected

theorem Collected.toNat_x {prng : Rc4PrngState} {bytes : List UInt8} (h : Collected prng bytes) :
    prng.x.toNat = bytes.length := by
  have hle := h.le
  rw [h.x, UInt32.toNat_ofNat', Nat.mod_eq_of_lt (by omega)]

/-- Of a chunk as many bytes are collected as there is room for. -/
theorem myRc4PrngSeed_rounds {prng : Rc4PrngState} (hle : prng.x.toNat ≤ 256) (c : Chunk) :
    myRc4PrngSeed c.bytes c.len prng =
      (do
        seedLoop (min c.bytes.length (256 - prng.x.toNat)) c.bytes
        return myRc4ErrSuccess : Rc4M Int32) prng := by
  have hlt := c.length_lt
  -- the sum is one of unsigned numbers and does not wrap
  have hsum : (prng.x + c.len.toUInt32).toNat = prng.x.toNat + c.bytes.length := by
    rw [UInt32.toNat_add, c.toNat_len, Nat.mod_eq_of_lt (by omega)]
  have hover : prng.x + c.len.toUInt32 > 256 ↔ 256 < prng.x.toNat + c.bytes.length := by
    rw [gt_iff_lt, UInt32.lt_iff_toNat_lt, hsum]
    rfl
  have hfull : prng.x = 256 ↔ prng.x.toNat = 256 := by
    rw [← UInt32.toNat_inj]
    rfl
  change (if prng.x + c.len.toUInt32 > 256 then
      if prng.x = 256 then (pure myRc4ErrSuccess : Rc4M Int32)
      else do
        seedLoop (256 - prng.x).toNat c.bytes
        return myRc4ErrSuccess
    else do
      seedLoop c.len.toUInt32.toNat c.bytes
      return myRc4ErrSuccess) prng = _
  by_cases htrim : 256 < prng.x.toNat + c.bytes.length
  · rw [if_pos (hover.mpr htrim)]
    by_cases hall : prng.x.toNat = 256
    · rw [if_pos (hfull.mpr hall), hall, Nat.sub_self, Nat.min_zero]
      rfl
    · have hleft : (256 - prng.x).toNat = min c.bytes.length (256 - prng.x.toNat) := by
        have hroom : (256 - prng.x).toNat = 256 - prng.x.toNat :=
          UInt32.toNat_sub_of_le _ _ (UInt32.le_iff_toNat_le.mpr hle)
        omega
      rw [if_neg (fun h256 => hall (hfull.mp h256)), hleft]
  · have hwhole : min c.bytes.length (256 - prng.x.toNat) = c.bytes.length := by omega
    rw [if_neg (fun h256 => htrim (hover.mp h256)), c.toNat_len, hwhole]

theorem myRc4PrngSeed_run {prng : Rc4PrngState} {bytes : List UInt8} (h : Collected prng bytes)
    (c : Chunk) :
    ∃ prng', myRc4PrngSeed c.bytes c.len prng = .ok (myRc4ErrSuccess, prng') ∧
      Collected prng' ((bytes ++ c.bytes).take 256) := by
  have hle := h.le
  have hx := h.toNat_x
  obtain ⟨prng', hloop, hcollected⟩ := seedLoop_run h
    (k := min c.bytes.length (256 - bytes.length)) (Nat.min_le_left _ _) (by omega)
  refine ⟨prng', ?_, ?_⟩
  · rw [myRc4PrngSeed_rounds (by omega), hx, bind_of_ok hloop]
    rfl
  · have htake : c.bytes.take (min c.bytes.length (256 - bytes.length)) =
        c.bytes.take (256 - bytes.length) := by
      rw [Nat.min_comm, ← List.take_take, List.take_length]
    rwa [List.take_append, List.take_of_length_le hle, ← htake]

/-- The key of the textbook cipher. -/
def rc4Key (bytes : List UInt8) : List (Fin 256) := bytes.map UInt8.toFin

/-- One round does to the permutation's bytes what the textbook round does to
the permutation, while `j` runs through the key again and again. -/
theorem readyRound_run {prng : Rc4PrngState} {bytes : List UInt8} (h : Collected prng bytes)
    (hpos : 0 < bytes.length) (r : Fin 256 × Equiv.Perm (Fin 256)) (x : Fin 256) :
    readyRound prng.buf bytes.length (r.1.val, x.val % bytes.length, permBytes r.2) x =
      let r' := Rc4.mix (rc4Key bytes) r x
      .ok (r'.1.val, (x.val + 1) % bytes.length, permBytes r'.2) := by
  have hle := h.le
  have hj : x.val % bytes.length < bytes.length := Nat.mod_lt _ hpos
  have hj' : x.val % bytes.length < 256 := by omega
  have hkey : (prng.buf ⟨x.val % bytes.length, hj'⟩).toNat =
      ((rc4Key bytes).getD (x.val % (rc4Key bytes).length) 0).val := by
    rw [h.buf _ hj]
    simp [rc4Key, hj]
  have hy : (r.1.val + (permBytes r.2 x).toNat +
      (prng.buf ⟨x.val % bytes.length, hj'⟩).toNat) &&& 255 =
        (Rc4.mix (rc4Key bytes) r x).1.val := by
    rw [hkey]
    change _ &&& (2 ^ 8 - 1) = _
    rw [Nat.and_two_pow_sub_one_eq_mod, Rc4.mix, Fin.val_add, Fin.val_add, Nat.mod_add_mod]
    rfl
  have hnext : (if x.val % bytes.length + 1 = bytes.length then 0 else x.val % bytes.length + 1) =
      (x.val + 1) % bytes.length := by
    rw [← Nat.mod_add_mod]
    split
    · rename_i heq
      rw [heq, Nat.mod_self]
    · exact (Nat.mod_eq_of_lt (by omega)).symm
  have hbody : ∀ (y : Nat) (m : Fin 256) (j : Nat), y = m.val →
      (if hy : y < 256 then .ok (y, j, exchangeEntries (permBytes r.2) x ⟨y, hy⟩)
        else .error .outOfRange : Except Fault (Nat × Nat × Blk 256)) =
      .ok (m.val, j, permBytes (Rc4.exchange r.2 x m)) := by
    rintro _ m j rfl
    rw [dif_pos m.isLt, exchangeEntries_permBytes]
  change (if hj : x.val % bytes.length < 256 then _ else _) = _
  rw [dif_pos hj', ← hnext]
  exact hbody _ _ _ hy

/-- The key schedule from round `x` on. -/
theorem readyRounds_run {prng : Rc4PrngState} {bytes : List UInt8} (h : Collected prng bytes)
    (hpos : 0 < bytes.length) {k x : Nat} (hk : x + k = 256)
    (r : Fin 256 × Equiv.Perm (Fin 256)) :
    ((List.finRange 256).drop x).foldlM (readyRound prng.buf bytes.length)
        (r.1.val, x % bytes.length, permBytes r.2) =
      let r' := ((List.finRange 256).drop x).foldl (Rc4.mix (rc4Key bytes)) r
      .ok (r'.1.val, 256 % bytes.length, permBytes r'.2) := by
  induction k generalizing x r with
  | zero =>
    obtain rfl : x = 256 := by omega
    rw [List.drop_of_length_le (by simp)]
    rfl
  | succ k ih =>
    have hx : x < 256 := by omega
    rw [List.drop_eq_getElem_cons (by simpa using hx), List.getElem_finRange, List.foldlM_cons,
      List.foldl_cons]
    have hround := readyRound_run h hpos r ⟨x, hx⟩
    dsimp only at hround
    refine (congrArg (fun m => m >>= _) hround).trans ?_
    exact ih (by omega) _

theorem myRc4PrngReady_run {prng : Rc4PrngState} {bytes : List UInt8} (h : Collected prng bytes)
    (hpos : 0 < bytes.length) :
    ∃ prng', myRc4PrngReady prng = .ok (myRc4ErrSuccess, prng') ∧
      Stands prng' (Rc4.State.init (rc4Key bytes)) := by
  have hle := h.le
  have hx : prng.x.toNat = bytes.length := by
    rw [h.x, UInt32.toNat_ofNat', Nat.mod_eq_of_lt (by omega)]
  have hloop := readyRounds_run h hpos (Nat.zero_add 256) (0, 1)
  rw [List.drop_zero, Nat.zero_mod] at hloop
  have hrun : myRc4PrngReady prng = (readyLoop prng.buf prng.x.toNat).bind fun r =>
      .ok (myRc4ErrSuccess, ⟨0, 0, r.2.2⟩) := by
    change ((readyLoop _ _).bind fun r => .ok (r, prng)).bind _ = _
    cases readyLoop prng.buf prng.x.toNat <;> rfl
  have hdone : readyLoop prng.buf bytes.length = _ := hloop
  rw [hx, hdone] at hrun
  exact ⟨_, hrun, rfl, rfl, rfl⟩

/-! ## The generator -/

/-- The generator seeded with `chunks` and read into `buffers`: what each read
returns and leaves in its buffer. -/
def rc4Generate (chunks buffers : List Chunk) : Rc4M (List (UInt32 × List UInt8)) := do
  let _ ← myRc4PrngInit
  chunks.forM fun c => do let _ ← myRc4PrngSeed c.bytes c.len
  let _ ← myRc4PrngReady
  buffers.mapM fun b => myRc4PrngRead b.bytes b.len

def allBytes (chunks : List Chunk) : List UInt8 := chunks.flatMap Chunk.bytes

theorem seeds_run {prng : Rc4PrngState} {bytes : List UInt8} (h : Collected prng bytes)
    (chunks : List Chunk) :
    ∃ prng', (chunks.forM fun c => do let _ ← myRc4PrngSeed c.bytes c.len : Rc4M Unit) prng =
        .ok ((), prng') ∧ Collected prng' ((bytes ++ allBytes chunks).take 256) := by
  induction chunks generalizing prng bytes with
  | nil =>
    refine ⟨prng, rfl, ?_⟩
    rwa [allBytes, List.flatMap_nil, List.append_nil, List.take_of_length_le h.le]
  | cons c chunks ih =>
    obtain ⟨prng', hseed, hcollected⟩ := myRc4PrngSeed_run h c
    obtain ⟨prng'', hseeds, hcollected'⟩ := ih hcollected
    refine ⟨prng'', ?_, ?_⟩
    · have hfirst : (do let _ ← myRc4PrngSeed c.bytes c.len : Rc4M Unit) prng = .ok ((), prng') :=
        bind_of_ok hseed _
      exact (bind_of_ok hfirst _).trans hseeds
    · have hlen : 256 - ((bytes ++ c.bytes).take 256).length = 256 - (bytes ++ c.bytes).length := by
        rw [List.length_take]
        omega
      rw [List.take_append, List.take_take, Nat.min_self, hlen, ← List.take_append] at hcollected'
      rwa [allBytes, List.flatMap_cons, ← List.append_assoc]

theorem reads_run {prng : Rc4PrngState} {st : Rc4.State 256} (h : Stands prng st)
    (buffers : List Chunk) :
    ∃ outs prng' st', (buffers.mapM fun b => myRc4PrngRead b.bytes b.len : Rc4M _) prng =
        .ok (outs, prng') ∧ Stands prng' st' ∧
      outs.map (fun o => (o.1.toNat, o.2.length)) =
        buffers.map (fun b => (b.bytes.length, b.bytes.length)) ∧
      outs.flatMap (·.2) = xorKeystream (allBytes buffers) st := by
  induction buffers generalizing prng st with
  | nil => exact ⟨[], prng, st, rfl, h, rfl, rfl⟩
  | cons b buffers ih =>
    obtain ⟨prng', hread, hstands⟩ := myRc4PrngRead_run h b
    obtain ⟨outs, prng'', st', hreads, hlast, hlens, hbytes⟩ := ih hstands
    refine ⟨(b.len.toUInt32, xorKeystream b.bytes st) :: outs, prng'', st', ?_, hlast, ?_, ?_⟩
    · rw [List.mapM_cons, bind_of_ok hread, bind_of_ok hreads]
      rfl
    · simp [hlens, b.toNat_len]
    · rw [allBytes, List.flatMap_cons, List.flatMap_cons, hbytes, xorKeystream_append]
      rfl

/-- `my_rc4_prng_init` and then a seeding by `chunks`. -/
def rc4Seed (chunks : List Chunk) : Rc4M Unit := do
  let _ ← myRc4PrngInit
  chunks.forM fun c => do let _ ← myRc4PrngSeed c.bytes c.len

theorem rc4Seed_run (prng : Rc4PrngState) (chunks : List Chunk) :
    ∃ seeded, rc4Seed chunks prng = .ok ((), seeded) ∧
      Collected seeded ((allBytes chunks).take 256) := by
  have hempty : Collected { prng with x := 0 } [] := ⟨Nat.zero_le _, rfl, by simp⟩
  obtain ⟨seeded, hseeds, hcollected⟩ := seeds_run hempty chunks
  have hinit : myRc4PrngInit prng = .ok (myRc4ErrSuccess, { prng with x := 0 }) := rfl
  exact ⟨seeded, (bind_of_ok hinit _).trans hseeds, hcollected⟩

theorem rc4Generate_run (prng : Rc4PrngState) (chunks buffers : List Chunk)
    (hpos : 0 < (allBytes chunks).length) :
    ∃ outs prng', rc4Generate chunks buffers prng = .ok (outs, prng') ∧
      outs.map (fun o => (o.1.toNat, o.2.length)) =
        buffers.map (fun b => (b.bytes.length, b.bytes.length)) ∧
      outs.flatMap (·.2) = xorKeystream (allBytes buffers)
        (Rc4.State.init (rc4Key ((allBytes chunks).take 256))) := by
  obtain ⟨prng₁, hseed, hcollected⟩ := rc4Seed_run prng chunks
  obtain ⟨prng₂, hready, hstands⟩ := myRc4PrngReady_run hcollected (by simpa using hpos)
  obtain ⟨outs, prng₃, _, hreads, -, hlens, hbytes⟩ := reads_run hstands buffers
  refine ⟨outs, prng₃, ?_, hlens, hbytes⟩
  have hgenerate : rc4Generate chunks buffers = (do
      rc4Seed chunks
      let _ ← myRc4PrngReady
      buffers.mapM fun b => myRc4PrngRead b.bytes b.len) := by
    simp only [rc4Generate, rc4Seed, bind_assoc]
  rw [hgenerate]
  exact (bind_of_ok hseed _).trans ((bind_of_ok hready _).trans hreads)

/-- The generator is RC4 under the first 256 bytes of the seed, however the seed
and the output are cut and whatever the state held before. -/
theorem rc4_prng_keystream (prng : Rc4PrngState) (chunks buffers : List Chunk)
    (hpos : 0 < (allBytes chunks).length) :
    ∃ outs prng', rc4Generate chunks buffers prng = .ok (outs, prng') ∧
      outs.map (fun o => (o.1.toNat, o.2.length)) =
        buffers.map (fun b => (b.bytes.length, b.bytes.length)) ∧
      outs.flatMap (·.2) = xorKeystream (allBytes buffers)
        (Rc4.State.init (rc4Key ((allBytes chunks).take 256))) ∧
      ∀ prng₂ chunks₂ buffers₂ outs₂ prng₂', allBytes chunks₂ = allBytes chunks →
        allBytes buffers₂ = allBytes buffers →
        rc4Generate chunks₂ buffers₂ prng₂ = .ok (outs₂, prng₂') →
        outs₂.flatMap (·.2) = outs.flatMap (·.2) := by
  obtain ⟨outs, prng', hrun, hlens, hbytes⟩ := rc4Generate_run prng chunks buffers hpos
  refine ⟨outs, prng', hrun, hlens, hbytes, ?_⟩
  intro prng₂ chunks₂ buffers₂ outs₂ prng₂' hchunks hbuffers hrun₂
  obtain ⟨outs', _, hrun', _, hbytes'⟩ := rc4Generate_run prng₂ chunks₂ buffers₂ (hchunks ▸ hpos)
  rw [hrun₂] at hrun'
  simp only [Except.ok.injEq, Prod.mk.injEq] at hrun'
  rw [hrun'.1, hbytes', hbytes, hchunks, hbuffers]

/-- The key of `my_rc4_prng_test`, which is also its text. -/
def testKey : Chunk := ⟨[0x01, 0x23, 0x45, 0x67, 0x89, 0xab, 0xcd, 0xef], by decide⟩

theorem rc4_prng_keystream_test :
    ∃ out prng', rc4Generate [testKey] [testKey] ⟨0, 0, Blk.zero _⟩ = .ok ([(8, out)], prng') ∧
      out = xorKeystream testKey.bytes (Rc4.State.init (rc4Key testKey.bytes)) := by
  obtain ⟨outs, prng', hrun, hlens, hbytes, _⟩ :=
    rc4_prng_keystream ⟨0, 0, Blk.zero _⟩ [testKey] [testKey] (by decide)
  obtain ⟨⟨n, out⟩, rfl⟩ := List.length_eq_one_iff.mp (by simpa using congrArg List.length hlens)
  have hn : n = 8 := by
    simp only [List.map_cons, List.map_nil, List.cons.injEq, Prod.mk.injEq] at hlens
    exact UInt32.toNat_inj.mp hlens.1.1
  refine ⟨out, prng', by rw [hrun, hn], ?_⟩
  simpa [allBytes, testKey] using hbytes

end SkSdk
