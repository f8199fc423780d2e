import SkSdk.Both.TapiCodec

/-!
The limits that the encoders and decoders of `sk_tapi_byte_pack.c` and
`sk_tapi_byte_unpack.c` check field by field. A store is seen in the memory it
leaves, a read in what the result depends on.
-/

namespace SkSdk
open ByteMemory

/-! ## What the limits promise -/

/-- The encoder of `l` with room for `n` bytes. The last two fields name the
program as its list of stores, and the offset that each of them computes. -/
structure PackRespects (l : Layout) (msg : SkMsg) (pack : Mem) (n : Nat) : Prop where
  accepts : (l.pack msg pack n).status = skTapiPackErrSuccess ↔ l.wireLength ≤ n
  inside : ∀ a, n ≤ a → (l.pack msg pack n).pack a = pack a
  kept : n < l.wireLength → (l.pack msg pack n).packLen = n
  program : l.pack msg pack n = runPack pack n (do
    putFields (l.stores (l.fields msg))
    return skTapiPackErrSuccess)
  noWrap : ∀ before f after s, l.stores (l.fields msg) = before ++ f :: after →
    (putFields before).run.run ⟨pack, 0, n⟩ = (.ok (), s) →
      s.byteCnt = before.flatten.length ∧ u32 (s.byteCnt + f.length) = s.byteCnt + f.length

/-- The decoder of `l` on `packLen` bytes. -/
structure UnpackRespects (l : Layout) (msg : SkMsg) (pack : Mem) (packLen : Nat) : Prop where
  accepts : (l.unpack pack packLen msg).status = skTapiPackErrSuccess ↔ l.wireLength ≤ packLen
  inside : ∀ pack', (∀ a < packLen, pack a = pack' a) →
    l.unpack pack packLen msg = l.unpack pack' packLen msg
  program : packLen ≠ 0 → l.unpack pack packLen msg = runUnpack pack packLen msg (do
    getFields l.reads
    return skTapiPackErrSuccess)
  noWrap : ∀ before f after s, l.reads = before ++ f :: after →
    (getFields before).run.run ⟨pack, 0, packLen, msg⟩ = (.ok (), s) →
      s.byteCnt = totalWidth before ∧ u32 (s.byteCnt + f.1) = s.byteCnt + f.1

/-! ## Stores and reads of a prefix -/

theorem byteCnt_of_putFields {fields : List (List UInt8)} {pack : Mem} {n : Nat} {s : PackState}
    (hlen : fields.flatten.length < 4294967296)
    (h : (putFields fields).run.run ⟨pack, 0, n⟩ = (.ok (), s)) :
    s.byteCnt = fields.flatten.length := by
  rw [putFields_eq, putFieldsOr_run _ _ _ (by simpa using hlen) (Nat.zero_le n)] at h
  split at h
  · cases h
    exact Nat.zero_add _
  · cases h

theorem byteCnt_of_getFields {τ : Type} {fields : List (Field τ)} {pack : Mem} {packLen : Nat}
    {out : τ} {s : UnpackState τ} (hlen : totalWidth fields < 4294967296)
    (h : (getFields fields).run.run ⟨pack, 0, packLen, out⟩ = (.ok (), s)) :
    s.byteCnt = totalWidth fields := by
  rw [getFields_eq, getFieldsOr_run _ _ _ (by simpa using hlen) (Nat.zero_le packLen)] at h
  split at h
  · cases h
    exact Nat.zero_add _
  · cases h

/-! ## Every layout respects them -/

namespace Layout

theorem pack_program (l : Layout) (msg : SkMsg) (pack : Mem) (n : Nat) :
    l.pack msg pack n = runPack pack n (do
      putFields (l.stores (l.fields msg))
      return skTapiPackErrSuccess) := by
  have hlen : (l.stores (l.fields msg)).flatten.length < 4294967296 := by
    rw [length_stores]
    exact l.wireLength_lt
  rw [pack_eq, runPack_putFields _ _ _ hlen]

theorem pack_noWrap (l : Layout) (msg : SkMsg) {pack : Mem} {n : Nat}
    {before after : List (List UInt8)} {f : List UInt8} {s : PackState}
    (hfields : l.stores (l.fields msg) = before ++ f :: after)
    (h : (putFields before).run.run ⟨pack, 0, n⟩ = (.ok (), s)) :
    s.byteCnt = before.flatten.length ∧ u32 (s.byteCnt + f.length) = s.byteCnt + f.length := by
  have htotal := l.length_stores (l.fields msg)
  have hbound := l.wireLength_lt
  rw [hfields, List.flatten_append, List.flatten_cons, List.length_append,
    List.length_append] at htotal
  have hcnt := byteCnt_of_putFields (by omega) h
  exact ⟨hcnt, Nat.mod_eq_of_lt (by omega)⟩

theorem pack_respects (l : Layout) (msg : SkMsg) (pack : Mem) (n : Nat) :
    PackRespects l msg pack n where
  accepts := by
    by_cases hfit : l.wireLength ≤ n
    · rw [l.pack_of_le msg pack n hfit]
      exact ⟨fun _ => hfit, fun _ => rfl⟩
    · have hfailed : skTapiPackErrFailed ≠ skTapiPackErrSuccess := by decide
      rw [l.pack_of_lt msg pack n (Nat.lt_of_not_le hfit)]
      exact ⟨fun h => absurd h hfailed, fun h => absurd h hfit⟩
  inside := by
    intro a ha
    have hroom := length_fitting_le n (l.stores (l.fields msg))
    rw [pack_eq, (packFields_pack _ _ _).1]
    exact Mem.write_outside _ _ _ _ (Or.inr (by omega))
  kept := fun h => by rw [l.pack_of_lt msg pack n h]
  program := l.pack_program msg pack n
  noWrap := fun _ _ _ _ => l.pack_noWrap msg

theorem unpack_program (l : Layout) (msg : SkMsg) (pack : Mem) {packLen : Nat}
    (hlen : packLen ≠ 0) :
    l.unpack pack packLen msg = runUnpack pack packLen msg (do
      getFields l.reads
      return skTapiPackErrSuccess) := by
  have hwidth : totalWidth l.reads < 4294967296 := by
    rw [totalWidth_reads]
    exact l.wireLength_lt
  rw [unpack_eq l pack packLen msg hlen, runUnpack_getFields _ _ _ _ hwidth]

/-- Some decoders look at the length first, the others find no room for a field. -/
theorem unpack_empty (l : Layout) (msg : SkMsg) (pack pack' : Mem) :
    l.unpack pack 0 msg = l.unpack pack' 0 msg := by
  cases l <;> rfl

theorem unpack_congr (l : Layout) (msg : SkMsg) {pack pack' : Mem} {packLen : Nat}
    (h : ∀ a < packLen, pack a = pack' a) :
    l.unpack pack packLen msg = l.unpack pack' packLen msg := by
  by_cases hlen : packLen = 0
  · rw [hlen]
    exact l.unpack_empty msg pack pack'
  · have hwidth : totalWidth l.reads < 4294967296 := by
      rw [totalWidth_reads]
      exact l.wireLength_lt
    rw [l.unpack_program msg pack hlen, l.unpack_program msg pack' hlen,
      getFields_eq, runUnpack_getFieldsOr _ _ _ _ _ hwidth, runUnpack_getFieldsOr _ _ _ _ _ hwidth,
      assignFields_complete_congr h]
    split
    · next hfit =>
      rw [assignFields_congr (fun a ha => h a (by omega))]
    · rfl

theorem unpack_noWrap (l : Layout) {msg : SkMsg} {pack : Mem} {packLen : Nat}
    {before after : List (Field SkMsg)} {f : Field SkMsg} {s : UnpackState SkMsg}
    (hfields : l.reads = before ++ f :: after)
    (h : (getFields before).run.run ⟨pack, 0, packLen, msg⟩ = (.ok (), s)) :
    s.byteCnt = totalWidth before ∧ u32 (s.byteCnt + f.1) = s.byteCnt + f.1 := by
  have htotal := l.totalWidth_reads
  have hbound := l.wireLength_lt
  rw [hfields, totalWidth, List.map_append, List.sum_append, List.map_cons,
    List.sum_cons] at htotal
  have hwidth : totalWidth before = (before.map Prod.fst).sum := rfl
  have hcnt := byteCnt_of_getFields (by omega) h
  exact ⟨hcnt, Nat.mod_eq_of_lt (by omega)⟩

theorem unpack_respects (l : Layout) (msg : SkMsg) (pack : Mem) (packLen : Nat) :
    UnpackRespects l msg pack packLen where
  accepts := by
    by_cases hfit : l.wireLength ≤ packLen
    · rw [l.unpack_of_le pack packLen msg hfit]
      exact ⟨fun _ => hfit, fun _ => rfl⟩
    · have hfailed := l.unpack_of_lt pack packLen msg (Nat.lt_of_not_le hfit)
      exact ⟨fun h => absurd h hfailed, fun h => absurd h hfit⟩
  inside := fun _ => l.unpack_congr msg
  program := l.unpack_program msg pack
  noWrap := fun _ _ _ _ => l.unpack_noWrap

end Layout

/-- Encoder and decoder of every layout take exactly the lengths from its wire
length on, and neither stores nor reads past the limit it is given. -/
theorem tapi_codec_limits (l : Layout) (msg : SkMsg) (pack : Mem) (n : Nat) :
    PackRespects l msg pack n ∧ UnpackRespects l msg pack n :=
  ⟨l.pack_respects msg pack n, l.unpack_respects msg pack n⟩

end SkSdk
