import SkSdk.Both.TapiBytePack
import SkSdk.Swld.TappToc

/-!
The manifest in front of a TApp as it is packed (`tapp_manifest_pack.c`). The
macros are those of the message codecs except for the status they return, so
the two functions are a list of stores and a list of reads as well.
-/

namespace SkSdk
open ByteMemory Format

/-! ## The encoder -/

/-- `STORE` of a member of `size` bytes. -/
def storeMember (size : Nat) (val : UInt64) : Packer Unit := do
  let s ← get
  let (cnt, obuffer) := sysvBytePut s.pack s.byteCnt s.packLen size val
  if cnt = 0 then throw skErrorInvalidParam
  set { s with pack := obuffer, byteCnt := u32 (s.byteCnt + cnt) }

/-- `STOREBUF` of a member. -/
def storeMemberBuf {len : Nat} (val : Blk len) : Packer Unit := do
  let s ← get
  if u32 (s.byteCnt + len) > s.packLen then throw skErrorInvalidParam
  set { s with pack := s.pack.write s.byteCnt (List.ofFn val), byteCnt := u32 (s.byteCnt + len) }

/-- `obufferSize` is what `*obuffer_size` holds before and `packLen` after it. -/
def tappManifestPackPut (tappData : TappsInfoData) (obuffer : Mem) (obufferSize : Nat) : Packed :=
  runPack obuffer obufferSize do
    storeMemberBuf tappData.taid
    storeMember 1 tappData.multiInstance.toUInt64
    storeMember 1 tappData.multiSession.toUInt64
    storeMember 4 tappData.maxHeapSize.toUInt64
    storeMember 4 tappData.maxStackSize.toUInt64
    storeMemberBuf tappData.serviceName
    storeMemberBuf tappData.vendorName
    storeMemberBuf tappData.description
    return skErrorSuccess

/-! ## The layout as a format -/

/-- A byte. -/
def byteFormat : Format UInt8 1 where
  enc v := [v]
  dec bs := bs.getD 0 0
  length_enc _ := rfl
  dec_enc _ := rfl
  enc_dec bs h := by
    obtain ⟨b, rfl⟩ := List.length_eq_one_iff.mp h
    rfl

def tappsInfoDataFormat : Format TappsInfoData tappsInfoDataSize :=
  ((blk 16).seq (byteFormat.seq (byteFormat.seq (be32.seq (be32.seq
    ((blk skTappMaxServiceName).seq ((blk skTappMaxVendorName).seq
      (blk skTappMaxDescriptionName)))))))).iso
    { toFun := fun p => ⟨p.1, p.2.1, p.2.2.1, p.2.2.2.1, p.2.2.2.2.1, p.2.2.2.2.2.1,
        p.2.2.2.2.2.2.1, p.2.2.2.2.2.2.2⟩
      invFun := fun d => (d.taid, d.multiInstance, d.multiSession, d.maxHeapSize, d.maxStackSize,
        d.serviceName, d.vendorName, d.description)
      left_inv := fun _ => rfl
      right_inv := fun _ => rfl }

/-- The stored members, in the order of the stores. -/
def manifestStores (d : TappsInfoData) : List (List UInt8) :=
  [List.ofFn d.taid, [d.multiInstance], [d.multiSession], be32.enc d.maxHeapSize,
    be32.enc d.maxStackSize, List.ofFn d.serviceName, List.ofFn d.vendorName,
    List.ofFn d.description]

theorem flatten_manifestStores (d : TappsInfoData) :
    (manifestStores d).flatten = tappsInfoDataFormat.enc d := by
  simp only [manifestStores, tappsInfoDataFormat, Format.seq, Format.iso, Format.blk, byteFormat,
    Equiv.coe_fn_symm_mk, List.flatten_cons, List.flatten_nil, List.append_nil]

/-- The members read, in the order of the reads. -/
def manifestReads : List (Field TappsInfoData) :=
  [(16, fun bs d => { d with taid := (blk 16).dec bs }),
    (1, fun bs d => { d with multiInstance := byteFormat.dec bs }),
    (1, fun bs d => { d with multiSession := byteFormat.dec bs }),
    (4, fun bs d => { d with maxHeapSize := be32.dec bs }),
    (4, fun bs d => { d with maxStackSize := be32.dec bs }),
    (256, fun bs d => { d with serviceName := (blk 256).dec bs }),
    (256, fun bs d => { d with vendorName := (blk 256).dec bs }),
    (512, fun bs d => { d with description := (blk 512).dec bs })]

theorem totalWidth_manifestReads : totalWidth manifestReads = tappsInfoDataSize := rfl

theorem assignFields_manifestReads (ibuffer : Mem) (d : TappsInfoData) :
    assignFields ibuffer 0 manifestReads d = tappsInfoDataFormat.get ibuffer 0 := by
  simp only [tappsInfoDataFormat, get_iso, get_seq, Equiv.coe_fn_mk, manifestReads, assignFields,
    Nat.zero_add, Nat.reduceAdd]
  rfl

/-! ## The functions compute the format -/

theorem storeMember_four (val : UInt32) :
    storeMember 4 val.toUInt64 = putFieldOr skErrorInvalidParam (be32.enc val) := by
  unfold storeMember putFieldOr
  simp only [sysvBytePut_eq _ _ _ 4 _ (by decide), be32.length_enc, UInt32.toNat_toUInt64]
  congr 1
  funext s
  split <;> rfl

theorem storeMember_one (val : UInt8) :
    storeMember 1 val.toUInt64 = putFieldOr skErrorInvalidParam [val] := by
  have hbytes : beBytes 1 val.toUInt64.toNat = [val] := by simp [beBytes]
  unfold storeMember putFieldOr
  simp only [sysvBytePut_eq _ _ _ 1 _ (by decide), hbytes, List.length_singleton]
  congr 1
  funext s
  split <;> rfl

theorem storeMemberBuf_eq {len : Nat} (val : Blk len) :
    storeMemberBuf val = putFieldOr skErrorInvalidParam (List.ofFn val) := by
  simp only [storeMemberBuf, putFieldOr, List.length_ofFn]

theorem tappManifestPackPut_eq (d : TappsInfoData) (obuffer : Mem) (obufferSize : Nat) :
    tappManifestPackPut d obuffer obufferSize =
      if tappsInfoDataSize ≤ obufferSize then
        ⟨skErrorSuccess, obuffer.write 0 (tappsInfoDataFormat.enc d), tappsInfoDataSize⟩
      else ⟨skErrorInvalidParam, obuffer.write 0 (fitting obufferSize (manifestStores d)),
        obufferSize⟩ := by
  have hlen : (manifestStores d).flatten.length = tappsInfoDataSize := by
    rw [flatten_manifestStores, tappsInfoDataFormat.length_enc]
  have hrun := runPack_putFieldsOr skErrorInvalidParam obuffer obufferSize (manifestStores d)
    (by rw [hlen]; decide)
  rw [hlen, flatten_manifestStores] at hrun
  rw [← hrun]
  simp only [tappManifestPackPut, manifestStores, storeMember_four, storeMember_one,
    storeMemberBuf_eq, putFieldsOr, bind_assoc, pure_bind]

theorem readMember_four (assign : UInt32 → TappsInfoData → TappsInfoData) :
    readMember 4 (fun v => assign v.toUInt32) =
      getFieldOr skErrorInvalidParam (4, fun bs => assign (be32.dec bs)) := by
  simp only [readMember, getFieldOr, sysvByteGet_four, Format.get]

theorem readMember_one (assign : UInt8 → TappsInfoData → TappsInfoData) :
    readMember 1 (fun v => assign v.toUInt8) =
      getFieldOr skErrorInvalidParam (1, fun bs => assign (byteFormat.dec bs)) := by
  have hbyte (m : Mem) (off : Nat) :
      (sysvByteGet (m.ptr off) 1).toUInt8 = byteFormat.get m off := by
    apply UInt8.toNat_inj.mp
    rw [UInt64.toNat_toUInt8, sysvByteGet_of_le_four m off (by decide)]
    simp [Mem.read, beNat, Format.get, byteFormat]
  simp only [readMember, getFieldOr, hbyte, Format.get]

theorem readMemberBuf_eq {len : Nat} (assign : Blk len → TappsInfoData → TappsInfoData) :
    readMemberBuf assign =
      getFieldOr skErrorInvalidParam (len, fun bs => assign ((Format.blk len).dec bs)) := by
  simp only [readMemberBuf, getFieldOr, ← Format.get_blk, Format.get]

/-- An empty buffer, which the function refuses first, has no complete member either. -/
theorem tappManifestPackGet_eq (ibuffer : Mem) (ibufferSize : Nat) (d : TappsInfoData) :
    tappManifestPackGet ibuffer ibufferSize d =
      if tappsInfoDataSize ≤ ibufferSize then
        ⟨skErrorSuccess, tappsInfoDataFormat.get ibuffer 0⟩
      else ⟨skErrorInvalidParam,
        assignFields ibuffer 0 (complete ibufferSize 0 manifestReads) d⟩ := by
  by_cases hempty : ibufferSize = 0
  · subst hempty
    rfl
  · have hrun := runUnpack_getFieldsOr skErrorInvalidParam ibuffer ibufferSize d manifestReads
      (by rw [totalWidth_manifestReads]; decide)
    rw [totalWidth_manifestReads, assignFields_manifestReads] at hrun
    rw [← hrun, tappManifestPackGet, if_neg hempty]
    simp only [manifestReads, getFieldsOr, bind_assoc, pure_bind, readMemberBuf_eq,
      readMember_one fun v d => { d with multiInstance := v },
      readMember_one fun v d => { d with multiSession := v },
      readMember_four fun v d => { d with maxHeapSize := v },
      readMember_four fun v d => { d with maxStackSize := v }]

theorem status_tappManifestPackGet (ibuffer : Mem) (ibufferSize : Nat) (d : TappsInfoData) :
    (tappManifestPackGet ibuffer ibufferSize d).status = skErrorSuccess ↔
      tappsInfoDataSize ≤ ibufferSize := by
  have hrefused : skErrorInvalidParam ≠ skErrorSuccess := by decide
  rw [tappManifestPackGet_eq]
  split
  · next hlen => exact ⟨fun _ => hlen, fun _ => rfl⟩
  · next hlen => exact ⟨fun h => absurd h hrefused, fun h => absurd h hlen⟩

/-! ## The codec -/

/-- Packing and unpacking a manifest invert each other, both for exactly the
lengths from `tappsInfoDataSize` on. Nothing past the packed manifest is written
and nothing past the given bytes counts. -/
theorem tapp_manifest_codec :
    (∀ (d : TappsInfoData) (obuffer : Mem) (n : Nat),
      let packed := tappManifestPackPut d obuffer n
      (packed.status = skErrorSuccess ↔ tappsInfoDataSize ≤ n) ∧
      (∀ a, min n tappsInfoDataSize ≤ a → packed.pack a = obuffer a) ∧
      (tappsInfoDataSize ≤ n → packed.packLen = tappsInfoDataSize ∧
        ∀ (ibuffer : Mem) (out : TappsInfoData),
          ibuffer.read 0 packed.packLen = packed.pack.read 0 packed.packLen →
          tappManifestPackGet ibuffer packed.packLen out = ⟨skErrorSuccess, d⟩)) ∧
    (∀ (bytes : List UInt8) (ibuffer : Mem) (out : TappsInfoData),
      ibuffer.read 0 bytes.length = bytes →
      let unpacked := tappManifestPackGet ibuffer bytes.length out
      (unpacked.status = skErrorSuccess ↔ tappsInfoDataSize ≤ bytes.length) ∧
      (∀ ibuffer' : Mem, ibuffer'.read 0 bytes.length = bytes →
        tappManifestPackGet ibuffer' bytes.length out = unpacked) ∧
      (tappsInfoDataSize ≤ bytes.length →
        ∀ (obuffer : Mem) (n : Nat), tappsInfoDataSize ≤ n →
          tappManifestPackPut unpacked.out obuffer n = ⟨skErrorSuccess,
            obuffer.write 0 (bytes.take tappsInfoDataSize), tappsInfoDataSize⟩)) := by
  have hrefused : skErrorInvalidParam ≠ skErrorSuccess := by decide
  refine ⟨fun d obuffer n => ?_, fun bytes ibuffer out hbytes => ?_⟩
  · rw [tappManifestPackPut_eq]
    by_cases hfit : tappsInfoDataSize ≤ n
    · rw [if_pos hfit]
      refine ⟨⟨fun _ => hfit, fun _ => rfl⟩, fun a ha => ?_,
        fun _ => ⟨rfl, fun ibuffer out h => ?_⟩⟩
      · rw [Nat.min_eq_right hfit] at ha
        exact Mem.write_outside _ _ _ _ (Or.inr (by rw [tappsInfoDataFormat.length_enc]; omega))
      · simp only at h ⊢
        rw [Mem.read_write_eq _ _ _ _ (tappsInfoDataFormat.length_enc d)] at h
        rw [tappManifestPackGet_eq, if_pos (Nat.le_refl _), Format.get, h,
          tappsInfoDataFormat.dec_enc]
    · have hroom := length_fitting_le n (manifestStores d)
      rw [if_neg hfit]
      refine ⟨⟨fun h => absurd h hrefused, fun h => absurd h hfit⟩, fun a ha => ?_,
        fun h => absurd h hfit⟩
      exact Mem.write_outside _ _ _ _ (Or.inr (by omega))
  · have hagree (ibuffer' : Mem) (h : ibuffer'.read 0 bytes.length = bytes) :
        ∀ a < bytes.length, ibuffer' a = ibuffer a := fun a ha => by
      have hread := h.trans hbytes.symm
      have hbyte := congrArg (fun l => l[a]?) hread
      simpa [Mem.read, ha] using hbyte
    refine ⟨status_tappManifestPackGet _ _ _, fun ibuffer' h => ?_, fun hlen obuffer n hfit => ?_⟩
    · rw [tappManifestPackGet_eq, tappManifestPackGet_eq,
        assignFields_complete_congr (hagree ibuffer' h)]
      split
      · next hlen =>
        rw [← assignFields_manifestReads ibuffer' out, ← assignFields_manifestReads ibuffer out,
          assignFields_congr fun a ha => hagree ibuffer' h a (by
            rw [totalWidth_manifestReads] at ha
            omega)]
      · rfl
    · have hprefix : ibuffer.read 0 tappsInfoDataSize = bytes.take tappsInfoDataSize := by
        rw [← hbytes, Mem.take_read _ _ _ _ hlen]
      rw [tappManifestPackGet_eq, if_pos hlen, tappManifestPackPut_eq, if_pos hfit,
        tappsInfoDataFormat.enc_get, hprefix]

end SkSdk
