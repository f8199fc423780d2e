import SkSdk.Both.TapiBytePack
import SkSdk.Both.TapiByteUnpack

/-!
The wire layouts of the TAPI messages. `Layout.format` says what each layout
is as a byte format; the encoders and the decoders, which are written
independently of each other, are both shown to compute it.
-/

namespace SkSdk
open ByteMemory Format

/-- The message families in both directions, and the system message. -/
inductive Layout
  | openContextReq | openContextResp
  | closeContextReq | closeContextResp
  | openSessionReq | openSessionResp
  | closeSessionReq | closeSessionResp
  | invokeCommandReq | invokeCommandResp
  | registerMemoryReq | registerMemoryResp
  | unregisterMemoryReq | unregisterMemoryResp
  | checkReq | checkResp
  | sysTapi
  deriving DecidableEq

namespace Layout

/-- The `type` argument that selects a layout. -/
def type : Layout → UInt8
  | openContextReq | closeContextReq | openSessionReq | closeSessionReq | invokeCommandReq
  | registerMemoryReq | unregisterMemoryReq | checkReq => skTapiMsgReqType
  | sysTapi => skTapiSystem.toUInt8
  | _ => skTapiMsgRespType

def pack (l : Layout) (msg : SkMsg) (pack : Mem) (packLen : Nat) : Packed :=
  match l with
  | openContextReq | openContextResp => skTapiOpenContextPack msg pack packLen l.type
  | closeContextReq | closeContextResp => skTapiCloseContextPack msg pack packLen l.type
  | openSessionReq | openSessionResp => skTapiOpenSessionPack msg pack packLen l.type
  | closeSessionReq | closeSessionResp => skTapiCloseSessionPack msg pack packLen l.type
  | invokeCommandReq | invokeCommandResp => skTapiInvokeCommandPack msg pack packLen l.type
  | registerMemoryReq | registerMemoryResp => skTapiRegisterMemoryPack msg pack packLen l.type
  | unregisterMemoryReq | unregisterMemoryResp =>
    skTapiUnregisterMemoryPack msg pack packLen l.type
  | checkReq | checkResp => skTapiCheckPack msg pack packLen l.type
  | sysTapi => skTapiSysTapiPack msg pack packLen l.type

def unpack (l : Layout) (pack : Mem) (packLen : Nat) (msg : SkMsg) : Unpacked SkMsg :=
  match l with
  | openContextReq | openContextResp => skTapiOpenContextUnpack pack packLen msg l.type
  | closeContextReq | closeContextResp => skTapiCloseContextUnpack pack packLen msg l.type
  | openSessionReq | openSessionResp => skTapiOpenSessionUnpack pack packLen msg l.type
  | closeSessionReq | closeSessionResp => skTapiCloseSessionUnpack pack packLen msg l.type
  | invokeCommandReq | invokeCommandResp => skTapiInvokeCommandUnpack pack packLen msg l.type
  | registerMemoryReq | registerMemoryResp => skTapiRegisterMemoryUnpack pack packLen msg l.type
  | unregisterMemoryReq | unregisterMemoryResp =>
    skTapiUnregisterMemoryUnpack pack packLen msg l.type
  | checkReq | checkResp => skTapiCheckUnpack pack packLen msg l.type
  | sysTapi => skTapiSysTapiUnpack pack packLen msg l.type

/-- The members that travel behind the header. -/
abbrev Fields : Layout → Type
  | openContextReq => UInt32
  | openContextResp => Handle × Int32
  | closeContextReq => Handle
  | openSessionReq => Handle × SkTaid
  | openSessionResp => Handle × Int32
  | closeSessionReq => Handle × Handle
  | invokeCommandReq => Handle × Handle × UInt32
  | registerMemoryReq => Handle × UInt32 × UInt32 × UInt32
  | registerMemoryResp => UInt32 × MemoryId × Int32
  | unregisterMemoryReq => Handle × MemoryId
  | checkReq => Unit
  | closeContextResp | closeSessionResp | invokeCommandResp | unregisterMemoryResp | checkResp
  | sysTapi => Int32

/-- The header and those members of a message. -/
def fields (l : Layout) (msg : SkMsg) : SkHeader × l.Fields :=
  (msg.hdr, match l with
    | openContextReq => msg.type.openContext.req.contextId
    | openContextResp =>
      (msg.type.openContext.resp.contextHandle, msg.type.openContext.resp.status)
    | closeContextReq => msg.type.closeContext.req.contextHandle
    | closeContextResp => msg.type.closeContext.resp.status
    | openSessionReq => (msg.type.openSession.req.contextHandle, msg.type.openSession.req.taid)
    | openSessionResp =>
      (msg.type.openSession.resp.sessionHandle, msg.type.openSession.resp.status)
    | closeSessionReq =>
      (msg.type.closeSession.req.contextHandle, msg.type.closeSession.req.sessionHandle)
    | closeSessionResp => msg.type.closeSession.resp.status
    | invokeCommandReq =>
      (msg.type.invokeCmd.req.contextHandle, msg.type.invokeCmd.req.sessionHandle,
        msg.type.invokeCmd.req.cmd)
    | invokeCommandResp => msg.type.invokeCmd.resp.status
    | registerMemoryReq =>
      (msg.type.registerMemory.req.contextHandle, msg.type.registerMemory.req.memorySize,
        msg.type.registerMemory.req.flag, msg.type.registerMemory.req.addr)
    | registerMemoryResp =>
      (msg.type.registerMemory.resp.addr, msg.type.registerMemory.resp.memoryId,
        msg.type.registerMemory.resp.status)
    | unregisterMemoryReq =>
      (msg.type.unregisterMemory.req.contextHandle, msg.type.unregisterMemory.req.memoryId)
    | unregisterMemoryResp => msg.type.unregisterMemory.resp.status
    | checkReq => ()
    | checkResp => msg.type.sysCheck.resp.status
    | sysTapi => msg.type.sysTapi.resp.status)

abbrev wireLength : Layout → Nat
  | openContextReq => 16
  | openContextResp => 32
  | closeContextReq => 28
  | closeContextResp => 16
  | openSessionReq => 44
  | openSessionResp => 32
  | closeSessionReq => 44
  | closeSessionResp => 16
  | invokeCommandReq => 48
  | invokeCommandResp => 16
  | registerMemoryReq => 40
  | registerMemoryResp => 36
  | unregisterMemoryReq => 44
  | unregisterMemoryResp => 16
  | checkReq => 12
  | checkResp => 16
  | sysTapi => 16

/-! ## The layouts as formats -/

def headerFormat : Format SkHeader 12 :=
  (Format.be32.seq (Format.be32.seq Format.be32)).iso
    { toFun := fun p => ⟨p.1, p.2.1, p.2.2⟩
      invFun := fun h => (h.contextId, h.smId, h.cmd)
      left_inv := fun _ => rfl
      right_inv := fun _ => rfl }

def format : (l : Layout) → Format (SkHeader × l.Fields) l.wireLength
  | openContextReq => headerFormat.seq be32
  | openContextResp => headerFormat.seq ((blk 16).seq beInt32)
  | closeContextReq => headerFormat.seq (blk 16)
  | openSessionReq => headerFormat.seq ((blk 16).seq (blk 16))
  | openSessionResp => headerFormat.seq ((blk 16).seq beInt32)
  | closeSessionReq => headerFormat.seq ((blk 16).seq (blk 16))
  | invokeCommandReq => headerFormat.seq ((blk 16).seq ((blk 16).seq be32))
  | registerMemoryReq => headerFormat.seq ((blk 16).seq (be32.seq (be32.seq be32)))
  | registerMemoryResp => headerFormat.seq (be32.seq ((blk 16).seq beInt32))
  | unregisterMemoryReq => headerFormat.seq ((blk 16).seq (blk 16))
  | checkReq => headerFormat.seq Format.unit
  | closeContextResp | closeSessionResp | invokeCommandResp | unregisterMemoryResp | checkResp
  | sysTapi => headerFormat.seq beInt32

/-! ## The encoders compute the format -/

/-- The stored members, in the order of the stores. -/
def stores (l : Layout) (v : SkHeader × l.Fields) : List (List UInt8) :=
  be32.enc v.1.contextId :: be32.enc v.1.smId :: be32.enc v.1.cmd ::
  match l, v with
  | openContextReq, (_, contextId) => [be32.enc contextId]
  | openContextResp, (_, contextHandle, status) =>
    [List.ofFn contextHandle, beInt32.enc status]
  | closeContextReq, (_, contextHandle) => [List.ofFn contextHandle]
  | openSessionReq, (_, contextHandle, taid) => [List.ofFn contextHandle, List.ofFn taid]
  | openSessionResp, (_, sessionHandle, status) =>
    [List.ofFn sessionHandle, beInt32.enc status]
  | closeSessionReq, (_, contextHandle, sessionHandle) =>
    [List.ofFn contextHandle, List.ofFn sessionHandle]
  | invokeCommandReq, (_, contextHandle, sessionHandle, cmd) =>
    [List.ofFn contextHandle, List.ofFn sessionHandle, be32.enc cmd]
  | registerMemoryReq, (_, contextHandle, memorySize, flag, addr) =>
    [List.ofFn contextHandle, be32.enc memorySize, be32.enc flag, be32.enc addr]
  | registerMemoryResp, (_, addr, memoryId, status) =>
    [be32.enc addr, List.ofFn memoryId, beInt32.enc status]
  | unregisterMemoryReq, (_, contextHandle, memoryId) =>
    [List.ofFn contextHandle, List.ofFn memoryId]
  | checkReq, _ => []
  | closeContextResp, (_, status) | closeSessionResp, (_, status)
  | invokeCommandResp, (_, status) | unregisterMemoryResp, (_, status)
  | checkResp, (_, status) | sysTapi, (_, status) => [beInt32.enc status]

theorem flatten_stores (l : Layout) (v : SkHeader × l.Fields) :
    (l.stores v).flatten = l.format.enc v := by
  cases l <;>
    simp only [stores, format, headerFormat, Format.seq, Format.iso, Format.blk, Format.unit,
      Equiv.coe_fn_symm_mk, List.flatten_cons, List.flatten_nil, List.append_assoc,
      List.append_nil]

theorem length_stores (l : Layout) (v : SkHeader × l.Fields) :
    (l.stores v).flatten.length = l.wireLength := by
  rw [flatten_stores, l.format.length_enc]

theorem wireLength_lt (l : Layout) : l.wireLength < 4294967296 := by
  cases l <;> decide

private theorem respType_ne_reqType : skTapiMsgRespType ≠ skTapiMsgReqType := by decide

private theorem systemType_eq : skTapiSystem.toUInt8.toUInt32 = skTapiSystem := rfl

theorem pack_eq (l : Layout) (msg : SkMsg) (pack : Mem) (packLen : Nat) :
    l.pack msg pack packLen = packFields pack packLen (l.stores (l.fields msg)) := by
  have hlen : (l.stores (l.fields msg)).flatten.length < 4294967296 := by
    rw [length_stores]
    exact l.wireLength_lt
  rw [← runPack_putFields pack packLen (l.stores (l.fields msg)) hlen]
  cases l <;>
    simp only [Layout.pack, stores, fields, type, skTapiSysTapiPack, skTapiOpenContextPack,
      skTapiCloseContextPack, skTapiOpenSessionPack, skTapiCloseSessionPack,
      skTapiInvokeCommandPack, skTapiRegisterMemoryPack, skTapiUnregisterMemoryPack,
      skTapiCheckPack, store_eq, storeInt_eq, storeBuf_eq, putFields, systemType_eq,
      if_neg respType_ne_reqType, ↓reduceIte, bind_assoc, pure_bind]

/-! ## The decoders compute the format -/

/-- The members read, in the order of the reads. -/
def reads (l : Layout) : List (Field SkMsg) :=
  (4, fun bs m => { m with hdr.contextId := be32.dec bs }) ::
  (4, fun bs m => { m with hdr.smId := be32.dec bs }) ::
  (4, fun bs m => { m with hdr.cmd := be32.dec bs }) ::
  match l with
  | openContextReq => [(4, fun bs m => { m with type.openContext.req.contextId := be32.dec bs })]
  | openContextResp =>
    [(16, fun bs m => { m with type.openContext.resp.contextHandle := (blk 16).dec bs }),
      (4, fun bs m => { m with type.openContext.resp.status := beInt32.dec bs })]
  | closeContextReq =>
    [(16, fun bs m => { m with type.closeContext.req.contextHandle := (blk 16).dec bs })]
  | closeContextResp =>
    [(4, fun bs m => { m with type.closeContext.resp.status := beInt32.dec bs })]
  | openSessionReq =>
    [(16, fun bs m => { m with type.openSession.req.contextHandle := (blk 16).dec bs }),
      (16, fun bs m => { m with type.openSession.req.taid := (blk 16).dec bs })]
  | openSessionResp =>
    [(16, fun bs m => { m with type.openSession.resp.sessionHandle := (blk 16).dec bs }),
      (4, fun bs m => { m with type.openSession.resp.status := beInt32.dec bs })]
  | closeSessionReq =>
    [(16, fun bs m => { m with type.closeSession.req.contextHandle := (blk 16).dec bs }),
      (16, fun bs m => { m with type.closeSession.req.sessionHandle := (blk 16).dec bs })]
  | closeSessionResp =>
    [(4, fun bs m => { m with type.closeSession.resp.status := beInt32.dec bs })]
  | invokeCommandReq =>
    [(16, fun bs m => { m with type.invokeCmd.req.contextHandle := (blk 16).dec bs }),
      (16, fun bs m => { m with type.invokeCmd.req.sessionHandle := (blk 16).dec bs }),
      (4, fun bs m => { m with type.invokeCmd.req.cmd := be32.dec bs })]
  | invokeCommandResp =>
    [(4, fun bs m => { m with type.invokeCmd.resp.status := beInt32.dec bs })]
  | registerMemoryReq =>
    [(16, fun bs m => { m with type.registerMemory.req.contextHandle := (blk 16).dec bs }),
      (4, fun bs m => { m with type.registerMemory.req.memorySize := be32.dec bs }),
      (4, fun bs m => { m with type.registerMemory.req.flag := be32.dec bs }),
      (4, fun bs m => { m with type.registerMemory.req.addr := be32.dec bs })]
  | registerMemoryResp =>
    [(4, fun bs m => { m with type.registerMemory.resp.addr := be32.dec bs }),
      (16, fun bs m => { m with type.registerMemory.resp.memoryId := (blk 16).dec bs }),
      (4, fun bs m => { m with type.registerMemory.resp.status := beInt32.dec bs })]
  | unregisterMemoryReq =>
    [(16, fun bs m => { m with type.unregisterMemory.req.contextHandle := (blk 16).dec bs }),
      (16, fun bs m => { m with type.unregisterMemory.req.memoryId := (blk 16).dec bs })]
  | unregisterMemoryResp =>
    [(4, fun bs m => { m with type.unregisterMemory.resp.status := beInt32.dec bs })]
  | checkReq => []
  | checkResp => [(4, fun bs m => { m with type.sysCheck.resp.status := beInt32.dec bs })]
  | sysTapi => [(4, fun bs m => { m with type.sysTapi.resp.status := beInt32.dec bs })]

theorem totalWidth_reads (l : Layout) : totalWidth l.reads = l.wireLength := by
  cases l <;> rfl

/-- The message a complete read leaves. -/
def decoded (l : Layout) (pack : Mem) (msg : SkMsg) : SkMsg := assignFields pack 0 l.reads msg

theorem fields_decoded (l : Layout) (pack : Mem) (msg : SkMsg) :
    l.fields (l.decoded pack msg) = l.format.get pack 0 := by
  cases l <;> (
    simp only [format, get_seq, headerFormat, get_iso, get_unit, Equiv.coe_fn_mk, Nat.zero_add,
      Nat.reduceAdd]
    rfl)

/-- Some decoders report an empty buffer with a status of its own. -/
theorem unpack_eq (l : Layout) (pack : Mem) (packLen : Nat) (msg : SkMsg) (hlen : packLen ≠ 0) :
    l.unpack pack packLen msg = unpackFields pack packLen 0 l.reads msg := by
  have hwidth : totalWidth l.reads < 4294967296 := by
    rw [totalWidth_reads]
    exact l.wireLength_lt
  rw [← runUnpack_getFields pack packLen msg l.reads hwidth]
  cases l <;>
    simp only [Layout.unpack, reads, type, skTapiSysTapiUnpack, skTapiOpenContextUnpack,
      skTapiCloseContextUnpack, skTapiOpenSessionUnpack, skTapiCloseSessionUnpack,
      skTapiInvokeCommandUnpack, skTapiRegisterMemoryUnpack, skTapiUnregisterMemoryUnpack,
      skTapiCheckUnpack, read_eq, readInt_eq, readBuf_eq, getFields, systemType_eq, if_neg hlen,
      if_neg respType_ne_reqType, ↓reduceIte, bind_assoc, pure_bind]

theorem header_le_wireLength (l : Layout) : 12 ≤ l.wireLength := by
  cases l <;> decide

theorem unpack_of_le (l : Layout) (pack : Mem) (packLen : Nat) (msg : SkMsg)
    (h : l.wireLength ≤ packLen) :
    l.unpack pack packLen msg = ⟨skTapiPackErrSuccess, l.decoded pack msg⟩ := by
  have hmin := l.header_le_wireLength
  rw [unpack_eq l pack packLen msg (by omega), unpackFields_of_le _ _ _ _ _ (by
    rw [totalWidth_reads]; omega), decoded]

theorem unpack_of_lt (l : Layout) (pack : Mem) (packLen : Nat) (msg : SkMsg)
    (h : packLen < l.wireLength) :
    (l.unpack pack packLen msg).status ≠ skTapiPackErrSuccess := by
  by_cases hlen : packLen = 0
  · subst hlen
    have hstatus : (l.unpack pack 0 msg).status = skTapiPackErrFailed ∨
        (l.unpack pack 0 msg).status = skTapiPackErrInvalidParams := by
      cases l <;> first | exact Or.inl rfl | exact Or.inr rfl
    rcases hstatus with he | he <;> rw [he] <;> decide
  · rw [unpack_eq l pack packLen msg hlen, unpackFields_of_lt _ _ _ _ _ (Nat.zero_le _) (by
      rw [totalWidth_reads]; omega)]
    decide

theorem pack_of_le (l : Layout) (msg : SkMsg) (pack : Mem) (packLen : Nat)
    (h : l.wireLength ≤ packLen) :
    l.pack msg pack packLen =
      ⟨skTapiPackErrSuccess, pack.write 0 (l.format.enc (l.fields msg)), l.wireLength⟩ := by
  rw [pack_eq, packFields, if_pos (by rw [length_stores]; exact h), length_stores, flatten_stores]

theorem pack_of_lt (l : Layout) (msg : SkMsg) (pack : Mem) (packLen : Nat)
    (h : packLen < l.wireLength) :
    l.pack msg pack packLen =
      ⟨skTapiPackErrFailed, pack.write 0 (fitting packLen (l.stores (l.fields msg))), packLen⟩ := by
  rw [pack_eq, packFields, if_neg (by rw [length_stores]; omega)]

theorem decoded_hdr (l : Layout) (pack : Mem) (msg : SkMsg) :
    (l.decoded pack msg).hdr = headerFormat.get pack 0 := by
  rw [headerFormat, get_iso, get_seq, get_seq]
  cases l <;> rfl

end Layout

private theorem skTapiHeaderUnpack_eq (pack : Mem) (packLen : Nat) (hdr : SkHeader) :
    skTapiHeaderUnpack pack packLen hdr = unpackFields pack packLen 0
      [(4, fun bs h => { h with contextId := be32.dec bs }),
        (4, fun bs h => { h with smId := be32.dec bs }),
        (4, fun bs h => { h with cmd := be32.dec bs })] hdr := by
  rw [← runUnpack_getFields _ _ _ _ (by decide)]
  simp only [skTapiHeaderUnpack, read_eq, getFields, bind_assoc, pure_bind]

theorem skTapiHeaderUnpack_of_le (pack : Mem) (packLen : Nat) (hdr : SkHeader)
    (h : 12 ≤ packLen) :
    skTapiHeaderUnpack pack packLen hdr =
      ⟨skTapiPackErrSuccess, Layout.headerFormat.get pack 0⟩ := by
  rw [skTapiHeaderUnpack_eq, unpackFields_of_le _ _ _ _ _ (by simpa [totalWidth] using h),
    Layout.headerFormat, get_iso, get_seq, get_seq]
  rfl

theorem skTapiHeaderUnpack_of_lt (pack : Mem) (packLen : Nat) (hdr : SkHeader)
    (h : packLen < 12) :
    (skTapiHeaderUnpack pack packLen hdr).status = skTapiPackErrFailed := by
  rw [skTapiHeaderUnpack_eq]
  exact unpackFields_of_lt _ _ _ _ _ (Nat.zero_le _) (by simpa [totalWidth] using h)

/-- Encoder and decoder of every layout invert each other: what is packed is
read back from its own bytes, and what is read is packed into the bytes it was
read from. The header decoder reads the header of every layout. -/
theorem tapi_codec_bijective (l : Layout) :
    (∀ (msg : SkMsg) (buf : Mem) (capacity : Nat), l.wireLength ≤ capacity →
      let packed := l.pack msg buf capacity
      packed.status = skTapiPackErrSuccess ∧ packed.packLen = l.wireLength ∧
        ∀ (image : Mem) (out : SkMsg),
          image.read 0 packed.packLen = packed.pack.read 0 packed.packLen →
          (l.unpack image packed.packLen out).status = skTapiPackErrSuccess ∧
            l.fields (l.unpack image packed.packLen out).out = l.fields msg) ∧
    (∀ (bytes : List UInt8) (image : Mem) (out : SkMsg), image.read 0 bytes.length = bytes →
      l.wireLength ≤ bytes.length →
      let unpacked := l.unpack image bytes.length out
      unpacked.status = skTapiPackErrSuccess ∧
        (∀ (buf : Mem) (capacity : Nat), l.wireLength ≤ capacity →
          let packed := l.pack unpacked.out buf capacity
          packed.status = skTapiPackErrSuccess ∧
            packed.pack.read 0 packed.packLen = bytes.take l.wireLength) ∧
        ∀ hdr, skTapiHeaderUnpack image bytes.length hdr =
          ⟨skTapiPackErrSuccess, unpacked.out.hdr⟩) := by
  constructor
  · intro msg buf capacity hcap
    simp only [l.pack_of_le msg buf capacity hcap, true_and]
    intro image out himage
    rw [l.unpack_of_le image _ out (Nat.le_refl _)]
    refine ⟨rfl, ?_⟩
    have hbytes : image.read 0 l.wireLength = l.format.enc (l.fields msg) := by
      rw [himage, Mem.read_write_eq _ _ _ _ (l.format.length_enc _)]
    rw [l.fields_decoded, Format.get, hbytes, l.format.dec_enc]
  · intro bytes image out himage hlen
    simp only [l.unpack_of_le image _ out hlen, true_and]
    constructor
    · intro buf capacity hcap
      rw [l.pack_of_le _ buf capacity hcap]
      refine ⟨rfl, ?_⟩
      have hprefix : image.read 0 l.wireLength = bytes.take l.wireLength := by
        rw [← himage, Mem.take_read _ _ _ _ hlen]
      rw [Mem.read_write_eq _ _ _ _ (l.format.length_enc _), l.fields_decoded, l.format.enc_get,
        hprefix]
    · intro hdr
      have hmin := l.header_le_wireLength
      rw [skTapiHeaderUnpack_of_le _ _ _ (by omega), l.decoded_hdr]

/-- A refusal with a negative status in a 64-byte buffer, and twenty bytes of a reply. -/
theorem tapi_codec_bijective_closeContextResp :
    let msg := { SkMsg.zero with type.closeContext.resp.status := skErrorContextHandleNotFound }
    (Layout.closeContextResp.pack msg (Mem.ofList []) 64).packLen = 16 ∧
      (Layout.closeContextResp.unpack (Mem.ofList (List.replicate 20 255)) 20 msg).status =
        skTapiPackErrSuccess := by
  have hbytes : (Mem.ofList (List.replicate 20 255)).read 0 20 = List.replicate 20 255 := by
    decide
  have h := tapi_codec_bijective .closeContextResp
  exact ⟨(h.1 _ _ 64 (by decide)).2.1,
    (h.2 (List.replicate 20 255) _ _ hbytes (by decide)).1⟩

end SkSdk
