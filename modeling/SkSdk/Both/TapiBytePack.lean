import SkSdk.Both.Tapi
import SkSdk.Both.SysvBytePacking

/-!
The encoders of `sk_tapi_byte_pack.c`. A failing `STORE` returns from the
middle of the function: the bytes stored so far stay in the buffer and
`*pack_len` keeps the capacity it had on entry. Pointers are never null here.
-/

namespace SkSdk
open ByteMemory

/-- Locals of a pack function; `packLen` is the capacity. -/
structure PackState where
  pack : Mem
  byteCnt : Nat
  packLen : Nat

abbrev Packer (α : Type) := ExceptT Status (StateM PackState) α

/-- What a pack function leaves behind. -/
structure Packed where
  status : Status
  pack : Mem
  packLen : Nat

def storeInteger (val : UInt64) : Packer Unit := do
  let s ← get
  let (cnt, pack) := sysvBytePut s.pack s.byteCnt s.packLen 4 val
  if cnt = 0 then throw skTapiPackErrFailed
  set { s with pack, byteCnt := u32 (s.byteCnt + cnt) }

/-- `STORE` of a `uint32_t`. -/
def store (val : UInt32) : Packer Unit := storeInteger val.toUInt64

/-- `STORE` of an `int32_t`, sign-extended to the 64-bit argument. -/
def storeInt (val : Int32) : Packer Unit := storeInteger val.toInt64.toUInt64

/-- `STOREBUF`. -/
def storeBuf {len : Nat} (val : Blk len) : Packer Unit := do
  let s ← get
  if u32 (s.byteCnt + len) > s.packLen then throw skTapiPackErrFailed
  set { s with pack := s.pack.write s.byteCnt (List.ofFn val), byteCnt := u32 (s.byteCnt + len) }

def runPack (pack : Mem) (packLen : Nat) (body : Packer Status) : Packed :=
  match body.run.run ⟨pack, 0, packLen⟩ with
  | (.ok err, s) => ⟨err, s.pack, s.byteCnt⟩
  | (.error err, s) => ⟨err, s.pack, packLen⟩

/-! ## The pack functions -/

/-- Only the type `SK_TAPI_SYSTEM`, a command number, is accepted here. -/
def skTapiSysTapiPack (msg : SkMsg) (pack : Mem) (packLen : Nat) (type : UInt8) : Packed :=
  let resp := msg.type.sysTapi.resp
  runPack pack packLen do
    if type.toUInt32 = skTapiSystem then
      store msg.hdr.contextId
      store msg.hdr.smId
      store msg.hdr.cmd
      storeInt resp.status
      return skTapiPackErrSuccess
    else
      return skTapiPackErrInvalidParams

def skTapiOpenContextPack (msg : SkMsg) (pack : Mem) (packLen : Nat) (type : UInt8) : Packed :=
  let req := msg.type.openContext.req
  let resp := msg.type.openContext.resp
  runPack pack packLen do
    if type = skTapiMsgReqType then
      store msg.hdr.contextId
      store msg.hdr.smId
      store msg.hdr.cmd
      store req.contextId
    else
      store msg.hdr.contextId
      store msg.hdr.smId
      store msg.hdr.cmd
      storeBuf resp.contextHandle
      storeInt resp.status
    return skTapiPackErrSuccess

def skTapiCloseContextPack (msg : SkMsg) (pack : Mem) (packLen : Nat) (type : UInt8) : Packed :=
  let req := msg.type.closeContext.req
  let resp := msg.type.closeContext.resp
  runPack pack packLen do
    if type = skTapiMsgReqType then
      store msg.hdr.contextId
      store msg.hdr.smId
      store msg.hdr.cmd
      storeBuf req.contextHandle
    else
      store msg.hdr.contextId
      store msg.hdr.smId
      store msg.hdr.cmd
      storeInt resp.status
    return skTapiPackErrSuccess

def skTapiOpenSessionPack (msg : SkMsg) (pack : Mem) (packLen : Nat) (type : UInt8) : Packed :=
  let req := msg.type.openSession.req
  let resp := msg.type.openSession.resp
  runPack pack packLen do
    if type = skTapiMsgReqType then
      store msg.hdr.contextId
      store msg.hdr.smId
      store msg.hdr.cmd
      storeBuf req.contextHandle
      storeBuf req.taid
    else
      store msg.hdr.contextId
      store msg.hdr.smId
      store msg.hdr.cmd
      storeBuf resp.sessionHandle
      storeInt resp.status
    return skTapiPackErrSuccess

def skTapiCloseSessionPack (msg : SkMsg) (pack : Mem) (packLen : Nat) (type : UInt8) : Packed :=
  let req := msg.type.closeSession.req
  let resp := msg.type.closeSession.resp
  runPack pack packLen do
    if type = skTapiMsgReqType then
      store msg.hdr.contextId
      store msg.hdr.smId
      store msg.hdr.cmd
      storeBuf req.contextHandle
      storeBuf req.sessionHandle
    else
      store msg.hdr.contextId
      store msg.hdr.smId
      store msg.hdr.cmd
      storeInt resp.status
    return skTapiPackErrSuccess

def skTapiInvokeCommandPack (msg : SkMsg) (pack : Mem) (packLen : Nat) (type : UInt8) : Packed :=
  let req := msg.type.invokeCmd.req
  let resp := msg.type.invokeCmd.resp
  runPack pack packLen do
    if type = skTapiMsgReqType then
      store msg.hdr.contextId
      store msg.hdr.smId
      store msg.hdr.cmd
      storeBuf req.contextHandle
      storeBuf req.sessionHandle
      store req.cmd
    else
      store msg.hdr.contextId
      store msg.hdr.smId
      store msg.hdr.cmd
      storeInt resp.status
    return skTapiPackErrSuccess

def skTapiRegisterMemoryPack (msg : SkMsg) (pack : Mem) (packLen : Nat) (type : UInt8) : Packed :=
  let req := msg.type.registerMemory.req
  let resp := msg.type.registerMemory.resp
  runPack pack packLen do
    if type = skTapiMsgReqType then
      store msg.hdr.contextId
      store msg.hdr.smId
      store msg.hdr.cmd
      storeBuf req.contextHandle
      store req.memorySize
      store req.flag
      store req.addr
    else
      store msg.hdr.contextId
      store msg.hdr.smId
      store msg.hdr.cmd
      store resp.addr
      storeBuf resp.memoryId
      storeInt resp.status
    return skTapiPackErrSuccess

def skTapiUnregisterMemoryPack (msg : SkMsg) (pack : Mem) (packLen : Nat) (type : UInt8) :
    Packed :=
  let req := msg.type.unregisterMemory.req
  let resp := msg.type.unregisterMemory.resp
  runPack pack packLen do
    if type = skTapiMsgReqType then
      store msg.hdr.contextId
      store msg.hdr.smId
      store msg.hdr.cmd
      storeBuf req.contextHandle
      storeBuf req.memoryId
    else
      store msg.hdr.contextId
      store msg.hdr.smId
      store msg.hdr.cmd
      storeInt resp.status
    return skTapiPackErrSuccess

def skTapiCheckPack (msg : SkMsg) (pack : Mem) (packLen : Nat) (type : UInt8) : Packed :=
  let resp := msg.type.sysCheck.resp
  runPack pack packLen do
    if type = skTapiMsgReqType then
      store msg.hdr.contextId
      store msg.hdr.smId
      store msg.hdr.cmd
    else
      store msg.hdr.contextId
      store msg.hdr.smId
      store msg.hdr.cmd
      storeInt resp.status
    return skTapiPackErrSuccess

/-! ## What a sequence of stores writes

Every function above stores a list of fields in order, so its effect is fixed
by their encodings and the capacity. -/

def putField (field : List UInt8) : Packer Unit := do
  let s ← get
  if u32 (s.byteCnt + field.length) > s.packLen then throw skTapiPackErrFailed
  set { s with pack := s.pack.write s.byteCnt field, byteCnt := u32 (s.byteCnt + field.length) }

def putFields : List (List UInt8) → Packer Unit
  | [] => pure ()
  | f :: fs => do putField f; putFields fs

/-- The same with the status that the macros of another file return. -/
def putFieldOr (err : Status) (field : List UInt8) : Packer Unit := do
  let s ← get
  if u32 (s.byteCnt + field.length) > s.packLen then throw err
  set { s with pack := s.pack.write s.byteCnt field, byteCnt := u32 (s.byteCnt + field.length) }

def putFieldsOr (err : Status) : List (List UInt8) → Packer Unit
  | [] => pure ()
  | f :: fs => do putFieldOr err f; putFieldsOr err fs

theorem putFields_eq (fields : List (List UInt8)) :
    putFields fields = putFieldsOr skTapiPackErrFailed fields := by
  induction fields with
  | nil => rfl
  | cons f fs ih =>
    rw [putFields, putFieldsOr, ih]
    rfl

/-- The bytes stored before the first field that does not fit in `room`. -/
def fitting : Nat → List (List UInt8) → List UInt8
  | _, [] => []
  | room, f :: fs => if f.length ≤ room then f ++ fitting (room - f.length) fs else []

/-- Store `fields` at the start of `pack`. -/
def packFields (pack : Mem) (packLen : Nat) (fields : List (List UInt8)) : Packed :=
  if fields.flatten.length ≤ packLen then
    ⟨skTapiPackErrSuccess, pack.write 0 fields.flatten, fields.flatten.length⟩
  else ⟨skTapiPackErrFailed, pack.write 0 (fitting packLen fields), packLen⟩

theorem fitting_of_le {room : Nat} {fields : List (List UInt8)}
    (h : fields.flatten.length ≤ room) : fitting room fields = fields.flatten := by
  induction fields generalizing room with
  | nil => rfl
  | cons f fs ih =>
    rw [List.flatten_cons, List.length_append] at h
    rw [fitting, if_pos (by omega), ih (by omega), List.flatten_cons]

theorem length_fitting_le (room : Nat) (fields : List (List UInt8)) :
    (fitting room fields).length ≤ room := by
  induction fields generalizing room with
  | nil => exact Nat.zero_le room
  | cons f fs ih =>
    rw [fitting]
    split
    · next hfit =>
      have hrest := ih (room - f.length)
      rw [List.length_append]
      omega
    · exact Nat.zero_le room

theorem fitting_append {room : Nat} {fs gs : List (List UInt8)} (h : fs.flatten.length ≤ room) :
    fitting room (fs ++ gs) = fs.flatten ++ fitting (room - fs.flatten.length) gs := by
  induction fs generalizing room with
  | nil => rfl
  | cons f fs ih =>
    rw [List.flatten_cons, List.length_append] at h
    rw [List.cons_append, fitting, if_pos (by omega), ih (by omega), List.flatten_cons,
      List.append_assoc, List.length_append, Nat.sub_sub]

/-- A field that does not fit is not looked at. -/
theorem fitting_cons_of_lt {room : Nat} {f f' : List UInt8} {fs fs' gs : List (List UInt8)}
    (hlen : f.length = f'.length) (h : room < fs.flatten.length + f.length) :
    fitting room (fs ++ f :: gs) = fitting room (fs ++ f' :: fs') := by
  induction fs generalizing room with
  | nil =>
    rw [List.flatten_nil, List.length_nil] at h
    rw [List.nil_append, List.nil_append, fitting, fitting, if_neg (by omega), if_neg (by omega)]
  | cons g fs ih =>
    rw [List.flatten_cons, List.length_append] at h
    rw [List.cons_append, List.cons_append, fitting, fitting]
    by_cases hg : g.length ≤ room
    · rw [if_pos hg, if_pos hg, ih (by omega)]
    · rw [if_neg hg, if_neg hg]

/-- Whether or not everything fits, what is stored is what fits. -/
theorem packFields_pack (pack : Mem) (packLen : Nat) (fields : List (List UInt8)) :
    (packFields pack packLen fields).pack = pack.write 0 (fitting packLen fields) ∧
      (packFields pack packLen fields).packLen = min fields.flatten.length packLen := by
  unfold packFields
  split
  · next h => exact ⟨by rw [fitting_of_le h], (Nat.min_eq_left h).symm⟩
  · next h => exact ⟨rfl, (Nat.min_eq_right (Nat.le_of_not_le h)).symm⟩

private theorem storeInteger_eq (val : UInt64) :
    storeInteger val = putField (beBytes 4 val.toNat) := by
  unfold storeInteger putField
  simp only [sysvBytePut_eq _ _ _ 4 val (by decide), length_beBytes]
  congr 1
  funext s
  split <;> rfl

theorem store_eq (val : UInt32) : store val = putField (Format.be32.enc val) :=
  storeInteger_eq _

/-- The sign extension is cut off again by the 4-byte store. -/
theorem storeInt_eq (val : Int32) : storeInt val = putField (Format.beInt32.enc val) := by
  have hbytes : beBytes 4 val.toInt64.toUInt64.toNat = beBytes 4 val.toUInt32.toNat := by
    apply beNat_inj (by simp)
    rw [beNat_beBytes, beNat_beBytes]
    have hmod : val.toInt64.toUInt64.toUInt32 = val.toUInt32 := by
      apply UInt32.toBitVec_inj.mp
      ext i hi
      simp [BitVec.getElem_signExtend, show i < 64 by omega, hi]
    rw [← hmod, UInt64.toNat_toUInt32]
    omega
  rw [storeInt, storeInteger_eq, hbytes]
  rfl

theorem storeBuf_eq {len : Nat} (val : Blk len) : storeBuf val = putField (List.ofFn val) := by
  simp only [storeBuf, putField, List.length_ofFn]

theorem putFieldOr_run (err : Status) (field : List UInt8) (s : PackState)
    (hs : s.byteCnt + field.length < 4294967296) :
    (putFieldOr err field).run.run s =
      if s.byteCnt + field.length ≤ s.packLen then
        (.ok (), ⟨s.pack.write s.byteCnt field, s.byteCnt + field.length, s.packLen⟩)
      else (.error err, s) := by
  have hmod : u32 (s.byteCnt + field.length) = s.byteCnt + field.length := Nat.mod_eq_of_lt hs
  change (if u32 (s.byteCnt + field.length) > s.packLen then (throw err : Packer Unit)
    else set (PackState.mk (s.pack.write s.byteCnt field) (u32 (s.byteCnt + field.length))
      s.packLen)).run.run s = _
  rw [hmod]
  by_cases hfit : s.byteCnt + field.length ≤ s.packLen
  · rw [if_pos hfit, if_neg (by omega)]
    rfl
  · rw [if_neg hfit, if_pos (by omega)]
    rfl

/-- The induction is on the fields; the store offset moves with them. -/
theorem putFieldsOr_run (err : Status) (fields : List (List UInt8)) (s : PackState)
    (hs : s.byteCnt + fields.flatten.length < 4294967296) (hcap : s.byteCnt ≤ s.packLen) :
    (putFieldsOr err fields).run.run s =
      if s.byteCnt + fields.flatten.length ≤ s.packLen then
        (.ok (), ⟨s.pack.write s.byteCnt fields.flatten, s.byteCnt + fields.flatten.length,
          s.packLen⟩)
      else
        (.error err, ⟨s.pack.write s.byteCnt (fitting (s.packLen - s.byteCnt) fields),
          s.byteCnt + (fitting (s.packLen - s.byteCnt) fields).length, s.packLen⟩) := by
  induction fields generalizing s with
  | nil =>
    simp only [List.flatten_nil, List.length_nil, Nat.add_zero, hcap, ↓reduceIte, Mem.write_nil]
    rfl
  | cons f fs ih =>
    simp only [List.flatten_cons, List.length_append] at hs ⊢
    change (do putFieldOr err f; putFieldsOr err fs : Packer Unit).run.run s = _
    rw [ExceptT.run_bind, StateT.run_bind, putFieldOr_run err f s (by omega)]
    by_cases hfit : s.byteCnt + f.length ≤ s.packLen
    · rw [if_pos hfit]
      change (putFieldsOr err fs).run.run _ = _
      rw [ih _ (by simpa [Nat.add_assoc] using hs) hfit]
      have hroom : f.length ≤ s.packLen - s.byteCnt := by omega
      simp only [fitting, Mem.write_append, Nat.add_assoc, if_pos hroom, Nat.sub_sub,
        List.length_append]
    · rw [if_neg hfit, if_neg (by omega), fitting, if_neg (by omega), Mem.write_nil]
      rfl

/-- A pack function that stores `fields` and reports success. -/
theorem runPack_putFieldsOr (err : Status) (pack : Mem) (packLen : Nat)
    (fields : List (List UInt8)) (hlen : fields.flatten.length < 4294967296) :
    runPack pack packLen (do putFieldsOr err fields; return skTapiPackErrSuccess) =
      if fields.flatten.length ≤ packLen then
        ⟨skTapiPackErrSuccess, pack.write 0 fields.flatten, fields.flatten.length⟩
      else ⟨err, pack.write 0 (fitting packLen fields), packLen⟩ := by
  have hrun := putFieldsOr_run err fields ⟨pack, 0, packLen⟩ (by simpa using hlen)
    (Nat.zero_le _)
  simp only [Nat.zero_add] at hrun
  unfold runPack
  rw [ExceptT.run_bind, StateT.run_bind, hrun]
  by_cases hfit : fields.flatten.length ≤ packLen
  · rw [if_pos hfit, if_pos hfit]
    rfl
  · rw [if_neg hfit, if_neg hfit]
    rfl

theorem runPack_putFields (pack : Mem) (packLen : Nat) (fields : List (List UInt8))
    (hlen : fields.flatten.length < 4294967296) :
    runPack pack packLen (do putFields fields; return skTapiPackErrSuccess) =
      packFields pack packLen fields := by
  rw [putFields_eq, runPack_putFieldsOr _ _ _ _ hlen, packFields]

end SkSdk
