import SkSdk.Both.Tapi
import SkSdk.Both.SysvBytePacking

/-!
The decoders of `sk_tapi_byte_unpack.c`. A failing `READ` returns from the
middle of the function and leaves the members read so far in the message.
-/

namespace SkSdk
open ByteMemory

/-- Locals of an unpack function that fills a `τ`. -/
structure UnpackState (τ : Type) where
  pack : Mem
  byteCnt : Nat
  packLen : Nat
  out : τ

abbrev Unpacker (τ α : Type) := ExceptT Status (StateM (UnpackState τ)) α

/-- What an unpack function leaves behind. -/
structure Unpacked (τ : Type) where
  status : Status
  out : τ

section Macros

variable {τ : Type}

def readInteger (assign : UInt64 → τ → τ) : Unpacker τ Unit := do
  let s ← get
  if u32 (s.byteCnt + 4) > s.packLen then throw skTapiPackErrFailed
  set { s with out := assign (sysvByteGet (s.pack.ptr s.byteCnt) 4) s.out,
               byteCnt := u32 (s.byteCnt + 4) }

/-- `READ` into a `uint32_t` member. -/
def read (assign : UInt32 → τ → τ) : Unpacker τ Unit := readInteger fun v => assign v.toUInt32

/-- `READ` into an `int32_t` member. -/
def readInt (assign : Int32 → τ → τ) : Unpacker τ Unit :=
  readInteger fun v => assign v.toUInt32.toInt32

/-- `READBUF`. -/
def readBuf {len : Nat} (assign : Blk len → τ → τ) : Unpacker τ Unit := do
  let s ← get
  if u32 (s.byteCnt + len) > s.packLen then throw skTapiPackErrFailed
  set { s with out := assign (s.pack.blk s.byteCnt len) s.out,
               byteCnt := u32 (s.byteCnt + len) }

def runUnpack (pack : Mem) (packLen : Nat) (out : τ) (body : Unpacker τ Status) : Unpacked τ :=
  match body.run.run ⟨pack, 0, packLen, out⟩ with
  | (.ok err, s) => ⟨err, s.out⟩
  | (.error err, s) => ⟨err, s.out⟩

end Macros

/-! ## The unpack functions -/

def skTapiHeaderUnpack (pack : Mem) (packLen : Nat) (hdr : SkHeader) : Unpacked SkHeader :=
  runUnpack pack packLen hdr do
    read fun v h => { h with contextId := v }
    read fun v h => { h with smId := v }
    read fun v h => { h with cmd := v }
    return skTapiPackErrSuccess

def skTapiSysTapiUnpack (pack : Mem) (packLen : Nat) (msg : SkMsg) (type : UInt8) :
    Unpacked SkMsg :=
  runUnpack pack packLen msg do
    if type.toUInt32 = skTapiSystem then
      read fun v m => { m with hdr.contextId := v }
      read fun v m => { m with hdr.smId := v }
      read fun v m => { m with hdr.cmd := v }
      readInt fun v m => { m with type.sysTapi.resp.status := v }
      return skTapiPackErrSuccess
    else
      return skTapiPackErrInvalidParams

def skTapiOpenContextUnpack (pack : Mem) (packLen : Nat) (msg : SkMsg) (type : UInt8) :
    Unpacked SkMsg :=
  runUnpack pack packLen msg do
    if type = skTapiMsgReqType then
      read fun v m => { m with hdr.contextId := v }
      read fun v m => { m with hdr.smId := v }
      read fun v m => { m with hdr.cmd := v }
      read fun v m => { m with type.openContext.req.contextId := v }
    else
      read fun v m => { m with hdr.contextId := v }
      read fun v m => { m with hdr.smId := v }
      read fun v m => { m with hdr.cmd := v }
      readBuf fun v m => { m with type.openContext.resp.contextHandle := v }
      readInt fun v m => { m with type.openContext.resp.status := v }
    return skTapiPackErrSuccess

def skTapiCloseContextUnpack (pack : Mem) (packLen : Nat) (msg : SkMsg) (type : UInt8) :
    Unpacked SkMsg :=
  runUnpack pack packLen msg do
    if type = skTapiMsgReqType then
      read fun v m => { m with hdr.contextId := v }
      read fun v m => { m with hdr.smId := v }
      read fun v m => { m with hdr.cmd := v }
      readBuf fun v m => { m with type.closeContext.req.contextHandle := v }
    else
      read fun v m => { m with hdr.contextId := v }
      read fun v m => { m with hdr.smId := v }
      read fun v m => { m with hdr.cmd := v }
      readInt fun v m => { m with type.closeContext.resp.status := v }
    return skTapiPackErrSuccess

def skTapiOpenSessionUnpack (pack : Mem) (packLen : Nat) (msg : SkMsg) (type : UInt8) :
    Unpacked SkMsg :=
  runUnpack pack packLen msg do
    if packLen = 0 then return skTapiPackErrInvalidParams
    if type = skTapiMsgReqType then
      read fun v m => { m with hdr.contextId := v }
      read fun v m => { m with hdr.smId := v }
      read fun v m => { m with hdr.cmd := v }
      readBuf fun v m => { m with type.openSession.req.contextHandle := v }
      readBuf fun v m => { m with type.openSession.req.taid := v }
    else
      read fun v m => { m with hdr.contextId := v }
      read fun v m => { m with hdr.smId := v }
      read fun v m => { m with hdr.cmd := v }
      readBuf fun v m => { m with type.openSession.resp.sessionHandle := v }
      readInt fun v m => { m with type.openSession.resp.status := v }
    return skTapiPackErrSuccess

def skTapiCloseSessionUnpack (pack : Mem) (packLen : Nat) (msg : SkMsg) (type : UInt8) :
    Unpacked SkMsg :=
  runUnpack pack packLen msg do
    if packLen = 0 then return skTapiPackErrInvalidParams
    if type = skTapiMsgReqType then
      read fun v m => { m with hdr.contextId := v }
      read fun v m => { m with hdr.smId := v }
      read fun v m => { m with hdr.cmd := v }
      readBuf fun v m => { m with type.closeSession.req.contextHandle := v }
      readBuf fun v m => { m with type.closeSession.req.sessionHandle := v }
    else
      read fun v m => { m with hdr.contextId := v }
      read fun v m => { m with hdr.smId := v }
      read fun v m => { m with hdr.cmd := v }
      readInt fun v m => { m with type.closeSession.resp.status := v }
    return skTapiPackErrSuccess

def skTapiInvokeCommandUnpack (pack : Mem) (packLen : Nat) (msg : SkMsg) (type : UInt8) :
    Unpacked SkMsg :=
  runUnpack pack packLen msg do
    if packLen = 0 then return skTapiPackErrInvalidParams
    if type = skTapiMsgReqType then
      read fun v m => { m with hdr.contextId := v }
      read fun v m => { m with hdr.smId := v }
      read fun v m => { m with hdr.cmd := v }
      readBuf fun v m => { m with type.invokeCmd.req.contextHandle := v }
      readBuf fun v m => { m with type.invokeCmd.req.sessionHandle := v }
      read fun v m => { m with type.invokeCmd.req.cmd := v }
    else
      read fun v m => { m with hdr.contextId := v }
      read fun v m => { m with hdr.smId := v }
      read fun v m => { m with hdr.cmd := v }
      readInt fun v m => { m with type.invokeCmd.resp.status := v }
    return skTapiPackErrSuccess

def skTapiRegisterMemoryUnpack (pack : Mem) (packLen : Nat) (msg : SkMsg) (type : UInt8) :
    Unpacked SkMsg :=
  runUnpack pack packLen msg do
    if packLen = 0 then return skTapiPackErrInvalidParams
    if type = skTapiMsgReqType then
      read fun v m => { m with hdr.contextId := v }
      read fun v m => { m with hdr.smId := v }
      read fun v m => { m with hdr.cmd := v }
      readBuf fun v m => { m with type.registerMemory.req.contextHandle := v }
      read fun v m => { m with type.registerMemory.req.memorySize := v }
      read fun v m => { m with type.registerMemory.req.flag := v }
      read fun v m => { m with type.registerMemory.req.addr := v }
    else
      read fun v m => { m with hdr.contextId := v }
      read fun v m => { m with hdr.smId := v }
      read fun v m => { m with hdr.cmd := v }
      read fun v m => { m with type.registerMemory.resp.addr := v }
      readBuf fun v m => { m with type.registerMemory.resp.memoryId := v }
      readInt fun v m => { m with type.registerMemory.resp.status := v }
    return skTapiPackErrSuccess

def skTapiUnregisterMemoryUnpack (pack : Mem) (packLen : Nat) (msg : SkMsg) (type : UInt8) :
    Unpacked SkMsg :=
  runUnpack pack packLen msg do
    if packLen = 0 then return skTapiPackErrInvalidParams
    if type = skTapiMsgReqType then
      read fun v m => { m with hdr.contextId := v }
      read fun v m => { m with hdr.smId := v }
      read fun v m => { m with hdr.cmd := v }
      readBuf fun v m => { m with type.unregisterMemory.req.contextHandle := v }
      readBuf fun v m => { m with type.unregisterMemory.req.memoryId := v }
    else
      read fun v m => { m with hdr.contextId := v }
      read fun v m => { m with hdr.smId := v }
      read fun v m => { m with hdr.cmd := v }
      readInt fun v m => { m with type.unregisterMemory.resp.status := v }
    return skTapiPackErrSuccess

def skTapiCheckUnpack (pack : Mem) (packLen : Nat) (msg : SkMsg) (type : UInt8) :
    Unpacked SkMsg :=
  runUnpack pack packLen msg do
    if packLen = 0 then return skTapiPackErrInvalidParams
    if type = skTapiMsgReqType then
      read fun v m => { m with hdr.contextId := v }
      read fun v m => { m with hdr.smId := v }
      read fun v m => { m with hdr.cmd := v }
    else
      read fun v m => { m with hdr.contextId := v }
      read fun v m => { m with hdr.smId := v }
      read fun v m => { m with hdr.cmd := v }
      readInt fun v m => { m with type.sysCheck.resp.status := v }
    return skTapiPackErrSuccess

/-! ## What a sequence of reads assigns -/

section Fields

variable {τ : Type}

/-- A member of the wire layout: its width and the assignment of its bytes. -/
abbrev Field (τ : Type) := Nat × (List UInt8 → τ → τ)

def getField (f : Field τ) : Unpacker τ Unit := do
  let s ← get
  if u32 (s.byteCnt + f.1) > s.packLen then throw skTapiPackErrFailed
  set { s with out := f.2 (s.pack.read s.byteCnt f.1) s.out, byteCnt := u32 (s.byteCnt + f.1) }

def getFields : List (Field τ) → Unpacker τ Unit
  | [] => pure ()
  | f :: fs => do getField f; getFields fs

/-- The same with the status that the macros of another file return. -/
def getFieldOr (err : Status) (f : Field τ) : Unpacker τ Unit := do
  let s ← get
  if u32 (s.byteCnt + f.1) > s.packLen then throw err
  set { s with out := f.2 (s.pack.read s.byteCnt f.1) s.out, byteCnt := u32 (s.byteCnt + f.1) }

def getFieldsOr (err : Status) : List (Field τ) → Unpacker τ Unit
  | [] => pure ()
  | f :: fs => do getFieldOr err f; getFieldsOr err fs

theorem getFields_eq (fields : List (Field τ)) :
    getFields fields = getFieldsOr skTapiPackErrFailed fields := by
  induction fields with
  | nil => rfl
  | cons f fs ih =>
    rw [getFields, getFieldsOr, ih]
    rfl

def totalWidth (fields : List (Field τ)) : Nat := (fields.map Prod.fst).sum

/-- Every member assigned from its own slice of `pack`. -/
def assignFields (pack : Mem) : Nat → List (Field τ) → τ → τ
  | _, [], out => out
  | off, f :: fs, out => assignFields pack (off + f.1) fs (f.2 (pack.read off f.1) out)

/-- Read `fields` from offset `off` on, up to the first that is not complete. -/
def unpackFields (pack : Mem) (packLen : Nat) : Nat → List (Field τ) → τ → Unpacked τ
  | _, [], out => ⟨skTapiPackErrSuccess, out⟩
  | off, f :: fs, out =>
    if off + f.1 ≤ packLen then
      unpackFields pack packLen (off + f.1) fs (f.2 (pack.read off f.1) out)
    else ⟨skTapiPackErrFailed, out⟩

theorem read_eq (assign : UInt32 → τ → τ) :
    read assign = getField (4, fun bs => assign (Format.be32.dec bs)) := by
  simp only [read, readInteger, getField, sysvByteGet_four, Format.get]

theorem readInt_eq (assign : Int32 → τ → τ) :
    readInt assign = getField (4, fun bs => assign (Format.beInt32.dec bs)) := by
  simp only [readInt, readInteger, getField, sysvByteGet_four, Format.get]
  rfl

theorem readBuf_eq {len : Nat} (assign : Blk len → τ → τ) :
    readBuf assign = getField (len, fun bs => assign ((Format.blk len).dec bs)) := by
  simp only [readBuf, getField, ← Format.get_blk, Format.get]

theorem getFieldOr_run (err : Status) (f : Field τ) (s : UnpackState τ)
    (hs : s.byteCnt + f.1 < 4294967296) :
    (getFieldOr err f).run.run s =
      if s.byteCnt + f.1 ≤ s.packLen then
        (.ok (), ⟨s.pack, s.byteCnt + f.1, s.packLen, f.2 (s.pack.read s.byteCnt f.1) s.out⟩)
      else (.error err, s) := by
  have hmod : u32 (s.byteCnt + f.1) = s.byteCnt + f.1 := Nat.mod_eq_of_lt hs
  change (if u32 (s.byteCnt + f.1) > s.packLen then (throw err : Unpacker τ Unit)
    else set (UnpackState.mk s.pack (u32 (s.byteCnt + f.1)) s.packLen
      (f.2 (s.pack.read s.byteCnt f.1) s.out))).run.run s = _
  rw [hmod]
  by_cases hfit : s.byteCnt + f.1 ≤ s.packLen
  · rw [if_pos hfit, if_neg (by omega)]
    rfl
  · rw [if_neg hfit, if_pos (by omega)]
    rfl

/-- The members before the first that is not complete. -/
def complete (packLen : Nat) : Nat → List (Field τ) → List (Field τ)
  | _, [] => []
  | off, f :: fs => if off + f.1 ≤ packLen then f :: complete packLen (off + f.1) fs else []

theorem mem_of_mem_complete {f : Field τ} (packLen off : Nat)
    {fields : List (Field τ)} (h : f ∈ complete packLen off fields) : f ∈ fields := by
  induction fields generalizing off with
  | nil => cases h
  | cons g gs ih =>
    rw [complete] at h
    split at h
    · rcases List.mem_cons.mp h with rfl | h
      · exact List.mem_cons_self
      · exact List.mem_cons_of_mem _ (ih _ h)
    · cases h

/-- The induction is on the fields; the offset read from moves with them. -/
theorem getFieldsOr_run (err : Status) (fields : List (Field τ)) (s : UnpackState τ)
    (hs : s.byteCnt + totalWidth fields < 4294967296) (hcap : s.byteCnt ≤ s.packLen) :
    (getFieldsOr err fields).run.run s =
      if s.byteCnt + totalWidth fields ≤ s.packLen then
        (.ok (), ⟨s.pack, s.byteCnt + totalWidth fields, s.packLen,
          assignFields s.pack s.byteCnt fields s.out⟩)
      else
        (.error err, ⟨s.pack, s.byteCnt + totalWidth (complete s.packLen s.byteCnt fields),
          s.packLen, assignFields s.pack s.byteCnt (complete s.packLen s.byteCnt fields)
            s.out⟩) := by
  induction fields generalizing s with
  | nil =>
    simp only [totalWidth, List.map_nil, List.sum_nil, Nat.add_zero, hcap, ↓reduceIte]
    rfl
  | cons f fs ih =>
    have hsum (gs : List (Field τ)) : totalWidth (f :: gs) = f.1 + totalWidth gs := by
      simp [totalWidth]
    rw [hsum] at hs ⊢
    change (do getFieldOr err f; getFieldsOr err fs : Unpacker τ Unit).run.run s = _
    rw [ExceptT.run_bind, StateT.run_bind, getFieldOr_run err f s (by omega)]
    by_cases hfit : s.byteCnt + f.1 ≤ s.packLen
    · rw [if_pos hfit]
      change (getFieldsOr err fs).run.run _ = _
      rw [ih _ (by simpa [Nat.add_assoc] using hs) hfit]
      simp only [complete, if_pos hfit, hsum, assignFields, Nat.add_assoc]
    · rw [if_neg hfit, if_neg (by omega), complete, if_neg hfit]
      rfl

/-- An unpack function that reads `fields` and reports success. -/
theorem runUnpack_getFieldsOr (err : Status) (pack : Mem) (packLen : Nat) (out : τ)
    (fields : List (Field τ)) (hlen : totalWidth fields < 4294967296) :
    runUnpack pack packLen out (do getFieldsOr err fields; return skTapiPackErrSuccess) =
      if totalWidth fields ≤ packLen then
        ⟨skTapiPackErrSuccess, assignFields pack 0 fields out⟩
      else ⟨err, assignFields pack 0 (complete packLen 0 fields) out⟩ := by
  have hrun := getFieldsOr_run err fields ⟨pack, 0, packLen, out⟩ (by simpa using hlen)
    (Nat.zero_le _)
  simp only [Nat.zero_add] at hrun
  unfold runUnpack
  rw [ExceptT.run_bind, StateT.run_bind, hrun]
  by_cases hfit : totalWidth fields ≤ packLen
  · rw [if_pos hfit, if_pos hfit]
    rfl
  · rw [if_neg hfit, if_neg hfit]
    rfl

theorem unpackFields_of_le (pack : Mem) (packLen off : Nat) (fields : List (Field τ)) (out : τ)
    (h : off + totalWidth fields ≤ packLen) :
    unpackFields pack packLen off fields out =
      ⟨skTapiPackErrSuccess, assignFields pack off fields out⟩ := by
  induction fields generalizing off out with
  | nil => rfl
  | cons f fs ih =>
    have hsum : totalWidth (f :: fs) = f.1 + totalWidth fs := by simp [totalWidth]
    rw [unpackFields, if_pos (by omega), ih _ _ (by omega), assignFields]

theorem unpackFields_of_lt (pack : Mem) (packLen off : Nat) (fields : List (Field τ)) (out : τ)
    (hoff : off ≤ packLen) (h : packLen < off + totalWidth fields) :
    (unpackFields pack packLen off fields out).status = skTapiPackErrFailed := by
  induction fields generalizing off out with
  | nil => simp [totalWidth] at h; omega
  | cons f fs ih =>
    have hsum : totalWidth (f :: fs) = f.1 + totalWidth fs := by simp [totalWidth]
    rw [unpackFields]
    by_cases hfit : off + f.1 ≤ packLen
    · rw [if_pos hfit]
      exact ih _ _ hfit (by omega)
    · rw [if_neg hfit]

/-- What is read is what is complete. -/
theorem unpackFields_out (pack : Mem) (packLen off : Nat) (fields : List (Field τ)) (out : τ) :
    (unpackFields pack packLen off fields out).out =
      assignFields pack off (complete packLen off fields) out := by
  induction fields generalizing off out with
  | nil => rfl
  | cons f fs ih =>
    rw [unpackFields, complete]
    by_cases hfit : off + f.1 ≤ packLen
    · rw [if_pos hfit, if_pos hfit]
      exact ih _ _
    · rw [if_neg hfit, if_neg hfit]
      rfl

theorem runUnpack_getFields (pack : Mem) (packLen : Nat) (out : τ) (fields : List (Field τ))
    (hlen : totalWidth fields < 4294967296) :
    runUnpack pack packLen out (do getFields fields; return skTapiPackErrSuccess) =
      unpackFields pack packLen 0 fields out := by
  rw [getFields_eq, runUnpack_getFieldsOr _ _ _ _ _ hlen]
  by_cases hfit : totalWidth fields ≤ packLen
  · rw [if_pos hfit, unpackFields_of_le _ _ _ _ _ (by omega)]
  · have hfailed := unpackFields_of_lt pack packLen 0 fields out (Nat.zero_le _) (by omega)
    have hout := unpackFields_out pack packLen 0 fields out
    rw [if_neg hfit, ← hfailed, ← hout]

theorem assignFields_congr {pack pack' : Mem} {off : Nat} {fields : List (Field τ)} {out : τ}
    (h : ∀ a < off + totalWidth fields, pack a = pack' a) :
    assignFields pack off fields out = assignFields pack' off fields out := by
  induction fields generalizing off out with
  | nil => rfl
  | cons f fs ih =>
    have hsum : totalWidth (f :: fs) = f.1 + totalWidth fs := by simp [totalWidth]
    have hread : pack.read off f.1 = pack'.read off f.1 :=
      Mem.read_congr fun a _ hlt => h a (by omega)
    rw [assignFields, assignFields, hread, ih fun a ha => h a (by omega)]

/-- What is complete ends below `packLen`. -/
theorem totalWidth_complete_le {packLen off : Nat} (fields : List (Field τ)) (h : off ≤ packLen) :
    off + totalWidth (complete packLen off fields) ≤ packLen := by
  induction fields generalizing off with
  | nil => simpa [complete, totalWidth] using h
  | cons f fs ih =>
    rw [complete]
    split
    · next hfit =>
      have hsum : totalWidth (f :: complete packLen (off + f.1) fs) =
          f.1 + totalWidth (complete packLen (off + f.1) fs) := by simp [totalWidth]
      have hrest := ih hfit
      omega
    · simpa [totalWidth] using h

/-- Memories that agree below `packLen` give the complete members the same bytes. -/
theorem assignFields_complete_congr {pack pack' : Mem} {packLen : Nat}
    (h : ∀ a < packLen, pack a = pack' a) (fields : List (Field τ)) (out : τ) :
    assignFields pack 0 (complete packLen 0 fields) out =
      assignFields pack' 0 (complete packLen 0 fields) out := by
  have hend := totalWidth_complete_le fields (Nat.zero_le packLen)
  exact assignFields_congr fun a ha => h a (by omega)

end Fields

end SkSdk
