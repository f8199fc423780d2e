import SkSdk.Both.TapiCodec
import SkSdk.Swld.TapiHandlers

/-!
The handlers once more, on decoded requests: `serve*` takes the members of the
request and names the members of the reply. Each handler of `tapi.c` is shown to
decode, call its `serve*` and encode, so that wire bytes and the locals
`req_msg` and `resp_msg` are dealt with here and nowhere else.
-/

namespace SkSdk
open ByteMemory FaultState DoublyLinked Format

/-! ## Lookups -/

/-- The first slot of a handle table that holds `handle`. -/
def lookup {n : Nat} (table : Mem) (handle : Handle) : Option (Fin n) :=
  (List.finRange n).find? fun i => handleAt table i = handle

namespace TApiConnectionTable

def findContext (conn : TApiConnectionTable) (handle : Handle) : Option CSlot :=
  lookup conn.cthandles handle

def findSession (conn : TApiConnectionTable) (handle : Handle) : Option SSlot :=
  lookup conn.sthandles handle

end TApiConnectionTable

theorem findHandle_eq (n : Nat) (table : Mem) (handle : Handle) :
    findHandle n table handle = (lookup table handle : Option (Fin n)).map fun i => i.val * 16 := by
  rw [findHandle, lookup, ← List.map_coe_finRange_eq_range, List.find?_map, Option.map_map]
  rfl

theorem lookup_some {n : Nat} {table : Mem} {handle : Handle} {i : Fin n}
    (h : lookup table handle = some i) : handleAt table i = handle := by
  simpa using List.find?_some h

/-- A search through all slots finds the lowest one. -/
theorem find?_finRange_eq_some {n : Nat} {p : Fin n → Bool} {i : Fin n} :
    (List.finRange n).find? p = some i ↔ p i = true ∧ ∀ j < i, p j = false := by
  rw [List.find?_eq_some_iff_getElem]
  constructor
  · rintro ⟨hi, k, hk, hget, hlow⟩
    rw [List.getElem_finRange] at hget
    subst hget
    refine ⟨hi, fun j hj => ?_⟩
    have hj' := hlow j (by simpa [Fin.lt_def] using hj)
    simpa using hj'
  · rintro ⟨hi, hlow⟩
    refine ⟨hi, i, by simp, by simp, fun j hj => ?_⟩
    have hj' := hlow ⟨j, Nat.lt_trans hj i.isLt⟩ hj
    simpa using hj'

/-- A lookup finds the lowest slot that holds the handle. -/
theorem lookup_eq_some {n : Nat} {table : Mem} {handle : Handle} {i : Fin n} :
    lookup table handle = some i ↔
      handleAt table i = handle ∧ ∀ j : Fin n, j < i → handleAt table j ≠ handle := by
  rw [lookup, find?_finRange_eq_some]
  simp

theorem lookup_eq_none {n : Nat} {table : Mem} {handle : Handle} :
    (lookup table handle : Option (Fin n)) = none ↔ ∀ i : Fin n, handleAt table i ≠ handle := by
  simp [lookup]

theorem handleAt_setHandleAt (table : Mem) (i : Nat) (handle : Handle) :
    handleAt (setHandleAt table i handle) i = handle :=
  Mem.blk_write_same _ _ _ handle

theorem handleAt_setHandleAt_of_ne {i j : Nat} (h : j ≠ i) (table : Mem) (handle : Handle) :
    handleAt (setHandleAt table i handle) j = handleAt table j := by
  apply Mem.blk_write_disjoint
  rw [List.length_ofFn]
  omega

@[simp] theorem slot_of_mul {σ : Type} {n : Nat} (fault : Fault) (i : Fin n) :
    (slot fault (i.val * 16 / 16) : Prog σ Fault (Fin n)) = pure i := by
  unfold slot
  rw [dif_pos (by rw [Nat.mul_div_cancel _ (by decide)]; exact i.isLt)]
  congr
  exact Nat.mul_div_cancel _ (by decide)

@[simp] theorem slot_val {σ : Type} {n : Nat} (fault : Fault) (i : Fin n) :
    (slot fault i.val : Prog σ Fault (Fin n)) = pure i := dif_pos i.isLt

theorem firstFree_some {n : Nat} {active : Fin n → Bool} {i : Fin n}
    (h : firstFree active = some i) : active i = false := by
  simpa using List.find?_some h

theorem firstFree_eq_some {n : Nat} {active : Fin n → Bool} {i : Fin n} :
    firstFree active = some i ↔ active i = false ∧ ∀ j < i, active j = true := by
  rw [firstFree, find?_finRange_eq_some]
  simp

theorem firstFree_eq_none {n : Nat} {active : Fin n → Bool} :
    firstFree active = none ↔ ∀ i, active i = true := by
  simp [firstFree]

/-! ## Decoding and encoding -/

/-- Decode a request of layout `l`, or refuse it for its length. -/
def withRequest (l : Layout) (k : SkHeader × l.Fields → ServerM SkStatus) : ServerM SkStatus := do
  let tObj := (← get).tObj
  if tObj.mrecvSize < l.wireLength then return skErrorInvalidParam
  k (l.format.get tObj.mrecv 0)

def reply (l : Layout) (v : SkHeader × l.Fields) : ServerM SkStatus :=
  respond fun pack packLen => packFields pack packLen (l.stores v)

theorem respond_pack (l : Layout) (msg : SkMsg) : respond (l.pack msg) = reply l (l.fields msg) := by
  rw [reply]
  congr
  funext pack packLen
  exact l.pack_eq msg pack packLen

/-- Unpacking into the local `req_msg` amounts to decoding when the rest of the
handler sees only what the decoder assigns. -/
theorem unpackRequest_eq (l : Layout) (reqMsg : SkMsg) (hl : l.type = skTapiMsgReqType)
    {unpack : Mem → Nat → SkMsg → UInt8 → Unpacked SkMsg}
    (hunpack : ∀ pack packLen msg, unpack pack packLen msg l.type = l.unpack pack packLen msg)
    {k : SkSwldTapi → SkMsg → ServerM SkStatus} {k' : SkHeader × l.Fields → ServerM SkStatus}
    (hk : ∀ (s : Server) (pack : Mem),
      k s.tObj (l.decoded pack reqMsg) s = k' (l.format.get pack 0) s) :
    unpackRequest unpack reqMsg k = withRequest l k' := by
  funext s
  change (if (unpack s.tObj.mrecv s.tObj.mrecvSize reqMsg skTapiMsgReqType).status ≠
        skTapiPackErrSuccess then (pure skErrorInvalidParam : ServerM SkStatus)
      else k s.tObj (unpack s.tObj.mrecv s.tObj.mrecvSize reqMsg skTapiMsgReqType).out) s =
    (if s.tObj.mrecvSize < l.wireLength then (pure skErrorInvalidParam : ServerM SkStatus)
      else k' (l.format.get s.tObj.mrecv 0)) s
  rw [← hl, hunpack]
  by_cases hlen : s.tObj.mrecvSize < l.wireLength
  · rw [if_pos (l.unpack_of_lt _ _ _ hlen), if_pos hlen]
  · rw [l.unpack_of_le _ _ _ (by omega), if_neg (by simp), if_neg hlen]
    exact hk s s.tObj.mrecv

/-! ## The handlers on decoded requests -/

section Serve

variable (env : Env) (hdr : SkHeader)

/-- `stale` is what `resp_msg` held in the place of the context handle and
`pid` what `req_msg` held in the place of the process id. -/
def serveOpenContext (stale : Handle) (pid : Int32) (contextId : UInt32) :
    ServerM SkStatus := do
  let tObj := (← get).tObj
  if contextId ≠ tObj.contextId then
    return ← reply .openContextResp (hdr, stale, skErrorBadContextId)
  if tObj.conn.numCtableElements ≥ skTapiMaxConnectionsPerContext then
    return ← reply .openContextResp (hdr, stale, skErrorOpenContext)
  match firstFree fun i => (tObj.conn.ctable i).active with
  | none => throw .assert
  | some i =>
    let handle := Blk.xor (handleAt tObj.conn.cthandles i) env.keystream
    modifyConn fun conn => { conn with cthandles := setHandleAt conn.cthandles i handle }
    emit (.generate handle)
    modifyConn fun conn => conn.updContext i fun t => { t with active := true, pid }
    modifyConn fun conn => { conn with numCtableElements := conn.numCtableElements + 1 }
    reply .openContextResp (hdr, handle, skErrorSuccess)

def serveCloseContext (contextHandle : Handle) : ServerM SkStatus := do
  let conn := (← get).tObj.conn
  match conn.findContext contextHandle with
  | none => reply .closeContextResp (hdr, skErrorContextHandleNotFound)
  | some idx =>
    require .assertActive ((conn.ctable idx).active = true)
    let _ ← onConn (skSwldTapiRemoveContext idx false)
    require .assert (0 < (← get).tObj.conn.numCtableElements)
    modifyConn fun conn => { conn with numCtableElements := conn.numCtableElements - 1 }
    reply .closeContextResp (hdr, skErrorSuccess)

/-- Load and start the TApp of session `i`, and answer. -/
def serveTapp (stale : Handle) (taid : SkTaid) (i : SSlot) : ServerM SkStatus := do
  let (err, tapp) := env.tappLoad taid ((← get).tObj.conn.stable i).tapp
  modifyConn fun conn => conn.updSession i fun s => { s with tapp }
  emit (.load taid err tapp)
  if err ≠ skErrorSuccess then
    return ← reply .openSessionResp (hdr, stale, skErrorTappLoad)
  emit (.init tapp)
  if env.tappInit tapp ≠ skErrorSuccess then
    if env.tappInit tapp ≠ skErrorTimeout then
      reply .openSessionResp (hdr, stale, skErrorTappCall)
    else
      reply .openSessionResp (hdr, stale, skErrorTappTimeout)
  else
    reply .openSessionResp (hdr, handleAt (← get).tObj.conn.sthandles i, skErrorSuccess)

/-- `stale` is what `resp_msg` held in the place of the session handle. -/
def serveOpenSession (stale : Handle) (contextHandle : Handle) (taid : SkTaid) :
    ServerM SkStatus := do
  let conn := (← get).tObj.conn
  match conn.findContext contextHandle with
  | none => reply .openSessionResp (hdr, stale, skErrorContextHandleNotFound)
  | some c =>
    require .assertActive ((conn.ctable c).active = true)
    if (conn.ctable c).numConnectedSessions ≥ skTapiMaxSessionsPerContext then
      return ← reply .openSessionResp (hdr, stale, skErrorOpenSession)
    match firstFree fun i => (conn.stable i).active with
    | none => throw .outOfRange
    | some i =>
      let handle := Blk.xor (handleAt conn.sthandles i) env.keystream
      modifyConn fun conn => { conn with sthandles := setHandleAt conn.sthandles i handle }
      emit (.generate handle)
      let t ← skDrvSwldSecureTimerGet env
      modifyConn fun conn => conn.updContext c fun c => { c with timeAccess := t }
      let t ← skDrvSwldSecureTimerGet env
      modifyConn fun conn => conn.updSession i fun s => { s with timeAccess := t }
      onConn (attachSession c i taid)
      serveTapp env hdr stale taid i

/-- Close and unload the TApp of session `i`, and take the session off context `c`. -/
def endSession (c : CSlot) (i : SSlot) : ServerM SkStatus := do
  let t ← skDrvSwldSecureTimerGet env
  modifyConn fun conn => conn.updContext c fun c => { c with timeAccess := t }
  let tapp := ((← get).tObj.conn.stable i).tapp
  emit (.close tapp)
  emit (.unload tapp)
  modifyConn fun conn => conn.updSession i fun s => { s with tapp := (env.tappUnload tapp).2 }
  require .assert (((← get).tObj.conn.stable i).idx = i)
  let _ ← onConn (skSwldTapiRemoveSession c (some i))
  reply .closeSessionResp (hdr, skErrorSuccess)

def serveCloseSession (contextHandle sessionHandle : Handle) : ServerM SkStatus := do
  match ← onConn (skSwldTapiFindObjects contextHandle sessionHandle) with
  | .error err =>
    if err = skErrorContextHandleNotFound ∨ err = skErrorSessionHandleNotFound then
      reply .closeSessionResp (hdr, err)
    else return err
  | .ok (c, i) => endSession env hdr c i

/-- Pass command `cmd` to the TApp of session `i`. -/
def pullCommand (cmd : UInt32) (c : CSlot) (i : SSlot) : ServerM SkStatus := do
  let t ← skDrvSwldSecureTimerGet env
  modifyConn fun conn => conn.updContext c fun c => { c with timeAccess := t }
  let t ← skDrvSwldSecureTimerGet env
  modifyConn fun conn => conn.updSession i fun s => { s with timeAccess := t }
  let op := (← get).tObj.op
  let tapp := ((← get).tObj.conn.stable i).tapp
  emit (.pull tapp cmd op)
  if env.tappPull tapp cmd op ≠ skErrorSuccess then
    if env.tappPull tapp cmd op ≠ skErrorTimeout then
      reply .invokeCommandResp (hdr, skErrorTappCall)
    else
      reply .invokeCommandResp (hdr, skErrorTappTimeout)
  else
    reply .invokeCommandResp (hdr, skErrorSuccess)

def serveInvokeCommand (contextHandle sessionHandle : Handle) (cmd : UInt32) :
    ServerM SkStatus := do
  match ← onConn (skSwldTapiFindObjects contextHandle sessionHandle) with
  | .error err =>
    if err = skErrorContextHandleNotFound ∨ err = skErrorSessionHandleNotFound then
      reply .invokeCommandResp (hdr, err)
    else return err
  | .ok (c, i) => pullCommand env hdr cmd c i

/-- Allocate a region over the bytes `garbage` of a fresh node and list it. -/
def registerNode (garbage : TApiRegMemory) (memorySize flag memPtr : UInt32) :
    ServerM SkStatus := do
  let mem ← mallocNode { garbage with
    next := none, prev := none, memorySize, flag, memPtr }
  let driver := env.allocateMemory memPtr memorySize flag garbage.id skTapiMemoryIdLength
    garbage.info
  modifyNode mem fun n => { n with id := driver.2.1 }
  if driver.1 ≠ skErrorSuccess then
    freeNode mem
    return skErrorFailedSharedMemoryReq
  require .assert (driver.2.2 = skTapiMemoryIdLength)
  appendMemory mem
  reply .registerMemoryResp (hdr, memPtr, driver.2.1, skErrorSuccess)

def serveRegisterMemory (contextHandle : Handle) (memorySize flag addr : UInt32) :
    ServerM SkStatus := do
  match (← get).tObj.conn.findContext contextHandle with
  | none => return skErrorContextHandleNotFound
  | some c =>
    touchUndivided env (c.val * skTapiContextHandleSize)
    match env.malloc with
    | none => return skErrorNoMemory
    | some garbage =>
      registerNode env hdr garbage memorySize flag (if flag ≠ skTeecMemAllocate then addr else 0)

/-- Take the region at `mptr` out of the list and give its memory back. -/
def unregisterNode (mptr : Nat) (node : TApiRegMemory) : ServerM SkStatus := do
  unlinkMemory mptr node
  if env.freeMemory node.memPtr node.info ≠ skErrorSuccess then
    return skErrorFailedSharedMemoryReq
  freeNode mptr
  reply .unregisterMemoryResp (hdr, skErrorSuccess)

def serveUnregisterMemory (contextHandle : Handle) (memoryId : MemoryId) :
    ServerM SkStatus := do
  match (← get).tObj.conn.findContext contextHandle with
  | none => return skErrorContextHandleNotFound
  | some c =>
    touchUndivided env (c.val * skTapiContextHandleSize)
    let s ← get
    match findFrom (heapLinks s.heap).next
        (fun a => (s.heap a).all fun n => n.id = memoryId) s.heapNext s.tObj.rmem.m with
    | none => throw .diverge
    | some none => return skErrorNoMemory
    | some (some mptr) =>
      let node ← deref .nullDeref (s.heap mptr)
      unregisterNode env hdr mptr node

def serveCheck (cfg : Config) : ServerM SkStatus := do
  checkContexts cfg env (List.finRange skTapiMaxConnectionsPerContext)
  reply .checkResp (hdr, skErrorSuccess)

end Serve

/-! ## The handlers decode, serve and encode -/

section Respond

variable (msg : SkMsg)

private theorem respond_openContext :
    (respond fun pack packLen => skTapiOpenContextPack msg pack packLen skTapiMsgRespType) =
      reply .openContextResp (msg.hdr, msg.type.openContext.resp.contextHandle,
        msg.type.openContext.resp.status) := respond_pack .openContextResp msg

private theorem respond_closeContext :
    (respond fun pack packLen => skTapiCloseContextPack msg pack packLen skTapiMsgRespType) =
      reply .closeContextResp (msg.hdr, msg.type.closeContext.resp.status) :=
  respond_pack .closeContextResp msg

private theorem respond_openSession :
    (respond fun pack packLen => skTapiOpenSessionPack msg pack packLen skTapiMsgRespType) =
      reply .openSessionResp (msg.hdr, msg.type.openSession.resp.sessionHandle,
        msg.type.openSession.resp.status) := respond_pack .openSessionResp msg

private theorem respond_closeSession :
    (respond fun pack packLen => skTapiCloseSessionPack msg pack packLen skTapiMsgRespType) =
      reply .closeSessionResp (msg.hdr, msg.type.closeSession.resp.status) :=
  respond_pack .closeSessionResp msg

private theorem respond_invokeCommand :
    (respond fun pack packLen => skTapiInvokeCommandPack msg pack packLen skTapiMsgRespType) =
      reply .invokeCommandResp (msg.hdr, msg.type.invokeCmd.resp.status) :=
  respond_pack .invokeCommandResp msg

private theorem respond_registerMemory :
    (respond fun pack packLen => skTapiRegisterMemoryPack msg pack packLen skTapiMsgRespType) =
      reply .registerMemoryResp (msg.hdr, msg.type.registerMemory.resp.addr,
        msg.type.registerMemory.resp.memoryId, msg.type.registerMemory.resp.status) :=
  respond_pack .registerMemoryResp msg

private theorem respond_unregisterMemory :
    (respond fun pack packLen => skTapiUnregisterMemoryPack msg pack packLen skTapiMsgRespType) =
      reply .unregisterMemoryResp (msg.hdr, msg.type.unregisterMemory.resp.status) :=
  respond_pack .unregisterMemoryResp msg

private theorem respond_check :
    (respond fun pack packLen => skTapiCheckPack msg pack packLen skTapiMsgRespType) =
      reply .checkResp (msg.hdr, msg.type.sysCheck.resp.status) := respond_pack .checkResp msg

end Respond

theorem skSwldTapiCloseContextNw_eq (env : Env) :
    skSwldTapiCloseContextNw env = (do
      assertCounts
      withRequest .closeContextReq fun (hdr, contextHandle) =>
        serveCloseContext hdr contextHandle) := by
  unfold skSwldTapiCloseContextNw
  congr 1
  funext _
  refine unpackRequest_eq .closeContextReq env.reqMsg rfl (fun _ _ _ => rfl) fun s pack => ?_
  rw [← Layout.fields_decoded _ _ env.reqMsg]
  generalize Layout.closeContextReq.decoded pack env.reqMsg = msg
  simp only [Layout.fields, skSwldTapiHandleGeneratorPluginFindContextHandle, findHandle_eq,
    respond_closeContext, serveCloseContext, get_bind_run, TApiConnectionTable.findContext]
  cases lookup s.tObj.conn.cthandles msg.type.closeContext.req.contextHandle with
  | none => rfl
  | some idx => simp only [Option.map_some, slot_of_mul, pure_bind]

/-- The process id is not on the wire: the local keeps what it held. The
decoders are arbitrary, so that they are not unfolded. -/
private theorem assignFields_pid (f g h k : List UInt8 → UInt32) (pack : Mem) (msg : SkMsg) :
    (assignFields pack 0
      [(4, fun bs m => { m with hdr.contextId := f bs }), (4, fun bs m => { m with hdr.smId := g bs }),
        (4, fun bs m => { m with hdr.cmd := h bs }),
        (4, fun bs m => { m with type.openContext.req.contextId := k bs })]
      msg).type.openContext.req.pid = msg.type.openContext.req.pid := rfl

theorem skSwldTapiOpenContextNw_eq (env : Env) :
    skSwldTapiOpenContextNw env = (do
      assertCounts
      withRequest .openContextReq fun (hdr, contextId) =>
        serveOpenContext env hdr env.respMsg.type.openContext.resp.contextHandle
          env.reqMsg.type.openContext.req.pid contextId) := by
  unfold skSwldTapiOpenContextNw
  congr 1
  funext _
  refine unpackRequest_eq .openContextReq env.reqMsg rfl (fun _ _ _ => rfl) fun s pack => ?_
  have hpid : (Layout.openContextReq.decoded pack env.reqMsg).type.openContext.req.pid =
      env.reqMsg.type.openContext.req.pid :=
    assignFields_pid be32.dec be32.dec be32.dec be32.dec pack env.reqMsg
  rw [← Layout.fields_decoded _ _ env.reqMsg]
  generalize Layout.openContextReq.decoded pack env.reqMsg = msg at hpid
  change _ = serveOpenContext env msg.hdr _ _ msg.type.openContext.req.contextId s
  rw [serveOpenContext, get_bind_run]
  simp only [respond_openContext, hpid]
  by_cases hid : msg.type.openContext.req.contextId ≠ s.tObj.contextId
  · rw [if_pos hid, if_pos hid]
  by_cases hfull : s.tObj.conn.numCtableElements ≥ skTapiMaxConnectionsPerContext
  · rw [if_neg hid, if_neg hid, if_pos hfull, if_pos hfull]
  rw [if_neg hid, if_neg hid, if_neg hfull, if_neg hfull]
  cases firstFree fun i => (s.tObj.conn.ctable i).active with
  | none => rfl
  | some i =>
    have hroom : s.tObj.conn.numCtableElements < skTapiMaxConnectionsPerContext := by omega
    simp only [skSwldTapiHandleGeneratorPluginGenerateContextHandle, generateHandle, ne_eq,
      not_true_eq_false, ↓reduceIte, modifyConn_bind_run, emit_bind_run, get_bind_run]
    refine (require_bind_of hroom _ _ _).trans ?_
    simp only [modifyConn_bind_run, get_bind_run, TApiConnectionTable.cthandles_updContext,
      handleAt_setHandleAt]

theorem skSwldTapiOpenSessionNw_eq (env : Env) :
    skSwldTapiOpenSessionNw env = (do
      assertCounts
      withRequest .openSessionReq fun (hdr, contextHandle, taid) =>
        serveOpenSession env hdr env.respMsg.type.openSession.resp.sessionHandle contextHandle
          taid) := by
  unfold skSwldTapiOpenSessionNw
  congr 1
  funext _
  refine unpackRequest_eq .openSessionReq env.reqMsg rfl (fun _ _ _ => rfl) fun s pack => ?_
  rw [← Layout.fields_decoded _ _ env.reqMsg]
  generalize Layout.openSessionReq.decoded pack env.reqMsg = msg
  simp only [Layout.fields, skSwldTapiHandleGeneratorPluginFindContextHandle, findHandle_eq,
    respond_openSession, serveOpenSession, get_bind_run, TApiConnectionTable.findContext]
  cases lookup s.tObj.conn.cthandles msg.type.openSession.req.contextHandle with
  | none => rfl
  | some idx =>
    simp only [Option.map_some, slot_of_mul, pure_bind,
      skSwldTapiHandleGeneratorPluginGenerateSessionHandle, generateHandle, ne_eq,
      not_true_eq_false, ↓reduceIte]
    rfl

theorem skSwldTapiCloseSessionNw_eq (env : Env) :
    skSwldTapiCloseSessionNw env = (do
      assertCounts
      withRequest .closeSessionReq fun (hdr, contextHandle, sessionHandle) =>
        serveCloseSession env hdr contextHandle sessionHandle) := by
  unfold skSwldTapiCloseSessionNw
  congr 1
  funext _
  refine unpackRequest_eq .closeSessionReq env.reqMsg rfl (fun _ _ _ => rfl) fun s pack => ?_
  rw [← Layout.fields_decoded _ _ env.reqMsg]
  generalize Layout.closeSessionReq.decoded pack env.reqMsg = msg
  simp only [Layout.fields, respond_closeSession]
  rfl

theorem skSwldTapiInvokeCommandNw_eq (env : Env) :
    skSwldTapiInvokeCommandNw env = (do
      assertCounts
      withRequest .invokeCommandReq fun (hdr, contextHandle, sessionHandle, cmd) =>
        serveInvokeCommand env hdr contextHandle sessionHandle cmd) := by
  unfold skSwldTapiInvokeCommandNw
  congr 1
  funext _
  refine unpackRequest_eq .invokeCommandReq env.reqMsg rfl (fun _ _ _ => rfl) fun s pack => ?_
  rw [← Layout.fields_decoded _ _ env.reqMsg]
  generalize Layout.invokeCommandReq.decoded pack env.reqMsg = msg
  simp only [Layout.fields, respond_invokeCommand]
  rfl

theorem skSwldTapiRegisterMemoryNw_eq (env : Env) :
    skSwldTapiRegisterMemoryNw env = (do
      assertCounts
      withRequest .registerMemoryReq fun (hdr, contextHandle, memorySize, flag, addr) =>
        serveRegisterMemory env hdr contextHandle memorySize flag addr) := by
  unfold skSwldTapiRegisterMemoryNw
  congr 1
  funext _
  refine unpackRequest_eq .registerMemoryReq env.reqMsg rfl (fun _ _ _ => rfl) fun s pack => ?_
  rw [← Layout.fields_decoded _ _ env.reqMsg]
  generalize Layout.registerMemoryReq.decoded pack env.reqMsg = msg
  simp only [Layout.fields, skSwldTapiHandleGeneratorPluginFindContextHandle, findHandle_eq,
    respond_registerMemory, serveRegisterMemory, get_bind_run, TApiConnectionTable.findContext]
  cases lookup s.tObj.conn.cthandles msg.type.registerMemory.req.contextHandle with
  | none => rfl
  | some idx => rfl

theorem skSwldTapiUnregisterMemoryNw_eq (env : Env) :
    skSwldTapiUnregisterMemoryNw env = (do
      assertCounts
      withRequest .unregisterMemoryReq fun (hdr, contextHandle, memoryId) =>
        serveUnregisterMemory env hdr contextHandle memoryId) := by
  unfold skSwldTapiUnregisterMemoryNw
  congr 1
  funext _
  refine unpackRequest_eq .unregisterMemoryReq env.reqMsg rfl (fun _ _ _ => rfl) fun s pack => ?_
  rw [← Layout.fields_decoded _ _ env.reqMsg]
  generalize Layout.unregisterMemoryReq.decoded pack env.reqMsg = msg
  simp only [Layout.fields, skSwldTapiHandleGeneratorPluginFindContextHandle, findHandle_eq,
    respond_unregisterMemory, serveUnregisterMemory, get_bind_run, TApiConnectionTable.findContext]
  cases lookup s.tObj.conn.cthandles msg.type.unregisterMemory.req.contextHandle with
  | none => rfl
  | some idx => rfl

theorem skSwldTapiCheckNw_eq (cfg : Config) (env : Env) :
    skSwldTapiCheckNw cfg env =
      withRequest .checkReq fun (hdr, _) => serveCheck env hdr cfg := by
  unfold skSwldTapiCheckNw
  refine unpackRequest_eq .checkReq env.reqMsg rfl (fun _ _ _ => rfl) fun s pack => ?_
  rw [← Layout.fields_decoded _ _ env.reqMsg]
  generalize Layout.checkReq.decoded pack env.reqMsg = msg
  simp only [Layout.fields, respond_check]
  rfl

end SkSdk
