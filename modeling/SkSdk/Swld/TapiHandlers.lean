import SkSdk.Both.TapiBytePack
import SkSdk.Both.TapiByteUnpack
import SkSdk.Swld.TapiTables

/-!
The request handlers `sk_swld_tapi_*_nw` of `tapi.c`, the function that selects
one of them, and the server's start. `goto DONE` is a `return`; every
`RESPOND` block is `respond`.
-/

namespace SkSdk
open ByteMemory FaultState DoublyLinked

/-- Pack the response into `msend`, whose full capacity is offered. -/
def respond (pack : Mem → Nat → Packed) : ServerM SkStatus := do
  let s ← get
  let packed := pack s.tObj.msend s.tObj.maxMsendSize
  set { s with tObj := { s.tObj with msend := packed.pack, msendSize := packed.packLen } }
  if packed.status ≠ skTapiPackErrSuccess then return skErrorInvalidParam
  return packed.status

/-- The two assertions at the head of seven handlers. -/
def assertCounts : ServerM Unit := do
  let conn := (← get).tObj.conn
  require .assert (conn.numCtableElements ≤ skTapiMaxConnectionsPerContext)
  require .assert (conn.numStableElements ≤ skTapiMaxSessionsPerContext)

/-- Unpack the request into the local `req_msg`; the handler goes on with `k`. -/
def unpackRequest (unpack : Mem → Nat → SkMsg → UInt8 → Unpacked SkMsg) (reqMsg : SkMsg)
    (k : SkSwldTapi → SkMsg → ServerM SkStatus) : ServerM SkStatus := do
  let tObj := (← get).tObj
  let unpacked := unpack tObj.mrecv tObj.mrecvSize reqMsg skTapiMsgReqType
  if unpacked.status ≠ skTapiPackErrSuccess then return skErrorInvalidParam
  k tObj unpacked.out

def skSwldTapiOpenContextNw (env : Env) : ServerM SkStatus := do
  assertCounts
  unpackRequest skTapiOpenContextUnpack env.reqMsg fun tObj reqMsg => do
    let ocReq := reqMsg.type.openContext.req
    let respMsg := { env.respMsg with hdr := reqMsg.hdr }
    let reply (respMsg : SkMsg) := respond fun pack packLen =>
      skTapiOpenContextPack respMsg pack packLen skTapiMsgRespType
    if ocReq.contextId ≠ tObj.contextId then
      return ← reply { respMsg with type.openContext.resp.status := skErrorBadContextId }
    if tObj.conn.numCtableElements ≥ skTapiMaxConnectionsPerContext then
      return ← reply { respMsg with type.openContext.resp.status := skErrorOpenContext }
    match firstFree fun i => (tObj.conn.ctable i).active with
    | none => throw .assert
    | some i =>
      let (err, handle) := skSwldTapiHandleGeneratorPluginGenerateContextHandle env
        (handleAt tObj.conn.cthandles i)
      modifyConn fun conn => { conn with cthandles := setHandleAt conn.cthandles i handle }
      emit (.generate handle)
      if err ≠ 16 then return skErrorFailedGenHandle
      modifyConn fun conn => conn.updContext i fun t => { t with active := true, pid := ocReq.pid }
      require .assert ((← get).tObj.conn.numCtableElements < skTapiMaxConnectionsPerContext)
      modifyConn fun conn => { conn with numCtableElements := conn.numCtableElements + 1 }
      reply { respMsg with
        type.openContext.resp.contextHandle := handleAt (← get).tObj.conn.cthandles i
        type.openContext.resp.status := skErrorSuccess }

def skSwldTapiCloseContextNw (env : Env) : ServerM SkStatus := do
  assertCounts
  unpackRequest skTapiCloseContextUnpack env.reqMsg fun tObj reqMsg => do
    let ccReq := reqMsg.type.closeContext.req
    let respMsg := { env.respMsg with hdr := reqMsg.hdr }
    let reply (status : Int32) := respond fun pack packLen =>
      skTapiCloseContextPack { respMsg with type.closeContext.resp.status := status } pack packLen
        skTapiMsgRespType
    match skSwldTapiHandleGeneratorPluginFindContextHandle skTapiMaxConnectionsPerContext
        tObj.conn.cthandles ccReq.contextHandle with
    | none => reply skErrorContextHandleNotFound
    | some idx =>
      let idx : CSlot ← slot .assert (idx / skTapiContextHandleSize)
      require .assertActive ((tObj.conn.ctable idx).active = true)
      -- the status of the removal is not looked at
      let _ ← onConn (skSwldTapiRemoveContext idx false)
      require .assert (0 < (← get).tObj.conn.numCtableElements)
      modifyConn fun conn => { conn with numCtableElements := conn.numCtableElements - 1 }
      reply skErrorSuccess

def skSwldTapiOpenSessionNw (env : Env) : ServerM SkStatus := do
  assertCounts
  unpackRequest skTapiOpenSessionUnpack env.reqMsg fun tObj reqMsg => do
    let osReq := reqMsg.type.openSession.req
    let respMsg := { env.respMsg with hdr := reqMsg.hdr }
    let reply (respMsg : SkMsg) := respond fun pack packLen =>
      skTapiOpenSessionPack respMsg pack packLen skTapiMsgRespType
    match skSwldTapiHandleGeneratorPluginFindContextHandle skTapiMaxConnectionsPerContext
        tObj.conn.cthandles osReq.contextHandle with
    | none =>
      reply { respMsg with type.openSession.resp.status := skErrorContextHandleNotFound }
    | some cIdx =>
      let cIdx : CSlot ← slot .assert (cIdx / skTapiContextHandleSize)
      require .assertActive ((tObj.conn.ctable cIdx).active = true)
      if (tObj.conn.ctable cIdx).numConnectedSessions ≥ skTapiMaxSessionsPerContext then
        return ← reply { respMsg with type.openSession.resp.status := skErrorOpenSession }
      match firstFree fun i => (tObj.conn.stable i).active with
      -- the search ends at the table size and the entry behind the last is used
      | none => throw .outOfRange
      | some i =>
        let (err, handle) := skSwldTapiHandleGeneratorPluginGenerateSessionHandle env
          (handleAt tObj.conn.sthandles i)
        modifyConn fun conn => { conn with sthandles := setHandleAt conn.sthandles i handle }
        emit (.generate handle)
        if err ≠ 16 then return skErrorFailedGenHandle
        let t ← skDrvSwldSecureTimerGet env
        modifyConn fun conn => conn.updContext cIdx fun c => { c with timeAccess := t }
        let t ← skDrvSwldSecureTimerGet env
        modifyConn fun conn => conn.updSession i fun s => { s with timeAccess := t }
        onConn (attachSession cIdx i osReq.taid)
        let (err, tapp) := env.tappLoad osReq.taid ((← get).tObj.conn.stable i).tapp
        modifyConn fun conn => conn.updSession i fun s => { s with tapp }
        emit (.load osReq.taid err tapp)
        if err ≠ skErrorSuccess then
          return ← reply { respMsg with type.openSession.resp.status := skErrorTappLoad }
        let err := env.tappInit tapp
        emit (.init tapp)
        if err ≠ skErrorSuccess then
          if err ≠ skErrorTimeout then
            reply { respMsg with type.openSession.resp.status := skErrorTappCall }
          else
            reply { respMsg with type.openSession.resp.status := skErrorTappTimeout }
        else
          reply { respMsg with
            type.openSession.resp.sessionHandle := handleAt (← get).tObj.conn.sthandles i
            type.openSession.resp.status := skErrorSuccess }

def skSwldTapiCloseSessionNw (env : Env) : ServerM SkStatus := do
  assertCounts
  unpackRequest skTapiCloseSessionUnpack env.reqMsg fun _ reqMsg => do
    let csReq := reqMsg.type.closeSession.req
    let respMsg := { env.respMsg with hdr := reqMsg.hdr }
    let reply (status : Int32) := respond fun pack packLen =>
      skTapiCloseSessionPack { respMsg with type.closeSession.resp.status := status } pack packLen
        skTapiMsgRespType
    match ← onConn (skSwldTapiFindObjects csReq.contextHandle csReq.sessionHandle) with
    | .error err =>
      if err = skErrorContextHandleNotFound ∨ err = skErrorSessionHandleNotFound then reply err
      else return err
    | .ok (cIdx, sIdx) =>
      let t ← skDrvSwldSecureTimerGet env
      modifyConn fun conn => conn.updContext cIdx fun c => { c with timeAccess := t }
      -- errors of the two calls are only logged
      let tapp := ((← get).tObj.conn.stable sIdx).tapp
      let _ := env.tappClose tapp
      emit (.close tapp)
      let (_, unloaded) := env.tappUnload tapp
      emit (.unload tapp)
      modifyConn fun conn => conn.updSession sIdx fun s => { s with tapp := unloaded }
      require .assert (((← get).tObj.conn.stable sIdx).idx = sIdx)
      let _ ← onConn (skSwldTapiRemoveSession cIdx (some sIdx))
      reply skErrorSuccess

def skSwldTapiInvokeCommandNw (env : Env) : ServerM SkStatus := do
  assertCounts
  unpackRequest skTapiInvokeCommandUnpack env.reqMsg fun _ reqMsg => do
    let icReq := reqMsg.type.invokeCmd.req
    let respMsg := { env.respMsg with hdr := reqMsg.hdr }
    let reply (status : Int32) := respond fun pack packLen =>
      skTapiInvokeCommandPack { respMsg with type.invokeCmd.resp.status := status } pack packLen
        skTapiMsgRespType
    match ← onConn (skSwldTapiFindObjects icReq.contextHandle icReq.sessionHandle) with
    | .error err =>
      if err = skErrorContextHandleNotFound ∨ err = skErrorSessionHandleNotFound then reply err
      else return err
    | .ok (cIdx, sIdx) =>
      let t ← skDrvSwldSecureTimerGet env
      modifyConn fun conn => conn.updContext cIdx fun c => { c with timeAccess := t }
      let t ← skDrvSwldSecureTimerGet env
      modifyConn fun conn => conn.updSession sIdx fun s => { s with timeAccess := t }
      let op := (← get).tObj.op
      let tapp := ((← get).tObj.conn.stable sIdx).tapp
      let err := env.tappPull tapp icReq.cmd op
      emit (.pull tapp icReq.cmd op)
      if err ≠ skErrorSuccess then
        if err ≠ skErrorTimeout then reply skErrorTappCall else reply skErrorTappTimeout
      else
        reply skErrorSuccess

/-! ## Registered memory -/

def heapLinks (heap : Nat → Option TApiRegMemory) : Links Nat where
  next a := (heap a).bind (·.next)
  prev a := (heap a).bind (·.prev)

def modifyNode (a : Nat) (f : TApiRegMemory → TApiRegMemory) : ServerM Unit :=
  modify fun s => { s with heap := Function.update s.heap a ((s.heap a).map f) }

def modifyRmem (f : TApiRegMemoryTable → TApiRegMemoryTable) : ServerM Unit :=
  modify fun s => { s with tObj := { s.tObj with rmem := f s.tObj.rmem } }

/-- `SYSV_MALLOC` of a node that is then filled with `node`. -/
def mallocNode (node : TApiRegMemory) : ServerM Nat := do
  let s ← get
  set { s with heap := Function.update s.heap s.heapNext (some node), heapNext := s.heapNext + 1 }
  return s.heapNext

def freeNode (a : Nat) : ServerM Unit :=
  modify fun s => { s with heap := Function.update s.heap a none }

/-- The slot number is not divided by the handle size here, so `cIdx` is a byte
offset used as an index into `ctable`. -/
def touchUndivided (env : Env) (cIdx : Nat) : ServerM Unit := do
  let t ← skDrvSwldSecureTimerGet env
  let c : CSlot ← slot .outOfRange cIdx
  modifyConn fun conn => conn.updContext c fun c => { c with timeAccess := t }

/-- The part of `sk_swld_tapi_register_memory_nw` that links the node in. -/
def appendMemory (mem : Nat) : ServerM Unit := do
  let s ← get
  match s.tObj.rmem.m with
  | some m =>
    match lastFrom (heapLinks s.heap).next s.heapNext m with
    | none => throw .diverge
    | some mptr => do
      let _ ← deref .nullDeref (s.heap mptr)
      modifyNode mptr fun n => { n with next := some mem }
      modifyNode mem fun n => { n with prev := some mptr }
  | none => modifyRmem fun r => { r with m := some mem }
  modifyRmem fun r => { r with memRegionCount := r.memRegionCount + 1 }

/-- The part of `sk_swld_tapi_unregister_memory_nw` that takes the node out. -/
def unlinkMemory (mptr : Nat) (node : TApiRegMemory) : ServerM Unit := do
  if (← get).tObj.rmem.m = some mptr then
    match node.next with
    | some n => do
      modifyRmem fun r => { r with m := some n }
      modifyNode n fun t => { t with prev := none }
    | none => modifyRmem fun r => { r with m := none }
  else
    let p ← deref .nullDeref node.prev
    modifyNode p fun t => { t with next := node.next }
    match node.next with
    | some n => modifyNode n fun t => { t with prev := node.prev }
    | none => pure ()
  require .assert (0 < (← get).tObj.rmem.memRegionCount)
  modifyRmem fun r => { r with memRegionCount := r.memRegionCount - 1 }

def skSwldTapiRegisterMemoryNw (env : Env) : ServerM SkStatus := do
  assertCounts
  unpackRequest skTapiRegisterMemoryUnpack env.reqMsg fun tObj reqMsg => do
    let msReq := reqMsg.type.registerMemory.req
    let respMsg := { env.respMsg with hdr := reqMsg.hdr }
    match skSwldTapiHandleGeneratorPluginFindContextHandle skTapiMaxConnectionsPerContext
        tObj.conn.cthandles msReq.contextHandle with
    | none => return skErrorContextHandleNotFound
    | some cIdx =>
      touchUndivided env cIdx
      match env.malloc with
      | none => return skErrorNoMemory
      | some garbage =>
        let memPtr := if msReq.flag ≠ skTeecMemAllocate then msReq.addr else 0
        let mem ← mallocNode { garbage with
          next := none, prev := none, memorySize := msReq.memorySize, flag := msReq.flag, memPtr }
        let (err, id, memoryIdLength) := env.allocateMemory memPtr msReq.memorySize msReq.flag
          garbage.id skTapiMemoryIdLength garbage.info
        modifyNode mem fun n => { n with id }
        if err ≠ skErrorSuccess then
          freeNode mem
          return skErrorFailedSharedMemoryReq
        require .assert (memoryIdLength = skTapiMemoryIdLength)
        appendMemory mem
        respond fun pack packLen => skTapiRegisterMemoryPack { respMsg with
          type.registerMemory.resp.addr := memPtr
          type.registerMemory.resp.memoryId := id
          type.registerMemory.resp.status := skErrorSuccess } pack packLen skTapiMsgRespType

def skSwldTapiUnregisterMemoryNw (env : Env) : ServerM SkStatus := do
  assertCounts
  unpackRequest skTapiUnregisterMemoryUnpack env.reqMsg fun tObj reqMsg => do
    let unmsReq := reqMsg.type.unregisterMemory.req
    let respMsg := { env.respMsg with hdr := reqMsg.hdr }
    match skSwldTapiHandleGeneratorPluginFindContextHandle skTapiMaxConnectionsPerContext
        tObj.conn.cthandles unmsReq.contextHandle with
    | none => return skErrorContextHandleNotFound
    | some cIdx =>
      touchUndivided env cIdx
      let s ← get
      -- the walk also stops at a pointer to freed memory, where `deref` faults
      match findFrom (heapLinks s.heap).next
          (fun a => (s.heap a).all fun n => n.id = unmsReq.memoryId) s.heapNext s.tObj.rmem.m with
      | none => throw .diverge
      | some none => return skErrorNoMemory
      | some (some mptr) =>
        let node ← deref .nullDeref (s.heap mptr)
        unlinkMemory mptr node
        let err := env.freeMemory node.memPtr node.info
        if err ≠ skErrorSuccess then return skErrorFailedSharedMemoryReq
        freeNode mptr
        respond fun pack packLen => skTapiUnregisterMemoryPack
          { respMsg with type.unregisterMemory.resp.status := skErrorSuccess } pack packLen
          skTapiMsgRespType

/-! ## Expiry -/

/-- `diff_time` is the `int32_t` difference stored in a `uint32_t`. -/
def diffTime (env : Env) (timeAccess now : UInt32) : UInt32 :=
  (env.timerDiff timeAccess now).toUInt32

/-- The `do ... while (sess != 0)` loop over the sessions of context `c`. An
expired session is removed and then looked at once more. -/
def checkSessions (cfg : Config) (env : Env) (c : CSlot) : Nat → Option SSlot → ServerM Unit
  | 0, _ => throw .diverge
  | k + 1, sess => do
    let s ← deref .nullDeref sess
    let t := ((← get).tObj.conn.stable s).timeAccess
    let now ← skDrvSwldSecureTimerGet env
    if diffTime env t now > cfg.sessionTimeoutMs then
      let _ ← onConn (skSwldTapiRemoveSession c (some s))
      checkSessions cfg env c k (some s)
    else
      match ((← get).tObj.conn.stable s).next with
      | some n => checkSessions cfg env c k (some n)
      | none => pure ()

def checkContext (cfg : Config) (env : Env) (c : CSlot) : ServerM Unit := do
  if ((← get).tObj.conn.ctable c).active = true then
    checkSessions cfg env c (skTapiMaxSessionsPerContext + 1) ((← get).tObj.conn.ctable c).start
    let t := ((← get).tObj.conn.ctable c).timeAccess
    let now ← skDrvSwldSecureTimerGet env
    if diffTime env t now > cfg.contextTimeoutMs then
      let _ ← onConn (skSwldTapiRemoveContext c true)

def checkContexts (cfg : Config) (env : Env) : List CSlot → ServerM Unit
  | [] => pure ()
  | c :: cs => do checkContext cfg env c; checkContexts cfg env cs

def skSwldTapiCheckNw (cfg : Config) (env : Env) : ServerM SkStatus := do
  unpackRequest skTapiCheckUnpack env.reqMsg fun _ reqMsg => do
    let respMsg := { env.respMsg with hdr := reqMsg.hdr }
    checkContexts cfg env (List.finRange skTapiMaxConnectionsPerContext)
    respond fun pack packLen => skTapiCheckPack
      { respMsg with type.sysCheck.resp.status := skErrorSuccess } pack packLen skTapiMsgRespType

/-! ## Requests -/

/-- The handler of each command; `none` is the `default` case. -/
def handlerOf (cfg : Config) (env : Env) (cmd : UInt32) : Option (ServerM SkStatus × SkStatus) :=
  if cmd = skTapiOpenContext then some (skSwldTapiOpenContextNw env, skErrorOpenContext)
  else if cmd = skTapiCloseContext then some (skSwldTapiCloseContextNw env, skErrorCloseContext)
  else if cmd = skTapiOpenSession then some (skSwldTapiOpenSessionNw env, skErrorOpenSession)
  else if cmd = skTapiCloseSession then some (skSwldTapiCloseSessionNw env, skErrorCloseSession)
  else if cmd = skTapiInvokeCommand then some (skSwldTapiInvokeCommandNw env, skErrorInvCmd)
  else if cmd = skTapiRegisterMemory then
    some (skSwldTapiRegisterMemoryNw env, skErrorRegmemCmd)
  else if cmd = skTapiUnregisterMemory then
    some (skSwldTapiUnregisterMemoryNw env, skErrorUnregmemCmd)
  else if cmd = skTapiCheck then some (skSwldTapiCheckNw cfg env, skErrorCheckCmd)
  else none

def skSwldTapiProcess (cfg : Config) (env : Env) : ServerM SkStatus := do
  let tObj := (← get).tObj
  require .assert (tObj.mrecvSize ≤ tObj.maxMrecvSize)
  let unpacked := skTapiHeaderUnpack tObj.mrecv tObj.mrecvSize env.reqMsg.hdr
  if unpacked.status ≠ skTapiPackErrSuccess then return skErrorInvalidParam
  let hdr := unpacked.out
  if hdr.contextId ≠ tObj.contextId then return skErrorBadContextId
  if hdr.smId ≠ tObj.smId then return skErrorBadSmId
  match handlerOf cfg env hdr.cmd with
  | none => return skErrorInvalidCmd
  | some (handler, errOf) =>
    if (← handler) ≠ skErrorSuccess then return errOf
    return skErrorSuccess

/-- One received message with the `sk_operation` that came along, and the
surroundings in which it is processed. -/
structure Request where
  bytes : List UInt8
  op : SkOperation
  env : Env

/-- Place a message in the receive buffer and forget the previous request. -/
def receive (req : Request) (s : Server) : Server :=
  { s with
    tObj := { s.tObj with
      mrecv := s.tObj.mrecv.write 0 req.bytes, mrecvSize := req.bytes.length, op := req.op }
    clk := 0
    events := [] }

def handleRequest (cfg : Config) (req : Request) : ServerM SkStatus := do
  modify (receive req)
  skSwldTapiProcess cfg req.env

/-! ## Start -/

/-- What `sk_swld_tapi_init` meets: the object's prior bytes, the two buffers
that `SYSV_MALLOC` gives and the status of the handle generator's `init`. -/
structure InitEnv where
  tObj : SkSwldTapi
  msend : Option Mem
  mrecv : Option Mem
  plugin : SkStatus

def skSwldTapiInit (env : InitEnv) (contextId smId : UInt32) (maxRecvMemSize maxSendMemSize : Nat) :
    SkStatus × SkSwldTapi :=
  let tObj := { env.tObj with
    contextId, smId, maxMsendSize := maxSendMemSize, maxMrecvSize := maxRecvMemSize,
    msendSize := maxSendMemSize, mrecvSize := maxRecvMemSize }
  match env.msend with
  | none => (skErrorNoMemory, tObj)
  | some msend =>
    let tObj := { tObj with msend }
    match env.mrecv with
    | none => (skErrorNoMemory, tObj)
    | some mrecv =>
      let tObj := { tObj with mrecv, rmem := ⟨none, 0⟩ }
      if env.plugin ≠ skErrorSuccess then (skErrorOpenComm, tObj)
      else (skErrorSuccess, { tObj with conn := TApiConnectionTable.init })

/-- The server right after a successful `sk_swld_tapi_init`. -/
def Started (s : Server) : Prop :=
  (∃ env contextId smId maxRecvMemSize maxSendMemSize,
    skSwldTapiInit env contextId smId maxRecvMemSize maxSendMemSize = (skErrorSuccess, s.tObj)) ∧
  s.heap = (fun _ => none) ∧ s.heapNext = 0

abbrev ServerStep := Step Request Server SkStatus

/-- The runs of the server: any requests, each of them processed to its end. -/
def ServerRun (cfg : Config) (tr : List ServerStep) (s : Server) : Prop :=
  ∃ s₀, Started s₀ ∧ Run (handleRequest cfg) s₀ tr s

def Reachable (cfg : Config) (s : Server) : Prop := ∃ tr, ServerRun cfg tr s

end SkSdk
