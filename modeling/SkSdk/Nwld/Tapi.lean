import Mathlib.Data.List.FinRange
import Mathlib.Logic.Function.Basic
import SkSdk.Both.TapiCodec
import SkSdk.Library.FaultState

/-!
The normal-world driver (`sk_nwld_drv.h`, `sk_drv_nwld_tapi.c`). A pointer to a
member of `info` is its index, a pointer to a session array is its number in
`sessions`, the null pointer is `none`. The counters that a table bounds are
natural numbers, `context_id_cnt` wraps as the source's `int32_t` does.
-/

namespace SkSdk
open ByteMemory FaultState

abbrev IdSlot := Fin skTapiMaxContextIds

abbrev skDrvNoHandleConnections : Int32 := -1
abbrev skDrvNoHandleSessions : Int32 := -1

structure SkNwldTeecComm where
  myObj : Nat
  contextId : UInt32
  smId : UInt32
  regInit : UInt8
  deriving DecidableEq

structure TSkSysContextIdInfo where
  contextId : UInt32
  comm : SkNwldTeecComm
  contextIdCnt : Int32
  used : Bool
  deriving DecidableEq

structure TSkSysSession where
  session : Handle
  used : Bool

structure TSkSysConnection where
  contextId : UInt32
  contextIdIndex : IdSlot
  context : Handle
  s : Option Nat
  maxSessions : UInt32
  numSessions : Nat
  comm : Option IdSlot
  used : Bool

def SkNwldTeecComm.zero : SkNwldTeecComm := ⟨0, 0, 0, 0⟩

def TSkSysContextIdInfo.zero : TSkSysContextIdInfo := ⟨0, .zero, 0, false⟩

def TSkSysSession.zero : TSkSysSession := ⟨Blk.zero 16, false⟩

def TSkSysConnection.zero : TSkSysConnection := ⟨0, 0, Blk.zero 16, none, 0, 0, none, false⟩

structure SkNwldTapi where
  info : IdSlot → TSkSysContextIdInfo
  clist : Nat → TSkSysConnection
  numContextId : Nat
  maxConnections : UInt32
  numConnections : Nat
  smId : UInt32

/-! ## The user's arguments -/

structure SkTeecUserOpenContext where
  contextId : UInt32
  contextHandle : UInt32

structure SkTeecUserCloseContext where
  contextHandle : UInt32

structure SkTeecUserOpenSession where
  contextHandle : UInt32
  taid : SkTaid
  sessionHandle : UInt32

structure SkTeecUserCloseSession where
  contextHandle : UInt32
  sessionHandle : UInt32

structure SkTeecUserInvokeCmd where
  contextHandle : UInt32
  sessionHandle : UInt32
  cmd : UInt32
  op : SkOperation

structure SkTeecUserRegisterMemory where
  contextHandle : UInt32
  memorySize : UInt32
  flag : UInt32
  addr : UInt32
  memoryId : MemoryId

structure SkTeecUserUnregisterMemory where
  contextHandle : UInt32
  memoryId : MemoryId

/-- `sk_teec_user_info`; the member in use selects the operation called. -/
inductive SkTeecUserInfo
  | openContext (poc : SkTeecUserOpenContext)
  | closeContext (pcc : SkTeecUserCloseContext)
  | openSession (pos : SkTeecUserOpenSession)
  | closeSession (pcs : SkTeecUserCloseSession)
  | invokeCmd (pic : SkTeecUserInvokeCmd)
  | regMem (rm : SkTeecUserRegisterMemory)
  | unregMem (urm : SkTeecUserUnregisterMemory)

/-! ## What surrounds a call -/

/-- What `sk_nwld_platform_comm_proc` returns and leaves in its arguments. -/
structure CommReply where
  err : SkStatus
  recvBuf : Mem
  recvBufLen : Nat
  op : Option SkOperation

/-- What one call meets outside the driver: the buffers it is given, the prior
bytes of the local `msg`, and the platform. -/
structure NwldEnv where
  /-- One of the pointers passed is null. -/
  nullArgument : Bool
  sendBuffer : Mem
  sendBufferSize : Nat
  recvBufferSize : Nat
  msg : SkMsg
  commRegister : SkNwldTeecComm → UInt32 → UInt32 → SkStatus × SkNwldTeecComm
  commUnregister : SkNwldTeecComm → SkStatus × SkNwldTeecComm
  commProc : SkNwldTeecComm → List UInt8 → Option SkOperation → CommReply
  openMemory : MemoryId → SkStatus
  closeMemory : MemoryId → SkStatus

/-- A request that left the driver, and what came back. -/
structure NwldExchange where
  comm : IdSlot
  request : List UInt8
  op : Option SkOperation
  reply : CommReply

/-- The driver with the session arrays of its heap. `exchanges` belongs to the
call in progress. -/
structure Nwld where
  tapi : SkNwldTapi
  sessions : Nat → Nat → TSkSysSession
  exchanges : List NwldExchange

/-- The ways a run ends early; a table index that went negative is `outOfRange`. -/
inductive NwldFault
  | assert
  | nullDeref
  | outOfRange
  deriving DecidableEq

abbrev NwldM := Prog Nwld NwldFault

namespace Nwld

def updInfo (s : Nwld) (c : IdSlot) (f : TSkSysContextIdInfo → TSkSysContextIdInfo) : Nwld :=
  { s with tapi.info := Function.update s.tapi.info c (f (s.tapi.info c)) }

def updConn (s : Nwld) (h : Nat) (f : TSkSysConnection → TSkSysConnection) : Nwld :=
  { s with tapi.clist := Function.update s.tapi.clist h (f (s.tapi.clist h)) }

def updSession (s : Nwld) (p k : Nat) (x : TSkSysSession) : Nwld :=
  { s with sessions := Function.update s.sessions p (Function.update (s.sessions p) k x) }

section Update

variable (s : Nwld) (c c' : IdSlot) (h h' p p' k k' : Nat) (x : TSkSysSession)
  (f : TSkSysContextIdInfo → TSkSysContextIdInfo) (g : TSkSysConnection → TSkSysConnection)

@[simp] theorem info_updInfo :
    (s.updInfo c f).tapi.info c' = if c' = c then f (s.tapi.info c) else s.tapi.info c' := by
  simp [updInfo, Function.update_apply]

@[simp] theorem clist_updInfo : (s.updInfo c f).tapi.clist = s.tapi.clist := rfl

@[simp] theorem numContextId_updInfo :
    (s.updInfo c f).tapi.numContextId = s.tapi.numContextId := rfl

@[simp] theorem numConnections_updInfo :
    (s.updInfo c f).tapi.numConnections = s.tapi.numConnections := rfl

@[simp] theorem maxConnections_updInfo :
    (s.updInfo c f).tapi.maxConnections = s.tapi.maxConnections := rfl

@[simp] theorem smId_updInfo : (s.updInfo c f).tapi.smId = s.tapi.smId := rfl

@[simp] theorem sessions_updInfo : (s.updInfo c f).sessions = s.sessions := rfl

@[simp] theorem exchanges_updInfo : (s.updInfo c f).exchanges = s.exchanges := rfl

@[simp] theorem clist_updConn :
    (s.updConn h g).tapi.clist h' = if h' = h then g (s.tapi.clist h) else s.tapi.clist h' := by
  simp [updConn, Function.update_apply]

@[simp] theorem info_updConn : (s.updConn h g).tapi.info = s.tapi.info := rfl

@[simp] theorem numContextId_updConn :
    (s.updConn h g).tapi.numContextId = s.tapi.numContextId := rfl

@[simp] theorem numConnections_updConn :
    (s.updConn h g).tapi.numConnections = s.tapi.numConnections := rfl

@[simp] theorem maxConnections_updConn :
    (s.updConn h g).tapi.maxConnections = s.tapi.maxConnections := rfl

@[simp] theorem smId_updConn : (s.updConn h g).tapi.smId = s.tapi.smId := rfl

@[simp] theorem sessions_updConn : (s.updConn h g).sessions = s.sessions := rfl

@[simp] theorem exchanges_updConn : (s.updConn h g).exchanges = s.exchanges := rfl

@[simp] theorem sessions_updSession : (s.updSession p k x).sessions p' k' =
    if p' = p ∧ k' = k then x else s.sessions p' k' := by
  by_cases hp : p' = p
  · subst hp
    simp [updSession, Function.update_apply]
  · simp [updSession, hp]

@[simp] theorem tapi_updSession : (s.updSession p k x).tapi = s.tapi := rfl

@[simp] theorem exchanges_updSession : (s.updSession p k x).exchanges = s.exchanges := rfl

end Update

end Nwld

/-! ## Table edits -/

namespace Nwld

/-- Slot `i` counts one more connection. -/
def shared (s : Nwld) (i : IdSlot) : Nwld :=
  s.updInfo i fun t => { t with contextIdCnt := t.contextIdCnt + 1 }

/-- The unused slot `i` is taken for a context id. -/
def claimed (s : Nwld) (i : IdSlot) (contextId : UInt32) : Nwld :=
  let t := s.updInfo i fun t =>
    { t with contextId, used := true, contextIdCnt := t.contextIdCnt + 1 }
  { t with tapi.numContextId := t.tapi.numContextId + 1 }

/-- The comm object of slot `c` as the platform left it. -/
def setComm (s : Nwld) (c : IdSlot) (comm : SkNwldTeecComm) : Nwld :=
  s.updInfo c fun t => { t with comm }

/-- Connection `h` is taken for a context of slot `i`. -/
def connected (s : Nwld) (h : Nat) (i : IdSlot) (context : Handle) : Nwld :=
  let t := s.updConn h fun t => { t with
    contextId := (s.tapi.info i).contextId
    contextIdIndex := i
    used := true
    comm := some i
    context }
  { t with tapi.numConnections := t.tapi.numConnections + 1 }

/-- Slot `i` counts one connection less. -/
def unshared (s : Nwld) (i : IdSlot) : Nwld :=
  s.updInfo i fun t => { t with contextIdCnt := t.contextIdCnt - 1 }

/-- Slot `i` is given back. -/
def freed (s : Nwld) (i : IdSlot) : Nwld :=
  let t := s.updInfo i fun t => { t with contextId := 0, used := false }
  { t with tapi.numContextId := t.tapi.numContextId - 1 }

/-- Connection `h` is wiped. -/
def disconnected (s : Nwld) (h : Nat) : Nwld :=
  { s with tapi.numConnections := s.tapi.numConnections - 1 }.updConn h fun _ => .zero

/-- Entry `k` of the session array `p` of connection `h` is taken. -/
def attached (s : Nwld) (h p k : Nat) (session : Handle) : Nwld :=
  (s.updSession p k ⟨session, true⟩).updConn h fun t => { t with numSessions := t.numSessions + 1 }

/-- Entry `k` of the session array `p` of connection `h` is wiped. -/
def detached (s : Nwld) (h p k : Nat) : Nwld :=
  (s.updConn h fun t => { t with numSessions := t.numSessions - 1 }).updSession p k .zero

end Nwld

/-! ## Private functions -/

/-- The first index below `n` whose `used` is 0. -/
def firstUnused (used : Nat → Bool) (n : Nat) : Option Nat := (List.range n).find? fun i => !used i

/-- The first slot of `info` with property `p`. -/
def firstSlot (p : IdSlot → Bool) : Option IdSlot := (List.finRange skTapiMaxContextIds).find? p

def skNwldTapiPrvFindContextId (contextId : UInt32) : NwldM (Option IdSlot) := do
  let tapi := (← get).tapi
  require .assert (contextId ≠ 0)
  return firstSlot fun i => (tapi.info i).used && (tapi.info i).contextId == contextId

/-- The table is null only where its size is 0. -/
def skNwldTapiGetConnHandle (table : Nat → TSkSysConnection) (maxTableSize : UInt32) :
    NwldM Int32 := do
  require .assert (maxTableSize ≠ 0)
  match firstUnused (fun i => (table i).used) maxTableSize.toNat with
  | some i => return Int32.ofNat i
  | none => return skDrvNoHandleConnections

def skNwldTapiGetSessionHandle (sess : Option Nat) (maxSessSize : UInt32) : NwldM Int32 := do
  require .assert (sess.isSome = true)
  require .assert (maxSessSize ≠ 0)
  let p ← deref .nullDeref sess
  let sessions := (← get).sessions
  match firstUnused (fun i => (sessions p i).used) maxSessSize.toNat with
  | some i => return Int32.ofNat i
  | none => return skDrvNoHandleSessions

/-- A signed handle used as an index. -/
def tableIndex (handle : Int32) : NwldM Nat := do
  require .outOfRange (0 ≤ handle.toInt)
  return handle.toInt.toNat

/-! ## Start -/

/-- Which of the two allocations succeed. -/
structure InitAlloc where
  clist : Bool
  sessions : Bool

/-- The session array is number 0; only the first entry of `clist` gets one. -/
def skNwldTapiInit (alloc : InitAlloc) (s : Nwld) (maxConnections maxSessions smId : UInt32)
    (commObj : Nat) : SkStatus × Nwld :=
  if maxConnections = 0 then (skErrorInvalidParam, s) else
  let cleared : SkNwldTapi := ⟨fun _ => .zero, fun _ => .zero, 0, 0, 0, 0⟩
  if !alloc.clist then (skErrorNoMemory, ⟨cleared, s.sessions, []⟩) else
  let tapi := { cleared with
    info := fun i => { TSkSysContextIdInfo.zero with comm.myObj := commObj + i } }
  if !alloc.sessions then (skErrorOpenSession, ⟨tapi, s.sessions, []⟩) else
  (skErrorSuccess,
    { tapi := { tapi with
        clist := Function.update tapi.clist 0
          { TSkSysConnection.zero with s := some 0, maxSessions }
        maxConnections
        smId }
      sessions := Function.update s.sessions 0 fun _ => .zero
      exchanges := [] })

/-! ## The exchange -/

/-- The check of the arguments that every operation starts with. -/
def NwldEnv.invalidParam (env : NwldEnv) : Bool :=
  env.nullArgument || env.sendBufferSize == 0 || env.recvBufferSize == 0

/-- The reply unpacked into the local `msg`, its header and status checked. -/
def checkReply (resp : Layout) (cmd : UInt32) (status : SkMsgType → Int32) (msg : SkMsg)
    (reply : CommReply) : Except SkStatus SkMsg := do
  if reply.err ≠ skErrorSuccess then throw skErrorCommFailed
  let unpacked := resp.unpack reply.recvBuf reply.recvBufLen msg
  if unpacked.status ≠ skTapiPackErrSuccess then throw skErrorCommFailed
  if unpacked.out.hdr.cmd = skTapiSystem then throw skErrorFailed
  else if unpacked.out.hdr.cmd ≠ cmd then throw skErrorInvalidCmd
  if status unpacked.out.type ≠ skTapiPackErrSuccess then throw skErrorFailed
  return unpacked.out

/-- The middle part of the seven operations, from the packed request to the
checked reply; the second result is what the platform left in `op`. -/
def exchange (env : NwldEnv) (comm : Option IdSlot) (req resp : Layout) (cmd : UInt32)
    (status : SkMsgType → Int32) (op : Option SkOperation) (msg : SkMsg) :
    NwldM (Except SkStatus SkMsg × Option SkOperation) := do
  let packed := req.pack msg env.sendBuffer env.sendBufferSize
  if packed.status ≠ skTapiPackErrSuccess then return (.error skErrorCommFailed, op)
  let comm ← deref .nullDeref comm
  let request := packed.pack.read 0 packed.packLen
  let reply := env.commProc ((← get).tapi.info comm).comm request op
  modify fun s => { s with exchanges := s.exchanges ++ [⟨comm, request, op, reply⟩] }
  return (checkReply resp cmd status msg reply, reply.op)

/-- Send `msg` and go on with the reply; a failure returns with the user's
arguments, in which only `op` may have changed. -/
def withReply {α : Type} (env : NwldEnv) (comm : Option IdSlot) (req resp : Layout) (cmd : UInt32)
    (status : SkMsgType → Int32) (op : Option SkOperation) (msg : SkMsg)
    (user : Option SkOperation → α) (k : SkMsg → Option SkOperation → NwldM (SkStatus × α)) :
    NwldM (SkStatus × α) := do
  let (result, op) ← exchange env comm req resp cmd status op msg
  match result with
  | .error err => return (err, user op)
  | .ok msg => k msg op

/-- The connection that a context handle of the user names. -/
def SkNwldTapi.connection (tapi : SkNwldTapi) (contextHandle : UInt32) :
    Option TSkSysConnection :=
  let pconn := tapi.clist contextHandle.toNat
  if contextHandle ≥ tapi.maxConnections ∨ pconn.used = false then none else some pconn

/-- The first part of the six operations on a connection. -/
def withConnection {α : Type} (env : NwldEnv) (contextHandle : UInt32) (user : α)
    (k : SkNwldTapi → TSkSysConnection → NwldM (SkStatus × α)) : NwldM (SkStatus × α) := do
  if env.invalidParam then return (skErrorInvalidParam, user)
  let tapi := (← get).tapi
  match tapi.connection contextHandle with
  | none => return (skErrorContextHandleNotFound, user)
  | some pconn => k tapi pconn

/-- The session entry that a session handle of the user names. -/
def withSession {α : Type} (pconn : TSkSysConnection) (sessionHandle : UInt32) (user : α)
    (k : Nat → TSkSysSession → NwldM (SkStatus × α)) : NwldM (SkStatus × α) := do
  if sessionHandle ≥ pconn.maxSessions then return (skErrorSessionHandleNotFound, user)
  let p ← deref .nullDeref pconn.s
  let entry := (← get).sessions p sessionHandle.toNat
  if entry.used = false then return (skErrorSessionHandleNotFound, user)
  k p entry

/-! ## Operations -/

/-- The slot of a context id, added to `info` and registered if it is new. -/
def claimContextId (env : NwldEnv) (contextId : UInt32) : NwldM (Except SkStatus IdSlot) := do
  match ← skNwldTapiPrvFindContextId contextId with
  | some i =>
    modify (·.shared i)
    return .ok i
  | none =>
    let tapi := (← get).tapi
    if tapi.numContextId < skTapiMaxContextIds then
      match firstSlot fun i => !(tapi.info i).used with
      | none => throw .assert
      | some i =>
        require .assert (tapi.numContextId ≠ skTapiMaxContextIds)
        modify (·.claimed i contextId)
        let result := env.commRegister ((← get).tapi.info i).comm contextId tapi.smId
        modify (·.setComm i result.2)
        if result.1 ≠ skErrorSuccess then return .error skErrorOpenFailed
        return .ok i
    else return .error skErrorOpenContext

def skNwldTapiOpenContext (env : NwldEnv) (poc : SkTeecUserOpenContext) :
    NwldM (SkStatus × SkTeecUserOpenContext) := do
  if env.invalidParam then return (skErrorInvalidParam, poc)
  if poc.contextId = 0 then return (skErrorInvalidParam, poc)
  match ← claimContextId env poc.contextId with
  | .error err => return (err, poc)
  | .ok i =>
    let tapi := (← get).tapi
    let msg := { env.msg with
      hdr := ⟨(tapi.info i).contextId, tapi.smId, skTapiOpenContext⟩
      type.openContext.req.contextId := (tapi.info i).contextId }
    withReply env (some i) .openContextReq .openContextResp skTapiOpenContext
        (·.openContext.resp.status) none msg (fun _ => poc) fun msg _ => do
      let chndle ← skNwldTapiGetConnHandle tapi.clist tapi.maxConnections
      if chndle = skDrvNoHandleConnections then return (skErrorCommFailed, poc)
      let h ← tableIndex chndle
      modify (·.connected h i msg.type.openContext.resp.contextHandle)
      return (skErrorSuccess, { poc with contextHandle := chndle.toUInt32 })

/-- The last part of `sk_nwld_tapi_close_context`: the context id of the
connection loses a reference. -/
def releaseContextId (env : NwldEnv) (pconn : TSkSysConnection) : NwldM SkStatus := do
  let i := pconn.contextIdIndex
  require .assert (0 < ((← get).tapi.info i).contextIdCnt)
  modify (·.unshared i)
  if ((← get).tapi.info i).contextIdCnt = 0 then
    let c ← deref .nullDeref pconn.comm
    let result := env.commUnregister ((← get).tapi.info c).comm
    modify (·.setComm c result.2)
    if result.1 ≠ skErrorSuccess then return skErrorCommFailed
    require .assert (0 < (← get).tapi.numContextId)
    modify (·.freed i)
  return skErrorSuccess

def skNwldTapiCloseContext (env : NwldEnv) (pcc : SkTeecUserCloseContext) :
    NwldM (SkStatus × SkTeecUserCloseContext) :=
  withConnection env pcc.contextHandle pcc fun tapi pconn => do
    let msg := { env.msg with
      hdr := ⟨pconn.contextId, tapi.smId, skTapiCloseContext⟩
      type.closeContext.req.contextHandle := pconn.context }
    withReply env pconn.comm .closeContextReq .closeContextResp skTapiCloseContext
        (·.closeContext.resp.status) none msg (fun _ => pcc) fun _ _ => do
      let err ← releaseContextId env pconn
      if err ≠ skErrorSuccess then return (err, pcc)
      require .assert ((← get).tapi.numConnections ≠ 0)
      modify (·.disconnected pcc.contextHandle.toNat)
      return (skErrorSuccess, pcc)

def skNwldTapiOpenSession (env : NwldEnv) (pos : SkTeecUserOpenSession) :
    NwldM (SkStatus × SkTeecUserOpenSession) :=
  withConnection env pos.contextHandle pos fun tapi pconn => do
    let msg := { env.msg with
      hdr := ⟨pconn.contextId, tapi.smId, skTapiOpenSession⟩
      type.openSession.req := ⟨pconn.context, pos.taid⟩ }
    withReply env pconn.comm .openSessionReq .openSessionResp skTapiOpenSession
        (·.openSession.resp.status) none msg (fun _ => pos) fun msg _ => do
      let shndle ← skNwldTapiGetSessionHandle pconn.s pconn.maxSessions
      if shndle = skDrvNoHandleSessions then return (skErrorSessionHandleNotFound, pos)
      let p ← deref .nullDeref pconn.s
      let k ← tableIndex shndle
      modify (·.attached pos.contextHandle.toNat p k msg.type.openSession.resp.sessionHandle)
      return (skErrorSuccess, { pos with sessionHandle := shndle.toUInt32 })

def skNwldTapiCloseSession (env : NwldEnv) (pcs : SkTeecUserCloseSession) :
    NwldM (SkStatus × SkTeecUserCloseSession) :=
  withConnection env pcs.contextHandle pcs fun tapi pconn =>
    withSession pconn pcs.sessionHandle pcs fun p entry => do
      let msg := { env.msg with
        hdr := ⟨pconn.contextId, tapi.smId, skTapiCloseSession⟩
        type.closeSession.req := ⟨pconn.context, entry.session⟩ }
      withReply env pconn.comm .closeSessionReq .closeSessionResp skTapiCloseSession
          (·.closeSession.resp.status) none msg (fun _ => pcs) fun _ _ => do
        require .assert (pconn.numSessions ≠ 0)
        modify (·.detached pcs.contextHandle.toNat p pcs.sessionHandle.toNat)
        return (skErrorSuccess, pcs)

def skNwldTapiInvokeCommand (env : NwldEnv) (pic : SkTeecUserInvokeCmd) :
    NwldM (SkStatus × SkTeecUserInvokeCmd) :=
  withConnection env pic.contextHandle pic fun tapi pconn =>
    withSession pconn pic.sessionHandle pic fun _ entry => do
      let msg := { env.msg with
        hdr := ⟨pconn.contextId, tapi.smId, skTapiInvokeCommand⟩
        type.invokeCmd.req := ⟨pconn.context, entry.session, pic.cmd⟩ }
      let user op := { pic with op := op.getD pic.op }
      withReply env pconn.comm .invokeCommandReq .invokeCommandResp skTapiInvokeCommand
        (·.invokeCmd.resp.status) (some pic.op) msg user fun _ op =>
          return (skErrorSuccess, user op)

def skNwldTapiRegisterMemory (env : NwldEnv) (rm : SkTeecUserRegisterMemory) :
    NwldM (SkStatus × SkTeecUserRegisterMemory) :=
  withConnection env rm.contextHandle rm fun tapi pconn => do
    let msg := { env.msg with
      hdr := ⟨pconn.contextId, tapi.smId, skTapiRegisterMemory⟩
      type.registerMemory.req := ⟨pconn.context, rm.memorySize, rm.flag, rm.addr⟩ }
    withReply env pconn.comm .registerMemoryReq .registerMemoryResp skTapiRegisterMemory
        (·.registerMemory.resp.status) none msg (fun _ => rm) fun msg _ => do
      let resp := msg.type.registerMemory.resp
      if env.openMemory resp.memoryId ≠ skErrorSuccess then return (skErrorRegmemCmd, rm)
      return (skErrorSuccess, { rm with addr := resp.addr, memoryId := resp.memoryId })

def skNwldTapiUnregisterMemory (env : NwldEnv) (urm : SkTeecUserUnregisterMemory) :
    NwldM (SkStatus × SkTeecUserUnregisterMemory) :=
  withConnection env urm.contextHandle urm fun tapi pconn => do
    let msg := { env.msg with
      hdr := ⟨pconn.contextId, tapi.smId, skTapiUnregisterMemory⟩
      type.unregisterMemory.req := ⟨pconn.context, urm.memoryId⟩ }
    withReply env pconn.comm .unregisterMemoryReq .unregisterMemoryResp skTapiUnregisterMemory
        (·.unregisterMemory.resp.status) none msg (fun _ => urm) fun msg _ => do
      if env.closeMemory msg.type.unregisterMemory.req.memoryId ≠ skErrorSuccess then
        return (skErrorRegmemCmd, urm)
      return (skErrorSuccess, urm)

/-! ## Calls -/

/-- One call of an operation. -/
structure Call where
  info : SkTeecUserInfo
  env : NwldEnv

/-- The operation that the arguments select. -/
def perform (env : NwldEnv) : SkTeecUserInfo → NwldM (SkStatus × SkTeecUserInfo)
  | .openContext poc => Prod.map id .openContext <$> skNwldTapiOpenContext env poc
  | .closeContext pcc => Prod.map id .closeContext <$> skNwldTapiCloseContext env pcc
  | .openSession pos => Prod.map id .openSession <$> skNwldTapiOpenSession env pos
  | .closeSession pcs => Prod.map id .closeSession <$> skNwldTapiCloseSession env pcs
  | .invokeCmd pic => Prod.map id .invokeCmd <$> skNwldTapiInvokeCommand env pic
  | .regMem rm => Prod.map id .regMem <$> skNwldTapiRegisterMemory env rm
  | .unregMem urm => Prod.map id .unregMem <$> skNwldTapiUnregisterMemory env urm

def nwldStep (call : Call) : NwldM (SkStatus × SkTeecUserInfo) := do
  modify fun s => { s with exchanges := [] }
  perform call.env call.info

end SkSdk
