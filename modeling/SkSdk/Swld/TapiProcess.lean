import SkSdk.Swld.RegisteredMemory
import SkSdk.Swld.Expiry

/-!
Requests as the server sees them: a command and the members that its layout
carries. `handleRequest_eq` takes `sk_swld_tapi_process` apart, `Effect` lists
what each command may do to the connection table and which calls go with it.
-/

namespace SkSdk
open ByteMemory FaultState DoublyLinked Format

/-- The commands that have a handler. -/
inductive Command
  | openContext | closeContext | openSession | closeSession | invokeCommand
  | registerMemory | unregisterMemory | check
  deriving DecidableEq

namespace Command

def ofCmd (cmd : UInt32) : Option Command :=
  if cmd = skTapiOpenContext then some openContext
  else if cmd = skTapiCloseContext then some closeContext
  else if cmd = skTapiOpenSession then some openSession
  else if cmd = skTapiCloseSession then some closeSession
  else if cmd = skTapiInvokeCommand then some invokeCommand
  else if cmd = skTapiRegisterMemory then some registerMemory
  else if cmd = skTapiUnregisterMemory then some unregisterMemory
  else if cmd = skTapiCheck then some check
  else none

abbrev reqLayout : Command → Layout
  | openContext => .openContextReq
  | closeContext => .closeContextReq
  | openSession => .openSessionReq
  | closeSession => .closeSessionReq
  | invokeCommand => .invokeCommandReq
  | registerMemory => .registerMemoryReq
  | unregisterMemory => .unregisterMemoryReq
  | check => .checkReq

abbrev respLayout : Command → Layout
  | openContext => .openContextResp
  | closeContext => .closeContextResp
  | openSession => .openSessionResp
  | closeSession => .closeSessionResp
  | invokeCommand => .invokeCommandResp
  | registerMemory => .registerMemoryResp
  | unregisterMemory => .unregisterMemoryResp
  | check => .checkResp

/-- The status that a failed handler becomes. -/
def errOf : Command → SkStatus
  | openContext => skErrorOpenContext
  | closeContext => skErrorCloseContext
  | openSession => skErrorOpenSession
  | closeSession => skErrorCloseSession
  | invokeCommand => skErrorInvCmd
  | registerMemory => skErrorRegmemCmd
  | unregisterMemory => skErrorUnregmemCmd
  | check => skErrorCheckCmd

/-- The decoded request served. -/
def serve (cfg : Config) (env : Env) :
    (c : Command) → SkHeader × c.reqLayout.Fields → ServerM SkStatus
  | openContext, (hdr, contextId) =>
    serveOpenContext env hdr env.respMsg.type.openContext.resp.contextHandle
      env.reqMsg.type.openContext.req.pid contextId
  | closeContext, (hdr, contextHandle) => serveCloseContext hdr contextHandle
  | openSession, (hdr, contextHandle, taid) =>
    serveOpenSession env hdr env.respMsg.type.openSession.resp.sessionHandle contextHandle taid
  | closeSession, (hdr, contextHandle, sessionHandle) =>
    serveCloseSession env hdr contextHandle sessionHandle
  | invokeCommand, (hdr, contextHandle, sessionHandle, cmd) =>
    serveInvokeCommand env hdr contextHandle sessionHandle cmd
  | registerMemory, (hdr, contextHandle, memorySize, flag, addr) =>
    serveRegisterMemory env hdr contextHandle memorySize flag addr
  | unregisterMemory, (hdr, contextHandle, memoryId) =>
    serveUnregisterMemory env hdr contextHandle memoryId
  | check, (hdr, _) => serveCheck env hdr cfg

end Command

theorem handlerOf_eq (cfg : Config) (env : Env) (cmd : UInt32) :
    handlerOf cfg env cmd = (Command.ofCmd cmd).map fun c =>
      (do
        if c ≠ .check then assertCounts
        withRequest c.reqLayout (c.serve cfg env), c.errOf) := by
  unfold handlerOf Command.ofCmd
  rw [skSwldTapiOpenContextNw_eq, skSwldTapiCloseContextNw_eq, skSwldTapiOpenSessionNw_eq,
    skSwldTapiCloseSessionNw_eq, skSwldTapiInvokeCommandNw_eq, skSwldTapiRegisterMemoryNw_eq,
    skSwldTapiUnregisterMemoryNw_eq, skSwldTapiCheckNw_eq]
  simp only [apply_ite (Option.map _), Option.map_some, Option.map_none]
  rfl

/-! ## Requests -/

@[simp] theorem receive_conn (req : Request) (s : Server) :
    (receive req s).tObj.conn = s.tObj.conn := rfl

@[simp] theorem receive_events (req : Request) (s : Server) : (receive req s).events = [] := rfl

namespace Request

/-- The header of a message that is long enough to have one. -/
def hdr (req : Request) : SkHeader := Layout.headerFormat.dec (req.bytes.take 12)

/-- The message read with layout `l`. -/
def decode (req : Request) (l : Layout) : SkHeader × l.Fields :=
  l.format.dec (req.bytes.take l.wireLength)

theorem get_receive (req : Request) (s : Server) {α : Type} {n : Nat} (f : Format α n)
    (hn : n ≤ req.bytes.length) :
    f.get (receive req s).tObj.mrecv 0 = f.dec (req.bytes.take n) := by
  have hread : (s.tObj.mrecv.write 0 req.bytes).read 0 n = req.bytes.take n := by
    rw [← Mem.take_read _ _ _ _ hn, Mem.read_write_same]
  exact congrArg f.dec hread

theorem decode_hdr (req : Request) (l : Layout) : (req.decode l).1 = req.hdr := by
  have htake : (req.bytes.take l.wireLength).take 12 = req.bytes.take 12 := by
    rw [List.take_take, Nat.min_eq_left l.header_le_wireLength]
  rw [hdr, ← htake]
  cases l <;> rfl

end Request

/-- `sk_swld_tapi_process` from the unpacked header on. -/
private def processHeader (cfg : Config) (env : Env) (tObj : SkSwldTapi) (hdr : SkHeader) :
    ServerM SkStatus := do
  if hdr.contextId ≠ tObj.contextId then return skErrorBadContextId
  if hdr.smId ≠ tObj.smId then return skErrorBadSmId
  match handlerOf cfg env hdr.cmd with
  | none => return skErrorInvalidCmd
  | some (handler, errOf) =>
    if (← handler) ≠ skErrorSuccess then return errOf
    return skErrorSuccess

private theorem withRequest_run (l : Layout) (k : SkHeader × l.Fields → ServerM SkStatus)
    (req : Request) (s : Server) :
    withRequest l k (receive req s) =
      if req.bytes.length < l.wireLength then .ok (skErrorInvalidParam, receive req s)
      else k (req.decode l) (receive req s) := by
  change (if req.bytes.length < l.wireLength then return skErrorInvalidParam
    else k (l.format.get (receive req s).tObj.mrecv 0) : ServerM SkStatus) (receive req s) = _
  by_cases hlen : req.bytes.length < l.wireLength
  · rw [if_pos hlen, if_pos hlen]
    rfl
  · rw [if_neg hlen, if_neg hlen, req.get_receive s _ (Nat.le_of_not_lt hlen), Request.decode]

private theorem assertCounts_run (s : Server) :
    assertCounts s =
      if s.tObj.conn.numCtableElements ≤ skTapiMaxConnectionsPerContext ∧
          s.tObj.conn.numStableElements ≤ skTapiMaxSessionsPerContext then .ok ((), s)
      else .error .assert := by
  refine (get_bind_run _ _).trans ?_
  by_cases hc : s.tObj.conn.numCtableElements ≤ skTapiMaxConnectionsPerContext
  · rw [require_bind_of hc]
    by_cases hs : s.tObj.conn.numStableElements ≤ skTapiMaxSessionsPerContext
    · rw [if_pos ⟨hc, hs⟩, require_of hs]
    · rw [if_neg fun h => hs h.2, require_of_not hs]
  · rw [if_neg fun h => hc h.1, require_bind_of_not hc]

theorem handler_run (cfg : Config) (c : Command) (req : Request) (s : Server) :
    (do
      if c ≠ .check then assertCounts
      withRequest c.reqLayout (c.serve cfg req.env) : ServerM SkStatus) (receive req s) =
      if c ≠ .check ∧ ¬(s.tObj.conn.numCtableElements ≤ skTapiMaxConnectionsPerContext ∧
          s.tObj.conn.numStableElements ≤ skTapiMaxSessionsPerContext) then .error .assert
      else if req.bytes.length < c.reqLayout.wireLength then
        .ok (skErrorInvalidParam, receive req s)
      else c.serve cfg req.env (req.decode c.reqLayout) (receive req s) := by
  rw [← withRequest_run]
  have hcounts := assertCounts_run (receive req s)
  by_cases hcheck : c ≠ .check
  · rw [if_pos hcheck]
    by_cases hok : s.tObj.conn.numCtableElements ≤ skTapiMaxConnectionsPerContext ∧
        s.tObj.conn.numStableElements ≤ skTapiMaxSessionsPerContext
    · rw [if_neg fun h => h.2 hok]
      exact bind_of_ok (hcounts.trans (if_pos hok)) _
    · rw [if_pos ⟨hcheck, hok⟩]
      exact bind_of_error (hcounts.trans (if_neg hok)) _
  · rw [if_neg hcheck, if_neg fun h => hcheck h.1]

/-- Whatever goes wrong in a handler is reported as the error of its command. -/
private theorem reported_run (handler : ServerM SkStatus) (errOf : SkStatus) (s : Server) :
    (do
      if (← handler) ≠ skErrorSuccess then return errOf
      return skErrorSuccess : ServerM SkStatus) s =
      (handler s).map fun r => (if r.1 ≠ skErrorSuccess then errOf else skErrorSuccess, r.2) := by
  cases hrun : handler s with
  | error e => exact bind_of_error hrun _
  | ok r =>
    refine (bind_of_ok hrun _).trans ?_
    by_cases hstatus : r.1 ≠ skErrorSuccess
    · rw [if_pos hstatus]
      simp [Except.map, hstatus]
      rfl
    · rw [if_neg hstatus]
      simp [Except.map, hstatus]
      rfl

private theorem processHeader_run (cfg : Config) (req : Request) (hdr : SkHeader) (s : Server) :
    processHeader cfg req.env (receive req s).tObj hdr (receive req s) =
      if hdr.contextId ≠ s.tObj.contextId then .ok (skErrorBadContextId, receive req s)
      else if hdr.smId ≠ s.tObj.smId then .ok (skErrorBadSmId, receive req s)
      else match Command.ofCmd hdr.cmd with
        | none => .ok (skErrorInvalidCmd, receive req s)
        | some c =>
          if c ≠ .check ∧ ¬(s.tObj.conn.numCtableElements ≤ skTapiMaxConnectionsPerContext ∧
              s.tObj.conn.numStableElements ≤ skTapiMaxSessionsPerContext) then .error .assert
          else if req.bytes.length < c.reqLayout.wireLength then .ok (c.errOf, receive req s)
          else (c.serve cfg req.env (req.decode c.reqLayout) (receive req s)).map fun r =>
            (if r.1 ≠ skErrorSuccess then c.errOf else skErrorSuccess, r.2) := by
  unfold processHeader
  by_cases hid : hdr.contextId ≠ s.tObj.contextId
  · rw [if_pos hid]
    exact congrFun (if_pos hid) _
  rw [if_neg hid]
  refine (congrFun (if_neg hid) _).trans ?_
  by_cases hsm : hdr.smId ≠ s.tObj.smId
  · rw [if_pos hsm]
    exact congrFun (if_pos hsm) _
  rw [if_neg hsm]
  refine (congrFun (if_neg hsm) _).trans ?_
  rw [handlerOf_eq]
  cases Command.ofCmd hdr.cmd with
  | none => rfl
  | some c =>
    refine (reported_run _ c.errOf _).trans ?_
    rw [handler_run]
    simp only [apply_ite (Except.map _)]
    rfl

theorem handleRequest_eq (cfg : Config) (req : Request) (s : Server) :
    handleRequest cfg req s =
      if s.tObj.maxMrecvSize < req.bytes.length then .error .assert
      else if req.bytes.length < 12 then .ok (skErrorInvalidParam, receive req s)
      else if req.hdr.contextId ≠ s.tObj.contextId then .ok (skErrorBadContextId, receive req s)
      else if req.hdr.smId ≠ s.tObj.smId then .ok (skErrorBadSmId, receive req s)
      else match Command.ofCmd req.hdr.cmd with
        | none => .ok (skErrorInvalidCmd, receive req s)
        | some c =>
          if c ≠ .check ∧ ¬(s.tObj.conn.numCtableElements ≤ skTapiMaxConnectionsPerContext ∧
              s.tObj.conn.numStableElements ≤ skTapiMaxSessionsPerContext) then .error .assert
          else if req.bytes.length < c.reqLayout.wireLength then .ok (c.errOf, receive req s)
          else (c.serve cfg req.env (req.decode c.reqLayout) (receive req s)).map fun r =>
            (if r.1 ≠ skErrorSuccess then c.errOf else skErrorSuccess, r.2) := by
  refine (modify_bind_run _ _ _).trans ?_
  refine (get_bind_run _ _).trans ?_
  by_cases hfit : s.tObj.maxMrecvSize < req.bytes.length
  · rw [if_pos hfit]
    exact require_bind_of_not (Nat.not_le.mpr hfit) _ _ _
  rw [if_neg hfit]
  refine (require_bind_of (Nat.le_of_not_lt hfit) _ _ _).trans ?_
  change (if (skTapiHeaderUnpack (receive req s).tObj.mrecv req.bytes.length
        req.env.reqMsg.hdr).status ≠ skTapiPackErrSuccess then return skErrorInvalidParam
      else processHeader cfg req.env (receive req s).tObj
        (skTapiHeaderUnpack (receive req s).tObj.mrecv req.bytes.length req.env.reqMsg.hdr).out :
      ServerM SkStatus) (receive req s) = _
  by_cases hshort : req.bytes.length < 12
  · rw [if_pos hshort, skTapiHeaderUnpack_of_lt _ _ _ hshort]
    rfl
  rw [if_neg hshort, skTapiHeaderUnpack_of_le _ _ _ (Nat.le_of_not_lt hshort),
    req.get_receive s _ (Nat.le_of_not_lt hshort)]
  exact processHeader_run cfg req req.hdr s

/-! ## What a request may do -/

/-- What holds of the server between requests. -/
structure Server.Sound (s : Server) : Prop where
  table : s.tObj.conn.Consistent
  room : s.tObj.conn.numCtableElements ≤ skTapiMaxConnectionsPerContext
  slots : ∀ i, (s.tObj.conn.stable i).idx = i
  regions : ∃ l, s.MemoryList l

/-- The message fits the buffer, is addressed to this server and carries a whole
request of command `c`. -/
structure Accepted (s : Server) (req : Request) (c : Command) : Prop where
  fits : req.bytes.length ≤ s.tObj.maxMrecvSize
  contextId : req.hdr.contextId = s.tObj.contextId
  smId : req.hdr.smId = s.tObj.smId
  command : Command.ofCmd req.hdr.cmd = some c
  whole : c.reqLayout.wireLength ≤ req.bytes.length

instance (s : Server) (req : Request) (c : Command) : Decidable (Accepted s req c) :=
  decidable_of_iff (req.bytes.length ≤ s.tObj.maxMrecvSize ∧
      req.hdr.contextId = s.tObj.contextId ∧ req.hdr.smId = s.tObj.smId ∧
      Command.ofCmd req.hdr.cmd = some c ∧ c.reqLayout.wireLength ≤ req.bytes.length)
    ⟨fun ⟨h₁, h₂, h₃, h₄, h₅⟩ => ⟨h₁, h₂, h₃, h₄, h₅⟩,
      fun h => ⟨h.fits, h.contextId, h.smId, h.command, h.whole⟩⟩

theorem Accepted.unique {s : Server} {req : Request} {c c' : Command} (h : Accepted s req c)
    (h' : Accepted s req c') : c = c' :=
  Option.some.inj (h.command.symm.trans h'.command)

theorem Command.errOf_ne (c : Command) : c.errOf ≠ skErrorSuccess := by
  cases c <;> decide

theorem handleRequest_of_accepted {s : Server} {req : Request} {c : Command} (cfg : Config)
    (h : s.Sound) (ha : Accepted s req c) :
    handleRequest cfg req s =
      (c.serve cfg req.env (req.decode c.reqLayout) (receive req s)).map fun r =>
        (if r.1 ≠ skErrorSuccess then c.errOf else skErrorSuccess, r.2) := by
  have hmin := c.reqLayout.header_le_wireLength
  have hwhole := ha.whole
  rw [handleRequest_eq, if_neg (Nat.not_lt.mpr ha.fits), if_neg (by omega),
    if_neg (not_not.mpr ha.contextId), if_neg (not_not.mpr ha.smId), ha.command]
  dsimp only
  rw [if_neg fun hc => hc.2 ⟨h.room, h.table.total_le⟩, if_neg (Nat.not_lt.mpr hwhole)]

/-- Everything else is refused before it can have an effect. -/
theorem handleRequest_of_refused {s : Server} {req : Request} (cfg : Config) (h : s.Sound)
    (hfits : req.bytes.length ≤ s.tObj.maxMrecvSize) (hr : ∀ c, ¬Accepted s req c) :
    ∃ status, status ≠ skErrorSuccess ∧ handleRequest cfg req s = .ok (status, receive req s) := by
  rw [handleRequest_eq, if_neg (Nat.not_lt.mpr hfits)]
  by_cases hshort : req.bytes.length < 12
  · rw [if_pos hshort]
    exact ⟨_, by decide, rfl⟩
  rw [if_neg hshort]
  by_cases hid : req.hdr.contextId ≠ s.tObj.contextId
  · rw [if_pos hid]
    exact ⟨_, by decide, rfl⟩
  rw [if_neg hid]
  by_cases hsm : req.hdr.smId ≠ s.tObj.smId
  · rw [if_pos hsm]
    exact ⟨_, by decide, rfl⟩
  rw [if_neg hsm]
  cases hc : Command.ofCmd req.hdr.cmd with
  | none => exact ⟨_, by decide, rfl⟩
  | some c =>
    dsimp only
    rw [if_neg fun hcounts => hcounts.2 ⟨h.room, h.table.total_le⟩]
    have hlen : req.bytes.length < c.reqLayout.wireLength := by
      by_contra hlen
      exact hr c ⟨hfits, not_not.mp hid, not_not.mp hsm, hc, Nat.le_of_not_lt hlen⟩
    rw [if_pos hlen]
    exact ⟨_, c.errOf_ne, rfl⟩

theorem handleRequest_of_overrun {s : Server} {req : Request} (cfg : Config)
    (hfits : s.tObj.maxMrecvSize < req.bytes.length) :
    handleRequest cfg req s = .error .assert := by
  rw [handleRequest_eq, if_pos hfits]

/-- The edits that a served command makes and the calls that go with them. -/
inductive Effect (cfg : Config) (env : Env) (s : Server) :
    (c : Command) → SkHeader × c.reqLayout.Fields → List TableOp → List Event → Prop
  | refuse (c : Command) (v : SkHeader × c.reqLayout.Fields) : Effect cfg env s c v [] []
  | openContext (v : SkHeader × UInt32) {c : CSlot} {handle : Handle} {pid : Int32} :
      (s.tObj.conn.ctable c).active = false →
      s.tObj.conn.numCtableElements < skTapiMaxConnectionsPerContext →
      Effect cfg env s .openContext v [.openContext c handle pid] [.generate handle]
  | closeContext {hdr : SkHeader} {contextHandle : Handle} {c : CSlot} :
      s.tObj.conn.findContext contextHandle = some c → (s.tObj.conn.ctable c).active = true →
      s.tObj.conn.chain c = [] → 0 < s.tObj.conn.numCtableElements →
      Effect cfg env s .closeContext (hdr, contextHandle) [.closeContext c] []
  | countOut {hdr : SkHeader} {contextHandle : Handle} {c : CSlot} :
      s.tObj.conn.findContext contextHandle = some c → (s.tObj.conn.ctable c).active = true →
      s.tObj.conn.chain c ≠ [] → 0 < s.tObj.conn.numCtableElements →
      Effect cfg env s .closeContext (hdr, contextHandle) [.countOut] []
  | openSession {hdr : SkHeader} {contextHandle : Handle} {taid : SkTaid} {c : CSlot} {i : SSlot}
      {handle : Handle} {t t' : UInt32} {loaded : SkStatus × SkSwldTappInstance} :
      s.tObj.conn.findContext contextHandle = some c → (s.tObj.conn.ctable c).active = true →
      (s.tObj.conn.stable i).active = false →
      Effect cfg env s .openSession (hdr, contextHandle, taid)
        [.openSession c i handle t t' taid loaded.2] (.generate handle :: loadEvents taid loaded)
  | closeSession {hdr : SkHeader} {contextHandle sessionHandle : Handle} {c : CSlot} {i : SSlot}
      {t : UInt32} {tapp : SkSwldTappInstance} :
      s.tObj.conn.findObjects contextHandle sessionHandle = .ok (.ok (c, i)) →
      Effect cfg env s .closeSession (hdr, contextHandle, sessionHandle) [.closeSession c i t tapp]
        [.close (s.tObj.conn.stable i).tapp, .unload (s.tObj.conn.stable i).tapp]
  | invokeCommand {hdr : SkHeader} {contextHandle sessionHandle : Handle} {cmd : UInt32}
      {c : CSlot} {i : SSlot} {t t' : UInt32} :
      s.tObj.conn.findObjects contextHandle sessionHandle = .ok (.ok (c, i)) →
      Effect cfg env s .invokeCommand (hdr, contextHandle, sessionHandle, cmd)
        [.touchContext c t, .touchSession i t']
        [.pull (s.tObj.conn.stable i).tapp cmd s.tObj.op]
  | registerMemory {v : SkHeader × Handle × UInt32 × UInt32 × UInt32} {c : CSlot} {t : UInt32} :
      Effect cfg env s .registerMemory v [.touchContext c t] []
  | unregisterMemory {v : SkHeader × Handle × MemoryId} {c : CSlot} {t : UInt32} :
      Effect cfg env s .unregisterMemory v [.touchContext c t] []
  | check (v : SkHeader × Unit) {ops : List TableOp} :
      (∀ op ∈ ops, Expires op) →
      (KeepsContexts cfg env s.tObj.conn s.clk → ∀ c, .expireContext c ∉ ops) →
      Effect cfg env s .check v ops []

/-- The outcome of a served command: its effect, and what it leaves. -/
structure Served (cfg : Config) (env : Env) (s : Server) (c : Command)
    (v : SkHeader × c.reqLayout.Fields) (s' : Server) : Prop where
  effect : ∃ ops evs, Effect cfg env s c v ops evs ∧ Performs s.tObj.conn ops s'.tObj.conn ∧
    s'.events = s.events ++ evs
  regions : ∃ l, s'.MemoryList l
  object : s'.tObj.contextId = s.tObj.contextId ∧ s'.tObj.smId = s.tObj.smId ∧
    s'.tObj.maxMsendSize = s.tObj.maxMsendSize ∧ s'.tObj.maxMrecvSize = s.tObj.maxMrecvSize

section Effects

variable {cfg : Config} {env : Env}

theorem Served.replied {s s' : Server} {c : Command} {v : SkHeader × c.reqLayout.Fields}
    (h : Served cfg env s c v s') (l : Layout) (w : SkHeader × l.Fields) :
    Served cfg env s c v (s'.replied l w) where
  effect := h.effect
  regions := h.regions.imp fun _ hl => hl.frame rfl rfl rfl
  object := h.object

variable {s : Server}

theorem Served.refused (h : s.Sound) (c : Command) (v : SkHeader × c.reqLayout.Fields) :
    Served cfg env s c v s where
  effect := ⟨[], [], .refuse c v, .nil _, (List.append_nil _).symm⟩
  regions := h.regions
  object := ⟨rfl, rfl, rfl, rfl⟩

theorem Served.after (h : s.Sound) {c : Command} {v : SkHeader × c.reqLayout.Fields}
    {ops : List TableOp} {evs : List Event} {conn : TApiConnectionTable} {n : Nat}
    (heffect : Effect cfg env s c v ops evs) (hops : Performs s.tObj.conn ops conn) :
    Served cfg env s c v (s.after conn n evs) where
  effect := ⟨ops, evs, heffect, hops, rfl⟩
  regions := h.regions.imp fun _ hl => hl.frame rfl rfl rfl
  object := ⟨rfl, rfl, rfl, rfl⟩

theorem Served.withConn (h : s.Sound) {c : Command} {v : SkHeader × c.reqLayout.Fields}
    {ops : List TableOp} {conn : TApiConnectionTable} (heffect : Effect cfg env s c v ops [])
    (hops : Performs s.tObj.conn ops conn) : Served cfg env s c v (s.withConn conn) where
  effect := ⟨ops, [], heffect, hops, (List.append_nil _).symm⟩
  regions := h.regions.imp fun _ hl => hl.frame rfl rfl rfl
  object := ⟨rfl, rfl, rfl, rfl⟩

end Effects

theorem answer_ok {l : Layout} {w : SkHeader × l.Fields} {s s' : Server} {status : SkStatus}
    (h : answer l w s = .ok (status, s')) : s' = s.replied l w := by
  simp only [answer, Except.ok.injEq, Prod.mk.injEq] at h
  exact h.2.symm

/-- The process has returned `SK_ERROR_SUCCESS` and left reply `w` in `msend`. -/
structure Answered (status : SkStatus) (s' : Server) (l : Layout) (w : SkHeader × l.Fields) :
    Prop where
  success : status = skErrorSuccess
  size : s'.tObj.msendSize = l.wireLength
  reply : l.format.get s'.tObj.msend 0 = w

instance (status : SkStatus) (s' : Server) (l : Layout) (w : SkHeader × l.Fields)
    [DecidableEq l.Fields] : Decidable (Answered status s' l w) :=
  decidable_of_iff (status = skErrorSuccess ∧ s'.tObj.msendSize = l.wireLength ∧
      l.format.get s'.tObj.msend 0 = w)
    ⟨fun ⟨h₁, h₂, h₃⟩ => ⟨h₁, h₂, h₃⟩, fun h => ⟨h.success, h.size, h.reply⟩⟩

/-- A handler that comes to its reply answers exactly if the reply fits. -/
theorem answered_iff {l : Layout} (w w' : SkHeader × l.Fields) (s : Server) {err : SkStatus}
    (herr : err ≠ skErrorSuccess) :
    Answered (if (if l.wireLength ≤ s.tObj.maxMsendSize then skErrorSuccess else
        skErrorInvalidParam) ≠ skErrorSuccess then err else skErrorSuccess) (s.replied l w) l w' ↔
      l.wireLength ≤ s.tObj.maxMsendSize ∧ w = w' := by
  by_cases hfit : l.wireLength ≤ s.tObj.maxMsendSize
  · obtain ⟨hget, hsize⟩ := s.replied_of_le l w hfit
    rw [if_pos hfit, if_neg (not_not.mpr rfl)]
    constructor
    · intro h
      exact ⟨hfit, hget.symm.trans h.reply⟩
    · rintro ⟨_, rfl⟩
      exact ⟨rfl, hsize, hget⟩
  · rw [if_neg hfit, if_pos (by decide)]
    constructor
    · intro h
      exact absurd h.success herr
    · rintro ⟨h, _⟩
      exact absurd h hfit

/-- The process ends with what a handler has left in `msend`. -/
def finished (c : Command) (r : Except Fault (SkStatus × Server)) :
    Except Fault (SkStatus × Server) :=
  r.map fun r => (if r.1 ≠ skErrorSuccess then c.errOf else skErrorSuccess, r.2)

/-- A reply that fits is an answer, and it is the only one. -/
theorem finished_answer_iff {c : Command} {w w' : SkHeader × c.respLayout.Fields} {s₀ s' : Server}
    {status : SkStatus} :
    finished c (answer c.respLayout w s₀) = .ok (status, s') ∧
        Answered status s' c.respLayout w' ↔
      c.respLayout.wireLength ≤ s₀.tObj.maxMsendSize ∧ w = w' ∧ status = skErrorSuccess ∧
        s' = s₀.replied c.respLayout w := by
  rw [finished, answer]
  simp only [Except.map, Except.ok.injEq, Prod.mk.injEq]
  constructor
  · rintro ⟨⟨rfl, rfl⟩, hanswered⟩
    obtain ⟨hfit, hw⟩ := (answered_iff w w' s₀ c.errOf_ne).mp hanswered
    exact ⟨hfit, hw, hanswered.success, rfl⟩
  · rintro ⟨hfit, rfl, rfl, rfl⟩
    have hanswered := (answered_iff w w s₀ c.errOf_ne).mpr ⟨hfit, rfl⟩
    rw [if_pos hfit, if_neg (not_not.mpr rfl)] at hanswered ⊢
    exact ⟨⟨rfl, rfl⟩, hanswered⟩

theorem finished_answer (c : Command) (w : SkHeader × c.respLayout.Fields) (s₀ : Server)
    (hfit : c.respLayout.wireLength ≤ s₀.tObj.maxMsendSize) :
    finished c (answer c.respLayout w s₀) = .ok (skErrorSuccess, s₀.replied c.respLayout w) ∧
      Answered skErrorSuccess (s₀.replied c.respLayout w) c.respLayout w :=
  finished_answer_iff.mpr ⟨hfit, rfl, rfl, rfl⟩

section Serve

variable {cfg : Config} (env : Env) (hdr : SkHeader) {s' : Server} {status : SkStatus}

private theorem serveOpenContext_served (h : s.Sound) {stale : Handle} {pid : Int32}
    {contextId : UInt32} (hrun : serveOpenContext env hdr stale pid contextId s = .ok (status, s')) :
    Served cfg env s .openContext (hdr, contextId) s' := by
  rw [serveOpenContext_run] at hrun
  split at hrun
  · rw [answer_ok hrun]
    exact (Served.refused h _ _).replied _ _
  split at hrun
  · rw [answer_ok hrun]
    exact (Served.refused h _ _).replied _ _
  rename_i hroom
  split at hrun
  · simp at hrun
  · rename_i i hfree
    rw [answer_ok hrun]
    have hfree' := firstFree_some hfree
    exact (Served.after h (.openContext _ hfree' (Nat.lt_of_not_le hroom)) (.single hfree')).replied _ _

private theorem serveCloseContext_served (h : s.Sound) {contextHandle : Handle}
    (hrun : serveCloseContext hdr contextHandle s = .ok (status, s')) :
    Served cfg env s .closeContext (hdr, contextHandle) s' := by
  rw [serveCloseContext_run hdr h.table] at hrun
  split at hrun
  · rw [answer_ok hrun]
    exact (Served.refused h _ _).replied _ _
  rename_i c hfind
  split at hrun
  · simp at hrun
  rename_i hactive
  rw [Bool.not_eq_false] at hactive
  split at hrun
  · simp at hrun
  rename_i hcount
  rw [answer_ok hrun]
  refine Served.replied ?_ _ _
  have hpos := Nat.pos_of_ne_zero hcount
  by_cases hempty : s.tObj.conn.chain c = []
  · rw [if_pos hempty]
    have hop : (TableOp.closeContext c).Enabled s.tObj.conn := ⟨hactive, hempty⟩
    exact Served.withConn h (.closeContext hfind hactive hempty hpos) (.single hop)
  · rw [if_neg hempty]
    have hop : TableOp.countOut.Enabled s.tObj.conn := trivial
    exact Served.withConn h (.countOut hfind hactive hempty hpos) (.single hop)

private theorem serveOpenSession_served (h : s.Sound) {stale contextHandle : Handle}
    {taid : SkTaid}
    (hrun : serveOpenSession env hdr stale contextHandle taid s = .ok (status, s')) :
    Served cfg env s .openSession (hdr, contextHandle, taid) s' := by
  rw [serveOpenSession_run env hdr h.table] at hrun
  split at hrun
  · rw [answer_ok hrun]
    exact (Served.refused h _ _).replied _ _
  rename_i c hfind
  split at hrun
  · simp at hrun
  rename_i hactive
  rw [Bool.not_eq_false] at hactive
  split at hrun
  · rw [answer_ok hrun]
    exact (Served.refused h _ _).replied _ _
  split at hrun
  · simp at hrun
  rename_i i hfree
  have hfree' := firstFree_some hfree
  rw [answer_ok hrun]
  have hop : (TableOp.openSession c i (Blk.xor (handleAt s.tObj.conn.sthandles i) env.keystream)
      (env.timer s.clk) (env.timer (s.clk + 1)) taid
      (env.tappLoad taid (s.tObj.conn.stable i).tapp).2).Enabled s.tObj.conn := ⟨hactive, hfree'⟩
  exact (Served.after h (.openSession hfind hactive hfree') (.single hop)).replied _ _

private theorem serveCloseSession_served (h : s.Sound) {contextHandle sessionHandle : Handle}
    (hrun : serveCloseSession env hdr contextHandle sessionHandle s = .ok (status, s')) :
    Served cfg env s .closeSession (hdr, contextHandle, sessionHandle) s' := by
  rw [serveCloseSession_run env hdr h.table h.room h.slots] at hrun
  split at hrun
  · simp at hrun
  · split at hrun
    · simp only [Except.ok.injEq, Prod.mk.injEq] at hrun
      rw [← hrun.2]
      exact Served.refused h _ _
    · rw [answer_ok hrun]
      exact (Served.refused h _ _).replied _ _
  · rename_i c i hfind
    rw [answer_ok hrun]
    have hop : (TableOp.closeSession c i (env.timer s.clk)
        (env.tappUnload (s.tObj.conn.stable i).tapp).2).Enabled s.tObj.conn :=
      (TApiConnectionTable.findObjects_ok hfind).2.2.2.2
    exact (Served.after h (.closeSession hfind) (.single hop)).replied _ _

private theorem serveInvokeCommand_served (h : s.Sound) {contextHandle sessionHandle : Handle}
    {cmd : UInt32}
    (hrun : serveInvokeCommand env hdr contextHandle sessionHandle cmd s = .ok (status, s')) :
    Served cfg env s .invokeCommand (hdr, contextHandle, sessionHandle, cmd) s' := by
  rw [serveInvokeCommand_run env hdr h.table h.room] at hrun
  split at hrun
  · simp at hrun
  · split at hrun
    · simp only [Except.ok.injEq, Prod.mk.injEq] at hrun
      rw [← hrun.2]
      exact Served.refused h _ _
    · rw [answer_ok hrun]
      exact (Served.refused h _ _).replied _ _
  · rename_i c i hfind
    rw [answer_ok hrun]
    have hop : (TableOp.touchContext c (env.timer s.clk)).Enabled s.tObj.conn := trivial
    have hop' : (TableOp.touchSession i (env.timer (s.clk + 1))).Enabled
        (s.tObj.conn.touchContext c (env.timer s.clk)) := trivial
    exact (Served.after h (.invokeCommand hfind) (.cons hop (.single hop'))).replied _ _

/-- The context that an undivided offset hits is stamped, whatever comes of the request. -/
private theorem served_of_touched {c : Command} {v : SkHeader × c.reqLayout.Fields}
    {i : CSlot} {t : UInt32} (heffect : Effect cfg env s c v [.touchContext i t] []) {s' : Server}
    (hobject : s'.tObj = { s.tObj with
      conn := s.tObj.conn.touchContext i t, rmem := s'.tObj.rmem
      msend := s'.tObj.msend, msendSize := s'.tObj.msendSize })
    (hevents : s'.events = s.events) (hregions : ∃ l, s'.MemoryList l) :
    Served cfg env s c v s' where
  effect := by
    have hop : (TableOp.touchContext i t).Enabled s.tObj.conn := trivial
    refine ⟨_, _, heffect, ?_, by rw [hevents, List.append_nil]⟩
    rw [hobject]
    exact .single hop
  regions := hregions
  object := by rw [hobject]; exact ⟨rfl, rfl, rfl, rfl⟩

private theorem serveRegisterMemory_served (h : s.Sound) {contextHandle : Handle}
    {memorySize flag addr : UInt32}
    (hrun : serveRegisterMemory env hdr contextHandle memorySize flag addr s = .ok (status, s')) :
    Served cfg env s .registerMemory (hdr, contextHandle, memorySize, flag, addr) s' := by
  obtain ⟨l, hl⟩ := h.regions
  rw [serveRegisterMemory_run env hdr hl] at hrun
  split at hrun
  · simp only [Except.ok.injEq, Prod.mk.injEq] at hrun
    rw [← hrun.2]
    exact Served.refused h _ _
  rename_i c hfind
  split at hrun
  · rename_i hc
    have htouched : (s.after (s.tObj.conn.touchContext ⟨_, hc⟩ (env.timer s.clk)) 1
        []).MemoryList l := hl.frame rfl rfl rfl
    dsimp only at hrun
    split at hrun
    · simp only [Except.ok.injEq, Prod.mk.injEq] at hrun
      rw [← hrun.2]
      exact served_of_touched env .registerMemory rfl (List.append_nil _) ⟨l, htouched⟩
    · generalize (if flag ≠ skTeecMemAllocate then addr else 0) = memPtr at hrun
      split at hrun
      · simp only [Except.ok.injEq, Prod.mk.injEq] at hrun
        rw [← hrun.2]
        exact served_of_touched env .registerMemory rfl (List.append_nil _) ⟨l, htouched.scratch _⟩
      · split at hrun
        · simp at hrun
        · rw [answer_ok hrun]
          refine Served.replied ?_ _ _
          exact served_of_touched env .registerMemory rfl (List.append_nil _)
            ⟨_, htouched.appendNode _⟩
  · simp at hrun

private theorem serveUnregisterMemory_served (h : s.Sound) {contextHandle : Handle}
    {memoryId : MemoryId}
    (hrun : serveUnregisterMemory env hdr contextHandle memoryId s = .ok (status, s')) :
    Served cfg env s .unregisterMemory (hdr, contextHandle, memoryId) s' := by
  obtain ⟨l, hl⟩ := h.regions
  rw [serveUnregisterMemory_run env hdr hl] at hrun
  split at hrun
  · simp only [Except.ok.injEq, Prod.mk.injEq] at hrun
    rw [← hrun.2]
    exact Served.refused h _ _
  rename_i c hfind
  split at hrun
  · rename_i hc
    have htouched : (s.after (s.tObj.conn.touchContext ⟨_, hc⟩ (env.timer s.clk)) 1
        []).MemoryList l := hl.frame rfl rfl rfl
    dsimp only at hrun
    split at hrun
    · simp only [Except.ok.injEq, Prod.mk.injEq] at hrun
      rw [← hrun.2]
      exact served_of_touched env .unregisterMemory rfl (List.append_nil _) ⟨l, htouched⟩
    · rename_i a hregion
      have ha : a ∈ l := by
        rw [← hl.memoryChain_eq]
        exact List.mem_of_find?_eq_some hregion
      have hunlinked := htouched.unlinkNode ha
      split at hrun
      · simp at hrun
      · split at hrun
        · simp only [Except.ok.injEq, Prod.mk.injEq] at hrun
          rw [← hrun.2]
          exact served_of_touched env .unregisterMemory rfl (List.append_nil _) ⟨_, hunlinked⟩
        · rw [answer_ok hrun]
          refine Served.replied ?_ _ _
          exact served_of_touched env .unregisterMemory rfl (List.append_nil _)
            ⟨_, hunlinked.discardNode (hl.linked.nodup.not_mem_erase)⟩
  · simp at hrun

private theorem serveCheck_served (h : s.Sound)
    (hrun : serveCheck env hdr cfg s = .ok (status, s')) : Served cfg env s .check (hdr, ()) s' := by
  rw [serveCheck_run cfg env hdr h.table] at hrun
  split at hrun
  · simp at hrun
  · rename_i conn k hsweep
    obtain ⟨ops, hops, hexpires, hkeeps⟩ := sweepContexts_performs cfg env h.table
      (List.nodup_finRange _) hsweep
    rw [answer_ok hrun]
    refine Served.replied ?_ _ _
    exact ⟨⟨ops, [], .check _ hexpires hkeeps, hops, (List.append_nil _).symm⟩,
      h.regions.imp fun _ hl => hl.frame rfl rfl rfl, rfl, rfl, rfl, rfl⟩

/-- Every command that completes has one of the effects listed. -/
theorem serve_served (h : s.Sound) {c : Command}
    {v : SkHeader × c.reqLayout.Fields} (hrun : c.serve cfg env v s = .ok (status, s')) :
    Served cfg env s c v s' := by
  cases c with
  | openContext => exact serveOpenContext_served env v.1 h hrun
  | closeContext => exact serveCloseContext_served env v.1 h hrun
  | openSession => exact serveOpenSession_served env v.1 h hrun
  | closeSession => exact serveCloseSession_served env v.1 h hrun
  | invokeCommand => exact serveInvokeCommand_served env v.1 h hrun
  | registerMemory => exact serveRegisterMemory_served env v.1 h hrun
  | unregisterMemory => exact serveUnregisterMemory_served env v.1 h hrun
  | check => exact serveCheck_served env v.1 h hrun

end Serve

end SkSdk
