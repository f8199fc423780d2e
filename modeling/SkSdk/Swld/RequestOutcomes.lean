import SkSdk.Swld.SessionPair

/-!
What becomes of a request that the server completes, in one place: the table it
leaves, the calls it makes and the reply, for each way through the handlers.
The results on runs below argue by cases on this.
-/

namespace SkSdk
open ByteMemory FaultState DoublyLinked

/-! ## The members of the requests -/

abbrev closeContextHandle (req : Request) : Handle := (req.decode .closeContextReq).2

/-- The two handles and the command of an invoke_command request. -/
abbrev invokeCommandMembers (req : Request) : Handle × Handle × UInt32 :=
  (req.decode .invokeCommandReq).2

/-- The handle that context slot `c` holds after the generator has been called for it. -/
def nextContextHandle (req : Request) (s : Server) (c : CSlot) : Handle :=
  Blk.xor (handleAt s.tObj.conn.cthandles c) req.env.keystream

def nextSessionHandle (req : Request) (s : Server) (i : SSlot) : Handle :=
  Blk.xor (handleAt s.tObj.conn.sthandles i) req.env.keystream

/-- What `tapp_load` is given for slot `i`, and what it returns. -/
def loadResult (req : Request) (s : Server) (i : SSlot) : SkStatus × SkSwldTappInstance :=
  req.env.tappLoad (openSessionTaid req) (s.tObj.conn.stable i).tapp

/-! ## The outcomes -/

/-- The table, the calls and the members of the reply of an accepted request
that completes. -/
inductive RequestOutcome (cfg : Config) (req : Request) (s : Server) :
    (c : Command) → TApiConnectionTable → List Event → Option c.respLayout.Fields → Prop
  | contextMisaddressed : (req.decode .openContextReq).2 ≠ s.tObj.contextId →
      RequestOutcome cfg req s .openContext s.tObj.conn []
        (some (req.env.respMsg.type.openContext.resp.contextHandle, skErrorBadContextId))
  | contextsFull : (req.decode .openContextReq).2 = s.tObj.contextId →
      skTapiMaxConnectionsPerContext ≤ s.tObj.conn.numCtableElements →
      RequestOutcome cfg req s .openContext s.tObj.conn []
        (some (req.env.respMsg.type.openContext.resp.contextHandle, skErrorOpenContext))
  | contextOpened {c : CSlot} : (req.decode .openContextReq).2 = s.tObj.contextId →
      s.tObj.conn.numCtableElements < skTapiMaxConnectionsPerContext →
      (firstFree fun i => (s.tObj.conn.ctable i).active) = some c →
      RequestOutcome cfg req s .openContext
        (s.tObj.conn.openContext c (nextContextHandle req s c)
          req.env.reqMsg.type.openContext.req.pid)
        [.generate (nextContextHandle req s c)] (some (nextContextHandle req s c, skErrorSuccess))
  | closeContextUnknown : s.tObj.conn.findContext (closeContextHandle req) = none →
      RequestOutcome cfg req s .closeContext s.tObj.conn [] (some skErrorContextHandleNotFound)
  | contextClosed {c : CSlot} : s.tObj.conn.findContext (closeContextHandle req) = some c →
      (s.tObj.conn.ctable c).active = true → s.tObj.conn.chain c = [] →
      0 < s.tObj.conn.numCtableElements →
      RequestOutcome cfg req s .closeContext (s.tObj.conn.deactivate c).countOut []
        (some skErrorSuccess)
  | contextCountedOut {c : CSlot} : s.tObj.conn.findContext (closeContextHandle req) = some c →
      (s.tObj.conn.ctable c).active = true → s.tObj.conn.chain c ≠ [] →
      0 < s.tObj.conn.numCtableElements →
      RequestOutcome cfg req s .closeContext s.tObj.conn.countOut [] (some skErrorSuccess)
  | openSessionUnknown : s.tObj.conn.findContext (openSessionHandle req) = none →
      RequestOutcome cfg req s .openSession s.tObj.conn []
        (some (req.env.respMsg.type.openSession.resp.sessionHandle, skErrorContextHandleNotFound))
  | sessionsFull {c : CSlot} : s.tObj.conn.findContext (openSessionHandle req) = some c →
      (s.tObj.conn.ctable c).active = true →
      skTapiMaxSessionsPerContext ≤ (s.tObj.conn.ctable c).numConnectedSessions →
      RequestOutcome cfg req s .openSession s.tObj.conn []
        (some (req.env.respMsg.type.openSession.resp.sessionHandle, skErrorOpenSession))
  | sessionOpened {c : CSlot} {i : SSlot} :
      s.tObj.conn.findContext (openSessionHandle req) = some c →
      (s.tObj.conn.ctable c).active = true →
      (firstFree fun i => (s.tObj.conn.stable i).active) = some i →
      RequestOutcome cfg req s .openSession
        (s.tObj.conn.openSession c i (nextSessionHandle req s i) (req.env.timer 0)
          (req.env.timer 1) (openSessionTaid req) (loadResult req s i).2)
        (.generate (nextSessionHandle req s i) ::
          loadEvents (openSessionTaid req) (loadResult req s i))
        (some (openSessionReply req.env req.env.respMsg.type.openSession.resp.sessionHandle
          (nextSessionHandle req s i) (loadResult req s i).1 (loadResult req s i).2))
  | closeSessionUnresolved {err : SkStatus} :
      s.tObj.conn.findObjects (closeSessionHandles req).1 (closeSessionHandles req).2 =
        .ok (.error err) → err ≠ skErrorVerifyFailed →
      RequestOutcome cfg req s .closeSession s.tObj.conn [] (some err)
  | closeSessionUnattached :
      s.tObj.conn.findObjects (closeSessionHandles req).1 (closeSessionHandles req).2 =
        .ok (.error skErrorVerifyFailed) →
      RequestOutcome cfg req s .closeSession s.tObj.conn [] none
  | sessionClosed {c : CSlot} {i : SSlot} :
      s.tObj.conn.findObjects (closeSessionHandles req).1 (closeSessionHandles req).2 =
        .ok (.ok (c, i)) →
      RequestOutcome cfg req s .closeSession
        (s.tObj.conn.closeSession c i (req.env.timer 0)
          (req.env.tappUnload (s.tObj.conn.stable i).tapp).2)
        [.close (s.tObj.conn.stable i).tapp, .unload (s.tObj.conn.stable i).tapp]
        (some skErrorSuccess)
  | invokeUnresolved {err : SkStatus} :
      s.tObj.conn.findObjects (invokeCommandMembers req).1 (invokeCommandMembers req).2.1 =
        .ok (.error err) → err ≠ skErrorVerifyFailed →
      RequestOutcome cfg req s .invokeCommand s.tObj.conn [] (some err)
  | invokeUnattached :
      s.tObj.conn.findObjects (invokeCommandMembers req).1 (invokeCommandMembers req).2.1 =
        .ok (.error skErrorVerifyFailed) →
      RequestOutcome cfg req s .invokeCommand s.tObj.conn [] none
  | commandInvoked {c : CSlot} {i : SSlot} :
      s.tObj.conn.findObjects (invokeCommandMembers req).1 (invokeCommandMembers req).2.1 =
        .ok (.ok (c, i)) →
      RequestOutcome cfg req s .invokeCommand
        ((s.tObj.conn.touchContext c (req.env.timer 0)).touchSession i (req.env.timer 1))
        [.pull (s.tObj.conn.stable i).tapp (invokeCommandMembers req).2.2 req.op]
        (some (invokeReply (req.env.tappPull (s.tObj.conn.stable i).tapp
          (invokeCommandMembers req).2.2 req.op)))
  | memoryUnknown {cmd : Command} : cmd = .registerMemory ∨ cmd = .unregisterMemory →
      RequestOutcome cfg req s cmd s.tObj.conn [] none
  /-- The stamp goes to the slot whose number is the byte offset of the found one. -/
  | memoryStamped {cmd : Command} {c : CSlot} {reply : Option cmd.respLayout.Fields} :
      cmd = .registerMemory ∨ cmd = .unregisterMemory →
      RequestOutcome cfg req s cmd (s.tObj.conn.touchContext c (req.env.timer 0)) [] reply
  | swept {conn : TApiConnectionTable} {k : Nat} :
      sweepContexts cfg req.env (List.finRange skTapiMaxConnectionsPerContext) s.tObj.conn 0 =
        some (conn, k) →
      RequestOutcome cfg req s .check conn [] (some skErrorSuccess)

/-- The status of the process and the reply in `msend`. A reply that does not fit
the buffer counts as a failure of the handler. -/
def Concludes (status : SkStatus) (s' : Server) (c : Command) (hdr : SkHeader) :
    Option c.respLayout.Fields → Prop
  | none => status = c.errOf
  | some w =>
    if c.respLayout.wireLength ≤ s'.tObj.maxMsendSize then
      Answered status s' c.respLayout (hdr, w)
    else status = c.errOf

/-- The request `req` is accepted as `c`, and this is what comes of it. -/
structure Handled (cfg : Config) (req : Request) (s : Server) (status : SkStatus) (s' : Server)
    (c : Command) (reply : Option c.respLayout.Fields) : Prop where
  accepted : Accepted s req c
  outcome : RequestOutcome cfg req s c s'.tObj.conn s'.events reply
  concludes : Concludes status s' c req.hdr reply

variable {cfg : Config} {req : Request} {s s' : Server} {status : SkStatus}

/-! ## Every completed request has one of the outcomes -/

/-- A handler that comes to its reply. -/
private theorem handled_of_answer {c : Command} {reply : c.respLayout.Fields} {s₀ : Server}
    (ha : Accepted s req c)
    (hrun : finished c (answer c.respLayout (req.hdr, reply) s₀) = .ok (status, s'))
    (houtcome : RequestOutcome cfg req s c s₀.tObj.conn s₀.events (some reply)) :
    ∃ reply, Handled cfg req s status s' c reply := by
  refine ⟨some reply, ha, ?_, ?_⟩
  all_goals
    rw [finished, answer] at hrun
    simp only [Except.map, Except.ok.injEq, Prod.mk.injEq] at hrun
    obtain ⟨rfl, rfl⟩ := hrun
  · exact houtcome
  · have hmax : (s₀.replied c.respLayout (req.hdr, reply)).tObj.maxMsendSize =
        s₀.tObj.maxMsendSize := rfl
    rw [Concludes, hmax]
    by_cases hfit : c.respLayout.wireLength ≤ s₀.tObj.maxMsendSize
    · rw [if_pos hfit, if_pos hfit]
      have hanswered := (finished_answer c (req.hdr, reply) s₀ hfit).2
      simpa using hanswered
    · rw [if_neg hfit, if_neg hfit, if_pos (by decide)]

/-- A handler that fails before its reply. -/
private theorem handled_of_failed {c : Command} {err : SkStatus} {s₀ : Server}
    (ha : Accepted s req c) (herr : err ≠ skErrorSuccess)
    (hrun : finished c (.ok (err, s₀)) = .ok (status, s'))
    (houtcome : RequestOutcome cfg req s c s₀.tObj.conn s₀.events none) :
    ∃ reply, Handled cfg req s status s' c reply := by
  rw [finished] at hrun
  simp only [Except.map, Except.ok.injEq, Prod.mk.injEq, if_pos herr] at hrun
  obtain ⟨rfl, rfl⟩ := hrun
  exact ⟨none, ha, houtcome, rfl⟩

private theorem request_finished (h : s.Sound) {c : Command} (ha : Accepted s req c)
    (hrun : handleRequest cfg req s = .ok (status, s')) :
    finished c (c.serve cfg req.env (req.decode c.reqLayout) (receive req s)) =
      .ok (status, s') := by
  rw [← hrun, handleRequest_of_accepted cfg h ha]
  rfl

private theorem handled_openContext (ha : Accepted s req .openContext)
    (hrun : finished .openContext (serveOpenContext req.env req.hdr
      req.env.respMsg.type.openContext.resp.contextHandle req.env.reqMsg.type.openContext.req.pid
      (req.decode .openContextReq).2 (receive req s)) = .ok (status, s')) :
    ∃ reply, Handled cfg req s status s' .openContext reply := by
  rw [serveOpenContext_run] at hrun
  split at hrun
  · rename_i hid
    exact handled_of_answer ha hrun (.contextMisaddressed hid)
  rename_i hid
  rw [not_not] at hid
  split at hrun
  · rename_i hfull
    exact handled_of_answer ha hrun (.contextsFull hid hfull)
  rename_i hroom
  split at hrun
  · cases hrun
  · rename_i c hfree
    exact handled_of_answer ha hrun (.contextOpened hid (Nat.not_le.mp hroom) hfree)

private theorem handled_closeContext (h : s.Sound) (ha : Accepted s req .closeContext)
    (hrun : finished .closeContext (serveCloseContext req.hdr (closeContextHandle req)
      (receive req s)) = .ok (status, s')) :
    ∃ reply, Handled cfg req s status s' .closeContext reply := by
  rw [serveCloseContext_run _ (h.receive req).table] at hrun
  split at hrun
  · rename_i hfind
    exact handled_of_answer ha hrun (.closeContextUnknown hfind)
  rename_i c hfind
  split at hrun
  · cases hrun
  rename_i hactive
  rw [Bool.not_eq_false] at hactive
  split at hrun
  · cases hrun
  rename_i hcount
  refine handled_of_answer ha hrun ?_
  rw [Server.withConn_conn, receive_conn]
  by_cases hempty : s.tObj.conn.chain c = []
  · rw [if_pos hempty]
    exact .contextClosed hfind hactive hempty (Nat.pos_of_ne_zero hcount)
  · rw [if_neg hempty]
    exact .contextCountedOut hfind hactive hempty (Nat.pos_of_ne_zero hcount)

private theorem handled_openSession (h : s.Sound) (ha : Accepted s req .openSession)
    (hrun : handleRequest cfg req s = .ok (status, s')) :
    ∃ reply, Handled cfg req s status s' .openSession reply := by
  cases hfind : s.tObj.conn.findContext (openSessionHandle req) with
  | none =>
    rw [openSession_unknown cfg h ha hfind] at hrun
    exact handled_of_answer ha hrun (.openSessionUnknown hfind)
  | some c =>
    by_cases hc : (s.tObj.conn.ctable c).active = false
    · rw [openSession_inactive cfg h ha hfind hc] at hrun
      cases hrun
    rw [Bool.not_eq_false] at hc
    rw [openSession_request cfg h ha hfind hc] at hrun
    split at hrun
    · rename_i hfull
      exact handled_of_answer ha hrun (.sessionsFull hfind hc hfull)
    split at hrun
    · cases hrun
    · rename_i i hfree
      exact handled_of_answer ha hrun (.sessionOpened hfind hc hfree)

private theorem handled_closeSession (h : s.Sound) (ha : Accepted s req .closeSession)
    (hrun : finished .closeSession (serveCloseSession req.env req.hdr (closeSessionHandles req).1
      (closeSessionHandles req).2 (receive req s)) = .ok (status, s')) :
    ∃ reply, Handled cfg req s status s' .closeSession reply := by
  have hr := h.receive req
  rw [serveCloseSession_run _ _ hr.table hr.room hr.slots] at hrun
  split at hrun
  · cases hrun
  · rename_i err hfind
    split at hrun
    · rename_i herr
      subst herr
      exact handled_of_failed ha (by decide) hrun (.closeSessionUnattached hfind)
    · rename_i herr
      exact handled_of_answer ha hrun (.closeSessionUnresolved hfind herr)
  · rename_i c i hfind
    exact handled_of_answer ha hrun (.sessionClosed hfind)

private theorem handled_invokeCommand (h : s.Sound) (ha : Accepted s req .invokeCommand)
    (hrun : finished .invokeCommand (serveInvokeCommand req.env req.hdr
      (invokeCommandMembers req).1 (invokeCommandMembers req).2.1 (invokeCommandMembers req).2.2
      (receive req s)) = .ok (status, s')) :
    ∃ reply, Handled cfg req s status s' .invokeCommand reply := by
  have hr := h.receive req
  rw [serveInvokeCommand_run _ _ hr.table hr.room] at hrun
  split at hrun
  · cases hrun
  · rename_i err hfind
    split at hrun
    · rename_i herr
      subst herr
      exact handled_of_failed ha (by decide) hrun (.invokeUnattached hfind)
    · rename_i herr
      exact handled_of_answer ha hrun (.invokeUnresolved hfind herr)
  · rename_i c i hfind
    exact handled_of_answer ha hrun (.commandInvoked hfind)

private theorem handled_registerMemory (h : s.Sound) (ha : Accepted s req .registerMemory)
    {contextHandle : Handle} {memorySize flag addr : UInt32}
    (hrun : finished .registerMemory (serveRegisterMemory req.env req.hdr contextHandle memorySize
      flag addr (receive req s)) = .ok (status, s')) :
    ∃ reply, Handled cfg req s status s' .registerMemory reply := by
  obtain ⟨l, hl⟩ := (h.receive req).regions
  rw [serveRegisterMemory_run _ _ hl] at hrun
  split at hrun
  · exact handled_of_failed ha (by decide) hrun (.memoryUnknown (.inl rfl))
  rename_i c hfind
  split at hrun
  · rename_i hc
    have hstamped : ∀ reply, RequestOutcome cfg req s .registerMemory
        (s.tObj.conn.touchContext ⟨_, hc⟩ (req.env.timer 0)) [] reply :=
      fun _ => .memoryStamped (.inl rfl)
    dsimp only at hrun
    split at hrun
    · exact handled_of_failed ha (by decide) hrun (hstamped _)
    · generalize (if flag ≠ skTeecMemAllocate then addr else 0) = memPtr at hrun
      split at hrun
      · exact handled_of_failed ha (by decide) hrun (hstamped _)
      · split at hrun
        · cases hrun
        · exact handled_of_answer ha hrun (hstamped _)
  · cases hrun

private theorem handled_unregisterMemory (h : s.Sound) (ha : Accepted s req .unregisterMemory)
    {contextHandle : Handle} {memoryId : MemoryId}
    (hrun : finished .unregisterMemory (serveUnregisterMemory req.env req.hdr contextHandle
      memoryId (receive req s)) = .ok (status, s')) :
    ∃ reply, Handled cfg req s status s' .unregisterMemory reply := by
  obtain ⟨l, hl⟩ := (h.receive req).regions
  rw [serveUnregisterMemory_run _ _ hl] at hrun
  split at hrun
  · exact handled_of_failed ha (by decide) hrun (.memoryUnknown (.inr rfl))
  rename_i c hfind
  split at hrun
  · rename_i hc
    have hstamped : ∀ reply, RequestOutcome cfg req s .unregisterMemory
        (s.tObj.conn.touchContext ⟨_, hc⟩ (req.env.timer 0)) [] reply :=
      fun _ => .memoryStamped (.inr rfl)
    dsimp only at hrun
    split at hrun
    · exact handled_of_failed ha (by decide) hrun (hstamped _)
    · split at hrun
      · cases hrun
      · split at hrun
        · exact handled_of_failed ha (by decide) hrun (hstamped _)
        · exact handled_of_answer ha hrun (hstamped _)
  · cases hrun

private theorem handled_check (h : s.Sound) (ha : Accepted s req .check)
    (hrun : finished .check (serveCheck req.env req.hdr cfg (receive req s)) = .ok (status, s')) :
    ∃ reply, Handled cfg req s status s' .check reply := by
  rw [serveCheck_run _ _ _ (h.receive req).table] at hrun
  split at hrun
  · cases hrun
  · rename_i conn k hsweep
    exact handled_of_answer ha hrun (.swept hsweep)

/-- A request that completes was refused before it was served, or has one of the
outcomes. -/
theorem handleRequest_handled (h : s.Sound) (hrun : handleRequest cfg req s = .ok (status, s')) :
    ((∀ c, ¬ Accepted s req c) ∧ status ≠ skErrorSuccess ∧ s' = receive req s) ∨
      ∃ c reply, Handled cfg req s status s' c reply := by
  by_cases hacc : ∃ c, Accepted s req c
  · obtain ⟨c, ha⟩ := hacc
    refine .inr ⟨c, ?_⟩
    have hdr := req.decode_hdr c.reqLayout
    have hfin := request_finished h ha hrun
    cases c with
    | openSession => exact handled_openSession h ha hrun
    | openContext =>
      exact handled_openContext ha (hdr ▸ hfin)
    | closeContext => exact handled_closeContext h ha (hdr ▸ hfin)
    | closeSession => exact handled_closeSession h ha (hdr ▸ hfin)
    | invokeCommand => exact handled_invokeCommand h ha (hdr ▸ hfin)
    | registerMemory =>
      generalize req.decode Command.registerMemory.reqLayout = v at hdr hfin
      obtain ⟨_, contextHandle, memorySize, flag, addr⟩ := v
      cases hdr
      exact handled_registerMemory h ha hfin
    | unregisterMemory =>
      generalize req.decode Command.unregisterMemory.reqLayout = v at hdr hfin
      obtain ⟨_, contextHandle, memoryId⟩ := v
      cases hdr
      exact handled_unregisterMemory h ha hfin
    | check => exact handled_check h ha (hdr ▸ hfin)
  · by_cases hfits : req.bytes.length ≤ s.tObj.maxMrecvSize
    · obtain ⟨st, hne, hrefused⟩ :=
        handleRequest_of_refused cfg h hfits fun c hc => hacc ⟨c, hc⟩
      rw [hrefused] at hrun
      simp only [Except.ok.injEq, Prod.mk.injEq] at hrun
      exact .inl ⟨fun c hc => hacc ⟨c, hc⟩, hrun.1 ▸ hne, hrun.2.symm⟩
    · rw [handleRequest_of_overrun cfg (Nat.lt_of_not_le hfits)] at hrun
      cases hrun

end SkSdk
