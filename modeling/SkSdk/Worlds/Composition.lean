import SkSdk.Nwld.SessionArrays
import SkSdk.Swld.SessionSlots
import SkSdk.Swld.TapiDispatch

/-!
One normal-world driver and one secure-world server. A call of the driver is a
step; the transport in between hands every message over whole. `Reaction` says
what the server makes of the request of a call, `Exchanged` that the reply
the driver sees is the one that goes with it.
-/

namespace SkSdk
open ByteMemory FaultState DoublyLinked Format

structure Worlds where
  nwld : Nwld
  swld : Server

/-- One call, with what the two worlds meet while it is carried out. `commProc`
of `env` is not used, the transport stands in for it. -/
structure WorldsCall where
  info : SkTeecUserInfo
  env : NwldEnv
  recvBuf : Mem
  swldEnv : Env
  /-- The prior bytes of the server's local `msg`. -/
  msg : SkMsg

/-- The driver stops, or it waits for a reply that the server does not send. -/
inductive WorldsFault
  | nwld (fault : NwldFault)
  | noReply
  deriving DecidableEq

/-- The request as it reaches the server, which has reset `num_param` before. -/
def WorldsCall.arrives (call : WorldsCall) (swld : Server) (request : List UInt8)
    (op : Option SkOperation) : Exchange where
  request := ⟨request, op.getD { swld.tObj.op with numParam := 0 }, call.swldEnv⟩
  recv := 0
  send := 0
  msg := call.msg

/-- The reply handed over, if the receive buffer can hold it. -/
def WorldsCall.transport (cfg : Config) (call : WorldsCall) (swld : Server)
    (request : List UInt8) (op : Option SkOperation) : CommReply :=
  match dispatchOnce cfg (call.arrives swld request op) swld with
  | .ok ((_, [sent]), _) =>
    if sent.bytes.length ≤ call.env.recvBufferSize then
      ⟨skErrorSuccess, call.recvBuf.write 0 sent.bytes, sent.bytes.length, op⟩
    else ⟨skErrorCommReadFailed, call.recvBuf, call.env.recvBufferSize, op⟩
  | _ => ⟨skErrorCommReadFailed, call.recvBuf, call.env.recvBufferSize, op⟩

/-- The call as the driver sees it. -/
def WorldsCall.toCall (cfg : Config) (call : WorldsCall) (swld : Server) : Call where
  info := call.info
  env := { call.env with commProc := fun _ request op => call.transport cfg swld request op }

/-- A call and, if it sends a request, the server's pass that answers it. -/
def worldsStep (cfg : Config) (call : WorldsCall) :
    Prog Worlds WorldsFault (SkStatus × SkTeecUserInfo) := fun w =>
  match nwldStep (call.toCall cfg w.swld) w.nwld with
  | .error fault => .error (.nwld fault)
  | .ok (r, nwld) =>
    match nwld.exchanges with
    | [] => .ok (r, ⟨nwld, w.swld⟩)
    | e :: _ =>
      match dispatchOnce cfg (call.arrives w.swld e.request e.op) w.swld with
      | .ok ((_, [_]), swld) => .ok (r, ⟨nwld, swld⟩)
      | _ => .error .noReply

abbrev WorldsStep := Step WorldsCall Worlds (SkStatus × SkTeecUserInfo)

/-- The server's part of a completed call. -/
inductive ServerAnswers (cfg : Config) (call : WorldsCall) (swld : Server) :
    List NwldExchange → Server → Prop
  | silent : ServerAnswers cfg call swld [] swld
  | replies {e : NwldExchange} {es : List NwldExchange} {err : SkStatus} {sent : Sent}
      {swld' : Server} :
      dispatchOnce cfg (call.arrives swld e.request e.op) swld = .ok ((err, [sent]), swld') →
      ServerAnswers cfg call swld (e :: es) swld'

theorem worldsStep_cases {cfg : Config} {call : WorldsCall} {w w' : Worlds}
    {r : SkStatus × SkTeecUserInfo} (h : worldsStep cfg call w = .ok (r, w')) :
    CallOutcome (call.toCall cfg w.swld) { w.nwld with exchanges := [] } r w'.nwld ∧
      ServerAnswers cfg call w.swld w'.nwld.exchanges w'.swld := by
  unfold worldsStep at h
  cases hcall : nwldStep (call.toCall cfg w.swld) w.nwld with
  | error fault =>
    rw [hcall] at h
    cases h
  | ok p =>
    obtain ⟨r', nwld⟩ := p
    have houtcome := nwldStep_cases hcall
    simp only [hcall] at h
    cases hes : nwld.exchanges with
    | nil =>
      simp only [hes] at h
      cases h
      refine ⟨houtcome, ?_⟩
      rw [hes]
      exact .silent
    | cons e es =>
      simp only [hes] at h
      split at h
      · rename_i hserved
        cases h
        refine ⟨houtcome, ?_⟩
        rw [hes]
        exact .replies hserved
      · cases h

/-! ## What the server makes of a request -/

/-- The edit only stamps objects. -/
def TableOp.Touches : TableOp → Prop
  | .touchContext _ _ | .touchSession _ _ => True
  | _ => False

/-- The operations that at most stamp objects of the server. -/
def SkTeecUserInfo.Stamps : SkTeecUserInfo → Prop
  | .invokeCmd _ | .regMem _ | .unregMem _ => True
  | _ => False

/-- The connection table after the request of a call, with the members of the
reply. `context` and `session` are the handles in the request. -/
inductive Reaction (env : Env) (conn : TApiConnectionTable) (context session : Handle) :
    (info : SkTeecUserInfo) → info.respLayout.Fields → TApiConnectionTable → Prop
  | refused {info : SkTeecUserInfo} {v : info.respLayout.Fields} :
      info.respLayout.statusOf v ≠ skErrorSuccess → Reaction env conn context session info v conn
  | openedContext {poc : SkTeecUserOpenContext} {c : CSlot} {handle : Handle} {pid : Int32} :
      conn.numCtableElements < skTapiMaxConnectionsPerContext →
      (firstFree fun i => (conn.ctable i).active) = some c →
      handle = Blk.xor (handleAt conn.cthandles c) env.keystream →
      Reaction env conn context session (.openContext poc) (handle, skErrorSuccess)
        (conn.openContext c handle pid)
  | closedContext {pcc : SkTeecUserCloseContext} {c : CSlot} :
      conn.findContext context = some c → (conn.ctable c).active = true → conn.chain c = [] →
      Reaction env conn context session (.closeContext pcc) skErrorSuccess
        (conn.deactivate c).countOut
  | countedOut {pcc : SkTeecUserCloseContext} {c : CSlot} :
      conn.findContext context = some c → (conn.ctable c).active = true → conn.chain c ≠ [] →
      Reaction env conn context session (.closeContext pcc) skErrorSuccess conn.countOut
  | openedSession {pos : SkTeecUserOpenSession} {c : CSlot} {i : SSlot} {stale handle : Handle}
      {t t' : UInt32} {loaded : SkStatus × SkSwldTappInstance} :
      conn.findContext context = some c → (conn.ctable c).active = true →
      (firstFree fun i => (conn.stable i).active) = some i →
      loaded = env.tappLoad pos.taid (conn.stable i).tapp →
      Reaction env conn context session (.openSession pos)
        (openSessionReply env stale handle loaded.1 loaded.2)
        (conn.openSession c i handle t t' pos.taid loaded.2)
  | closedSession {pcs : SkTeecUserCloseSession} {c : CSlot} {i : SSlot} {t : UInt32}
      {tapp : SkSwldTappInstance} :
      conn.findObjects context session = .ok (.ok (c, i)) →
      Reaction env conn context session (.closeSession pcs) skErrorSuccess
        (conn.closeSession c i t tapp)
  | touched {info : SkTeecUserInfo} {v : info.respLayout.Fields} {ops : List TableOp}
      {conn' : TApiConnectionTable} :
      info.Stamps → (∀ op ∈ ops, op.Touches) → Performs conn ops conn' →
      Reaction env conn context session info v conn'

/-! ### The request on the server's side -/

theorem Request.decode_enc {req : Request} {l : Layout} {v : SkHeader × l.Fields}
    (h : req.bytes = l.format.enc v) : req.decode l = v := by
  have hlen : req.bytes.length ≤ l.wireLength := by rw [h, l.format.length_enc]
  rw [Request.decode, List.take_of_length_le hlen, h, l.format.dec_enc]

theorem Request.hdr_enc {req : Request} {l : Layout} {v : SkHeader × l.Fields}
    (h : req.bytes = l.format.enc v) : req.hdr = v.1 := by
  rw [← req.decode_hdr l, req.decode_enc h]

theorem Server.outgoing_replied {s : Server} {l : Layout} (v : SkHeader × l.Fields)
    (h : l.wireLength ≤ s.tObj.maxMsendSize) :
    (s.replied l v).outgoing.bytes = l.format.enc v := by
  obtain ⟨hget, hsize⟩ := s.replied_of_le l v h
  have hread := l.format.enc_get (s.replied l v).tObj.msend 0
  rw [hget] at hread
  rw [Server.outgoing, hsize, hread]

/-- What is left in `msend` by a request that is processed and replies. -/
theorem finished_success {c : Command} {l : Layout} {w : SkHeader × l.Fields} {s₀ s' : Server}
    (h : finished c (answer l w s₀) = .ok (skErrorSuccess, s')) :
    s'.outgoing.bytes = l.format.enc w ∧ s'.tObj.conn = s₀.tObj.conn := by
  rw [finished, answer] at h
  simp only [Except.map, Except.ok.injEq, Prod.mk.injEq] at h
  obtain ⟨hstatus, rfl⟩ := h
  by_cases hfit : l.wireLength ≤ s₀.tObj.maxMsendSize
  · exact ⟨Server.outgoing_replied w hfit, rfl⟩
  · rw [if_neg hfit, if_pos (by decide)] at hstatus
    exact absurd hstatus c.errOf_ne

theorem finished_failed {c : Command} {err : SkStatus} {s₀ s' : Server} (herr : err ≠ skErrorSuccess)
    (h : finished c (.ok (err, s₀)) = .ok (skErrorSuccess, s')) : False := by
  rw [finished] at h
  simp only [Except.map, Except.ok.injEq, Prod.mk.injEq, if_pos herr] at h
  exact c.errOf_ne h.1

namespace SkTeecUserInfo

abbrev command : SkTeecUserInfo → Command
  | openContext _ => .openContext
  | closeContext _ => .closeContext
  | openSession _ => .openSession
  | closeSession _ => .closeSession
  | invokeCmd _ => .invokeCommand
  | regMem _ => .registerMemory
  | unregMem _ => .unregisterMemory

theorem ofCmd_cmd (info : SkTeecUserInfo) : Command.ofCmd info.cmd = some info.command := by
  cases info <;> rfl

end SkTeecUserInfo

section Served

variable {cfg : Config} {s s' : Server} {req : Request} {hdr : SkHeader}

/-- A request that is processed was one for this server. -/
theorem accepted_of_success (h : s.Sound)
    (hrun : handleRequest cfg req s = .ok (skErrorSuccess, s')) : ∃ c, Accepted s req c := by
  by_contra hnone
  rcases Nat.lt_or_ge s.tObj.maxMrecvSize req.bytes.length with hfits | hfits
  · rw [handleRequest_of_overrun cfg hfits] at hrun
    cases hrun
  · obtain ⟨status, hne, hrefused⟩ :=
      handleRequest_of_refused cfg h hfits fun c hc => hnone ⟨c, hc⟩
    rw [hrefused] at hrun
    cases hrun
    exact hne rfl

/-- The processed request of a call, as the server decodes it. -/
theorem served_of_success {info : SkTeecUserInfo} {v : info.reqLayout.Fields} (h : s.Sound)
    (hcmd : hdr.cmd = info.cmd) (hreq : req.bytes = info.reqLayout.format.enc (hdr, v))
    (hrun : handleRequest cfg req s = .ok (skErrorSuccess, s')) {c : Command}
    (hc : info.command = c) :
    finished c (c.serve cfg req.env (req.decode c.reqLayout) (receive req s)) =
      .ok (skErrorSuccess, s') := by
  obtain ⟨c', hacc⟩ := accepted_of_success h hrun
  have hcommand := hacc.command
  rw [req.hdr_enc hreq, hcmd, info.ofCmd_cmd, hc] at hcommand
  cases hcommand
  rw [← hrun, handleRequest_of_accepted cfg h hacc]
  rfl

end Served

/-- A reply was sent, and the table is as the reply says. -/
def Reacts (env : Env) (conn : TApiConnectionTable) (context session : Handle) (hdr : SkHeader)
    (info : SkTeecUserInfo) (s' : Server) : Prop :=
  ∃ w, s'.outgoing.bytes = info.respLayout.format.enc (hdr, w) ∧
    Reaction env conn context session info w s'.tObj.conn

section Reactions

variable {cfg : Config} {env : Env} {hdr : SkHeader} {context session : Handle} {s s' : Server}

/-- A handler that has replied. -/
private theorem reacts_of_finished {c : Command} {info : SkTeecUserInfo}
    {conn : TApiConnectionTable} {w : info.respLayout.Fields} {s₀ : Server}
    (h : finished c (answer info.respLayout (hdr, w) s₀) = .ok (skErrorSuccess, s'))
    (hreaction : Reaction env conn context session info w s₀.tObj.conn) :
    Reacts env conn context session hdr info s' := by
  obtain ⟨hbytes, hconn⟩ := finished_success h
  exact ⟨w, hbytes, hconn ▸ hreaction⟩

/-- A command that only stamps its context. -/
private theorem Reaction.touchedContext {conn : TApiConnectionTable} {info : SkTeecUserInfo}
    {v : info.respLayout.Fields} (hstamps : info.Stamps) (c : CSlot) (t : UInt32) :
    Reaction env conn context session info v (conn.touchContext c t) := by
  have hop : (TableOp.touchContext c t).Enabled conn := trivial
  refine .touched hstamps ?_ (.single hop)
  rintro op (_ | ⟨_, ⟨⟩⟩)
  trivial

private theorem openContext_reacts (poc : SkTeecUserOpenContext) {stale : Handle} {pid : Int32}
    {contextId : UInt32}
    (h : finished .openContext (serveOpenContext env hdr stale pid contextId s) =
      .ok (skErrorSuccess, s')) :
    Reacts env s.tObj.conn context session hdr (.openContext poc) s' := by
  rw [serveOpenContext_run] at h
  split at h
  · exact reacts_of_finished h (.refused (by decide : skErrorBadContextId ≠ skErrorSuccess))
  split at h
  · exact reacts_of_finished h (.refused (by decide : skErrorOpenContext ≠ skErrorSuccess))
  rename_i hroom
  split at h
  · cases h
  · rename_i c hfree
    exact reacts_of_finished h (.openedContext (Nat.not_le.mp hroom) hfree rfl)

private theorem closeContext_reacts (hs : s.Sound) (pcc : SkTeecUserCloseContext)
    (h : finished .closeContext (serveCloseContext hdr context s) = .ok (skErrorSuccess, s')) :
    Reacts env s.tObj.conn context session hdr (.closeContext pcc) s' := by
  rw [serveCloseContext_run hdr hs.table] at h
  split at h
  · have hrefused : skErrorContextHandleNotFound ≠ skErrorSuccess := by decide
    exact reacts_of_finished h (.refused hrefused)
  rename_i c hfind
  split at h
  · cases h
  rename_i hactive
  rw [Bool.not_eq_false] at hactive
  split at h
  · cases h
  refine reacts_of_finished h ?_
  rw [Server.withConn_conn]
  by_cases hempty : s.tObj.conn.chain c = []
  · rw [if_pos hempty]
    exact .closedContext hfind hactive hempty
  · rw [if_neg hempty]
    exact .countedOut hfind hactive hempty

private theorem openSession_reacts (hs : s.Sound) (pos : SkTeecUserOpenSession) {stale : Handle}
    (h : finished .openSession (serveOpenSession env hdr stale context pos.taid s) =
      .ok (skErrorSuccess, s')) :
    Reacts env s.tObj.conn context session hdr (.openSession pos) s' := by
  rw [serveOpenSession_run env hdr hs.table] at h
  split at h
  · have hrefused : skErrorContextHandleNotFound ≠ skErrorSuccess := by decide
    exact reacts_of_finished h (.refused hrefused)
  rename_i c hfind
  split at h
  · cases h
  rename_i hactive
  rw [Bool.not_eq_false] at hactive
  split at h
  · exact reacts_of_finished h (.refused (by decide : skErrorOpenSession ≠ skErrorSuccess))
  split at h
  · cases h
  · rename_i i hfree
    exact reacts_of_finished h (.openedSession hfind hactive hfree rfl)

private theorem closeSession_reacts (hs : s.Sound) (pcs : SkTeecUserCloseSession)
    (h : finished .closeSession (serveCloseSession env hdr context session s) =
      .ok (skErrorSuccess, s')) :
    Reacts env s.tObj.conn context session hdr (.closeSession pcs) s' := by
  rw [serveCloseSession_run env hdr hs.table hs.room hs.slots] at h
  split at h
  · cases h
  · rename_i err hfind
    split at h
    · rename_i herr
      exact (finished_failed (by rw [herr]; decide) h).elim
    · refine reacts_of_finished h (.refused ?_)
      change err ≠ skErrorSuccess
      rcases TApiConnectionTable.findObjects_error hfind with rfl | rfl | rfl <;> decide
  · rename_i c i hfind
    exact reacts_of_finished h (.closedSession hfind)

private theorem invokeCommand_reacts (hs : s.Sound) (pic : SkTeecUserInvokeCmd)
    (h : finished .invokeCommand (serveInvokeCommand env hdr context session pic.cmd s) =
      .ok (skErrorSuccess, s')) :
    Reacts env s.tObj.conn context session hdr (.invokeCmd pic) s' := by
  rw [serveInvokeCommand_run env hdr hs.table hs.room] at h
  split at h
  · cases h
  · split at h
    · rename_i herr
      exact (finished_failed (by rw [herr]; decide) h).elim
    · have hnone : ∀ op ∈ ([] : List TableOp), op.Touches := fun _ hop => absurd hop List.not_mem_nil
      exact reacts_of_finished h (.touched trivial hnone (.nil _))
  · rename_i c i hfind
    have hop : (TableOp.touchContext c (env.timer s.clk)).Enabled s.tObj.conn := trivial
    have hop' : (TableOp.touchSession i (env.timer (s.clk + 1))).Enabled
        (s.tObj.conn.touchContext c (env.timer s.clk)) := trivial
    refine reacts_of_finished h (.touched trivial ?_ (.cons hop (.single hop')))
    rintro op (_ | ⟨_, _ | ⟨_, ⟨⟩⟩⟩) <;> trivial

private theorem registerMemory_reacts (hs : s.Sound) (rm : SkTeecUserRegisterMemory)
    (h : finished .registerMemory (serveRegisterMemory env hdr context rm.memorySize rm.flag
      rm.addr s) = .ok (skErrorSuccess, s')) :
    Reacts env s.tObj.conn context session hdr (.regMem rm) s' := by
  obtain ⟨l, hl⟩ := hs.regions
  rw [serveRegisterMemory_run env hdr hl] at h
  split at h
  · exact (finished_failed (by decide) h).elim
  rename_i c hfind
  split at h
  · rename_i hc
    dsimp only at h
    split at h
    · exact (finished_failed (by decide) h).elim
    · generalize (if rm.flag ≠ skTeecMemAllocate then rm.addr else 0) = memPtr at h
      split at h
      · exact (finished_failed (by decide) h).elim
      · split at h
        · cases h
        · have hstamps : (SkTeecUserInfo.regMem rm).Stamps := trivial
          exact reacts_of_finished h (.touchedContext hstamps ⟨_, hc⟩ (env.timer s.clk))
  · cases h

private theorem unregisterMemory_reacts (hs : s.Sound) (urm : SkTeecUserUnregisterMemory)
    (h : finished .unregisterMemory (serveUnregisterMemory env hdr context urm.memoryId s) =
      .ok (skErrorSuccess, s')) :
    Reacts env s.tObj.conn context session hdr (.unregMem urm) s' := by
  obtain ⟨l, hl⟩ := hs.regions
  rw [serveUnregisterMemory_run env hdr hl] at h
  split at h
  · exact (finished_failed (by decide) h).elim
  rename_i c hfind
  split at h
  · rename_i hc
    dsimp only at h
    split at h
    · exact (finished_failed (by decide) h).elim
    · split at h
      · cases h
      · split at h
        · exact (finished_failed (by decide) h).elim
        · have hstamps : (SkTeecUserInfo.unregMem urm).Stamps := trivial
          exact reacts_of_finished h (.touchedContext hstamps ⟨_, hc⟩ (env.timer s.clk))
  · cases h

end Reactions

/-- Whatever the server sends for the request of a call is a reply of the
call's own kind, and the table has changed as the reply says. -/
theorem reacts_of_sent {cfg : Config} {call : WorldsCall} {s s' : Server} (h : s.Sound)
    {request : List UInt8} {contextId smId : UInt32} {context session : Handle}
    {op : Option SkOperation} {err : SkStatus} {sent : Sent}
    (hrequest : request = call.info.request contextId smId context session)
    (hsent : dispatchOnce cfg (call.arrives s request op) s = .ok ((err, [sent]), s')) :
    sent = s'.outgoing ∧ Reacts call.swldEnv s.tObj.conn context session
      ⟨contextId, smId, call.info.cmd⟩ call.info s' := by
  obtain ⟨hrun, rfl⟩ := dispatchOnce_sent rfl hsent
  refine ⟨rfl, ?_⟩
  obtain ⟨info, env, recvBuf, swldEnv, msg⟩ := call
  generalize hreq : (WorldsCall.arrives ⟨info, env, recvBuf, swldEnv, msg⟩ s request op).request =
    req at hrun
  have hbytes : req.bytes = info.request contextId smId context session := by
    rw [← hreq]
    exact hrequest
  have henv : req.env = swldEnv := by
    rw [← hreq]
    rfl
  have hserved {c : Command} (hc : info.command = c) := served_of_success h rfl hbytes hrun hc
  have hdecode := req.decode_enc hbytes
  have hs := h.receive req
  rw [← receive_conn req s]
  rw [henv] at hserved
  generalize receive req s = t at hserved hs
  cases info with
  | openContext poc =>
    have hfinished := hserved rfl
    rw [hdecode] at hfinished
    exact openContext_reacts poc hfinished
  | closeContext pcc =>
    have hfinished := hserved rfl
    rw [hdecode] at hfinished
    exact closeContext_reacts hs pcc hfinished
  | openSession pos =>
    have hfinished := hserved rfl
    rw [hdecode] at hfinished
    exact openSession_reacts hs pos hfinished
  | closeSession pcs =>
    have hfinished := hserved rfl
    rw [hdecode] at hfinished
    exact closeSession_reacts hs pcs hfinished
  | invokeCmd pic =>
    have hfinished := hserved rfl
    rw [hdecode] at hfinished
    exact invokeCommand_reacts hs pic hfinished
  | regMem rm =>
    have hfinished := hserved rfl
    rw [hdecode] at hfinished
    exact registerMemory_reacts hs rm hfinished
  | unregMem urm =>
    have hfinished := hserved rfl
    rw [hdecode] at hfinished
    exact unregisterMemory_reacts hs urm hfinished

/-! ### The reply on the driver's side -/

/-- The receive buffer of the call holds the reply to it. -/
def WorldsCall.Lossless (call : WorldsCall) : Prop :=
  call.info.respLayout.wireLength ≤ call.env.recvBufferSize

instance (call : WorldsCall) : Decidable call.Lossless := inferInstanceAs (Decidable (_ ≤ _))

/-- What holds of a request, the reply that the driver sees and the server afterwards. -/
structure Exchanged (call : WorldsCall) (conn : TApiConnectionTable) (context session : Handle)
    (reply : CommReply) (v : call.info.respLayout.Fields) (s' : Server) : Prop where
  reaction : Reaction call.swldEnv conn context session call.info v s'.tObj.conn
  accepted : call.info.Accepts reply ↔ call.info.respLayout.statusOf v = skErrorSuccess
  members : (call.info.respLayout.format.get reply.recvBuf 0).2 = v

/-- An answered request has the reply that goes with the server's table. -/
theorem ServerAnswers.exchanged {cfg : Config} {call : WorldsCall} {s s' : Server}
    {e : NwldExchange} {es : List NwldExchange} {contextId smId : UInt32}
    {context session : Handle} (h : ServerAnswers cfg call s (e :: es) s') (hs : s.Sound)
    (hlossless : call.Lossless)
    (hrequest : e.request = call.info.request contextId smId context session)
    (hreply : e.reply = call.transport cfg s e.request e.op) :
    s'.Sound ∧ ∃ v, Exchanged call s.tObj.conn context session e.reply v s' := by
  cases h with
  | replies hsent =>
    obtain ⟨hrun, -⟩ := dispatchOnce_sent rfl hsent
    refine ⟨handleRequest_sound hs hrun, ?_⟩
    obtain ⟨rfl, v, hbytes, hreaction⟩ := reacts_of_sent hs hrequest hsent
    have hlen : s'.outgoing.bytes.length = call.info.respLayout.wireLength := by
      rw [hbytes, Format.length_enc]
    have hfits : s'.outgoing.bytes.length ≤ call.env.recvBufferSize := by
      rw [hlen]
      exact hlossless
    rw [WorldsCall.transport, hsent] at hreply
    simp only [if_pos hfits] at hreply
    have hget : call.info.respLayout.format.get e.reply.recvBuf 0 =
        (⟨contextId, smId, call.info.cmd⟩, v) := by
      rw [hreply, hbytes]
      exact Format.get_write _ _ _ _
    refine ⟨v, hreaction, ?_, by rw [hget]⟩
    rw [SkTeecUserInfo.Accepts, CommReply.Accepted, hget, hreply, hlen]
    simp

end SkSdk
