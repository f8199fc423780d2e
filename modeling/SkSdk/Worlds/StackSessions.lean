import SkSdk.Nwld.ClientSessions
import SkSdk.Swld.KeepAlive
import SkSdk.Worlds.Stack

/-!
From the session objects of the programs to the TApps of the server. An open session
object stands for a slot of the server that holds what the object's own opening
loaded; a command on it is run there and nowhere else.
-/

namespace SkSdk
open ByteMemory FaultState NameTable Format

/-! ## A request and its reply -/

/-- A request that the driver has sent for a call, what the server made of it, and the
reply that the driver saw. -/
structure Conveyed (cfg : Config) (call : WorldsCall) (s s' : Server) (context session : Handle)
    (e : NwldExchange) (w : call.info.command.respLayout.Fields) : Prop where
  op : e.op = call.info.op
  request : ∃ contextId smId, e.request = call.info.request contextId smId context session
  run : handleRequest cfg (call.arrives s e.request e.op).request s = .ok (skErrorSuccess, s')
  handled : Handled cfg (call.arrives s e.request e.op).request s skErrorSuccess s'
    call.info.command (some w)
  members : (call.info.command.respLayout.format.get e.reply.recvBuf 0).2 = w
  accepted : call.info.Accepts e.reply ↔ call.info.command.respLayout.statusOf w = skErrorSuccess

section Calls

variable {cfg : Config} {call : WorldsCall} {s s' : Server} {w w' : Worlds}
  {r : SkStatus × SkTeecUserInfo}

theorem SkTeecUserInfo.accepts_command (info : SkTeecUserInfo) (reply : CommReply) :
    info.Accepts reply ↔ reply.Accepted info.command.respLayout info.cmd := by
  cases info <;> rfl

theorem Answered.outgoing {status : SkStatus} {l : Layout} {w : SkHeader × l.Fields}
    (h : Answered status s' l w) : s'.outgoing.bytes = l.format.enc w := by
  have hread := l.format.enc_get s'.tObj.msend 0
  rw [h.reply] at hread
  rw [Server.outgoing, h.size, hread]

/-- Whatever the server sends for a request of the driver is the reply to it. -/
theorem ServerAnswers.conveyed {e : NwldExchange} {contextId smId : UInt32}
    {context session : Handle} (h : ServerAnswers cfg call s [e] s') (hs : s.Sound)
    (hbuf : call.env.recvBufferSize = skDrvMaxMsgbufferSize) (hop : e.op = call.info.op)
    (hrequest : e.request = call.info.request contextId smId context session)
    (hreply : e.reply = call.transport cfg s e.request e.op) :
    ∃ w, Conveyed cfg call s s' context session e w := by
  cases h with
  | replies hsent =>
    obtain ⟨hrun, rfl⟩ := dispatchOnce_sent rfl hsent
    rcases handleRequest_handled hs hrun with ⟨-, hne, -⟩ | ⟨c, reply, hc⟩
    · exact absurd rfl hne
    have hbytes : (call.arrives s e.request e.op).request.bytes = call.info.reqLayout.format.enc
        (⟨contextId, smId, call.info.cmd⟩, call.info.fields context session) := hrequest
    have hhdr := Request.hdr_enc hbytes
    have hcommand := hc.accepted.command
    rw [hhdr, call.info.ofCmd_cmd] at hcommand
    obtain rfl := Option.some.inj hcommand
    have hconcludes := hc.concludes
    cases reply with
    | none => exact absurd hconcludes.symm call.info.command.errOf_ne
    | some w =>
      rw [Concludes] at hconcludes
      split at hconcludes
      · have hlen := call.info.command.respLayout.format.length_enc
          ((call.arrives s e.request e.op).request.hdr, w)
        rw [← hconcludes.outgoing] at hlen
        have hfits : s'.outgoing.bytes.length ≤ call.env.recvBufferSize := by
          rw [hlen, hbuf]
          exact wireLength_le_msgbuffer _
        rw [WorldsCall.transport, hsent] at hreply
        simp only [if_pos hfits] at hreply
        have hget : call.info.command.respLayout.format.get e.reply.recvBuf 0 =
            ((call.arrives s e.request e.op).request.hdr, w) := by
          rw [hreply, hconcludes.outgoing]
          exact Format.get_write _ _ _ _
        refine ⟨w, hop, ⟨_, _, hrequest⟩, hrun, hc, by rw [hget], ?_⟩
        rw [SkTeecUserInfo.accepts_command, CommReply.Accepted, hget, hreply, hlen, hhdr]
        simp
      · exact absurd hconcludes.symm call.info.command.errOf_ne

/-- The operations that succeed as soon as their reply is accepted. -/
def SkTeecUserInfo.Settled : SkTeecUserInfo → Prop
  | .closeSession _ | .invokeCmd _ => True
  | _ => False

/-- `e` is the exchange of a call that returned `r`. -/
structure CallExchange (call : Call) (r : SkStatus × SkTeecUserInfo) (t : Nwld)
    (e : NwldExchange) : Prop where
  alone : t.exchanges = [e]
  op : e.op = call.info.op
  request : ∃ contextId smId context session,
    e.request = call.info.request contextId smId context session
  reply : ∃ comm, e.reply = call.env.commProc comm e.request e.op
  accepted : r.1 = skErrorSuccess → call.info.Accepts e.reply
  settled : call.info.Settled → call.info.Accepts e.reply → r.1 = skErrorSuccess

theorem CallOutcome.exchange {call : Call} {s t : Nwld} (h : CallOutcome call s r t)
    (hs : s.exchanges = []) {e : NwldExchange} (he : e ∈ t.exchanges) :
    CallExchange call r t e := by
  have halone {e' : NwldExchange} (ht : t.exchanges = s.exchanges ++ [e']) :
      t.exchanges = [e'] ∧ e' = e := by
    rw [hs, List.nil_append] at ht
    exact ⟨ht, (List.mem_singleton.mp (ht ▸ he)).symm⟩
  have hsent {hd : UInt32} {pconn : TSkSysConnection} {session : Handle} {e' : NwldExchange}
      (hsends : Sends call s hd pconn session e') (ht : t.exchanges = s.exchanges ++ [e'])
      (hr : r.1 = skErrorSuccess → call.info.Accepts e'.reply)
      (hsettled : call.info.Settled → call.info.Accepts e'.reply → r.1 = skErrorSuccess) :
      CallExchange call r t e := by
    obtain ⟨ht, rfl⟩ := halone ht
    obtain ⟨c, -, rfl⟩ := hsends.exchange
    exact ⟨ht, rfl, ⟨_, _, _, _, rfl⟩, ⟨_, rfl⟩, hr, hsettled⟩
  have hopen {poc : SkTeecUserOpenContext} {i : IdSlot} {u : Nwld} {e' : NwldExchange}
      (hinfo : call.info = .openContext poc) (hsends : SendsOpen call u i e')
      (ht : t.exchanges = s.exchanges ++ [e'])
      (hr : r.1 = skErrorSuccess → call.info.Accepts e'.reply) : CallExchange call r t e := by
    obtain ⟨ht, rfl⟩ := halone ht
    rw [SendsOpen] at hsends
    subst hsends
    refine ⟨ht, by rw [hinfo]; rfl, ⟨_, _, _, _, rfl⟩, ⟨_, rfl⟩, hr, fun hsettled => ?_⟩
    rw [hinfo] at hsettled
    exact hsettled.elim
  have hnone (ht : t.exchanges = s.exchanges) : False := by
    rw [ht, hs] at he
    cases he
  have hunsettled {info : SkTeecUserInfo} {p : Prop} (hinfo : call.info = info)
      (hno : ¬ info.Settled) : call.info.Settled → p :=
    fun hsettled => absurd (hinfo ▸ hsettled) hno
  cases h with
  | refused _ => exact (hnone rfl).elim
  | unclaimed _ hclaim => exact (hnone hclaim.frame.2.2.2.2).elim
  | unsent _ hclaim => exact (hnone hclaim.frame.2.2.2.2).elim
  | unopened hinfo hclaim hsends herr _ =>
    exact hopen hinfo hsends (congrArg (· ++ _) hclaim.frame.2.2.2.2) fun hr => absurd hr herr
  | openedContext hinfo hclaim hsends hacc _ _ =>
    exact hopen hinfo hsends (congrArg (· ++ _) hclaim.frame.2.2.2.2) fun _ => hacc
  | rejected hsends hacc herr =>
    exact hsent hsends rfl (fun hr => absurd hr herr) fun _ h => absurd h hacc
  | unreleased hinfo hsends hacc hrelease _ =>
    exact hsent hsends hrelease.frame.2.2.2.2 (fun _ => hacc) (hunsettled hinfo id)
  | closedContext hinfo hsends hacc hrelease _ =>
    exact hsent hsends hrelease.frame.2.2.2.2 (fun _ => hacc) (hunsettled hinfo id)
  | sessionsFull hinfo hsends hacc _ _ =>
    exact hsent hsends rfl (fun _ => hacc) (hunsettled hinfo id)
  | openedSession _ hsends hacc _ _ _ => exact hsent hsends rfl (fun _ => hacc) fun _ _ => rfl
  | closedSession _ hsends hacc _ _ => exact hsent hsends rfl (fun _ => hacc) fun _ _ => rfl
  | invoked _ hsends hacc => exact hsent hsends rfl (fun _ => hacc) fun _ _ => rfl
  | registered hinfo hsends hacc _ =>
    exact hsent hsends rfl (fun _ => hacc) (hunsettled hinfo id)
  | unregistered hinfo hsends hacc => exact hsent hsends rfl (fun _ => hacc) (hunsettled hinfo id)

theorem worldsStep_conveyed (hs : w.swld.Sound)
    (hbuf : call.env.recvBufferSize = skDrvMaxMsgbufferSize)
    (h : worldsStep cfg call w = .ok (r, w')) {e : NwldExchange} (he : e ∈ w'.nwld.exchanges) :
    CallExchange (call.toCall cfg w.swld) r w'.nwld e ∧
      ∃ context session v, Conveyed cfg call w.swld w'.swld context session e v := by
  obtain ⟨hout, hanswers⟩ := worldsStep_cases h
  have hex := hout.exchange rfl he
  obtain ⟨_, _, context, session, hrequest⟩ := hex.request
  obtain ⟨_, hreply⟩ := hex.reply
  rw [hex.alone] at hanswers
  exact ⟨hex, context, session, hanswers.conveyed hs hbuf hex.op hrequest hreply⟩

end Calls

/-! ## Requests in a run of the stack -/

/-- What a step asks the driver for, and what came of the request that it sent. -/
structure Asked (cfg : Config) (y : StackStep) (e : NwldExchange) (info : SkTeecUserInfo)
    (context session : Handle) (w : info.command.respLayout.Fields) : Prop where
  asks : y.input.call.Asks y.input.env y.pre.client info
  alone : sent (y.teec cfg) = [e]
  conveyed : Conveyed cfg (y.input.worldsCall info) y.pre.swld y.post.swld context session e w
  accepted : y.result = skErrorSuccess → info.Accepts e.reply
  settled : info.Settled → info.Accepts e.reply → y.result = skErrorSuccess

/-- The server's part of a step: the request that was sent, if there was one. -/
def StackStep.served (cfg : Config) (y : StackStep) : List ServerStep :=
  (sent (y.teec cfg)).map fun e =>
    ⟨((y.input.worldsCall (.closeContext ⟨0⟩)).arrives y.pre.swld e.request e.op).request,
      y.pre.swld, skErrorSuccess, y.post.swld⟩

section Steps

variable {cfg : Config} {logs : Bool} {y : StackStep} {e : NwldExchange}

theorem stackStep_asked (hs : y.pre.swld.Sound)
    (h : stackStep cfg logs y.input y.pre = .ok (y.result, y.post)) (he : e ∈ sent (y.teec cfg)) :
    ∃ info context session w, Asked cfg y e info context session w := by
  rcases teecStep_driver (stackStep_teec h) with ⟨hinvalid, -⟩ |
    ⟨hstatus, info, r, hasks, hresult, hdriver⟩
  · rw [sent, if_pos (show (y.teec cfg).result = _ from hinvalid)] at he
    cases he
  · have hsent : sent (y.teec cfg) = y.post.client.nwld.exchanges := if_neg hstatus
    rw [hsent] at he
    obtain ⟨hex, context, session, w, hw⟩ := worldsStep_conveyed (w := y.pre.worlds) hs rfl
      (worldsStep_of_nwldStep hstatus hdriver h) he
    exact ⟨info, context, session, w, hasks.congr rfl rfl, hsent.trans hex.alone, hw,
      fun hy => hex.accepted (hresult.mp hy),
      fun hsettled hacc => hresult.mpr (hex.settled hsettled hacc)⟩

/-- Where nothing is sent, the server is left alone. -/
theorem stackStep_unsent (h : stackStep cfg logs y.input y.pre = .ok (y.result, y.post))
    (hsent : sent (y.teec cfg) = []) : y.post.swld = y.pre.swld := by
  have hexchanges : (if y.result = skErrorInvalidParam then [] else
      y.post.client.nwld.exchanges) = [] := hsent
  have hteec := stackStep_teec h
  obtain ⟨input, pre, result, client, swld⟩ := y
  unfold stackStep at h
  simp only [hteec, hexchanges] at h
  exact ((Stack.mk.inj (Prod.mk.inj (Except.ok.inj h)).2).2).symm

theorem Asked.request {info : SkTeecUserInfo} {context session : Handle}
    {w : info.command.respLayout.Fields} (h : Asked cfg y e info context session w) :
    y.served cfg = [⟨((y.input.worldsCall info).arrives y.pre.swld e.request e.op).request,
      y.pre.swld, skErrorSuccess, y.post.swld⟩] := by
  rw [StackStep.served, h.alone]
  rfl

/-- The server's part of a run of the stack is a run of the server. -/
theorem stack_serverRun {w₀ w : Stack} {tr : List StackStep} (hstart : Started w₀.swld)
    (hrun : Run (stackStep cfg logs) w₀ tr w) :
    ServerRun cfg (tr.flatMap (StackStep.served cfg)) w.swld := by
  induction hrun with
  | start => exact ⟨w₀.swld, hstart, .start⟩
  | @next tr s s' i a _ hstep ih =>
    have hsound : s.swld.Sound := Reachable.sound ⟨_, ih⟩
    rw [List.flatMap_append, List.flatMap_singleton]
    by_cases hsent : sent (StackStep.teec cfg ⟨i, s, a, s'⟩) = []
    · have hswld : s'.swld = s.swld := stackStep_unsent (y := ⟨i, s, a, s'⟩) hstep hsent
      rw [StackStep.served, hsent, List.map_nil, List.append_nil, hswld]
      exact ih
    · obtain ⟨e, he⟩ := List.exists_mem_of_ne_nil _ hsent
      obtain ⟨info, context, session, v, hv⟩ :=
        stackStep_asked (y := ⟨i, s, a, s'⟩) hsound hstep he
      obtain ⟨s₀, h₀, hserver⟩ := ih
      rw [hv.request]
      exact ⟨s₀, h₀, hserver.next hv.conveyed.run⟩

end Steps

/-! ## The members of a request -/

section Members

variable {cfg : Config} {call : WorldsCall} {s s' : Server} {context session : Handle}
  {e : NwldExchange}

theorem Conveyed.decode {w : call.info.command.respLayout.Fields}
    (h : Conveyed cfg call s s' context session e w) :
    ((call.arrives s e.request e.op).request.decode call.info.reqLayout).2 =
      call.info.fields context session := by
  obtain ⟨contextId, smId, hrequest⟩ := h.request
  have hbytes : (call.arrives s e.request e.op).request.bytes = call.info.reqLayout.format.enc
      (⟨contextId, smId, call.info.cmd⟩, call.info.fields context session) := hrequest
  rw [Request.decode_enc hbytes]

theorem Conveyed.contextHandle {w : call.info.command.respLayout.Fields} {hd : UInt32}
    (h : Conveyed cfg call s s' context session e w) (hhd : call.info.contextHandle = some hd) :
    e.contextHandle = context := by
  obtain ⟨_, _, hrequest⟩ := h.request
  exact contextHandle_request hhd hrequest

theorem Conveyed.sessionHandle {w : call.info.command.respLayout.Fields} {hd sh : UInt32}
    (h : Conveyed cfg call s s' context session e w) (hhd : call.info.contextHandle = some hd)
    (hsh : call.info.sessionHandle = some sh) : e.sessionHandle = session := by
  obtain ⟨_, _, hrequest⟩ := h.request
  exact sessionHandle_request hhd hsh hrequest

end Members

/-! ## What a step does to the sessions of the server -/

/-- The step opened a session of this handle, and started this TApp for it. -/
def StackStep.Starts (y : StackStep) (handle : Handle) (tapp : SkSwldTappInstance) : Prop :=
  ∃ p q taid, y.input.call = .openSession (some p) (some q) (some taid) ∧
    y.post.swld.events = [.generate handle, .load taid skErrorSuccess tapp, .init tapp]

section Sessions

variable {cfg : Config} {y : StackStep} {e : NwldExchange} {c : CSlot} {i : SSlot}
  {context session context' session' : Handle}

/-- A session stays where it is with its TApp, unless the step closes it. -/
theorem Asked.carried {info : SkTeecUserInfo} {w : info.command.respLayout.Fields}
    (h : Asked cfg y e info context session w) (hs : y.pre.swld.Sound)
    (hx : y.pre.swld.tObj.conn.Seats c i context' session')
    (hclose : ∀ pcs, info = .closeSession pcs → y.result = skErrorSuccess →
      e.contextHandle = context' → e.sessionHandle ≠ session') :
    Carried y.input.swldEnv y.pre.swld.tObj.conn y.post.swld.tObj.conn c i context' session' := by
  refine h.conveyed.handled.outcome.carried hs ?_ ?_ hx
  · cases info <;> exact Command.noConfusion
  · intro heq
    cases info with
    | closeSession pcs =>
      have hrequest := StoreRequest.closeSession.inj (Prod.mk.inj heq).1
      have hstatus : w = skErrorSuccess := StoreReply.status.inj (Prod.mk.inj heq).2
      have hhandles : closeSessionHandles ((y.input.worldsCall (.closeSession pcs)).arrives
        y.pre.swld e.request e.op).request = (context, session) := h.conveyed.decode
      rw [hhandles] at hrequest
      obtain ⟨rfl, rfl⟩ := hrequest
      have hdone := h.settled trivial (h.conveyed.accepted.mpr hstatus)
      exact hclose pcs rfl hdone (h.conveyed.contextHandle rfl) (h.conveyed.sessionHandle rfl rfl)
    | _ => cases (Prod.mk.inj heq).1

/-- A successful opening seats the session in a slot that was free, with the TApp that
it has started. -/
theorem Asked.opened {pos : SkTeecUserOpenSession} {w : Handle × Int32}
    (h : Asked cfg y e (.openSession pos) context session w) (hs : y.pre.swld.Sound)
    (hresult : y.result = skErrorSuccess) :
    ∃ c i, y.post.swld.tObj.conn.Seats c i e.contextHandle e.reply.handle ∧
      y.Starts e.reply.handle (y.post.swld.tObj.conn.stable i).tapp := by
  have hstatus : w.2 = skErrorSuccess := h.conveyed.accepted.mp (h.accepted hresult)
  have hhandle : e.reply.handle = w.1 := by
    rw [← h.conveyed.members]
    exact (get_blk e.reply.recvBuf 12 16).symm
  have houtcome := h.conveyed.handled.outcome
  have hdecode := h.conveyed.decode
  have hcontext : e.contextHandle = context := h.conveyed.contextHandle rfl
  have hasks := h.asks
  unfold StackStep.Starts
  generalize y.post.swld.tObj.conn = conn, y.post.swld.events = evs at houtcome ⊢
  cases houtcome with
  | openSessionUnknown _ => cases hstatus
  | sessionsFull _ _ _ => cases hstatus
  | @sessionOpened c i hfind hc hfree =>
    obtain ⟨hload, hinit⟩ := openSessionReply_success.mp hstatus
    rw [openSessionReply, if_neg (not_not.mpr hload), if_neg (not_not.mpr hinit)] at hhandle
    have hmembers := Prod.mk.inj hdecode
    refine ⟨c, i, ?_, ?_⟩
    · rw [hcontext, hhandle]
      exact TApiConnectionTable.seats_openSession hs.table hc (firstFree_some hfree)
        ((lookup_some hfind).trans hmembers.1)
    · rw [TApiConnectionTable.tapp_openSession, if_pos rfl, loadEvents, if_pos hload, hload,
        hhandle]
      generalize y.input.call = call at hasks ⊢
      cases hasks with
      | @openSession p q taid =>
        have htaid : openSessionTaid _ = taid := hmembers.2
        exact ⟨p, q, taid, rfl, by rw [htaid]⟩
  | memoryStamped hcmd => rcases hcmd with hcmd | hcmd <;> cases hcmd

theorem invokeReply_success {err : SkStatus} :
    invokeReply err = skErrorSuccess ↔ err = skErrorSuccess := by
  unfold invokeReply
  split
  · rename_i herr
    refine iff_of_false ?_ herr
    split <;> decide
  · rename_i herr
    exact iff_of_true rfl (not_not.mp herr)

/-- A command on a session that is seated is the one that the session's TApp is given. -/
theorem Asked.invoked {pic : SkTeecUserInvokeCmd} {w : Int32}
    (h : Asked cfg y e (.invokeCmd pic) context session w) (hs : y.pre.swld.Sound)
    (hd : y.pre.swld.tObj.conn.HandlesDistinct)
    (hx : y.pre.swld.tObj.conn.Seats c i e.contextHandle e.sessionHandle) :
    ∃ op, e.op = some op ∧ y.post.swld.events = [.pull (y.pre.swld.tapp i) pic.cmd op] ∧
      (y.result = skErrorSuccess ↔
        y.input.swldEnv.tappPull (y.pre.swld.tapp i) pic.cmd op = skErrorSuccess) := by
  have hop : e.op = some pic.op := h.conveyed.op
  have hresult : y.result = skErrorSuccess ↔ w = skErrorSuccess :=
    ⟨fun hy => h.conveyed.accepted.mp (h.accepted hy),
      fun hw => h.settled trivial (h.conveyed.accepted.mpr hw)⟩
  have hmembers : invokeCommandMembers ((y.input.worldsCall (.invokeCmd pic)).arrives
      y.pre.swld e.request e.op).request = (context, session, pic.cmd) := h.conveyed.decode
  have hcontext : e.contextHandle = context := h.conveyed.contextHandle rfl
  have hsession : e.sessionHandle = session := h.conveyed.sessionHandle rfl rfl
  have hholds := hx.holds hs.table hd
  have houtcome := h.conveyed.handled.outcome
  rw [hcontext, hsession] at hx hholds
  rw [hop] at houtcome hmembers
  refine ⟨pic.op, hop, ?_⟩
  generalize y.post.swld.tObj.conn = conn, y.post.swld.events = evs at houtcome ⊢
  cases houtcome with
  | invokeUnresolved hfind herr =>
    rw [hmembers] at hfind
    exact absurd hholds (TApiConnectionTable.store_unresolved hs.table hd hfind).not_holds
  | @commandInvoked c' i' hfind =>
    rw [invokeReply_success, hmembers] at hresult
    rw [hmembers] at hfind ⊢
    obtain ⟨hc, -, hi, -, hmem⟩ := TApiConnectionTable.findObjects_ok hfind
    obtain ⟨-, rfl⟩ := hx.unique hd hs.table ⟨hmem, lookup_some hc, lookup_some hi⟩
    exact ⟨rfl, hresult⟩
  | memoryStamped hcmd => rcases hcmd with hcmd | hcmd <;> cases hcmd

/-- Closing a session that is seated ends its TApp. -/
theorem Asked.closed {pcs : SkTeecUserCloseSession} {w : Int32}
    (h : Asked cfg y e (.closeSession pcs) context session w) (hs : y.pre.swld.Sound)
    (hd : y.pre.swld.tObj.conn.HandlesDistinct)
    (hx : y.pre.swld.tObj.conn.Seats c i e.contextHandle e.sessionHandle) :
    y.result = skErrorSuccess ∧
      y.post.swld.events = [.close (y.pre.swld.tapp i), .unload (y.pre.swld.tapp i)] := by
  have hresult : w = skErrorSuccess → y.result = skErrorSuccess :=
    fun hw => h.settled trivial (h.conveyed.accepted.mpr hw)
  have hmembers : closeSessionHandles ((y.input.worldsCall (.closeSession pcs)).arrives
      y.pre.swld e.request e.op).request = (context, session) := h.conveyed.decode
  have hcontext : e.contextHandle = context := h.conveyed.contextHandle rfl
  have hsession : e.sessionHandle = session := h.conveyed.sessionHandle rfl rfl
  have hholds := hx.holds hs.table hd
  have houtcome := h.conveyed.handled.outcome
  rw [hcontext, hsession] at hx hholds
  generalize y.post.swld.tObj.conn = conn, y.post.swld.events = evs at houtcome ⊢
  cases houtcome with
  | closeSessionUnresolved hfind herr =>
    rw [hmembers] at hfind
    exact absurd hholds (TApiConnectionTable.store_unresolved hs.table hd hfind).not_holds
  | @sessionClosed c' i' hfind =>
    rw [hmembers] at hfind
    obtain ⟨hc, -, hi, -, hmem⟩ := TApiConnectionTable.findObjects_ok hfind
    obtain ⟨-, rfl⟩ := hx.unique hd hs.table ⟨hmem, lookup_some hc, lookup_some hi⟩
    exact ⟨hresult rfl, rfl⟩
  | memoryStamped hcmd => rcases hcmd with hcmd | hcmd <;> cases hcmd

end Sessions

/-! ## Open session objects on the server -/

/-- The session that step `y` opened through `p` is seated under its handle and that of
the context, with the TApp that the step has started. -/
def Seated (cfg : Config) (tr : List StackStep) (conn : TApiConnectionTable) (p : Nat)
    (v : Handle) (x : TeecStep) : Prop :=
  ∃ y ∈ tr, y.teec cfg = x ∧ ∃ id o c i,
    LastOpening (tr.map (StackStep.teec cfg)) p id o ∧ conn.Seats c i id.2 v ∧
      y.Starts v (conn.stable i).tapp

/-- Every open session object has its own session on the server. -/
structure SessionsSeated (cfg : Config) (tr : List StackStep) (conn : TApiConnectionTable) :
    Prop where
  seated : ∀ q p v x, LastSession (tr.map (StackStep.teec cfg)) q p v x → Seated cfg tr conn p v x
  alone : ∀ q q' p p' v x x', LastSession (tr.map (StackStep.teec cfg)) q p v x →
    LastSession (tr.map (StackStep.teec cfg)) q' p' v x' → q = q'

section Runs

variable {cfg : Config} {logs : Bool} {w₀ w : Stack} {tr before after : List StackStep}
  {y : StackStep}

/-- A session object that a step leaves open keeps its session on the server. -/
theorem SessionsSeated.kept {q p : Nat} {v : Handle} {x : TeecStep}
    (h : SessionsSeated cfg tr y.pre.swld.tObj.conn) (hs : y.pre.swld.Sound)
    (hheld : SessionsHeld (tr.map (StackStep.teec cfg)) y.pre.client)
    (hstep : stackStep cfg logs y.input y.pre = .ok (y.result, y.post))
    (hcloses : ∀ q, ClosedSession q (y.teec cfg) → SessionIn (tr.map (StackStep.teec cfg)) q)
    (hlast : LastSession (tr.map (StackStep.teec cfg)) q p v x)
    (hq : ¬ WritesSession q (y.teec cfg)) (hp : ¬ WritesContext p (y.teec cfg)) :
    Seated cfg (tr ++ [y]) y.post.swld.tObj.conn p v x := by
  obtain ⟨z, hz, hzx, id, o, c, i, hopen, hx, hstarts⟩ := h.seated q p v x hlast
  have hopen' : LastOpening ((tr ++ [y]).map (StackStep.teec cfg)) p id o := by
    rw [List.map_append]
    exact latest_concat.mpr (.inr ⟨hopen, hp⟩)
  refine ⟨z, List.mem_append_left _ hz, hzx, id, o, c, i, hopen', ?_⟩
  by_cases hsent : sent (y.teec cfg) = []
  · rw [stackStep_unsent hstep hsent]
    exact ⟨hx, hstarts⟩
  obtain ⟨e, he⟩ := List.exists_mem_of_ne_nil _ hsent
  obtain ⟨info, context, session, w, hw⟩ := stackStep_asked hs hstep he
  have hcarried := hw.carried hs hx fun pcs hinfo hresult _ hsession => by
    subst hinfo
    obtain ⟨q', hcall⟩ : ∃ q', y.input.call = .closeSession (some q') := by
      have hasks := hw.asks
      generalize y.input.call = call at hasks
      cases hasks with
      | closeSession _ => exact ⟨_, rfl⟩
    have hclosed : ClosedSession q' (y.teec cfg) := ⟨hcall, hresult⟩
    have hsession' : (y.teec cfg).input.call.session = some q' := by
      change y.input.call.session = _
      rw [hcall]
      rfl
    obtain ⟨p', o', _, hlast', -⟩ :=
      hheld.relays (x := y.teec cfg) (stackStep_teec hstep) hsession' (hcloses q' hclosed) he
    rw [hsession] at hlast'
    exact hq (h.alone q q' p p' v x o' hlast hlast' ▸ .inr hclosed)
  exact ⟨hcarried.seats, hcarried.tapp ▸ hstarts⟩

/-- A session object that a step opens gets a session on the server, of a new handle. -/
theorem seated_of_opened {q p : Nat} {v : Handle} (hs : y.pre.swld.Sound)
    (hheld : SessionsHeld (tr.map (StackStep.teec cfg)) y.pre.client)
    (hstep : stackStep cfg logs y.input y.pre = .ok (y.result, y.post))
    (hfair : ∀ z ∈ y.served cfg, Fair z) (hopen : OpenedSession q p v (y.teec cfg))
    (hin : OpenIn (tr.map (StackStep.teec cfg)) p) :
    Seated cfg (tr ++ [y]) y.post.swld.tObj.conn p v (y.teec cfg) ∧
      ∀ i : SSlot, handleAt y.pre.swld.tObj.conn.sthandles i ≠ v := by
  obtain ⟨⟨taid, hcall⟩, hresult, e, hsent, rfl⟩ := id hopen
  have he : e ∈ sent (y.teec cfg) := hsent ▸ List.mem_singleton_self e
  have hthrough : (y.teec cfg).input.call.through (y.teec cfg).pre = some p := by
    rw [hcall]
    rfl
  obtain ⟨o, ho⟩ :=
    hheld.contexts.relays (x := y.teec cfg) (stackStep_teec hstep) hthrough hin he
  obtain ⟨info, context, session, w, hw⟩ := stackStep_asked hs hstep he
  have hasks := hw.asks
  change y.input.call = _ at hcall
  rw [hcall] at hasks
  cases hasks
  obtain ⟨c, i, hx, hstarts⟩ := hw.opened hs hresult
  have ho' : LastOpening ((tr ++ [y]).map (StackStep.teec cfg)) p (e.contextId, e.contextHandle)
      o := by
    rw [List.map_append]
    exact latest_concat.mpr (.inr ⟨ho, hopen.not_writes_context⟩)
  refine ⟨⟨y, List.mem_concat_self, rfl, _, o, c, i, ho', hx, hstarts⟩, ?_⟩
  obtain ⟨_, _, _, _, hevents⟩ := hstarts
  have hfresh := (hfair _ (by rw [hw.request]; exact List.mem_singleton_self _)).fresh
    e.reply.handle
  dsimp only at hfresh
  rw [hevents] at hfresh
  exact (hfresh (List.mem_cons_self ..)).2

theorem SessionsSeated.step (h : SessionsSeated cfg tr y.pre.swld.tObj.conn)
    (hs : y.pre.swld.Sound) (hheld : SessionsHeld (tr.map (StackStep.teec cfg)) y.pre.client)
    (hstep : stackStep cfg logs y.input y.pre = .ok (y.result, y.post))
    (hfair : ∀ z ∈ y.served cfg, Fair z)
    (hopens : ∀ q p v, OpenedSession q p v (y.teec cfg) → OpenIn (tr.map (StackStep.teec cfg)) p)
    (hcloses : ∀ q, ClosedSession q (y.teec cfg) → SessionIn (tr.map (StackStep.teec cfg)) q) :
    SessionsSeated cfg (tr ++ [y]) y.post.swld.tObj.conn := by
  have hopened {q p : Nat} {v : Handle} (hopen : OpenedSession q p v (y.teec cfg)) :=
    seated_of_opened hs hheld hstep hfair hopen (hopens q p v hopen)
  have hnew {q q' p p' : Nat} {v : Handle} {x : TeecStep}
      (hopen : OpenedSession q p v (y.teec cfg))
      (hlast : LastSession (tr.map (StackStep.teec cfg)) q' p' v x) : False := by
    obtain ⟨_, _, _, _, _, c, i, _, hx, _⟩ := h.seated q' p' v x hlast
    exact (hopened hopen).2 i hx.session
  have hconcat {q p : Nat} {v : Handle} {x : TeecStep}
      (hlast : LastSession ((tr ++ [y]).map (StackStep.teec cfg)) q p v x) :=
    lastSession_concat.mp (List.map_append .. ▸ hlast)
  refine ⟨fun q p v x hlast => ?_, fun q q' p p' v x x' hlast hlast' => ?_⟩
  · rcases hconcat hlast with ⟨rfl, hopen⟩ | ⟨hold, hq, hp⟩
    · exact (hopened hopen).1
    · exact h.kept hs hheld hstep hcloses hold hq hp
  · rcases hconcat hlast with ⟨-, hopen⟩ | ⟨hold, -⟩
    · rcases hconcat hlast' with ⟨-, hopen'⟩ | ⟨hold', -⟩
      · exact (hopen'.unique hopen).1
      · exact (hnew hopen hold').elim
    · rcases hconcat hlast' with ⟨-, hopen'⟩ | ⟨hold', -⟩
      · exact (hnew hopen' hold).elim
      · exact h.alone q q' p p' v x x' hold hold'

variable {alloc : InitAlloc} {commObj : Nat} {s₀ : SkClient}
  {maxConnections maxSessions smId : UInt32} {swld : Server}

theorem SessionsSeated.run (hstart : Started swld) (hmax : maxConnections ≠ 0)
    (hrun : Run (stackStep cfg logs)
      ⟨(skNwldPlatformTapiIoctlInit alloc commObj maxConnections maxSessions smId s₀).2, swld⟩ tr w)
    (hfair : ∀ y ∈ tr, ∀ z ∈ y.served cfg, Fair z)
    (hown : Disciplined (tr.map (StackStep.teec cfg))) :
    SessionsSeated cfg tr w.swld.tObj.conn := by
  induction hrun with
  | start =>
    have hnone {q p : Nat} {v : Handle} {x : TeecStep} : ¬ LastSession [] q p v x := by
      rintro ⟨before, after, heq, -⟩
      simp at heq
    exact ⟨fun q p v x hlast => absurd hlast hnone,
      fun q q' p p' v x x' hlast => absurd hlast hnone⟩
  | @next tr s s' i a hbefore hstep ih =>
    rw [List.map_append] at hown
    have hheld := (SessionsHeld.of_init hmax).run (run_teec hbefore) hown.init
    have hseated := ih (fun y hy => hfair y (List.mem_append_left _ hy)) hown.init
    have hsound : s.swld.Sound := Reachable.sound ⟨_, stack_serverRun hstart hbefore⟩
    exact SessionsSeated.step (y := ⟨i, s, a, s'⟩) hseated hsound hheld hstep
      (hfair _ List.mem_concat_self) (fun q p v => hown.opens _ _ [] q p v rfl)
      fun q => hown.closesSession _ _ [] q rfl

theorem AllSessions.of_init (hmax : maxConnections ≠ 0) : AllSessions []
    (skNwldPlatformTapiIoctlInit alloc commObj maxConnections maxSessions smId s₀).2 := by
  intro n v hv
  have hfresh : Nwld.Fresh maxSessions
      (skNwldPlatformTapiIoctlInit alloc commObj maxConnections maxSessions smId s₀).2.nwld :=
    fresh_init alloc s₀.nwld maxConnections maxSessions smId commObj hmax
  obtain ⟨p, hp, hentry⟩ := Option.bind_eq_some_iff.mp hv
  simp only [(hfresh.array _ p hp).2.2.2.2 n.2.toNat, Bool.false_eq_true, if_false] at hentry
  cases hentry

/-- A session of the server that the driver knows is in its tables. -/
theorem StackInvariant.entry (h : StackInvariant w) {c : CSlot} {i : SSlot}
    {context session : Handle} (hx : w.swld.tObj.conn.Seats c i context session) :
    ∃ n, w.client.nwld.sessionTable n = some session ∧
      ∃ id, w.client.nwld.connections n.1 = some (id, context) := by
  have hc := TApiConnectionTable.Represents.active_of_mem h.sound.table hx.mem
  obtain ⟨y, hused, hcontext⟩ := (h.paired.contexts context).mpr ⟨c, hc, hx.context⟩
  have hmem : session ∈ w.client.nwld.sessionHandles y := by
    rw [h.paired.sessions y c hused hc (hx.context.trans hcontext.symm)]
    exact Multiset.mem_map.mpr ⟨i, hx.mem, hx.session⟩
  have hy : (UInt32.ofNat y).toNat = y := UInt32.toNat_ofNat_of_lt' (h.below y hused)
  unfold Nwld.sessionHandles at hmem
  split at hmem
  · cases hmem
  · rename_i p hp
    obtain ⟨k, hk, hsession⟩ := Multiset.mem_map.mp hmem
    obtain ⟨hrange, hentry⟩ := Finset.mem_filter.mp (Finset.mem_def.mpr hk)
    have hk : (UInt32.ofNat k).toNat = k :=
      UInt32.toNat_ofNat_of_lt' ((Finset.mem_range.mp hrange).trans (UInt32.toNat_lt _))
    refine ⟨(UInt32.ofNat y, UInt32.ofNat k), ?_, (w.client.nwld.tapi.clist y).contextId, ?_⟩
    · rw [Nwld.sessionTable, hy, hp, Option.bind_some, hk]
      exact (if_pos hentry).trans (congrArg some hsession)
    · rw [Nwld.connections_eq_some, hy]
      exact ⟨hused, rfl, hcontext⟩

end Runs

/-- Every request of the step has been sent, with success, and fairly. -/
def StackStep.completes (y : StackStep) : Bool :=
  decide (y.result = skErrorSuccess) && (sent (y.teec sampleConfig)).length == 1 &&
    (y.served sampleConfig).all fun z => decide (Fair z)

end SkSdk
