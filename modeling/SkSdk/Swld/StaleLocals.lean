import SkSdk.Swld.ServerInvariant

/-!
The locals `req_msg` and `resp_msg` of the handlers are not cleared. What a
handler replies and stores depends on their prior bytes in two of them: the
handle of an open_context or open_session reply that reports an error, and the
process id of a context that is opened.
-/

namespace SkSdk
open ByteMemory FaultState Format

/-! ## Replies that carry a handle -/

/-- The stores of an open_context or open_session reply. -/
def handleStores (hdr : SkHeader) (handle : Handle) (status : Int32) : List (List UInt8) :=
  [be32.enc hdr.contextId, be32.enc hdr.smId, be32.enc hdr.cmd] ++
    List.ofFn handle :: [beInt32.enc status]

private theorem length_header (hdr : SkHeader) :
    [be32.enc hdr.contextId, be32.enc hdr.smId, be32.enc hdr.cmd].flatten.length = 12 := by
  simp [be32.length_enc]

/-- The response that a handler leaves in `msend`. -/
def Packed.response (packed : Packed) : List UInt8 := packed.pack.read 0 packed.packLen

/-- The handle is among the bytes of the response as soon as it fits. -/
theorem response_handle (pack : Mem) {packLen : Nat} (hdr : SkHeader) (handle : Handle)
    (status : Int32) (h : 28 ≤ packLen) :
    (((packFields pack packLen (handleStores hdr handle status)).response.drop 12).take 16) =
      List.ofFn handle := by
  have hheader := length_header hdr
  have hhandle : (List.ofFn handle).length = 16 := List.length_ofFn
  have hstatus : (beInt32.enc status).length = 4 := beInt32.length_enc status
  obtain ⟨hpack, hlen⟩ := packFields_pack pack packLen (handleStores hdr handle status)
  have htotal : (handleStores hdr handle status).flatten.length = 32 := by
    rw [handleStores, List.flatten_append, List.length_append, hheader, List.flatten_cons,
      List.length_append, hhandle, List.flatten_singleton, hstatus]
  rw [Packed.response, Mem.drop_take_read _ _ (by omega), Nat.zero_add, hpack, handleStores,
    fitting_append (by omega), fitting, hheader, hhandle, if_pos (by omega), Mem.write_append,
    Mem.write_append, hheader, hhandle, Mem.read_write_disjoint _ _ _ _ _ (by omega)]
  exact Mem.read_write_eq _ _ _ _ hhandle

/-- A response without room for the handle does not depend on it. -/
theorem packFields_handle (pack : Mem) {packLen : Nat} (hdr : SkHeader) (handle handle' : Handle)
    (status : Int32) (h : packLen < 28) :
    packFields pack packLen (handleStores hdr handle status) =
      packFields pack packLen (handleStores hdr handle' status) := by
  have hheader := length_header hdr
  have htotal (handle : Handle) :
      28 ≤ (handleStores hdr handle status).flatten.length := by
    rw [handleStores, List.flatten_append, List.length_append, hheader, List.flatten_cons,
      List.length_append, List.length_ofFn]
    omega
  have h₁ := htotal handle
  have h₂ := htotal handle'
  unfold packFields
  rw [if_neg (by omega), if_neg (by omega)]
  congr 2
  exact fitting_cons_of_lt (by simp) (by rw [hheader, List.length_ofFn]; omega)

/-! ## What is seen of a handler -/

/-- The surroundings with other prior bytes in the two locals. -/
def Env.withLocals (env : Env) (reqMsg respMsg : SkMsg) : Env := { env with reqMsg, respMsg }

/-- The response bytes in `msend`, the connection table and the table of memory regions. -/
structure Visible where
  response : List UInt8
  conn : TApiConnectionTable
  rmem : TApiRegMemoryTable
  heap : Nat → Option TApiRegMemory

def Server.visible (s : Server) : Visible :=
  ⟨s.tObj.msend.read 0 s.tObj.msendSize, s.tObj.conn, s.tObj.rmem, s.heap⟩

@[simp] theorem Server.conn_visible (s : Server) : s.visible.conn = s.tObj.conn := rfl

namespace Command

def handler (cfg : Config) (env : Env) : Command → ServerM SkStatus
  | openContext => skSwldTapiOpenContextNw env
  | closeContext => skSwldTapiCloseContextNw env
  | openSession => skSwldTapiOpenSessionNw env
  | closeSession => skSwldTapiCloseSessionNw env
  | invokeCommand => skSwldTapiInvokeCommandNw env
  | registerMemory => skSwldTapiRegisterMemoryNw env
  | unregisterMemory => skSwldTapiUnregisterMemoryNw env
  | check => skSwldTapiCheckNw cfg env

/-- The handler sends or stores what one of the locals held before. -/
def Exposes (env : Env) (s : Server) : (c : Command) → c.reqLayout.Fields → Prop
  | openContext, contextId =>
    if contextId = s.tObj.contextId ∧
        s.tObj.conn.numCtableElements < skTapiMaxConnectionsPerContext then
      ∃ i, (s.tObj.conn.ctable i).active = false
    else 28 ≤ s.tObj.maxMsendSize
  | openSession, (contextHandle, taid) =>
    28 ≤ s.tObj.maxMsendSize ∧ ∀ c, s.tObj.conn.findContext contextHandle = some c →
      (s.tObj.conn.ctable c).active = true ∧
      ((s.tObj.conn.ctable c).numConnectedSessions < skTapiMaxSessionsPerContext →
        ∃ i, (firstFree fun i => (s.tObj.conn.stable i).active) = some i ∧
          let loaded := env.tappLoad taid (s.tObj.conn.stable i).tapp
          ¬ (loaded.1 = skErrorSuccess ∧ env.tappInit loaded.2 = skErrorSuccess))
  | _, _ => False

end Command

/-- Two executions of the handler that differ in the prior bytes of its locals
leave the same response and the same tables. -/
def LocalsUnseen (cfg : Config) (req : Request) (c : Command) (s : Server) : Prop :=
  ∀ reqMsg respMsg reqMsg' respMsg',
    (c.handler cfg (req.env.withLocals reqMsg respMsg) (receive req s)).map (·.2.visible) =
      (c.handler cfg (req.env.withLocals reqMsg' respMsg') (receive req s)).map (·.2.visible)

variable {cfg : Config} {env : Env} {s : Server} {req : Request}

theorem handler_eq (cfg : Config) (env : Env) (c : Command) :
    c.handler cfg env = (do
      if c ≠ .check then assertCounts
      withRequest c.reqLayout (c.serve cfg env)) := by
  cases c with
  | openContext => exact skSwldTapiOpenContextNw_eq env
  | closeContext => exact skSwldTapiCloseContextNw_eq env
  | openSession => exact skSwldTapiOpenSessionNw_eq env
  | closeSession => exact skSwldTapiCloseSessionNw_eq env
  | invokeCommand => exact skSwldTapiInvokeCommandNw_eq env
  | registerMemory => exact skSwldTapiRegisterMemoryNw_eq env
  | unregisterMemory => exact skSwldTapiUnregisterMemoryNw_eq env
  | check => exact skSwldTapiCheckNw_eq cfg env

/-- A handler whose request is whole serves it, whatever its locals held. -/
theorem handler_receive (h : s.Sound) (c : Command) (reqMsg respMsg : SkMsg) :
    c.handler cfg (req.env.withLocals reqMsg respMsg) (receive req s) =
      if req.bytes.length < c.reqLayout.wireLength then .ok (skErrorInvalidParam, receive req s)
      else c.serve cfg (req.env.withLocals reqMsg respMsg) (req.decode c.reqLayout)
        (receive req s) := by
  rw [handler_eq]
  refine (handler_run cfg c { req with env := req.env.withLocals reqMsg respMsg } s).trans ?_
  rw [if_neg fun hc => hc.2 ⟨h.room, h.table.total_le⟩]
  rfl

/-- What is seen after a reply that carries a handle. -/
def Server.visibleReply (s : Server) (hdr : SkHeader) (handle : Handle) (status : Int32) :
    Visible :=
  { s.visible with
    response :=
      (packFields s.tObj.msend s.tObj.maxMsendSize (handleStores hdr handle status)).response }

/-- Seen with every handle the same exactly if the handle does not fit. -/
theorem visibleReply_handle (s : Server) (hdr : SkHeader) (status : Int32) :
    (∀ handle handle', s.visibleReply hdr handle status = s.visibleReply hdr handle' status) ↔
      s.tObj.maxMsendSize < 28 := by
  constructor
  · intro h
    by_contra hroom
    rw [Nat.not_lt] at hroom
    have hresponse := congrArg Visible.response (h (fun _ => 0) (fun _ => 1))
    have h₀ := response_handle s.tObj.msend hdr (fun _ => 0) status hroom
    have h₁ := response_handle s.tObj.msend hdr (fun _ => 1) status hroom
    have heq := (h₀.symm.trans (congrArg (fun bs => (bs.drop 12).take 16) hresponse)).trans h₁
    exact absurd heq (by decide)
  · intro hroom handle handle'
    unfold Server.visibleReply
    rw [packFields_handle _ _ _ handle' _ hroom]

/-- A reply that carries a handle shows it exactly if it has room. -/
theorem reply_unseen_iff {t : Server} {hdr : SkHeader} {status : Int32}
    {reply : Handle → Except Fault (SkStatus × Server)}
    (hreply : ∀ handle, (reply handle).map (·.2.visible) =
      .ok (t.visibleReply hdr handle status)) :
    (∀ stale stale', (reply stale).map (·.2.visible) = (reply stale').map (·.2.visible)) ↔
      ¬ 28 ≤ t.tObj.maxMsendSize := by
  rw [Nat.not_le, ← visibleReply_handle t hdr status]
  simp only [hreply, Except.ok.injEq]

/-! ## The two handlers -/

theorem openContext_unseen (env : Env) (hdr : SkHeader) (contextId : UInt32) (s : Server) :
    (∀ stale pid stale' pid',
      (serveOpenContext env hdr stale pid contextId s).map (·.2.visible) =
        (serveOpenContext env hdr stale' pid' contextId s).map (·.2.visible)) ↔
      ¬ Command.Exposes env s .openContext contextId := by
  have herror (status : Int32) : (∀ stale (_ : Int32) stale' (_ : Int32),
      (answer .openContextResp (hdr, stale, status) s).map (·.2.visible) =
        (answer .openContextResp (hdr, stale', status) s).map (·.2.visible)) ↔
      ¬ 28 ≤ s.tObj.maxMsendSize := by
    rw [← reply_unseen_iff fun handle => (rfl : (answer .openContextResp (hdr, handle, status)
      s).map (·.2.visible) = .ok (s.visibleReply hdr handle status))]
    exact ⟨fun h stale stale' => h stale 0 stale' 0, fun h stale _ stale' _ => h stale stale'⟩
  simp only [serveOpenContext_run]
  unfold Command.Exposes
  by_cases hid : contextId = s.tObj.contextId
  · by_cases hroom : s.tObj.conn.numCtableElements < skTapiMaxConnectionsPerContext
    · simp only [hid, Nat.not_le.mpr hroom, hroom, ne_eq, not_true_eq_false, ↓reduceIte, and_self]
      cases hfree : firstFree fun i => (s.tObj.conn.ctable i).active with
      | none =>
        refine iff_of_true (fun _ _ _ _ => rfl) ?_
        rintro ⟨i, hi⟩
        rw [firstFree_eq_none.mp hfree i] at hi
        cases hi
      | some i =>
        refine iff_of_false ?_ (not_not.mpr ⟨i, firstFree_some hfree⟩)
        intro h
        -- the process id is stored in the table
        have hconn := congrArg Visible.conn (Except.ok.inj (h (fun _ => 0) 0 (fun _ => 0) 1))
        have hpid := congrArg (fun conn => (conn.ctable i).pid) hconn
        simp [TApiConnectionTable.openContext] at hpid
    · simp only [hid, hroom, Nat.not_lt.mp hroom, ne_eq, not_true_eq_false, ↓reduceIte, and_false]
      exact herror skErrorOpenContext
  · simp only [hid, ne_eq, not_false_eq_true, ↓reduceIte, false_and]
    exact herror skErrorBadContextId

theorem openSession_unseen (env : Env) (hdr : SkHeader) (contextHandle : Handle) (taid : SkTaid)
    (h : s.tObj.conn.Consistent) :
    (∀ stale stale',
      (serveOpenSession env hdr stale contextHandle taid s).map (·.2.visible) =
        (serveOpenSession env hdr stale' contextHandle taid s).map (·.2.visible)) ↔
      ¬ Command.Exposes env s .openSession (contextHandle, taid) := by
  have herror (t : Server) (status : Int32) : (∀ stale stale',
      (answer .openSessionResp (hdr, stale, status) t).map (·.2.visible) =
        (answer .openSessionResp (hdr, stale', status) t).map (·.2.visible)) ↔
      ¬ 28 ≤ t.tObj.maxMsendSize := reply_unseen_iff fun _ => rfl
  simp only [serveOpenSession_run env hdr h]
  dsimp only [Command.Exposes]
  cases hfind : s.tObj.conn.findContext contextHandle with
  | none =>
    simp only [reduceCtorEq, IsEmpty.forall_iff, implies_true, and_true]
    exact herror s skErrorContextHandleNotFound
  | some c =>
    simp only [Option.some.injEq, forall_eq']
    by_cases hact : (s.tObj.conn.ctable c).active = false
    · simp [hact]
    rw [Bool.not_eq_false] at hact
    by_cases hroom : (s.tObj.conn.ctable c).numConnectedSessions < skTapiMaxSessionsPerContext
    · simp only [hact, hroom, Nat.not_le.mpr hroom, reduceCtorEq, ↓reduceIte, true_and, forall_const]
      cases hfree : firstFree fun i => (s.tObj.conn.stable i).active with
      | none => simp
      | some i =>
        simp only [Option.some.injEq, exists_eq_left']
        generalize hloaded : env.tappLoad taid (s.tObj.conn.stable i).tapp = loaded
        by_cases hgood : loaded.1 = skErrorSuccess ∧ env.tappInit loaded.2 = skErrorSuccess
        · refine iff_of_true ?_ (fun hexposed => hexposed.2 hgood)
          intro stale stale'
          rw [openSessionReply_handle hgood.1 hgood.2, openSessionReply_handle hgood.1 hgood.2]
        · obtain ⟨status, hstatus⟩ := openSessionReply_failed env
            (Blk.xor (handleAt s.tObj.conn.sthandles i) env.keystream) hgood
          simp only [hstatus, hgood, not_false_eq_true, and_true]
          exact herror _ status
    · simp only [hact, hroom, Nat.not_lt.mp hroom, reduceCtorEq, ↓reduceIte,
        IsEmpty.forall_iff, and_self, and_true]
      exact herror s skErrorOpenSession

/-! ## Every handler -/

theorem checkSessions_withLocals (cfg : Config) (env : Env) (reqMsg respMsg : SkMsg) (c : CSlot)
    (k : Nat) (sess : Option SSlot) :
    checkSessions cfg (env.withLocals reqMsg respMsg) c k sess = checkSessions cfg env c k sess := by
  induction k generalizing sess with
  | zero => rfl
  | succ k ih =>
    rw [checkSessions, checkSessions]
    simp only [ih]
    rfl

theorem checkContexts_withLocals (cfg : Config) (env : Env) (reqMsg respMsg : SkMsg)
    (cs : List CSlot) :
    checkContexts cfg (env.withLocals reqMsg respMsg) cs = checkContexts cfg env cs := by
  induction cs with
  | nil => rfl
  | cons c cs ih =>
    rw [checkContexts, checkContexts, ih, checkContext, checkContext]
    simp only [checkSessions_withLocals]
    rfl

theorem serve_unseen (cfg : Config) (env : Env) (h : s.tObj.conn.Consistent) (c : Command)
    (v : SkHeader × c.reqLayout.Fields) :
    (∀ reqMsg respMsg reqMsg' respMsg',
      (c.serve cfg (env.withLocals reqMsg respMsg) v s).map (·.2.visible) =
        (c.serve cfg (env.withLocals reqMsg' respMsg') v s).map (·.2.visible)) ↔
      ¬ c.Exposes env s v.2 := by
  cases c with
  | openContext =>
    rw [← openContext_unseen env v.1 v.2 s]
    constructor
    · intro hseen stale pid stale' pid'
      exact hseen { SkMsg.zero with type.openContext.req.pid := pid }
        { SkMsg.zero with type.openContext.resp.contextHandle := stale }
        { SkMsg.zero with type.openContext.req.pid := pid' }
        { SkMsg.zero with type.openContext.resp.contextHandle := stale' }
    · intro hseen reqMsg respMsg reqMsg' respMsg'
      exact hseen _ _ _ _
  | openSession =>
    obtain ⟨hdr, contextHandle, taid⟩ := v
    rw [← openSession_unseen env hdr contextHandle taid h]
    constructor
    · intro hseen stale stale'
      exact hseen .zero { SkMsg.zero with type.openSession.resp.sessionHandle := stale }
        .zero { SkMsg.zero with type.openSession.resp.sessionHandle := stale' }
    · intro hseen reqMsg respMsg reqMsg' respMsg'
      exact hseen _ _
  | check =>
    refine iff_of_true (fun reqMsg respMsg reqMsg' respMsg' => ?_) id
    change (serveCheck _ _ _ _).map _ = (serveCheck _ _ _ _).map _
    unfold serveCheck
    rw [checkContexts_withLocals, checkContexts_withLocals]
  | _ => exact iff_of_true (fun _ _ _ _ => rfl) id

/-- The prior bytes of the locals are seen exactly where a handler replies with
an error beside a handle that fits, or opens a context. -/
theorem locals_unseen_iff (h : Reachable cfg s) (req : Request) (c : Command) :
    LocalsUnseen cfg req c s ↔
      ¬ (c.reqLayout.wireLength ≤ req.bytes.length ∧
        c.Exposes req.env (receive req s) (req.decode c.reqLayout).2) := by
  unfold LocalsUnseen
  simp only [handler_receive h.sound]
  by_cases hwhole : c.reqLayout.wireLength ≤ req.bytes.length
  · simp only [hwhole, Nat.not_lt.mpr hwhole, ↓reduceIte, true_and]
    exact serve_unseen cfg req.env (h.sound.receive req).table c _
  · simp only [hwhole, Nat.lt_of_not_le hwhole, ↓reduceIte, false_and, implies_true,
      not_false_eq_true]

/-- A close_context request shows nothing of the locals. -/
theorem locals_unseen_closeContext :
    LocalsUnseen sampleConfig sampleCloseContext .closeContext (sampleServer 64) :=
  (locals_unseen_iff ⟨[], _, sampleServer_started 64, .start⟩ _ _).mpr fun h => h.2

/-- The reply to an open_context request for another context id ends with sixteen
bytes of the local and the status. -/
theorem locals_unseen_false : ∃ s req, Reachable sampleConfig s ∧ Accepted s req .openContext ∧
    ¬ LocalsUnseen sampleConfig req .openContext s := by
  let req : Request := .of .openContextReq (⟨1, 2, skTapiOpenContext⟩, 9) (sampleEnv 0)
  refine ⟨sampleServer 64, req, ⟨[], _, sampleServer_started 64, .start⟩, by decide +kernel, ?_⟩
  intro hunseen
  have hresponse := hunseen .zero .zero .zero
    { SkMsg.zero with type.openContext.resp.contextHandle := fun _ => 1 }
  have hbytes := congrArg (fun r => r.toOption.map Visible.response) hresponse
  revert hbytes
  decide +kernel

end SkSdk
