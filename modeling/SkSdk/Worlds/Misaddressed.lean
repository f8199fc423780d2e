import SkSdk.Nwld.TableInvariant
import SkSdk.Swld.ServerInvariant
import SkSdk.Swld.TapiDispatch

/-!
Messages with the context id or the `sm_id` of another server, and the system
reply that `sk_swld_tapi_dispatch` has for them. The reply is never sent. Of
the driver's operations only those whose own reply is no longer than the system
reply would tell it from a broken one.
-/

namespace SkSdk
open ByteMemory FaultState Format

/-! ## The server -/

section Server

variable {cfg : Config} {s s' : Server} {req : Request} {e : Exchange} {err : SkStatus}

/-- A message with a whole header that is not for this server, and the status
that says why. -/
inductive Request.Misaddressed (s : Server) (req : Request) : SkStatus → Prop
  | contextId : 12 ≤ req.bytes.length → req.hdr.contextId ≠ s.tObj.contextId →
      Misaddressed s req skErrorBadContextId
  | smId : 12 ≤ req.bytes.length → req.hdr.smId ≠ s.tObj.smId →
      Misaddressed s req skErrorBadSmId

/-- The loop sends one system reply with status `err` and goes on, and the
connection table stays as it is. -/
def AnsweredBySystem (cfg : Config) (s : Server) (e : Exchange) (err : SkStatus) : Prop :=
  ∃ s' sent, dispatchOnce cfg e s = .ok ((skErrorSuccess, [sent]), s') ∧
    s'.tObj.conn = s.tObj.conn ∧
    ∃ hdr, hdr.cmd = skTapiSystem ∧ sent.bytes = Layout.sysTapi.format.enc (hdr, err)

/-- The process returns before it looks at the command. -/
theorem handleRequest_of_misaddressed (cfg : Config) (h : req.Misaddressed s err)
    (hfits : req.bytes.length ≤ s.tObj.maxMrecvSize) :
    ∃ status, (status = skErrorBadContextId ∨ status = skErrorBadSmId) ∧
      handleRequest cfg req s = .ok (status, receive req s) := by
  rw [handleRequest_eq, if_neg (Nat.not_lt.mpr hfits)]
  cases h with
  | contextId hwhole hid =>
    rw [if_neg (Nat.not_lt.mpr hwhole), if_pos hid]
    exact ⟨_, Or.inl rfl, rfl⟩
  | smId hwhole hsm =>
    rw [if_neg (Nat.not_lt.mpr hwhole)]
    by_cases hid : req.hdr.contextId ≠ s.tObj.contextId
    · rw [if_pos hid]
      exact ⟨_, Or.inl rfl, rfl⟩
    · rw [if_neg hid, if_pos hsm]
      exact ⟨_, Or.inr rfl, rfl⟩

/-- The status of the process ends the loop. -/
theorem skSwldTapiDispatch_of_misaddressed (hrecv : e.recv = 0)
    (h : e.request.Misaddressed s err)
    (hfits : e.request.bytes.length ≤ s.tObj.maxMrecvSize) :
    ∃ status, (status = skErrorBadContextId ∨ status = skErrorBadSmId) ∧
      ∀ es, skSwldTapiDispatch cfg (e :: es) s = .ok ((some status, []), receive e.request s) := by
  obtain ⟨status, hstatus, hrun⟩ := handleRequest_of_misaddressed cfg h hfits
  have hne : status ≠ skErrorSuccess := by
    rcases hstatus with rfl | rfl
    · exact (by decide : skErrorBadContextId ≠ skErrorSuccess)
    · exact (by decide : skErrorBadSmId ≠ skErrorSuccess)
  refine ⟨status, hstatus, fun es => ?_⟩
  rw [skSwldTapiDispatch, bind_of_ok (dispatchOnce_of_refused hrecv hne hrun)]
  exact congrFun (if_pos hne) _

theorem not_answeredBySystem (hrecv : e.recv = 0) (h : e.request.Misaddressed s err) :
    ¬ AnsweredBySystem cfg s e err := by
  rintro ⟨s', sent, hsent, -, -⟩
  have hrun := (dispatchOnce_sent hrecv hsent).1
  rcases Nat.lt_or_ge s.tObj.maxMrecvSize e.request.bytes.length with hover | hfits
  · rw [handleRequest_of_overrun cfg hover] at hrun
    cases hrun
  · obtain ⟨status, hstatus, hrefused⟩ := handleRequest_of_misaddressed cfg h hfits
    rw [hrefused] at hrun
    cases hrun
    rcases hstatus with he | he <;> cases he

end Server

/-! ## The driver -/

/-- What the platform hands back is the system message, as
`sk_tapi_sys_tapi_pack` packs it. -/
def CommReply.IsSystem (reply : CommReply) : Prop :=
  reply.err = skErrorSuccess ∧ reply.recvBufLen = Layout.sysTapi.wireLength ∧
    ∃ hdr status, hdr.cmd = skTapiSystem ∧
      reply.recvBuf.read 0 Layout.sysTapi.wireLength = Layout.sysTapi.format.enc (hdr, status)

theorem CommReply.IsSystem.cmd {reply : CommReply} (h : reply.IsSystem) :
    (Layout.headerFormat.get reply.recvBuf 0).cmd = skTapiSystem := by
  obtain ⟨-, -, hdr, status, hcmd, hread⟩ := h
  have hget : Layout.sysTapi.format.get reply.recvBuf 0 = (hdr, status) := by
    rw [Format.get, hread, Format.dec_enc]
  rw [Layout.format, get_seq] at hget
  rw [← hcmd]
  exact congrArg SkHeader.cmd (congrArg Prod.fst hget)

/-- The status of an operation whose reply is the system message: the unpacker
of a longer reply gives up before the command is looked at. -/
def systemStatus (resp : Layout) : SkStatus :=
  if resp.wireLength ≤ Layout.sysTapi.wireLength then skErrorFailed else skErrorCommFailed

theorem systemStatus_eq_failed (resp : Layout) :
    systemStatus resp = skErrorFailed ↔ resp.wireLength ≤ Layout.sysTapi.wireLength := by
  unfold systemStatus
  split
  · next hfit => exact iff_of_true rfl hfit
  · next hfit => exact iff_of_false (by decide) hfit

theorem checkReply_of_isSystem {reply : CommReply} (h : reply.IsSystem) (resp : Layout)
    (cmd : UInt32) (status : SkMsgType → Int32) (msg : SkMsg) :
    checkReply resp cmd status msg reply = .error (systemStatus resp) := by
  have hcmd := h.cmd
  obtain ⟨herr, hlen, -⟩ := h
  unfold checkReply systemStatus
  by_cases hfit : resp.wireLength ≤ Layout.sysTapi.wireLength
  · have hunpack := resp.unpack_of_le reply.recvBuf reply.recvBufLen msg (hlen ▸ hfit)
    rw [← resp.decoded_hdr reply.recvBuf msg] at hcmd
    simp only [herr, hunpack, hcmd, if_pos hfit, ne_eq, not_true_eq_false, ↓reduceIte]
    rfl
  · have hunpack := resp.unpack_of_lt reply.recvBuf reply.recvBufLen msg (by omega)
    simp only [herr, hunpack, if_neg hfit, ne_eq, not_true_eq_false, not_false_eq_true, ↓reduceIte]
    rfl

/-- Whatever the request, the platform hands back the system message. -/
def NwldEnv.AnswersSystem (env : NwldEnv) : Prop :=
  ∀ comm request op, (env.commProc comm request op).IsSystem

section Driver

variable {env : NwldEnv} {s s' : Nwld}

/-- An operation that has sent its request goes no further than the reply. -/
theorem withReply_of_system {α : Type} {comm : Option IdSlot} {req resp : Layout} {cmd : UInt32}
    {status : SkMsgType → Int32} {op : Option SkOperation} {msg : SkMsg}
    {user : Option SkOperation → α} {k : SkMsg → Option SkOperation → NwldM (SkStatus × α)}
    {r : SkStatus × α} (henv : env.AnswersSystem)
    (h : withReply env comm req resp cmd status op msg user k s = .ok (r, s')) :
    s' = s ∨ r.1 = systemStatus resp := by
  rcases withReply_cases h with ⟨-, -, hs⟩ | ⟨c, x, -, -, rfl, hres⟩
  · exact Or.inl hs
  · have hcheck := checkReply_of_isSystem (henv (s.tapi.info c).comm
      (req.format.enc (req.fields msg)) op) resp cmd status msg
    rcases hres with ⟨err, herr, rfl, -⟩ | ⟨m, hm, -⟩
    · right
      have heq := hcheck.symm.trans herr
      cases heq
      rfl
    · cases hcheck.symm.trans hm

theorem withConnection_of_system {α : Type} {contextHandle : UInt32} {user : α}
    {k : SkNwldTapi → TSkSysConnection → NwldM (SkStatus × α)} {r : SkStatus × α}
    {resp : Layout}
    (h : withConnection env contextHandle user k s = .ok (r, s'))
    (hk : ∀ pconn, k s.tapi pconn s = .ok (r, s') → s' = s ∨ r.1 = systemStatus resp) :
    s' = s ∨ r.1 = systemStatus resp := by
  rcases withConnection_cases h with ⟨err, -, -, hs⟩ | ⟨pconn, -, hrun⟩
  · exact Or.inl hs
  · exact hk pconn hrun

theorem withSession_of_system {α : Type} {pconn : TSkSysConnection} {sessionHandle : UInt32}
    {user : α} {k : Nat → TSkSysSession → NwldM (SkStatus × α)} {r : SkStatus × α}
    {resp : Layout} (h : withSession pconn sessionHandle user k s = .ok (r, s'))
    (hk : ∀ p entry, k p entry s = .ok (r, s') → s' = s ∨ r.1 = systemStatus resp) :
    s' = s ∨ r.1 = systemStatus resp := by
  rcases withSession_cases h with ⟨err, -, -, hs⟩ | ⟨p, -, -, -, hrun⟩
  · exact Or.inl hs
  · exact hk p _ hrun

theorem openContext_of_system (henv : env.AnswersSystem) {poc : SkTeecUserOpenContext}
    {r : SkStatus × SkTeecUserOpenContext}
    (h : skNwldTapiOpenContext env poc s = .ok (r, s')) :
    s'.exchanges = s.exchanges ∨ r.1 = systemStatus .openContextResp := by
  unfold skNwldTapiOpenContext at h
  by_cases hinv : env.invalidParam = true
  · rw [if_pos hinv] at h
    cases h
    exact Or.inl rfl
  rw [if_neg hinv] at h
  by_cases hzero : poc.contextId = 0
  · rw [if_pos hzero] at h
    cases h
    exact Or.inl rfl
  rw [if_neg hzero] at h
  cases hclaim : claimContextId env poc.contextId s with
  | error f =>
    rw [bind_of_error hclaim] at h
    cases h
  | ok v =>
    obtain ⟨claim, t⟩ := v
    have hframe := (claimContextId_cases hclaim).frame.2.2.2.2
    rw [bind_of_ok hclaim] at h
    cases claim with
    | error err =>
      cases h
      exact Or.inl hframe
    | ok i =>
      simp only at h
      rw [get_bind_run] at h
      rcases withReply_of_system henv h with rfl | hr
      · exact Or.inl hframe
      · exact Or.inr hr

/-- A call that sends its request and receives the system message. -/
theorem nwldStep_of_system {call : Call} {r : SkStatus × SkTeecUserInfo}
    (henv : call.env.AnswersSystem) (h : nwldStep call s = .ok (r, s'))
    (hsent : s'.exchanges ≠ []) : r.1 = systemStatus call.info.respLayout := by
  obtain ⟨info, env⟩ := call
  change perform env info { s with exchanges := [] } = _ at h
  -- the operation came to its request, so it ends with the status of the reply
  have key {α : Type} (a : SkStatus × α) {resp : Layout}
      (hcases : s' = { s with exchanges := [] } ∨ a.1 = systemStatus resp) :
      a.1 = systemStatus resp := by
    rcases hcases with rfl | ha
    · exact absurd rfl hsent
    · exact ha
  cases info with
  | openContext poc =>
    obtain ⟨a, ha, rfl⟩ := map_eq_ok h
    rcases openContext_of_system henv ha with hnone | hr
    · exact absurd hnone hsent
    · exact hr
  | closeContext pcc =>
    obtain ⟨a, ha, rfl⟩ := map_eq_ok h
    exact key a (withConnection_of_system ha fun _ hk => withReply_of_system henv hk)
  | openSession pos =>
    obtain ⟨a, ha, rfl⟩ := map_eq_ok h
    exact key a (withConnection_of_system ha fun _ hk => withReply_of_system henv hk)
  | closeSession pcs =>
    obtain ⟨a, ha, rfl⟩ := map_eq_ok h
    exact key a (withConnection_of_system ha fun _ hk =>
      withSession_of_system hk fun _ _ hk => withReply_of_system henv hk)
  | invokeCmd pic =>
    obtain ⟨a, ha, rfl⟩ := map_eq_ok h
    exact key a (withConnection_of_system ha fun _ hk =>
      withSession_of_system hk fun _ _ hk => withReply_of_system henv hk)
  | regMem rm =>
    obtain ⟨a, ha, rfl⟩ := map_eq_ok h
    exact key a (withConnection_of_system ha fun _ hk => withReply_of_system henv hk)
  | unregMem urm =>
    obtain ⟨a, ha, rfl⟩ := map_eq_ok h
    exact key a (withConnection_of_system ha fun _ hk => withReply_of_system henv hk)

end Driver

/-! ## Both worlds -/

/-- No message for another server is answered, the loop ends there instead. Were
the system reply sent, an operation would return `SK_ERROR_FAILED` for it exactly
if its own reply is no longer. -/
theorem misaddressed_unanswered (cfg : Config) (s : Server) (e : Exchange) (err : SkStatus) :
    (e.recv = 0 → e.request.Misaddressed s err → ¬ AnsweredBySystem cfg s e err ∧
      (e.request.bytes.length ≤ s.tObj.maxMrecvSize →
        ∃ status, (status = skErrorBadContextId ∨ status = skErrorBadSmId) ∧
          ∀ es, skSwldTapiDispatch cfg (e :: es) s =
            .ok ((some status, []), receive e.request s))) ∧
    ∀ (call : Call) (s s' : Nwld) (r : SkStatus × SkTeecUserInfo), call.env.AnswersSystem →
      nwldStep call s = .ok (r, s') → s'.exchanges ≠ [] →
      (r.1 = skErrorFailed ↔ call.info.respLayout.wireLength ≤ Layout.sysTapi.wireLength) := by
  constructor
  · intro hrecv h
    exact ⟨not_answeredBySystem hrecv h, skSwldTapiDispatch_of_misaddressed hrecv h⟩
  · intro call s s' r henv h hsent
    rw [nwldStep_of_system henv h hsent, systemStatus_eq_failed]

/-- An open_context request for context id 9. -/
def sampleMisaddressed : Exchange :=
  ⟨.of .openContextReq (⟨9, 2, skTapiOpenContext⟩, 9) (sampleEnv 0), 0, 0, .zero⟩

theorem sampleMisaddressed_misaddressed :
    sampleMisaddressed.request.Misaddressed (sampleServer 64) skErrorBadContextId :=
  .contextId (by decide +kernel) (by decide +kernel)

/-- An open_context call whose reply is the system message. -/
def sampleSystemCall : Call :=
  ⟨.openContext ⟨1, 0⟩,
    sampleNwldEnv (Layout.sysTapi.format.enc (⟨1, 2, skTapiSystem⟩, skErrorBadContextId))⟩

theorem sampleSystemCall_answersSystem : sampleSystemCall.env.AnswersSystem := by
  intro comm request op
  have hlen := Layout.sysTapi.format.length_enc (⟨1, 2, skTapiSystem⟩, skErrorBadContextId)
  refine ⟨rfl, hlen, ⟨1, 2, skTapiSystem⟩, skErrorBadContextId, rfl, ?_⟩
  exact (Mem.read_ofList _ _ (Nat.le_of_eq hlen.symm)).trans
    (List.take_of_length_le (Nat.le_of_eq hlen))

/-- A fresh server that is sent a message for another context id, and an
open_context call that the system message leaves without its status. -/
theorem misaddressed_unanswered_sample :
    ¬ AnsweredBySystem sampleConfig (sampleServer 64) sampleMisaddressed skErrorBadContextId ∧
      ∃ r s', nwldStep sampleSystemCall sampleNwld = .ok (r, s') ∧ r.1 ≠ skErrorFailed := by
  constructor
  · exact ((misaddressed_unanswered sampleConfig (sampleServer 64) sampleMisaddressed
      skErrorBadContextId).1 rfl sampleMisaddressed_misaddressed).1
  · have hsent : (nwldStep sampleSystemCall sampleNwld).toOption.map
        (fun v => v.2.exchanges.length) = some 1 := by decide +kernel
    cases hrun : nwldStep sampleSystemCall sampleNwld with
    | error f =>
      rw [hrun] at hsent
      cases hsent
    | ok v =>
      obtain ⟨r, s'⟩ := v
      rw [hrun] at hsent
      refine ⟨r, s', rfl, ?_⟩
      have hne : s'.exchanges ≠ [] := by
        intro hnil
        simp [hnil, Except.toOption] at hsent
      have hfailed := (misaddressed_unanswered sampleConfig (sampleServer 64) sampleMisaddressed
        skErrorBadContextId).2 sampleSystemCall sampleNwld s' r
        sampleSystemCall_answersSystem hrun hne
      rw [ne_eq, hfailed]
      decide

/-- A fresh server is sent a message for another context id: nothing is sent back. -/
theorem misaddressed_unanswered_false : ∃ (s : Server) (e : Exchange),
    Reachable sampleConfig s ∧ e.recv = 0 ∧ e.send = 0 ∧
      e.request.Misaddressed s skErrorBadContextId ∧
      ¬ AnsweredBySystem sampleConfig s e skErrorBadContextId :=
  ⟨sampleServer 64, sampleMisaddressed, ⟨[], _, sampleServer_started 64, .start⟩, rfl, rfl,
    sampleMisaddressed_misaddressed, not_answeredBySystem rfl sampleMisaddressed_misaddressed⟩

end SkSdk
