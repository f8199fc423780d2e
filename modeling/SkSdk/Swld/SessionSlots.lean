import SkSdk.Swld.ServerInvariant

/-!
The slot that an open_session request takes, and what a request that is refused
leaves. The test for room looks at the sessions of one context, the search for
a slot at those of all contexts; and the slot is taken before the TApp is
loaded and initialised.
-/

namespace SkSdk
open ByteMemory FaultState DoublyLinked

variable {cfg : Config} {req : Request} {s s' : Server} {status : SkStatus}

theorem TApiConnectionTable.Represents.length_le_total {conn : TApiConnectionTable}
    {ch : CSlot → List SSlot} (h : conn.Represents ch) (c : CSlot) :
    (ch c).length ≤ conn.numStableElements := by
  rw [h.total, ← List.toFinset_card_of_nodup (h.linked c).nodup]
  refine Finset.card_le_card fun x hx => ?_
  rw [List.mem_toFinset] at hx
  simp [activeSessions, h.mem_active hx]

theorem TApiConnectionTable.Represents.count_lt {conn : TApiConnectionTable} (h : conn.Consistent)
    {i : SSlot} (hi : (conn.stable i).active = false) (c : CSlot) :
    (conn.ctable c).numConnectedSessions < skTapiMaxSessionsPerContext := by
  rw [h.count c]
  exact Nat.lt_of_le_of_lt (h.length_le_total c) (h.total_lt hi)

/-- The context handle and the TAID of an open_session request. -/
abbrev openSessionHandle (req : Request) : Handle := (req.decode .openSessionReq).2.1
abbrev openSessionTaid (req : Request) : SkTaid := (req.decode .openSessionReq).2.2

/-- The reply to an open_session request that takes slot `i`. -/
def openedReply (req : Request) (s : Server) (i : SSlot) : SkHeader × Handle × Int32 :=
  let env := req.env
  let loaded := env.tappLoad (openSessionTaid req) (s.tObj.conn.stable i).tapp
  (req.hdr, openSessionReply env env.respMsg.type.openSession.resp.sessionHandle
    (Blk.xor (handleAt s.tObj.conn.sthandles i) env.keystream) loaded.1 loaded.2)

/-- The server after an open_session request has put session `i` on context `c`. -/
def openedServer (req : Request) (s : Server) (c : CSlot) (i : SSlot) : Server :=
  let env := req.env
  let handle := Blk.xor (handleAt s.tObj.conn.sthandles i) env.keystream
  let loaded := env.tappLoad (openSessionTaid req) (s.tObj.conn.stable i).tapp
  (receive req s).after (s.tObj.conn.openSession c i handle (env.timer 0) (env.timer 1)
    (openSessionTaid req) loaded.2) 2 (.generate handle :: loadEvents (openSessionTaid req) loaded)

private theorem openSession_run (cfg : Config) (h : s.Sound)
    (ha : Accepted s req .openSession) :
    handleRequest cfg req s = finished .openSession (serveOpenSession req.env req.hdr
      req.env.respMsg.type.openSession.resp.sessionHandle (openSessionHandle req)
      (openSessionTaid req) (receive req s)) := by
  rw [handleRequest_of_accepted cfg h ha, finished, ← req.decode_hdr .openSessionReq]
  rfl

theorem openSession_unknown (cfg : Config) (h : s.Sound) (ha : Accepted s req .openSession)
    (hfind : s.tObj.conn.findContext (openSessionHandle req) = none) :
    handleRequest cfg req s = finished .openSession (answer .openSessionResp
      (req.hdr, req.env.respMsg.type.openSession.resp.sessionHandle, skErrorContextHandleNotFound)
      (receive req s)) := by
  rw [openSession_run cfg h ha, serveOpenSession_run _ _ (h.receive req).table, receive_conn, hfind]

theorem openSession_inactive (cfg : Config) (h : s.Sound) (ha : Accepted s req .openSession)
    {c : CSlot} (hfind : s.tObj.conn.findContext (openSessionHandle req) = some c)
    (hc : (s.tObj.conn.ctable c).active = false) :
    handleRequest cfg req s = .error .assertActive := by
  rw [openSession_run cfg h ha, serveOpenSession_run _ _ (h.receive req).table, receive_conn, hfind]
  dsimp only
  rw [if_pos hc]
  rfl

theorem openSession_request (cfg : Config) (h : s.Sound) (ha : Accepted s req .openSession)
    {c : CSlot} (hfind : s.tObj.conn.findContext (openSessionHandle req) = some c)
    (hc : (s.tObj.conn.ctable c).active = true) :
    handleRequest cfg req s = finished .openSession
      (if (s.tObj.conn.ctable c).numConnectedSessions ≥ skTapiMaxSessionsPerContext then
        answer .openSessionResp
          (req.hdr, req.env.respMsg.type.openSession.resp.sessionHandle, skErrorOpenSession)
          (receive req s)
      else match firstFree fun i => (s.tObj.conn.stable i).active with
        | none => .error .outOfRange
        | some i => answer .openSessionResp (openedReply req s i) (openedServer req s c i)) := by
  rw [openSession_run cfg h ha, serveOpenSession_run _ _ (h.receive req).table, receive_conn, hfind]
  dsimp only
  rw [if_neg (by simp [hc])]
  rfl

/-! ## Slots -/

/-- The request puts its session in the lowest free slot; with no slot free, it
is refused and changes no table. -/
def AllocatesInRange (cfg : Config) (s : Server) (req : Request) (c : CSlot) : Prop :=
  ((∀ i, (s.tObj.conn.stable i).active = true) →
    ∃ s' handle, handleRequest cfg req s = .ok (skErrorSuccess, s') ∧
      Answered skErrorSuccess s' .openSessionResp (req.hdr, handle, skErrorOpenSession) ∧
      s'.tObj.conn = s.tObj.conn ∧ s'.tObj.rmem = s.tObj.rmem ∧ s'.heap = s.heap) ∧
  ∀ i, (s.tObj.conn.stable i).active = false → (∀ j < i, (s.tObj.conn.stable j).active = true) →
    ∃ status s', handleRequest cfg req s = .ok (status, s') ∧
      (s'.tObj.conn.stable i).active = true ∧
      s'.tObj.conn.chain c = s.tObj.conn.chain c ++ [i] ∧
      ∀ j, j ≠ i → (s'.tObj.conn.stable j).active = (s.tObj.conn.stable j).active

theorem openedServer_conn (req : Request) (s : Server) (c : CSlot) (i : SSlot) :
    ∃ handle t t' taid tapp, (openedServer req s c i).tObj.conn =
      s.tObj.conn.openSession c i handle t t' taid tapp := ⟨_, _, _, _, _, rfl⟩

theorem chain_openedServer (h : s.Sound) {c : CSlot} {i : SSlot}
    (hc : (s.tObj.conn.ctable c).active = true) (hi : (s.tObj.conn.stable i).active = false)
    (c' : CSlot) : (openedServer req s c i).tObj.conn.chain c' =
      Function.update s.tObj.conn.chain c (s.tObj.conn.chain c ++ [i]) c' := by
  obtain ⟨handle, t, t', taid, tapp, hconn⟩ := openedServer_conn req s c i
  have hop : (TableOp.openSession c i handle t t' taid tapp).Enabled s.tObj.conn := ⟨hc, hi⟩
  rw [hconn]
  exact congrFun (TableOp.chain_apply h.table hop) c'

theorem active_openedServer (req : Request) (s : Server) (c : CSlot) (i j : SSlot) :
    ((openedServer req s c i).tObj.conn.stable j).active =
      if j = i then true else (s.tObj.conn.stable j).active :=
  s.tObj.conn.active_openSession c i j _ _ _ _ _

/-- The slot is in range exactly if there is one, or if the context by itself
has all the sessions there can be and the refusal can be sent. -/
theorem open_session_slot_iff (h : Reachable cfg s) (ha : Accepted s req .openSession) {c : CSlot}
    (hfind : s.tObj.conn.findContext (openSessionHandle req) = some c)
    (hc : (s.tObj.conn.ctable c).active = true) :
    AllocatesInRange cfg s req c ↔ (∃ i, (s.tObj.conn.stable i).active = false) ∨
      (skTapiMaxSessionsPerContext ≤ (s.tObj.conn.ctable c).numConnectedSessions ∧
        Layout.openSessionResp.wireLength ≤ s.tObj.maxMsendSize) := by
  have hsound := h.sound
  have hrun := openSession_request cfg hsound ha hfind hc
  by_cases hfree : ∃ i, (s.tObj.conn.stable i).active = false
  · refine ⟨fun _ => Or.inl hfree, fun _ => ⟨fun hall => ?_, fun i hi hlow => ?_⟩⟩
    · obtain ⟨i, hi⟩ := hfree
      exact absurd (hall i) (by simp [hi])
    · have hlt := TApiConnectionTable.Represents.count_lt hsound.table hi c
      rw [if_neg (Nat.not_le.mpr hlt), firstFree_eq_some.mpr ⟨hi, hlow⟩] at hrun
      refine ⟨_, _, hrun, ?_, ?_, fun j hj => ?_⟩
      · rw [Server.replied_conn, active_openedServer, if_pos rfl]
      · rw [Server.replied_conn, chain_openedServer hsound hc hi, Function.update_self]
      · rw [Server.replied_conn, active_openedServer, if_neg hj]
  · have hall : ∀ i, (s.tObj.conn.stable i).active = true := by simpa using hfree
    rw [firstFree_eq_none.mpr hall] at hrun
    by_cases hroom : (s.tObj.conn.ctable c).numConnectedSessions ≥ skTapiMaxSessionsPerContext
    · rw [if_pos hroom] at hrun
      constructor
      · intro halloc
        obtain ⟨s', handle, hrun', hanswered, _⟩ := halloc.1 hall
        rw [hrun] at hrun'
        have hfit := finished_answer_iff.mp ⟨hrun', hanswered⟩
        exact Or.inr ⟨hroom, hfit.1⟩
      · rintro (hi | ⟨_, hfit⟩)
        · exact absurd hi hfree
        refine ⟨fun _ => ?_, fun i hi _ => absurd ⟨i, hi⟩ hfree⟩
        have hrefused := finished_answer .openSession
          (req.hdr, req.env.respMsg.type.openSession.resp.sessionHandle, skErrorOpenSession)
          (receive req s) hfit
        exact ⟨_, _, hrun.trans hrefused.1, hrefused.2, rfl, rfl, rfl⟩
    · rw [if_neg hroom] at hrun
      constructor
      · intro halloc
        obtain ⟨s', handle, hrun', _⟩ := halloc.1 hall
        rw [hrun] at hrun'
        simp [finished, Except.map] at hrun'
      · rintro (hi | ⟨hroom', _⟩)
        · exact absurd hi hfree
        · exact absurd hroom' hroom

/-- The first session of a context. -/
theorem open_session_slot_first : ∃ s c, Reachable sampleConfig s ∧
    s.tObj.conn.findContext (openSessionHandle sampleOpenSession) = some c ∧
    AllocatesInRange sampleConfig s sampleOpenSession c := by
  obtain ⟨tr, s, hrun, hacc, hfind, hc, hi⟩ := exists_run sampleConfig (sampleServer_started 64)
    [sampleOpenContext]
    (fun _ s => Accepted s sampleOpenSession .openSession ∧
      s.tObj.conn.findContext (openSessionHandle sampleOpenSession) = some 0 ∧
      (s.tObj.conn.ctable 0).active = true ∧ (s.tObj.conn.stable 0).active = false)
    (by decide +kernel)
  exact ⟨s, 0, ⟨tr, hrun⟩, hfind, (open_session_slot_iff ⟨tr, hrun⟩ hacc hfind hc).mpr
    (Or.inl ⟨0, hi⟩)⟩

/-! ## A server without a free slot -/

/-- Context 0 can be given sessions by `sampleOpenSession`, and another context has one. -/
private structure Filling (s : Server) : Prop where
  reachable : Reachable sampleConfig s
  accepted : Accepted s sampleOpenSession .openSession
  found : s.tObj.conn.findContext (openSessionHandle sampleOpenSession) = some 0
  active : (s.tObj.conn.ctable 0).active = true
  shared : s.tObj.conn.chain 1 ≠ []

private theorem exists_filling : ∃ s, Filling s := by
  obtain ⟨tr, s, hrun, hacc, hfind, hc, hshared⟩ := exists_run sampleConfig
    (sampleServer_started 64)
    [sampleOpenContext,
      .of .openContextReq (⟨1, 2, skTapiOpenContext⟩, 1) (sampleEnv 6),
      .of .openSessionReq (⟨1, 2, skTapiOpenSession⟩, fun _ => 6, fun _ => 9) (sampleEnv 8)]
    (fun _ s => Accepted s sampleOpenSession .openSession ∧
      s.tObj.conn.findContext (openSessionHandle sampleOpenSession) = some 0 ∧
      (s.tObj.conn.ctable 0).active = true ∧ s.tObj.conn.chain 1 ≠ []) (by decide +kernel)
  exact ⟨s, ⟨tr, hrun⟩, hacc, hfind, hc, hshared⟩

private theorem Filling.count_lt (h : Filling s) :
    (s.tObj.conn.ctable 0).numConnectedSessions < s.tObj.conn.numStableElements := by
  have htable := h.reachable.sound.table
  obtain ⟨x, hx⟩ := List.exists_mem_of_ne_nil _ h.shared
  have hnot : x ∉ (s.tObj.conn.chain 0).toFinset := fun h₀ =>
    absurd (htable.disjoint 0 1 x (List.mem_toFinset.mp h₀) hx) (by decide)
  rw [htable.count 0, htable.total, ← List.toFinset_card_of_nodup (htable.linked 0).nodup]
  refine Finset.card_lt_card ((Finset.ssubset_iff_of_subset fun y hy => ?_).mpr ⟨x, ?_, hnot⟩)
  · simp [TApiConnectionTable.activeSessions, htable.mem_active (List.mem_toFinset.mp hy)]
  · simp [TApiConnectionTable.activeSessions, htable.mem_active hx]

private theorem Filling.step (h : Filling s) {i : SSlot}
    (hi : (s.tObj.conn.stable i).active = false)
    (hlow : ∀ j < i, (s.tObj.conn.stable j).active = true) :
    ∃ s', Filling s' ∧ s'.tObj.conn.numStableElements = s.tObj.conn.numStableElements + 1 := by
  have hsound := h.reachable.sound
  have hrun := openSession_request sampleConfig hsound h.accepted h.found h.active
  rw [if_neg (Nat.not_le.mpr (TApiConnectionTable.Represents.count_lt hsound.table hi 0)),
    firstFree_eq_some.mpr ⟨hi, hlow⟩] at hrun
  obtain ⟨tr, s₀, hstart, hsteps⟩ := h.reachable
  refine ⟨_, ⟨⟨_, s₀, hstart, hsteps.next hrun⟩, ?_, h.found, ?_, ?_⟩, rfl⟩
  · exact ⟨h.accepted.fits, h.accepted.contextId, h.accepted.smId, h.accepted.command,
      h.accepted.whole⟩
  · exact (TableOp.active_apply s.tObj.conn (.openSession 0 i _ _ _ _ _) 0).trans h.active
  · rw [Server.replied_conn, chain_openedServer hsound h.active hi]
    simpa using h.shared

private theorem Filling.exists_full {n : Nat} (hn : n ≤ skTapiMaxSessionsPerContext) :
    ∃ s, Filling s ∧ n ≤ s.tObj.conn.numStableElements := by
  induction n with
  | zero => exact exists_filling.imp fun _ h => ⟨h, Nat.zero_le _⟩
  | succ n ih =>
    obtain ⟨s, h, hcount⟩ := ih (Nat.le_of_succ_le hn)
    cases hfree : firstFree fun i => (s.tObj.conn.stable i).active with
    | none =>
      have hall := firstFree_eq_none.mp hfree
      refine ⟨s, h, ?_⟩
      rw [h.reachable.sound.table.total]
      simpa [TApiConnectionTable.activeSessions, hall] using hn
    | some i =>
      obtain ⟨hi, hlow⟩ := firstFree_eq_some.mp hfree
      obtain ⟨s', h', hcount'⟩ := h.step hi hlow
      exact ⟨s', h', by omega⟩

/-- With all the slots taken by the sessions of two contexts, the search for a
slot runs past the table. -/
theorem open_session_slot_false : ∃ s req c, Reachable sampleConfig s ∧
    Accepted s req .openSession ∧
    s.tObj.conn.findContext (openSessionHandle req) = some c ∧
    (s.tObj.conn.ctable c).active = true ∧ (∀ i, (s.tObj.conn.stable i).active = true) ∧
    handleRequest sampleConfig req s = .error .outOfRange ∧
    ¬AllocatesInRange sampleConfig s req c := by
  obtain ⟨s, h, hcount⟩ := Filling.exists_full (Nat.le_refl _)
  have hsound := h.reachable.sound
  have hall : ∀ i, (s.tObj.conn.stable i).active = true := by
    intro i
    by_contra hi
    exact absurd (hsound.table.total_lt (Bool.not_eq_true _ ▸ hi)) (Nat.not_lt.mpr hcount)
  have hrun : handleRequest sampleConfig sampleOpenSession s = .error .outOfRange := by
    rw [openSession_request sampleConfig hsound h.accepted h.found h.active,
      firstFree_eq_none.mpr hall,
      if_neg (Nat.not_le.mpr (Nat.lt_of_lt_of_le h.count_lt hsound.table.total_le))]
    rfl
  refine ⟨s, _, 0, h.reachable, h.accepted, h.found, h.active, hall, hrun, fun halloc => ?_⟩
  obtain ⟨s', handle, hrun', _⟩ := halloc.1 hall
  simp [hrun] at hrun'

/-! ## Refusals -/

/-- The calls made load `tapp` and do not unload it afterwards. -/
def StaysLoaded (events : List Event) (tapp : SkSwldTappInstance) : Prop :=
  ∃ before taid after, events = before ++ .load taid skErrorSuccess tapp :: after ∧
    .unload tapp ∉ after

/-- The sessions of `s` are those of `s'`, and what was loaded on the way is unloaded. -/
structure LeftAsBefore (s s' : Server) : Prop where
  active : s'.tObj.conn.activeSessions = s.tObj.conn.activeSessions
  chain : s'.tObj.conn.chain = s.tObj.conn.chain
  count : ∀ c, (s'.tObj.conn.ctable c).numConnectedSessions =
    (s.tObj.conn.ctable c).numConnectedSessions
  total : s'.tObj.conn.numStableElements = s.tObj.conn.numStableElements
  loaded : ∀ tapp, ¬StaysLoaded s'.events tapp

/-- A reply with a status other than success leaves nothing behind. -/
def LeavesNothing (cfg : Config) (s : Server) (req : Request) : Prop :=
  ∀ status s' handle err, handleRequest cfg req s = .ok (status, s') →
    Answered status s' .openSessionResp (req.hdr, handle, err) → err ≠ skErrorSuccess →
    LeftAsBefore s s'

/-- The request comes to a session slot, its TApp cannot be loaded or
initialised, and the reply fits. -/
def FailsAfterLink (s : Server) (req : Request) : Prop :=
  Accepted s req .openSession ∧ Layout.openSessionResp.wireLength ≤ s.tObj.maxMsendSize ∧
    ∃ c i, s.tObj.conn.findContext (openSessionHandle req) = some c ∧
      (s.tObj.conn.ctable c).active = true ∧
      (firstFree fun i => (s.tObj.conn.stable i).active) = some i ∧
      let loaded := req.env.tappLoad (openSessionTaid req) (s.tObj.conn.stable i).tapp
      loaded.1 ≠ skErrorSuccess ∨ req.env.tappInit loaded.2 ≠ skErrorSuccess

private theorem leftAsBefore_receive (req : Request) (s : Server) :
    LeftAsBefore s (receive req s) where
  active := rfl
  chain := rfl
  count _ := rfl
  total := rfl
  loaded := by
    rintro tapp ⟨before, taid, after, hevents, _⟩
    simp at hevents

private theorem LeftAsBefore.replied (h : LeftAsBefore s s') (l : Layout)
    (w : SkHeader × l.Fields) : LeftAsBefore s (s'.replied l w) :=
  ⟨h.active, h.chain, h.count, h.total, h.loaded⟩

theorem openedReply_status (req : Request) (s : Server) (i : SSlot) :
    (openedReply req s i).2.2 ≠ skErrorSuccess ↔
      let loaded := req.env.tappLoad (openSessionTaid req) (s.tObj.conn.stable i).tapp
      loaded.1 ≠ skErrorSuccess ∨ req.env.tappInit loaded.2 ≠ skErrorSuccess := by
  rw [openedReply, ne_eq, openSessionReply_success, not_and_or]

/-- A request that does not come to a slot. -/
private theorem leavesNothing_of_refused {w : SkHeader × Handle × Int32}
    (hrun : handleRequest cfg req s =
      finished .openSession (answer .openSessionResp w (receive req s))) :
    LeavesNothing cfg s req := by
  intro status s' handle err hrun' hanswered _
  rw [hrun] at hrun'
  obtain ⟨_, _, _, rfl⟩ := finished_answer_iff.mp ⟨hrun', hanswered⟩
  exact (leftAsBefore_receive req s).replied _ _

private theorem leavesNothing_of_error {e : Fault} (hrun : handleRequest cfg req s = .error e) :
    LeavesNothing cfg s req := by
  intro status s' handle err hrun' _ _
  rw [hrun] at hrun'
  simp at hrun'

/-- A refusal leaves nothing exactly if it does not come after the session has
been linked. -/
theorem refused_open_session_iff (h : Reachable cfg s)
    (hcmd : Command.ofCmd req.hdr.cmd = some .openSession) :
    LeavesNothing cfg s req ↔ ¬FailsAfterLink s req := by
  have hsound := h.sound
  by_cases ha : Accepted s req .openSession
  swap
  · refine ⟨fun _ hfails => ha hfails.1, fun _ status s' handle err hrun _ _ => ?_⟩
    rcases handleRequest_outcome hsound hrun with rfl | ⟨c, hc, _⟩
    · exact leftAsBefore_receive req s
    · obtain rfl := Option.some.inj (hc.command.symm.trans hcmd)
      exact absurd hc ha
  cases hfind : s.tObj.conn.findContext (openSessionHandle req) with
  | none =>
    refine ⟨fun _ => ?_, fun _ => leavesNothing_of_refused (openSession_unknown cfg hsound ha hfind)⟩
    rintro ⟨_, _, c, _, hfind', _⟩
    simp [hfind] at hfind'
  | some c =>
    cases hc : (s.tObj.conn.ctable c).active with
    | false =>
      refine ⟨fun _ => ?_,
        fun _ => leavesNothing_of_error (openSession_inactive cfg hsound ha hfind hc)⟩
      rintro ⟨_, _, c', _, hfind', hc', _⟩
      obtain rfl := Option.some.inj (hfind.symm.trans hfind')
      simp [hc] at hc'
    | true =>
      have hrun := openSession_request cfg hsound ha hfind hc
      cases hfree : firstFree fun i => (s.tObj.conn.stable i).active with
      | none =>
        refine ⟨fun _ => ?_, fun _ => ?_⟩
        · rintro ⟨_, _, c', i, _, _, hfree', _⟩
          simp [hfree] at hfree'
        rw [hfree] at hrun
        split at hrun
        · exact leavesNothing_of_refused hrun
        · exact leavesNothing_of_error hrun
      | some i =>
        have hi := firstFree_some hfree
        rw [hfree, if_neg (Nat.not_le.mpr
          (TApiConnectionTable.Represents.count_lt hsound.table hi c))] at hrun
        have hstatus := openedReply_status req s i
        constructor
        · rintro hleaves ⟨_, hfit, c', i', _, _, hfree', hfails⟩
          obtain rfl := Option.some.inj (hfree.symm.trans hfree')
          have hanswer := finished_answer .openSession (openedReply req s i)
            (openedServer req s c i) hfit
          have hleft := hleaves _ _ _ _ (hrun.trans hanswer.1) hanswer.2 (hstatus.mpr hfails)
          have hmem : i ∈ s.tObj.conn.activeSessions := by
            rw [← hleft.active]
            simp [TApiConnectionTable.activeSessions, active_openedServer]
          simp [TApiConnectionTable.activeSessions, hi] at hmem
        · intro hnot status s' handle err hrun' hanswered herr
          rw [hrun] at hrun'
          obtain ⟨hfit, hw, _⟩ := finished_answer_iff.mp ⟨hrun', hanswered⟩
          have herr' : (openedReply req s i).2.2 ≠ skErrorSuccess := by
            rw [hw]
            exact herr
          exact absurd ⟨ha, hfit, c, i, hfind, hc, hfree, hstatus.mp herr'⟩ hnot

/-- An open_session request for a context that does not exist is refused and leaves
a server with a context and a session as it was. -/
theorem refused_open_session_unknown : ∃ s req status s', Reachable sampleConfig s ∧
    s.tObj.conn.chain 0 = [0] ∧ handleRequest sampleConfig req s = .ok (status, s') ∧
    Answered status s' .openSessionResp (req.hdr, fun _ => 0, skErrorContextHandleNotFound) ∧
    LeftAsBefore s s' := by
  let req : Request :=
    .of .openSessionReq (⟨1, 2, skTapiOpenSession⟩, fun _ => 6, fun _ => 9) (sampleEnv 8)
  obtain ⟨tr, s, hrun, hchain, hacc, hnone, hreply⟩ := exists_run sampleConfig
    (sampleServer_started 64) [sampleOpenContext, sampleOpenSession]
    (fun _ s => s.tObj.conn.chain 0 = [0] ∧ Accepted s req .openSession ∧
      s.tObj.conn.findContext (openSessionHandle req) = none ∧
      (handleRequest sampleConfig req s).toOption.any (fun r => Answered r.1 r.2 .openSessionResp
        (req.hdr, fun _ => 0, skErrorContextHandleNotFound)) = true) (by decide +kernel)
  have hleaves : LeavesNothing sampleConfig s req := by
    refine (refused_open_session_iff ⟨tr, hrun⟩ hacc.command).mpr ?_
    rintro ⟨_, _, c, _, hfind, _⟩
    cases hnone.symm.trans hfind
  cases hstep : handleRequest sampleConfig req s with
  | error fault => simp [hstep, Except.toOption] at hreply
  | ok r =>
    have hanswered := of_decide_eq_true (by simpa [hstep, Except.toOption] using hreply)
    exact ⟨s, req, r.1, r.2, ⟨tr, hrun⟩, hchain, hstep, hanswered,
      hleaves _ _ _ _ hstep hanswered (by decide)⟩

/-- Surroundings in which no TApp can be loaded. -/
def unloadableEnv : Env := { sampleEnv 7 with tappLoad := fun _ _ => (skErrorTappLoad, ⟨none⟩) }

/-- A TApp that cannot be loaded leaves its session active and counted. -/
theorem refused_open_session_false : ∃ s req, Reachable sampleConfig s ∧
    Command.ofCmd req.hdr.cmd = some .openSession ∧ ¬LeavesNothing sampleConfig s req := by
  obtain ⟨tr, s, hrun, x, hx, hacc, hanswered, hcount⟩ := exists_run sampleConfig
    (sampleServer_started 64) [sampleOpenContext,
      .of .openSessionReq (⟨1, 2, skTapiOpenSession⟩, fun _ => 5, fun _ => 9) unloadableEnv]
    (fun tr _ => ∃ x ∈ tr, Accepted x.pre x.input .openSession ∧
      Answered x.result x.post .openSessionResp (x.input.hdr, fun _ => 0, skErrorTappLoad) ∧
      x.post.tObj.conn.numStableElements ≠ x.pre.tObj.conn.numStableElements) (by decide +kernel)
  obtain ⟨hpre, hstep⟩ := hrun.step_of_mem hx
  refine ⟨x.pre, x.input, hpre, hacc.command, fun hleaves => hcount ?_⟩
  exact (hleaves _ _ _ _ hstep hanswered (by decide)).total

end SkSdk
