import SkSdk.Swld.SessionSlots

/-!
An open_session request and the close_session request for the session it has
opened. The pair leaves the registry as it was, whatever the TApp makes of its end.
-/

namespace SkSdk
open ByteMemory FaultState DoublyLinked

/-- The sessions of every context and the counters are those of `conn`. -/
structure TApiConnectionTable.Restored (conn conn' : TApiConnectionTable) : Prop where
  context : ∀ c, (conn'.ctable c).active = (conn.ctable c).active
  chain : conn'.chain = conn.chain
  count : ∀ c, (conn'.ctable c).numConnectedSessions = (conn.ctable c).numConnectedSessions
  sessions : conn'.activeSessions = conn.activeSessions
  contexts : conn'.numCtableElements = conn.numCtableElements
  total : conn'.numStableElements = conn.numStableElements

/-- Two tables that represent one registry agree on all that it says. -/
theorem TApiConnectionTable.Represents.restored {conn conn' : TApiConnectionTable}
    {ch : CSlot → List SSlot} (h : conn.Represents ch) (h' : conn'.Represents ch)
    (hcontext : ∀ c, (conn'.ctable c).active = (conn.ctable c).active)
    (hcount : conn'.numCtableElements = conn.numCtableElements) : conn.Restored conn' := by
  have hsessions : conn'.activeSessions = conn.activeSessions := by
    refine Finset.filter_congr fun s _ => ?_
    rw [h.active, h'.active]
  refine ⟨hcontext, ?_, fun c => ?_, hsessions, hcount, ?_⟩
  · funext c
    rw [h.chain_eq, h'.chain_eq]
  · rw [h.count, h'.count]
  · rw [h.total, h'.total, hsessions]

/-- The handles that a close_session request presents. -/
abbrev closeSessionHandles (req : Request) : Handle × Handle := (req.decode .closeSessionReq).2

/-! ## The two edits -/

section Pair

variable {conn : TApiConnectionTable} {c : CSlot} {i : SSlot} {handle contextHandle : Handle}
  {t t' t'' : UInt32} {taid : SkTaid} {tapp tapp' : SkSwldTappInstance}

theorem represents_pair (h : conn.Consistent) (hc : (conn.ctable c).active = true)
    (hi : (conn.stable i).active = false) :
    ((conn.openSession c i handle t t' taid tapp).closeSession c i t'' tapp').Represents
      conn.chain := by
  have hopened := h.openSession hc hi handle t t' taid tapp
  have hmem : i ∈ Function.update conn.chain c (conn.chain c ++ [i]) c := by simp
  have hclosed := hopened.closeSession hmem t'' tapp'
  have hnot : i ∉ conn.chain c := fun hm => by simp [h.mem_active hm] at hi
  have hchain : Function.update (Function.update conn.chain c (conn.chain c ++ [i])) c
      ((Function.update conn.chain c (conn.chain c ++ [i]) c).erase i) = conn.chain := by
    rw [Function.update_self, List.erase_append_right _ hnot, Function.update_idem,
      List.erase_cons_head, List.append_nil, Function.update_eq_self]
  rwa [hchain] at hclosed

theorem restored_pair (h : conn.Consistent) (hc : (conn.ctable c).active = true)
    (hi : (conn.stable i).active = false) :
    conn.Restored
      ((conn.openSession c i handle t t' taid tapp).closeSession c i t'' tapp') := by
  refine h.restored (represents_pair h hc hi) (fun c' => ?_) rfl
  exact (TableOp.active_apply _ (.closeSession c i t'' tapp') c').trans
    (TableOp.active_apply conn (.openSession c i handle t t' taid tapp) c')

/-- A fresh handle is found again, at the slot that was taken. -/
theorem findObjects_opened (h : conn.Consistent) (hc : (conn.ctable c).active = true)
    (hi : (conn.stable i).active = false) (hfind : conn.findContext contextHandle = some c)
    (hfresh : ∀ j : SSlot, handleAt conn.sthandles j ≠ handle) :
    (conn.openSession c i handle t t' taid tapp).findObjects contextHandle handle =
      .ok (.ok (c, i)) := by
  have hopened := h.openSession hc hi handle t t' taid tapp
  have hcontext : ((conn.openSession c i handle t t' taid tapp).ctable c).active = true :=
    (TableOp.active_apply conn (.openSession c i handle t t' taid tapp) c).trans hc
  have hsession : (conn.openSession c i handle t t' taid tapp).findSession handle = some i := by
    refine lookup_eq_some.mpr ⟨handleAt_setHandleAt _ _ _, fun j hj => ?_⟩
    have hne : (j : Nat) ≠ i := Nat.ne_of_lt hj
    rw [show handleAt (conn.openSession c i handle t t' taid tapp).sthandles j =
      handleAt conn.sthandles j from handleAt_setHandleAt_of_ne hne _ _]
    exact hfresh j
  have hmem : i ∈ Function.update conn.chain c (conn.chain c ++ [i]) c := by simp
  have hactive := hopened.mem_active hmem
  have hfind' : (conn.openSession c i handle t t' taid tapp).findContext contextHandle = some c :=
    hfind
  rw [← hopened.chain_eq] at hmem
  simp only [TApiConnectionTable.findObjects, hfind', hsession, hcontext, hactive, if_pos hmem,
    Bool.true_eq_false, ↓reduceIte]

end Pair

/-! ## The two requests -/

variable {cfg : Config} {req creq : Request} {s s₁ : Server} {handle : Handle} {status : SkStatus}

/-- An open_session request that is answered with success has taken the lowest
free slot of an active context. -/
theorem opened_of_success (h : s.Sound) (ha : Accepted s req .openSession)
    (hrun : handleRequest cfg req s = .ok (status, s₁))
    (hanswered : Answered status s₁ .openSessionResp (req.hdr, handle, skErrorSuccess)) :
    ∃ c i, s.tObj.conn.findContext (openSessionHandle req) = some c ∧
      (s.tObj.conn.ctable c).active = true ∧ (s.tObj.conn.stable i).active = false ∧
      Layout.openSessionResp.wireLength ≤ s.tObj.maxMsendSize ∧
      handle = Blk.xor (handleAt s.tObj.conn.sthandles i) req.env.keystream ∧
      s₁ = (openedServer req s c i).replied .openSessionResp (openedReply req s i) := by
  cases hfind : s.tObj.conn.findContext (openSessionHandle req) with
  | none =>
    rw [openSession_unknown cfg h ha hfind] at hrun
    obtain ⟨-, hw, -, -⟩ := finished_answer_iff.mp ⟨hrun, hanswered⟩
    exact absurd (congrArg (·.2.2) hw) (by decide : skErrorContextHandleNotFound ≠ skErrorSuccess)
  | some c =>
    cases hc : (s.tObj.conn.ctable c).active with
    | false =>
      rw [openSession_inactive cfg h ha hfind hc] at hrun
      cases hrun
    | true =>
      rw [openSession_request cfg h ha hfind hc] at hrun
      split at hrun
      · obtain ⟨-, hw, -, -⟩ := finished_answer_iff.mp ⟨hrun, hanswered⟩
        exact absurd (congrArg (·.2.2) hw) (by decide : skErrorOpenSession ≠ skErrorSuccess)
      · cases hfree : firstFree fun i => (s.tObj.conn.stable i).active with
        | none =>
          rw [hfree] at hrun
          cases hrun
        | some i =>
          rw [hfree] at hrun
          obtain ⟨hfit, hw, -, rfl⟩ := finished_answer_iff.mp ⟨hrun, hanswered⟩
          refine ⟨c, i, rfl, hc, firstFree_some hfree, hfit, ?_, rfl⟩
          have hreply : (openedReply req s i).2 = (handle, skErrorSuccess) := congrArg (·.2) hw
          have hstatus := congrArg Prod.snd hreply
          rw [openedReply] at hreply hstatus
          obtain ⟨hloaded, hinit⟩ := openSessionReply_success.mp hstatus
          rw [openSessionReply_handle hloaded hinit] at hreply
          exact (congrArg Prod.fst hreply).symm

/-- The server after a close_session request has taken session `i` from context `c`. -/
def closedServer (req : Request) (s : Server) (c : CSlot) (i : SSlot) : Server :=
  let tapp := (s.tObj.conn.stable i).tapp
  (receive req s).after
    (s.tObj.conn.closeSession c i (req.env.timer 0) (req.env.tappUnload tapp).2) 1
    [.close tapp, .unload tapp]

theorem closeSession_request (cfg : Config) (h : s.Sound) (ha : Accepted s req .closeSession)
    {c : CSlot} {i : SSlot} (hfind : s.tObj.conn.findObjects (closeSessionHandles req).1
      (closeSessionHandles req).2 = .ok (.ok (c, i))) :
    handleRequest cfg req s = finished .closeSession
      (answer .closeSessionResp (req.hdr, skErrorSuccess) (closedServer req s c i)) := by
  have hrun : handleRequest cfg req s = finished .closeSession (serveCloseSession req.env req.hdr
      (closeSessionHandles req).1 (closeSessionHandles req).2 (receive req s)) := by
    rw [handleRequest_of_accepted cfg h ha, finished, ← req.decode_hdr .closeSessionReq]
    rfl
  rw [hrun, serveCloseSession_run _ _ (h.receive req).table (h.receive req).room
    (h.receive req).slots, receive_conn, hfind]
  rfl

/-- The close_session request for a session that has just been opened under a
fresh handle is answered with success and restores the registry. -/
theorem close_session_undoes_open (h : Reachable cfg s) (ha : Accepted s req .openSession)
    (hrun : handleRequest cfg req s = .ok (status, s₁))
    (hanswered : Answered status s₁ .openSessionResp (req.hdr, handle, skErrorSuccess))
    (hfresh : ∀ j : SSlot, handleAt s.tObj.conn.sthandles j ≠ handle)
    (hclose : Accepted s₁ creq .closeSession)
    (hhandles : closeSessionHandles creq = (openSessionHandle req, handle)) :
    ∃ s₂, handleRequest cfg creq s₁ = .ok (skErrorSuccess, s₂) ∧
      Answered skErrorSuccess s₂ .closeSessionResp (creq.hdr, skErrorSuccess) ∧
      s.tObj.conn.Restored s₂.tObj.conn := by
  have hsound := h.sound
  have hsound₁ := handleRequest_sound hsound hrun
  obtain ⟨c, i, hfind, hc, hi, hfit, rfl, rfl⟩ := opened_of_success hsound ha hrun hanswered
  have hopened : (openedServer req s c i).tObj.conn.findObjects (openSessionHandle req)
      (Blk.xor (handleAt s.tObj.conn.sthandles i) req.env.keystream) = .ok (.ok (c, i)) :=
    findObjects_opened hsound.table hc hi hfind hfresh
  have hclosed := closeSession_request (i := i) (c := c) cfg hsound₁ hclose (by
    rw [hhandles]
    exact hopened)
  have hfits : Layout.closeSessionResp.wireLength ≤ s.tObj.maxMsendSize :=
    Nat.le_trans (by decide) hfit
  have hserved := finished_answer .closeSession (creq.hdr, skErrorSuccess) (closedServer creq
    ((openedServer req s c i).replied .openSessionResp (openedReply req s i)) c i) hfits
  exact ⟨_, hclosed.trans hserved.1, hserved.2, restored_pair hsound.table hc hi⟩

/-- The request that closes the session of `sampleOpenSession`. -/
def sampleCloseSession : Request :=
  .of .closeSessionReq (⟨1, 2, skTapiCloseSession⟩, fun _ => 5, fun _ => 7) (sampleEnv 0)

/-- A context whose first session is opened and closed. -/
theorem close_session_undoes_open_sample : ∃ s s₁ s₂,
    (s.tObj.conn.ctable 0).active = true ∧
    handleRequest sampleConfig sampleOpenSession s = .ok (skErrorSuccess, s₁) ∧
    handleRequest sampleConfig sampleCloseSession s₁ = .ok (skErrorSuccess, s₂) ∧
    s.tObj.conn.Restored s₂.tObj.conn := by
  obtain ⟨tr, s, hsteps, hactive, ha, hfind, hroom, hfree, hfit, hreply, hfresh, hclose⟩ :=
    exists_run sampleConfig (sampleServer_started 64) [sampleOpenContext] (fun _ s =>
      (s.tObj.conn.ctable 0).active = true ∧ Accepted s sampleOpenSession .openSession ∧
      s.tObj.conn.findContext (openSessionHandle sampleOpenSession) = some 0 ∧
      ¬ (s.tObj.conn.ctable 0).numConnectedSessions ≥ skTapiMaxSessionsPerContext ∧
      (firstFree fun i => (s.tObj.conn.stable i).active) = some 0 ∧
      Layout.openSessionResp.wireLength ≤ s.tObj.maxMsendSize ∧
      openedReply sampleOpenSession s 0 =
        (sampleOpenSession.hdr, fun _ => 7, skErrorSuccess) ∧
      (∀ j : SSlot, handleAt s.tObj.conn.sthandles j ≠ fun _ => 7) ∧
      Accepted ((openedServer sampleOpenSession s 0 0).replied .openSessionResp
        (openedReply sampleOpenSession s 0)) sampleCloseSession .closeSession)
      (by decide +kernel)
  have hreach : Reachable sampleConfig s := ⟨tr, hsteps⟩
  have hrun := openSession_request sampleConfig hreach.sound ha hfind hactive
  rw [if_neg hroom, hfree] at hrun
  have hserved := finished_answer .openSession (openedReply sampleOpenSession s 0)
    (openedServer sampleOpenSession s 0 0) hfit
  obtain ⟨s₂, hrun₂, -, hrestored⟩ := close_session_undoes_open hreach ha (hrun.trans hserved.1)
    (by rw [← hreply]; exact hserved.2) hfresh hclose (by decide +kernel)
  exact ⟨s, _, s₂, hactive, hrun.trans hserved.1, hrun₂, hrestored⟩

end SkSdk
