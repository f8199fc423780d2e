import SkSdk.Swld.TableEdits
import SkSdk.Swld.TableOps

/-!
What each request does to a server whose table is consistent, as an equation:
the faults, the statuses and the table left behind, with the calls made. The
programs of `tapi.c` are not looked into after this module.
-/

namespace SkSdk
open ByteMemory FaultState DoublyLinked

/-! ## Replies -/

def Server.withConn (s : Server) (conn : TApiConnectionTable) : Server :=
  { s with tObj := { s.tObj with conn } }

@[simp] theorem Server.withConn_conn (s : Server) (conn : TApiConnectionTable) :
    (s.withConn conn).tObj.conn = conn := rfl

@[simp] theorem Server.withConn_events (s : Server) (conn : TApiConnectionTable) :
    (s.withConn conn).events = s.events := rfl

/-- The server with `conn` in place, `n` more readings of the timer and the
calls `evs` made. -/
def Server.after (s : Server) (conn : TApiConnectionTable) (n : Nat) (evs : List Event) : Server :=
  { s with tObj := { s.tObj with conn }, clk := s.clk + n, events := s.events ++ evs }

@[simp] theorem Server.after_conn (s : Server) (conn : TApiConnectionTable) (n : Nat)
    (evs : List Event) : (s.after conn n evs).tObj.conn = conn := rfl

theorem Server.after_withConn_after (s : Server) (conn conn' conn'' : TApiConnectionTable)
    (n m : Nat) (evs evs' : List Event) :
    ((s.after conn n evs).withConn conn').after conn'' m evs' =
      s.after conn'' (n + m) (evs ++ evs') := by
  simp [after, withConn, Nat.add_assoc]

/-- The server with a reply of layout `l` in `msend`, as far as it fits. -/
def Server.replied (s : Server) (l : Layout) (v : SkHeader × l.Fields) : Server :=
  let packed := packFields s.tObj.msend s.tObj.maxMsendSize (l.stores v)
  { s with tObj := { s.tObj with msend := packed.pack, msendSize := packed.packLen } }

@[simp] theorem Server.replied_conn (s : Server) (l : Layout) (v : SkHeader × l.Fields) :
    (s.replied l v).tObj.conn = s.tObj.conn := rfl

@[simp] theorem Server.replied_events (s : Server) (l : Layout) (v : SkHeader × l.Fields) :
    (s.replied l v).events = s.events := rfl

/-- A reply that fits can be read back. -/
theorem Server.replied_of_le (s : Server) (l : Layout) (v : SkHeader × l.Fields)
    (h : l.wireLength ≤ s.tObj.maxMsendSize) :
    l.format.get (s.replied l v).tObj.msend 0 = v ∧
      (s.replied l v).tObj.msendSize = l.wireLength := by
  have hpacked : packFields s.tObj.msend s.tObj.maxMsendSize (l.stores v) =
      ⟨skTapiPackErrSuccess, s.tObj.msend.write 0 (l.format.enc v), l.wireLength⟩ := by
    rw [packFields, l.length_stores, if_pos h, l.flatten_stores]
  simp only [Server.replied, hpacked, and_true]
  exact Format.get_write _ _ _ _

theorem onConn_of_ok {α : Type} {m : ConnM α} {s : Server} {a : α} {conn : TApiConnectionTable}
    (h : m s.tObj.conn = .ok (a, conn)) : onConn m s = .ok (a, s.withConn conn) := onPart_of_ok h

theorem onConn_of_error {α : Type} {m : ConnM α} {s : Server} {e : Fault}
    (h : m s.tObj.conn = .error e) : onConn m s = .error e := onPart_of_error h

/-- The result of a handler that goes to its `RESPOND` label. -/
def answer (l : Layout) (v : SkHeader × l.Fields) (s : Server) :
    Except Fault (SkStatus × Server) :=
  .ok (if l.wireLength ≤ s.tObj.maxMsendSize then skErrorSuccess else skErrorInvalidParam,
    s.replied l v)

theorem reply_run (l : Layout) (v : SkHeader × l.Fields) (s : Server) :
    reply l v s = answer l v s := by
  have hlen := l.length_stores v
  have hstatus : (packFields s.tObj.msend s.tObj.maxMsendSize (l.stores v)).status =
      if l.wireLength ≤ s.tObj.maxMsendSize then skTapiPackErrSuccess else skTapiPackErrFailed := by
    rw [packFields, hlen]
    split <;> rfl
  change (if (packFields s.tObj.msend s.tObj.maxMsendSize (l.stores v)).status ≠
        skTapiPackErrSuccess then (pure skErrorInvalidParam : ServerM SkStatus)
      else pure (packFields s.tObj.msend s.tObj.maxMsendSize (l.stores v)).status)
    (s.replied l v) = _
  rw [hstatus, answer]
  by_cases hfit : l.wireLength ≤ s.tObj.maxMsendSize
  · simp only [if_pos hfit]
    rfl
  · simp only [if_neg hfit]
    rfl

/-! ## The requests -/

section Runs

variable (env : Env) (hdr : SkHeader) {s : Server}

theorem serveOpenContext_run (stale : Handle) (pid : Int32) (contextId : UInt32) (s : Server) :
    serveOpenContext env hdr stale pid contextId s =
      if contextId ≠ s.tObj.contextId then
        answer .openContextResp (hdr, stale, skErrorBadContextId) s
      else if s.tObj.conn.numCtableElements ≥ skTapiMaxConnectionsPerContext then
        answer .openContextResp (hdr, stale, skErrorOpenContext) s
      else match firstFree fun i => (s.tObj.conn.ctable i).active with
        | none => .error .assert
        | some i =>
          let handle := Blk.xor (handleAt s.tObj.conn.cthandles i) env.keystream
          answer .openContextResp (hdr, handle, skErrorSuccess)
            (s.after (s.tObj.conn.openContext i handle pid) 0 [.generate handle]) := by
  simp only [← reply_run]
  change (if contextId ≠ s.tObj.contextId then _ else _ : ServerM SkStatus) s = _
  split
  · rfl
  split
  · rfl
  cases firstFree fun i => (s.tObj.conn.ctable i).active with
  | none => rfl
  | some i => rfl

theorem serveCloseContext_run (h : s.tObj.conn.Consistent) (contextHandle : Handle) :
    serveCloseContext hdr contextHandle s =
      match s.tObj.conn.findContext contextHandle with
      | none => answer .closeContextResp (hdr, skErrorContextHandleNotFound) s
      | some c =>
        if (s.tObj.conn.ctable c).active = false then .error .assertActive
        else if s.tObj.conn.numCtableElements = 0 then .error .assert
        else answer .closeContextResp (hdr, skErrorSuccess)
          (s.withConn (if s.tObj.conn.chain c = [] then s.tObj.conn.deactivate c
            else s.tObj.conn).countOut) := by
  simp only [← reply_run]
  change (match s.tObj.conn.findContext contextHandle with
    | none => _
    | some idx => _ : ServerM SkStatus) s = _
  cases s.tObj.conn.findContext contextHandle with
  | none => rfl
  | some c =>
    dsimp only
    by_cases hact : (s.tObj.conn.ctable c).active = false
    · rw [if_pos hact]
      exact require_bind_of_not (by simp [hact]) _ _ _
    rw [if_neg hact, require_bind_of (by simpa using hact)]
    have hremove : ∃ status, skSwldTapiRemoveContext c false s.tObj.conn =
        .ok (status, if s.tObj.conn.chain c = [] then s.tObj.conn.deactivate c
          else s.tObj.conn) := by
      rw [skSwldTapiRemoveContext_run h c false]
      by_cases hempty : s.tObj.conn.chain c = []
      · rw [if_neg (by simp [hempty]), if_pos hempty, hempty]
        exact ⟨_, rfl⟩
      · rw [if_pos ⟨hempty, rfl⟩, if_neg hempty]
        exact ⟨_, rfl⟩
    obtain ⟨status, hremove⟩ := hremove
    have hcounter : (if s.tObj.conn.chain c = [] then s.tObj.conn.deactivate c
        else s.tObj.conn).numCtableElements = s.tObj.conn.numCtableElements := by
      split <;> rfl
    rw [bind_of_ok (onConn_of_ok hremove), ← hcounter]
    refine (get_bind_run _ _).trans ?_
    by_cases hcount : (if s.tObj.conn.chain c = [] then s.tObj.conn.deactivate c
        else s.tObj.conn).numCtableElements = 0
    · rw [if_pos hcount]
      exact require_bind_of_not (by simp [hcount]) _ _ _
    · rw [if_neg hcount]
      exact require_bind_of (Nat.pos_of_ne_zero hcount) _ _ _

/-- The reply to an open_session request whose slot holds `handle`. -/
def openSessionReply (stale handle : Handle) (err : SkStatus) (tapp : SkSwldTappInstance) :
    Handle × Int32 :=
  if err ≠ skErrorSuccess then (stale, skErrorTappLoad)
  else if env.tappInit tapp ≠ skErrorSuccess then
    (stale, if env.tappInit tapp ≠ skErrorTimeout then skErrorTappCall else skErrorTappTimeout)
  else (handle, skErrorSuccess)

theorem openSessionReply_success {env : Env} {stale handle : Handle} {err : SkStatus}
    {tapp : SkSwldTappInstance} :
    (openSessionReply env stale handle err tapp).2 = skErrorSuccess ↔
      err = skErrorSuccess ∧ env.tappInit tapp = skErrorSuccess := by
  unfold openSessionReply
  by_cases herr : err = skErrorSuccess
  · by_cases hinit : env.tappInit tapp = skErrorSuccess
    · simp [herr, hinit]
    · rw [if_neg (not_not.mpr herr), if_pos hinit]
      split <;> simp [hinit, skErrorTappCall, skErrorTappTimeout, skErrorSuccess]
  · rw [if_pos herr]
    simp [herr, skErrorTappLoad, skErrorSuccess]

theorem openSessionReply_handle {env : Env} {stale handle : Handle} {err : SkStatus}
    {tapp : SkSwldTappInstance} (herr : err = skErrorSuccess)
    (hinit : env.tappInit tapp = skErrorSuccess) :
    openSessionReply env stale handle err tapp = (handle, skErrorSuccess) := by
  unfold openSessionReply
  rw [if_neg (not_not.mpr herr), if_neg (not_not.mpr hinit)]

theorem openSessionReply_failed (env : Env) (handle : Handle) {err : SkStatus}
    {tapp : SkSwldTappInstance}
    (h : ¬ (err = skErrorSuccess ∧ env.tappInit tapp = skErrorSuccess)) :
    ∃ status, ∀ stale, openSessionReply env stale handle err tapp = (stale, status) := by
  by_cases herr : err = skErrorSuccess
  · have hinit : env.tappInit tapp ≠ skErrorSuccess := fun hinit => h ⟨herr, hinit⟩
    exact ⟨_, fun _ => (if_neg (not_not.mpr herr)).trans (if_pos hinit)⟩
  · exact ⟨_, fun _ => if_pos herr⟩

/-- The status of an invoke_command reply. -/
def invokeReply (err : SkStatus) : SkStatus :=
  if err ≠ skErrorSuccess then
    if err ≠ skErrorTimeout then skErrorTappCall else skErrorTappTimeout
  else skErrorSuccess

/-- The calls made for a TApp that was loaded with result `loaded`. -/
def loadEvents (taid : SkTaid) (loaded : SkStatus × SkSwldTappInstance) : List Event :=
  .load taid loaded.1 loaded.2 :: if loaded.1 = skErrorSuccess then [.init loaded.2] else []

theorem serveTapp_run (stale : Handle) (taid : SkTaid) (i : SSlot) (s : Server) :
    serveTapp env hdr stale taid i s =
      let loaded := env.tappLoad taid (s.tObj.conn.stable i).tapp
      reply .openSessionResp
        (hdr, openSessionReply env stale (handleAt s.tObj.conn.sthandles i) loaded.1 loaded.2)
        (s.after (s.tObj.conn.setTapp i loaded.2) 0 (loadEvents taid loaded)) := by
  rw [serveTapp, get_bind_run]
  generalize env.tappLoad taid (s.tObj.conn.stable i).tapp = loaded
  rcases loaded with ⟨err, tapp⟩
  unfold openSessionReply loadEvents
  dsimp only
  rw [modifyConn_bind_run, emit_bind_run]
  by_cases herr : err = skErrorSuccess
  · rw [if_neg (not_not.mpr herr), if_neg (not_not.mpr herr), if_pos herr, emit_bind_run]
    simp only [List.append_assoc]
    by_cases hinit : env.tappInit tapp ≠ skErrorSuccess
    · rw [if_pos hinit, if_pos hinit]
      by_cases htimeout : env.tappInit tapp ≠ skErrorTimeout
      · rw [if_pos htimeout, if_pos htimeout]
        rfl
      · rw [if_neg htimeout, if_neg htimeout]
        rfl
    · rw [if_neg hinit, if_neg hinit]
      rfl
  · rw [if_pos herr, if_pos herr, if_neg herr]
    rfl

theorem serveOpenSession_run (h : s.tObj.conn.Consistent) (stale contextHandle : Handle)
    (taid : SkTaid) :
    serveOpenSession env hdr stale contextHandle taid s =
      match s.tObj.conn.findContext contextHandle with
      | none => answer .openSessionResp (hdr, stale, skErrorContextHandleNotFound) s
      | some c =>
        if (s.tObj.conn.ctable c).active = false then .error .assertActive
        else if (s.tObj.conn.ctable c).numConnectedSessions ≥ skTapiMaxSessionsPerContext then
          answer .openSessionResp (hdr, stale, skErrorOpenSession) s
        else match firstFree fun i => (s.tObj.conn.stable i).active with
          | none => .error .outOfRange
          | some i =>
            let handle := Blk.xor (handleAt s.tObj.conn.sthandles i) env.keystream
            let loaded := env.tappLoad taid (s.tObj.conn.stable i).tapp
            answer .openSessionResp (hdr, openSessionReply env stale handle loaded.1 loaded.2)
              (s.after (s.tObj.conn.openSession c i handle (env.timer s.clk)
                  (env.timer (s.clk + 1)) taid loaded.2) 2
                (.generate handle :: loadEvents taid loaded)) := by
  simp only [← reply_run]
  change (match s.tObj.conn.findContext contextHandle with
    | none => _
    | some idx => _ : ServerM SkStatus) s = _
  cases s.tObj.conn.findContext contextHandle with
  | none => rfl
  | some c =>
    dsimp only
    by_cases hact : (s.tObj.conn.ctable c).active = false
    · rw [if_pos hact]
      exact require_bind_of_not (by simp [hact]) _ _ _
    rw [if_neg hact, require_bind_of (by simpa using hact)]
    by_cases hroom : (s.tObj.conn.ctable c).numConnectedSessions ≥ skTapiMaxSessionsPerContext
    · rw [if_pos hroom, if_pos hroom]
    rw [if_neg hroom, if_neg hroom]
    cases hfree : firstFree fun i => (s.tObj.conn.stable i).active with
    | none => rfl
    | some i =>
      dsimp only
      have hi : (s.tObj.conn.stable i).active = false := firstFree_some hfree
      generalize Blk.xor (handleAt s.tObj.conn.sthandles i) env.keystream = handle
      -- the slot is stamped and issued before it is linked in
      let ready := ((s.tObj.conn.issueSession i handle).touchContext c
        (env.timer s.clk)).touchSession i (env.timer (s.clk + 1))
      have hready : ready.Represents s.tObj.conn.chain :=
        ((h.issueSession i handle).touchContext c _).touchSession i _
      have hattach : attachSession c i taid ready = .ok ((), ready.attach c i taid) := by
        refine attachSession_run hready ?_ ?_ taid
        · simpa [ready, TApiConnectionTable.touchSession, TApiConnectionTable.touchContext,
            TApiConnectionTable.issueSession] using hi
        · rw [← h.count c]
          omega
      have htapp : ((ready.attach c i taid).stable i).tapp = (s.tObj.conn.stable i).tapp := by
        simp [TApiConnectionTable.attach, ready, TApiConnectionTable.touchSession,
          TApiConnectionTable.touchContext, TApiConnectionTable.issueSession]
      have hhandle : handleAt (ready.attach c i taid).sthandles i = handle :=
        handleAt_setHandleAt _ _ _
      change (onConn (attachSession c i taid) >>= fun _ => serveTapp env hdr stale taid i)
        (s.after ready 2 [.generate handle]) = _
      rw [bind_of_ok (onConn_of_ok hattach), serveTapp_run, Server.withConn_conn, htapp, hhandle]
      dsimp only
      rw [Server.after_withConn_after]
      rfl

/-- The common head of close_session and invoke_command. -/
private theorem findObjects_bind (h : s.tObj.conn.Consistent)
    (hcount : s.tObj.conn.numCtableElements ≤ skTapiMaxConnectionsPerContext)
    (contextHandle sessionHandle : Handle)
    (k : Except SkStatus (CSlot × SSlot) → ServerM SkStatus) :
    (do let r ← onConn (skSwldTapiFindObjects contextHandle sessionHandle); k r) s =
      match s.tObj.conn.findObjects contextHandle sessionHandle with
      | .error e => .error e
      | .ok r => k r s := by
  have hrun := skSwldTapiFindObjects_run h hcount contextHandle sessionHandle
  cases hfind : s.tObj.conn.findObjects contextHandle sessionHandle with
  | error e =>
    rw [hfind] at hrun
    exact bind_of_error (onConn_of_error hrun) _
  | ok r =>
    rw [hfind] at hrun
    exact bind_of_ok (onConn_of_ok hrun) _

private theorem endSession_run (h : s.tObj.conn.Consistent)
    (hidx : ∀ i, (s.tObj.conn.stable i).idx = i) {c : CSlot} {i : SSlot}
    (hmem : i ∈ s.tObj.conn.chain c) :
    endSession env hdr c i s =
      let tapp := (s.tObj.conn.stable i).tapp
      reply .closeSessionResp (hdr, skErrorSuccess)
        (s.after (s.tObj.conn.closeSession c i (env.timer s.clk) (env.tappUnload tapp).2) 1
          [.close tapp, .unload tapp]) := by
  generalize htapp : (s.tObj.conn.stable i).tapp = tapp
  let ready := (s.tObj.conn.touchContext c (env.timer s.clk)).setTapp i (env.tappUnload tapp).2
  let s₁ : Server := { s.after ready 1 [] with events := s.events ++ [.close tapp] ++ [.unload tapp] }
  have hs₁ : s₁ = s.after ready 1 [.close tapp, .unload tapp] := by simp [s₁, Server.after]
  have hidx' : (ready.stable i).idx = i := by
    simpa [ready, TApiConnectionTable.setTapp, TApiConnectionTable.touchContext] using hidx i
  have hremove : skSwldTapiRemoveSession c (some i) ready =
      .ok ((ready.stable i).next, ready.remove c i) :=
    skSwldTapiRemoveSession_run ((h.touchContext c _).setTapp i _) hmem
  rw [endSession, timer_bind_run, modifyConn_bind_run, get_bind_run, emit_bind_run, emit_bind_run,
    modifyConn_bind_run, get_bind_run]
  subst htapp
  refine (require_bind_of hidx' _ _ s₁).trans ?_
  rw [hs₁, bind_of_ok (onConn_of_ok hremove)]
  rfl

theorem serveCloseSession_run (h : s.tObj.conn.Consistent)
    (hcount : s.tObj.conn.numCtableElements ≤ skTapiMaxConnectionsPerContext)
    (hidx : ∀ i, (s.tObj.conn.stable i).idx = i) (contextHandle sessionHandle : Handle) :
    serveCloseSession env hdr contextHandle sessionHandle s =
      match s.tObj.conn.findObjects contextHandle sessionHandle with
      | .error e => .error e
      | .ok (.error err) =>
        if err = skErrorVerifyFailed then .ok (err, s) else answer .closeSessionResp (hdr, err) s
      | .ok (.ok (c, i)) =>
        let tapp := (s.tObj.conn.stable i).tapp
        answer .closeSessionResp (hdr, skErrorSuccess)
          (s.after (s.tObj.conn.closeSession c i (env.timer s.clk) (env.tappUnload tapp).2) 1
            [.close tapp, .unload tapp]) := by
  simp only [← reply_run]
  refine (findObjects_bind h hcount contextHandle sessionHandle _).trans ?_
  cases hfind : s.tObj.conn.findObjects contextHandle sessionHandle with
  | error e => rfl
  | ok r =>
    rcases r with err | ⟨c, i⟩
    · rcases TApiConnectionTable.findObjects_error hfind with rfl | rfl | rfl <;> rfl
    · exact endSession_run env hdr h hidx (TApiConnectionTable.findObjects_ok hfind).2.2.2.2

private theorem pullCommand_run (cmd : UInt32) (c : CSlot) (i : SSlot) (s : Server) :
    pullCommand env hdr cmd c i s =
      let tapp := (s.tObj.conn.stable i).tapp
      reply .invokeCommandResp (hdr, invokeReply (env.tappPull tapp cmd s.tObj.op))
        (s.after ((s.tObj.conn.touchContext c (env.timer s.clk)).touchSession i
          (env.timer (s.clk + 1))) 2 [.pull tapp cmd s.tObj.op]) := by
  let ready := (s.tObj.conn.touchContext c (env.timer s.clk)).touchSession i
    (env.timer (s.clk + 1))
  have htapp : (ready.stable i).tapp = (s.tObj.conn.stable i).tapp := by
    simp [ready, TApiConnectionTable.touchSession, TApiConnectionTable.touchContext]
  rw [pullCommand, timer_bind_run, modifyConn_bind_run, timer_bind_run, modifyConn_bind_run,
    get_bind_run, get_bind_run, emit_bind_run]
  change (if env.tappPull (ready.stable i).tapp cmd s.tObj.op ≠ skErrorSuccess then
      if env.tappPull (ready.stable i).tapp cmd s.tObj.op ≠ skErrorTimeout then
        reply .invokeCommandResp (hdr, skErrorTappCall)
      else reply .invokeCommandResp (hdr, skErrorTappTimeout)
    else reply .invokeCommandResp (hdr, skErrorSuccess) : ServerM SkStatus)
    (s.after ready 2 [.pull (ready.stable i).tapp cmd s.tObj.op]) = _
  rw [htapp]
  unfold invokeReply
  dsimp only
  split
  · split <;> rfl
  · rfl

theorem serveInvokeCommand_run (h : s.tObj.conn.Consistent)
    (hcount : s.tObj.conn.numCtableElements ≤ skTapiMaxConnectionsPerContext)
    (contextHandle sessionHandle : Handle) (cmd : UInt32) :
    serveInvokeCommand env hdr contextHandle sessionHandle cmd s =
      match s.tObj.conn.findObjects contextHandle sessionHandle with
      | .error e => .error e
      | .ok (.error err) =>
        if err = skErrorVerifyFailed then .ok (err, s) else answer .invokeCommandResp (hdr, err) s
      | .ok (.ok (c, i)) =>
        let tapp := (s.tObj.conn.stable i).tapp
        answer .invokeCommandResp (hdr, invokeReply (env.tappPull tapp cmd s.tObj.op))
          (s.after ((s.tObj.conn.touchContext c (env.timer s.clk)).touchSession i
            (env.timer (s.clk + 1))) 2 [.pull tapp cmd s.tObj.op]) := by
  simp only [← reply_run]
  refine (findObjects_bind h hcount contextHandle sessionHandle _).trans ?_
  cases hfind : s.tObj.conn.findObjects contextHandle sessionHandle with
  | error e => rfl
  | ok r =>
    rcases r with err | ⟨c, i⟩
    · rcases TApiConnectionTable.findObjects_error hfind with rfl | rfl | rfl <;> rfl
    · exact pullCommand_run env hdr cmd c i s

end Runs

end SkSdk
