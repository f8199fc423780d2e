import SkSdk.Swld.RequestOutcomes

/-!
The calls that a request makes to the TApp interface, and what it does to the
instances and the activity of the session slots: nothing, an opening, a closing
or a command passed on.
-/

namespace SkSdk
open ByteMemory FaultState DoublyLinked

namespace TableOp

variable (conn : TApiConnectionTable) (op : TableOp) (i : SSlot)

/-- The instances under each operation. -/
theorem tapp_apply : ((op.apply conn).stable i).tapp = match op with
    | openSession _ s _ _ _ _ tapp | closeSession _ s _ tapp =>
      if i = s then tapp else (conn.stable i).tapp
    | _ => (conn.stable i).tapp := by
  cases op with
  | touchSession s t => by_cases h : i = s <;> simp [apply, TApiConnectionTable.touchSession, h]
  | openSession c s handle t t' taid tapp =>
    exact conn.tapp_openSession c s i handle t t' taid tapp
  | closeSession c s t tapp =>
    by_cases h : i = s <;>
      simp [apply, TApiConnectionTable.closeSession, TApiConnectionTable.tapp_remove,
        TApiConnectionTable.setTapp, TApiConnectionTable.touchContext, h]
  | expireSession c s => exact conn.tapp_remove c s i
  | _ => rfl

/-- The activity of the sessions under each operation. -/
theorem sessionActive_apply : ((op.apply conn).stable i).active = match op with
    | openSession _ s _ _ _ _ _ => if i = s then true else (conn.stable i).active
    | closeSession _ s _ _ | expireSession _ s => if i = s then false else (conn.stable i).active
    | _ => (conn.stable i).active := by
  cases op with
  | touchSession s t => by_cases h : i = s <;> simp [apply, TApiConnectionTable.touchSession, h]
  | openSession c s handle t t' taid tapp =>
    exact conn.active_openSession c s i handle t t' taid tapp
  | closeSession c s t tapp =>
    by_cases h : i = s <;>
      simp [apply, TApiConnectionTable.closeSession, TApiConnectionTable.remove,
        TApiConnectionTable.setTapp, TApiConnectionTable.touchContext, h]
  | expireSession c s => by_cases h : i = s <;> simp [apply, TApiConnectionTable.remove, h]
  | _ => rfl

end TableOp

/-- A sweep leaves the instances where they are and starts no session. -/
theorem Performs.expires_tapp {conn conn' : TApiConnectionTable} {ops : List TableOp}
    (h : Performs conn ops conn') (hexpires : ∀ op ∈ ops, Expires op) (i : SSlot) :
    (conn'.stable i).tapp = (conn.stable i).tapp ∧
      ((conn'.stable i).active = true → (conn.stable i).active = true) := by
  induction h with
  | nil conn => exact ⟨rfl, id⟩
  | @cons conn _ op _ _ _ ih =>
    obtain ⟨htapp, hactive⟩ := ih fun op hop => hexpires op (List.mem_cons_of_mem _ hop)
    have hop : Expires op := hexpires op (List.mem_cons_self ..)
    refine ⟨htapp.trans ?_, fun hi => ?_⟩
    · rw [TableOp.tapp_apply]
      cases op <;> first | rfl | exact hop.elim
    · have hi := hactive hi
      rw [TableOp.sessionActive_apply] at hi
      cases op with
      | expireSession c s => by_cases h : i = s <;> simp_all
      | expireContext c => exact hi
      | _ => exact hop.elim

/-- The TApp that slot `i` holds. -/
abbrev Server.tapp (s : Server) (i : SSlot) : SkSwldTappInstance := (s.tObj.conn.stable i).tapp

abbrev Server.sessionActive (s : Server) (i : SSlot) : Bool := (s.tObj.conn.stable i).active

variable {cfg : Config} {req : Request} {s s' : Server} {status : SkStatus}

/-- The accepted request opens a session in slot `i`. -/
def OpensSlot (req : Request) (s : Server) (i : SSlot) : Prop :=
  Accepted s req .openSession ∧
  (∃ c, s.tObj.conn.findContext (openSessionHandle req) = some c ∧
    (s.tObj.conn.ctable c).active = true) ∧
  (firstFree fun j => (s.tObj.conn.stable j).active) = some i

theorem OpensSlot.free {i : SSlot} (h : OpensSlot req s i) : s.sessionActive i = false :=
  firstFree_some h.2.2

/-- A request that opens a session completes up to its calls, which are a load and
the first call of what was loaded. -/
theorem OpensSlot.completes (cfg : Config) (h : s.Sound) {i : SSlot} (ho : OpensSlot req s i) :
    ∃ status s' handle, handleRequest cfg req s = .ok (status, s') ∧
      s'.events = .generate handle :: loadEvents (openSessionTaid req) (loadResult req s i) := by
  obtain ⟨ha, ⟨c, hfind, hc⟩, hfree⟩ := ho
  have hroom := TApiConnectionTable.Represents.count_lt h.table (firstFree_some hfree) c
  rw [openSession_request cfg h ha hfind hc, if_neg (Nat.not_le.mpr hroom), hfree]
  exact ⟨_, _, _, rfl, rfl⟩

/-- What a completed request does with the TApps. -/
inductive TappServed (req : Request) (s s' : Server) : Prop
  | quiet : (∀ e ∈ s'.events, ∃ handle, e = .generate handle) → (∀ i, s'.tapp i = s.tapp i) →
      (∀ i, s'.sessionActive i = true → s.sessionActive i = true) →
      (∀ i, s.sessionActive i = true → s'.sessionActive i = false → Accepted s req .check) →
      TappServed req s s'
  | opened {i : SSlot} {handle : Handle} : OpensSlot req s i →
      (∀ j, s'.sessionActive j = if j = i then true else s.sessionActive j) →
      (∀ j, s'.tapp j = if j = i then (loadResult req s i).2 else s.tapp j) →
      s'.events = .generate handle :: loadEvents (openSessionTaid req) (loadResult req s i) →
      TappServed req s s'
  | closed {c : CSlot} {i : SSlot} : Accepted s req .closeSession →
      s.tObj.conn.findObjects (closeSessionHandles req).1 (closeSessionHandles req).2 =
        .ok (.ok (c, i)) →
      (∀ j, s'.sessionActive j = if j = i then false else s.sessionActive j) →
      (∀ j, s'.tapp j = if j = i then (req.env.tappUnload (s.tapp i)).2 else s.tapp j) →
      s'.events = [.close (s.tapp i), .unload (s.tapp i)] → TappServed req s s'
  | invoked {c : CSlot} {i : SSlot} {cmd : UInt32} {op : SkOperation} :
      Accepted s req .invokeCommand →
      s.tObj.conn.findObjects (invokeCommandMembers req).1 (invokeCommandMembers req).2.1 =
        .ok (.ok (c, i)) →
      (∀ j, s'.sessionActive j = s.sessionActive j) → (∀ j, s'.tapp j = s.tapp j) →
      s'.events = [.pull (s.tapp i) cmd op] → TappServed req s s'

/-- A request that leaves the session slots alone. -/
private theorem TappServed.of_stable (hevents : ∀ e ∈ s'.events, ∃ handle, e = .generate handle)
    (hstable : s'.tObj.conn.stable = s.tObj.conn.stable) : TappServed req s s' := by
  refine .quiet hevents (fun i => ?_) (fun i hi => ?_) fun i hi hi' => ?_
  · rw [Server.tapp, hstable]
  · rwa [Server.sessionActive, ← hstable]
  · rw [Server.sessionActive, hstable] at hi'
    exact absurd (hi.symm.trans hi') (by decide)

private theorem TappServed.of_outcome (h : s.Sound) {c : Command}
    {reply : Option c.respLayout.Fields} (ha : Accepted s req c)
    (ho : RequestOutcome cfg req s c s'.tObj.conn s'.events reply) : TappServed req s s' := by
  generalize hconn : s'.tObj.conn = conn at ho
  generalize hevents : s'.events = evs at ho
  have hquiet : evs = [] → conn.stable = s.tObj.conn.stable → TappServed req s s' := by
    intro hnil hstable
    exact .of_stable (by simp [hevents, hnil]) (by rw [hconn, hstable])
  cases ho with
  | contextOpened =>
    exact .of_stable (by simp [hevents]) (by rw [hconn]; rfl)
  | @sessionOpened c i hfind hc hfree =>
    refine .opened (i := i) ⟨ha, ⟨c, hfind, hc⟩, hfree⟩ (fun j => ?_) (fun j => ?_) hevents
    · rw [Server.sessionActive, hconn]
      exact s.tObj.conn.active_openSession c i j _ _ _ _ _
    · rw [Server.tapp, hconn]
      exact s.tObj.conn.tapp_openSession c i j _ _ _ _ _
  | @sessionClosed c i hfind =>
    refine .closed ha hfind (fun j => ?_) (fun j => ?_) hevents
    · rw [Server.sessionActive, hconn]
      exact TableOp.sessionActive_apply s.tObj.conn (.closeSession c i _ _) j
    · rw [Server.tapp, hconn]
      exact TableOp.tapp_apply s.tObj.conn (.closeSession c i _ _) j
  | @commandInvoked c i hfind =>
    refine .invoked ha hfind (fun j => ?_) (fun j => ?_) hevents
    · rw [Server.sessionActive, hconn]
      exact TableOp.sessionActive_apply (s.tObj.conn.touchContext c _) (.touchSession i _) j
    · rw [Server.tapp, hconn]
      exact TableOp.tapp_apply (s.tObj.conn.touchContext c _) (.touchSession i _) j
  | swept hsweep =>
    obtain ⟨ops, hops, hexpires, _⟩ := sweepContexts_performs cfg req.env h.table
      (List.nodup_finRange _) hsweep
    refine .quiet (by simp [hevents]) (fun i => ?_) (fun i hi => ?_) fun i _ _ => ha
    · rw [Server.tapp, hconn]
      exact (hops.expires_tapp hexpires i).1
    · rw [Server.sessionActive, hconn] at hi
      exact (hops.expires_tapp hexpires i).2 hi
  | _ => exact hquiet rfl rfl

theorem handleRequest_tapps (h : s.Sound) (hrun : handleRequest cfg req s = .ok (status, s')) :
    TappServed req s s' := by
  rcases handleRequest_handled h hrun with ⟨_, _, rfl⟩ | ⟨c, reply, hhandled⟩
  · exact .of_stable (by simp) rfl
  · exact .of_outcome h hhandled.accepted hhandled.outcome

/-- The accepted request closes the session in slot `i` or passes a command to it. -/
def Drives (req : Request) (s : Server) (i : SSlot) : Prop :=
  (Accepted s req .closeSession ∧ ∃ c,
    s.tObj.conn.findObjects (closeSessionHandles req).1 (closeSessionHandles req).2 =
      .ok (.ok (c, i))) ∨
  (Accepted s req .invokeCommand ∧ ∃ c,
    s.tObj.conn.findObjects (invokeCommandMembers req).1 (invokeCommandMembers req).2.1 =
      .ok (.ok (c, i)))

/-- A request that drives a session completes up to its calls. -/
theorem Drives.completes (cfg : Config) (h : s.Sound) {i : SSlot} (hd : Drives req s i) :
    ∃ status s', handleRequest cfg req s = .ok (status, s') := by
  have hr := h.receive req
  rcases hd with ⟨ha, c, hfind⟩ | ⟨ha, c, hfind⟩
  · have hserve : Command.closeSession.serve cfg req.env (req.decode .closeSessionReq)
        (receive req s) = serveCloseSession req.env (req.decode .closeSessionReq).1
          (closeSessionHandles req).1 (closeSessionHandles req).2 (receive req s) := rfl
    rw [handleRequest_of_accepted cfg h ha, hserve,
      serveCloseSession_run _ _ hr.table hr.room hr.slots, receive_conn, hfind]
    exact ⟨_, _, rfl⟩
  · have hserve : Command.invokeCommand.serve cfg req.env (req.decode .invokeCommandReq)
        (receive req s) = serveInvokeCommand req.env (req.decode .invokeCommandReq).1
          (invokeCommandMembers req).1 (invokeCommandMembers req).2.1
          (invokeCommandMembers req).2.2 (receive req s) := rfl
    rw [handleRequest_of_accepted cfg h ha, hserve, serveInvokeCommand_run _ _ hr.table hr.room,
      receive_conn, hfind]
    exact ⟨_, _, rfl⟩

/-- The calls of a request that drives a session are made on the session's TApp. -/
theorem Drives.events (h : s.Sound) {i : SSlot} (hd : Drives req s i)
    (hrun : handleRequest cfg req s = .ok (status, s')) :
    s'.events = [.close (s.tapp i), .unload (s.tapp i)] ∨
      ∃ cmd op, s'.events = [.pull (s.tapp i) cmd op] := by
  rcases handleRequest_handled h hrun with ⟨hnone, _⟩ | ⟨cmd, reply, ha, ho, _⟩
  · rcases hd with ⟨ha, _⟩ | ⟨ha, _⟩ <;> exact absurd ha (hnone _)
  generalize hconn : s'.tObj.conn = conn at ho
  generalize hevents : s'.events = evs at ho
  rcases hd with ⟨hacc, c, hfind⟩ | ⟨hacc, c, hfind⟩
  · obtain rfl := ha.unique hacc
    cases ho with
    | closeSessionUnresolved hfind' => simp [hfind'] at hfind
    | closeSessionUnattached hfind' => simp [hfind'] at hfind
    | sessionClosed hfind' =>
      rw [hfind'] at hfind
      cases hfind
      exact .inl rfl
    | memoryUnknown hcmd => exact absurd hcmd (by decide)
    | memoryStamped hcmd => exact absurd hcmd (by decide)
  · obtain rfl := ha.unique hacc
    cases ho with
    | invokeUnresolved hfind' => simp [hfind'] at hfind
    | invokeUnattached hfind' => simp [hfind'] at hfind
    | commandInvoked hfind' =>
      rw [hfind'] at hfind
      cases hfind
      exact .inr ⟨_, _, rfl⟩
    | memoryUnknown hcmd => exact absurd hcmd (by decide)
    | memoryStamped hcmd => exact absurd hcmd (by decide)

end SkSdk
