import SkSdk.Swld.TableStore

/-!
The server refines the store of its contexts and sessions, as long as no handle
is generated that a table already holds: every completed request is one
operation of the store, and its reply is the store's. What clients may conclude
from the replies they have seen is then proved of the store.
-/

namespace SkSdk
open ByteMemory FaultState DoublyLinked

/-! ## The requests on the store -/

def Command.all : List Command :=
  [.openContext, .closeContext, .openSession, .closeSession, .invokeCommand, .registerMemory,
    .unregisterMemory, .check]

/-- A request as one to the store. -/
def Command.storeRequest (req : Request) : Command → StoreRequest
  | openContext => .openContext (req.decode .openContextReq).2
  | closeContext => .closeContext (closeContextHandle req)
  | openSession => .openSession (openSessionHandle req) (openSessionTaid req)
  | closeSession => .closeSession (closeSessionHandles req).1 (closeSessionHandles req).2
  | invokeCommand => .invokeCommand (invokeCommandMembers req).1 (invokeCommandMembers req).2.1
      (invokeCommandMembers req).2.2
  | registerMemory | unregisterMemory => .memory
  | check => .check

/-- The members of a reply as the store's. -/
def Command.storeReply : (c : Command) → c.respLayout.Fields → StoreReply
  | openContext, (handle, status) | openSession, (handle, status) =>
    if status = skErrorSuccess then .opened handle else .status status
  | registerMemory, (_, _, status) => .status status
  | closeContext, status | closeSession, status | invokeCommand, status
  | unregisterMemory, status | check, status => .status status

/-- The store's reply to a request whose handler made `reply`, if any. -/
def Command.storeAnswer (c : Command) : Option c.respLayout.Fields → StoreReply
  | none => .silent
  | some w => c.storeReply w

/-- The command that the server accepts the request for, if any. -/
def acceptedCommand (s : Server) (req : Request) : Option Command :=
  (Command.ofCmd req.hdr.cmd).filter fun c => Accepted s req c

theorem acceptedCommand_eq_some {s : Server} {req : Request} {c : Command} :
    acceptedCommand s req = some c ↔ Accepted s req c := by
  rw [acceptedCommand, Option.filter_eq_some_iff]
  exact ⟨fun h => of_decide_eq_true h.2, fun h => ⟨h.command, decide_eq_true h⟩⟩

/-- What a step shows: the request, as far as it is for this server, and the
reply, if the process returned success. -/
def observe (y : ServerStep) : StoreRequest × StoreReply :=
  match acceptedCommand y.pre y.input with
  | none => (.ignored, .silent)
  | some c => (c.storeRequest y.input,
      if y.result = skErrorSuccess then
        c.storeReply (c.respLayout.format.get y.post.tObj.msend 0).2
      else .silent)

def Event.generated : Event → Option Handle
  | generate handle => some handle
  | _ => none

/-- The handles that a step generates are in no slot of the two tables, and the
send buffer holds every reply. -/
structure Fair (y : ServerStep) : Prop where
  fresh : ∀ handle ∈ y.post.events.filterMap Event.generated,
    (∀ c : CSlot, handleAt y.pre.tObj.conn.cthandles c ≠ handle) ∧
      ∀ i : SSlot, handleAt y.pre.tObj.conn.sthandles i ≠ handle
  fits : ∀ c : Command, c.respLayout.wireLength ≤ y.pre.tObj.maxMsendSize

instance (y : ServerStep) : Decidable (Fair y) :=
  decidable_of_iff ((y.post.events.filterMap Event.generated).all (fun handle =>
      (∀ c : CSlot, handleAt y.pre.tObj.conn.cthandles c ≠ handle) ∧
        ∀ i : SSlot, handleAt y.pre.tObj.conn.sthandles i ≠ handle) = true ∧
      ∀ c ∈ Command.all, c.respLayout.wireLength ≤ y.pre.tObj.maxMsendSize)
    ⟨fun h => ⟨fun handle hmem => of_decide_eq_true (List.all_eq_true.mp h.1 handle hmem),
        fun c => h.2 c (by cases c <;> decide)⟩,
      fun h => ⟨List.all_eq_true.mpr fun handle hmem => decide_eq_true (h.fresh handle hmem),
        fun c _ => h.fits c⟩⟩

section Requests

variable {cfg : Config} {req : Request} {s s' : Server}

/-- The reply to a session that has been entered, whether or not its TApp runs. -/
theorem openSessionReply_store (env : Env) (stale handle : Handle) (err : SkStatus)
    (tapp : SkSwldTappInstance) :
    Command.openSession.storeReply (openSessionReply env stale handle err tapp) = .opened handle ∨
      ∃ status ∈ SessionStore.openFailures,
        Command.openSession.storeReply (openSessionReply env stale handle err tapp) =
          .status status := by
  unfold openSessionReply
  split
  · exact .inr ⟨skErrorTappLoad, by decide, rfl⟩
  split
  · split
    · exact .inr ⟨skErrorTappCall, by decide, rfl⟩
    · exact .inr ⟨skErrorTappTimeout, by decide, rfl⟩
  · exact .inl rfl

private theorem invokeReply_mem (err : SkStatus) :
    invokeReply err ∈ [skErrorSuccess, skErrorTappCall, skErrorTappTimeout] := by
  unfold invokeReply
  split
  · split <;> decide
  · decide

/-- Every outcome of a request is one operation of the store. -/
theorem RequestOutcome.next (h : s.Sound) (hd : s.tObj.conn.HandlesDistinct) {c : Command}
    {conn : TApiConnectionTable} {evs : List Event} {reply : Option c.respLayout.Fields}
    (houtcome : RequestOutcome cfg req s c conn evs reply)
    (hfresh : ∀ handle ∈ evs.filterMap Event.generated,
      (∀ c : CSlot, handleAt s.tObj.conn.cthandles c ≠ handle) ∧
        ∀ i : SSlot, handleAt s.tObj.conn.sthandles i ≠ handle) :
    conn.HandlesDistinct ∧ SessionStore.Next s.tObj.contextId s.tObj.conn.store
      (c.storeRequest req, c.storeAnswer reply) conn.store := by
  have ht := h.table
  cases houtcome with
  | contextMisaddressed hid => exact ⟨hd, .contextMisaddressed hid⟩
  | contextsFull hid hfull => exact ⟨hd, hid ▸ .contextsFull hfull⟩
  | @contextOpened c hid hroom hfree =>
    have hnew := (hfresh _ (List.mem_singleton_self _)).1
    refine ⟨hd.apply (.openContext ..) hnew, ?_⟩
    rw [TApiConnectionTable.store_openContext ht hd _ (firstFree_some hfree) hnew]
    exact hid ▸ .contextOpened hroom (TApiConnectionTable.store_contexts_none fun c _ => hnew c)
  | closeContextUnknown hfind => exact ⟨hd, .closeUnknown (TApiConnectionTable.store_unknown hfind)⟩
  | @contextClosed c hfind hc hempty hcount =>
    have hcontext := TApiConnectionTable.store_found hd hfind hc
    rw [TApiConnectionTable.sessionsOf, hempty] at hcontext
    refine ⟨hd.apply (.closeContext c) trivial, ?_⟩
    rw [TApiConnectionTable.store_closeContext ht hd hc hempty, lookup_some hfind]
    exact .contextClosed hcontext hcount
  | @contextCountedOut c hfind hc hchain hcount =>
    refine ⟨hd.apply .countOut trivial, ?_⟩
    rw [TApiConnectionTable.store_countOut ht]
    refine .contextCountedOut (TApiConnectionTable.store_found hd hfind hc) ?_ hcount
    rwa [TApiConnectionTable.sessionsOf, Ne, List.map_eq_nil_iff]
  | openSessionUnknown hfind =>
    exact ⟨hd, .openSessionUnknown (TApiConnectionTable.store_unknown hfind)⟩
  | @sessionsFull c hfind hc hfull =>
    refine ⟨hd, .sessionsFull (TApiConnectionTable.store_found hd hfind hc) ?_⟩
    rw [TApiConnectionTable.sessionsOf, List.length_map, ← ht.count]
    exact hfull
  | @sessionOpened c i hfind hc hfree =>
    have hnew := (hfresh _ (List.mem_cons_self ..)).2
    refine ⟨hd.apply (.openSession ..) hnew, ?_⟩
    rw [TApiConnectionTable.store_openSession ht hd _ _ _ _ hc (firstFree_some hfree) hnew,
      lookup_some hfind]
    refine .sessionOpened (x := ⟨_, _, _⟩) (TApiConnectionTable.store_found hd hfind hc) ?_
      (openSessionReply_store ..)
    intro hissued
    obtain ⟨i', _, hi'⟩ := (TApiConnectionTable.issued_iff hd ht).mp hissued
    exact hnew i' hi'
  | closeSessionUnresolved hfind herr =>
    have hunresolved := TApiConnectionTable.store_unresolved ht hd hfind
    rw [TApiConnectionTable.unresolvedReply, if_neg herr] at hunresolved
    exact ⟨hd, .closeUnresolved hunresolved⟩
  | closeSessionUnattached hfind =>
    exact ⟨hd, .closeUnresolved (TApiConnectionTable.store_unresolved ht hd hfind)⟩
  | @sessionClosed c i hfind =>
    obtain ⟨hcontext, hmem, hhandle, hsession⟩ := TApiConnectionTable.store_resolved hd hfind
    refine ⟨hd.apply (.closeSession ..) trivial, ?_⟩
    rw [TApiConnectionTable.store_closeSession ht hd _ _
      (TApiConnectionTable.findObjects_ok hfind).2.2.2.2, hhandle, Command.storeRequest, ← hsession]
    exact .sessionClosed hcontext hmem
  | invokeUnresolved hfind herr =>
    have hunresolved := TApiConnectionTable.store_unresolved ht hd hfind
    rw [TApiConnectionTable.unresolvedReply, if_neg herr] at hunresolved
    exact ⟨hd, .invokeUnresolved hunresolved⟩
  | invokeUnattached hfind =>
    exact ⟨hd, .invokeUnresolved (TApiConnectionTable.store_unresolved ht hd hfind)⟩
  | @commandInvoked c i hfind =>
    obtain ⟨hcontext, hmem, _, hsession⟩ := TApiConnectionTable.store_resolved hd hfind
    have ht' : (s.tObj.conn.touchContext c (req.env.timer 0)).Consistent :=
      TableOp.consistent_apply ht (show TableOp.Enabled _ (.touchContext c _) from trivial)
    have hd' : (s.tObj.conn.touchContext c (req.env.timer 0)).HandlesDistinct :=
      hd.apply (.touchContext c _) trivial
    refine ⟨hd'.apply (.touchSession i _) trivial, ?_⟩
    rw [TApiConnectionTable.store_touchSession ht', TApiConnectionTable.store_touchContext ht,
      Command.storeRequest, ← hsession]
    exact .commandInvoked hcontext hmem (invokeReply_mem _)
  | memoryUnknown hcmd => rcases hcmd with rfl | rfl <;> exact ⟨hd, .memory⟩
  | @memoryStamped _ c reply hcmd =>
    refine ⟨hd.apply (.touchContext c _) trivial, ?_⟩
    rw [TApiConnectionTable.store_touchContext ht]
    rcases hcmd with rfl | rfl <;> exact .memory
  | swept hsweep =>
    obtain ⟨ops, hops, hexpires, _⟩ :=
      sweepContexts_performs cfg req.env ht (List.nodup_finRange _) hsweep
    obtain ⟨hd', hwithin, hcounted⟩ := TApiConnectionTable.store_swept ht hd hops hexpires
    exact ⟨hd', .swept hwithin hcounted⟩

variable {status : SkStatus}

/-- What a step shows of a request that was not for this server. -/
theorem observe_refused (h : ∀ c, ¬ Accepted s req c) :
    observe ⟨req, s, status, s'⟩ = (.ignored, .silent) := by
  have hnone : acceptedCommand s req = none :=
    Option.eq_none_iff_forall_ne_some.mpr fun c hc => h c (acceptedCommand_eq_some.mp hc)
  rw [observe]
  simp only [hnone]

/-- What a step shows is the request and the reply of its outcome. -/
theorem observe_handled (h : s.Sound) (hrun : handleRequest cfg req s = .ok (status, s'))
    {c : Command} {reply : Option c.respLayout.Fields} (hc : Handled cfg req s status s' c reply)
    (hfits : c.respLayout.wireLength ≤ s.tObj.maxMsendSize) :
    observe ⟨req, s, status, s'⟩ = (c.storeRequest req, c.storeAnswer reply) := by
  have hfit : c.respLayout.wireLength ≤ s'.tObj.maxMsendSize :=
    (handleRequest_object h hrun).2 ▸ hfits
  have hconcludes := hc.concludes
  rw [observe]
  simp only [acceptedCommand_eq_some.mpr hc.accepted]
  cases reply with
  | none =>
    rw [if_neg (show status ≠ skErrorSuccess from hconcludes ▸ c.errOf_ne)]
    rfl
  | some w =>
    rw [Concludes] at hconcludes
    simp only [if_pos hfit] at hconcludes
    rw [if_pos hconcludes.success, hconcludes.reply]
    rfl

/-- A completed request is the operation of the store that it shows. -/
theorem handleRequest_next (h : s.Sound) (hd : s.tObj.conn.HandlesDistinct)
    (hrun : handleRequest cfg req s = .ok (status, s')) (hfair : Fair ⟨req, s, status, s'⟩) :
    s'.tObj.conn.HandlesDistinct ∧ SessionStore.Next s.tObj.contextId s.tObj.conn.store
      (observe ⟨req, s, status, s'⟩) s'.tObj.conn.store := by
  rcases handleRequest_handled h hrun with ⟨hrefused, _, rfl⟩ | ⟨c, reply, hc⟩
  · rw [observe_refused hrefused]
    exact ⟨hd, .ignored⟩
  · rw [observe_handled h hrun hc (hfair.fits c)]
    exact hc.outcome.next h hd hfair.fresh

end Requests

/-! ## Runs -/

variable {cfg : Config} {tr before mid : List ServerStep} {s : Server}

theorem TApiConnectionTable.init_store : TApiConnectionTable.init.store = SessionStore.empty :=
  SessionStore.ext (funext fun _ => store_contexts_none fun _ hc => absurd hc (by simp [init])) rfl

/-- In a run in which no generated handle is in a table already, the handles stay
distinct and every step is the operation of the store that it shows. -/
theorem ServerRun.simulates (h : ServerRun cfg tr s) (hfair : ∀ y ∈ tr, Fair y) :
    s.tObj.conn.HandlesDistinct ∧
      SessionStore.StorePath s.tObj.contextId (tr.map observe) s.tObj.conn.store := by
  obtain ⟨s₀, h₀, hrun⟩ := h
  let I : Server → Prop := fun s =>
    s.Sound ∧ s.tObj.conn.HandlesDistinct ∧ s.tObj.contextId = s₀.tObj.contextId
  have hdistinct : s₀.tObj.conn.HandlesDistinct := by
    rw [h₀.conn]
    exact ⟨fun _ _ hc _ => absurd hc (by simp [TApiConnectionTable.init]),
      fun _ _ hi _ => absurd hi (by simp [TApiConnectionTable.init])⟩
  have hsim : ∀ y : ServerStep, I y.pre →
      handleRequest cfg y.input y.pre = .ok (y.result, y.post) → Fair y →
      I y.post ∧ SessionStore.Next s₀.tObj.contextId y.pre.tObj.conn.store (observe y)
        y.post.tObj.conn.store := by
    rintro y hI hstep hy
    obtain ⟨hs, hd, hid⟩ := hI
    obtain ⟨hd', hnext⟩ := handleRequest_next hs hd hstep hy
    rw [hid] at hnext
    exact ⟨⟨handleRequest_sound hs hstep, hd', (handleRequest_object hs hstep).1.trans hid⟩, hnext⟩
  obtain ⟨⟨_, hd, hid⟩, hpath⟩ := hrun.refines Fair hfair I ⟨h₀.sound, hdistinct, rfl⟩
    (fun s => s.tObj.conn.store) observe (SessionStore.Next s₀.tObj.contextId) hsim
  rw [h₀.conn, TApiConnectionTable.init_store] at hpath
  rw [hid]
  exact ⟨hd, hpath⟩

/-- A run in which no generated handle is in a table already is a path of the
store under the requests and replies it shows. -/
theorem server_refines_store (h : ServerRun cfg tr s) (hfair : ∀ y ∈ tr, Fair y) :
    SessionStore.StorePath s.tObj.contextId (tr.map observe) s.tObj.conn.store :=
  (h.simulates hfair).2

/-- An executed list of requests that shows `ls` under fair conditions. -/
theorem exists_fair_run (cfg : Config) (reqs : List Request) (ls : List (StoreRequest × StoreReply))
    (h : (execute (handleRequest cfg) reqs (sampleServer 64)).any (fun r =>
      (∀ y ∈ r.1, Fair y) ∧ r.1.map observe = ls ∧ r.2.tObj.contextId = 1) = true) :
    ∃ tr s, ServerRun cfg tr s ∧ tr.map Step.input = reqs ∧ (∀ y ∈ tr, Fair y) ∧
      tr.map observe = ls ∧ s.tObj.contextId = 1 := by
  obtain ⟨tr, s, hrun, hinputs, hshown⟩ := exists_run_of_execute (handleRequest cfg) (sampleServer 64)
    reqs (fun tr s => (∀ y ∈ tr, Fair y) ∧ tr.map observe = ls ∧ s.tObj.contextId = 1) h
  exact ⟨tr, s, ⟨_, sampleServer_started 64, hrun⟩, hinputs, hshown⟩

/-- A context and a session opened, and a command. -/
def sampleLabels : List (StoreRequest × StoreReply) :=
  [(.openContext 1, .opened fun _ => 5), (.openSession (fun _ => 5) fun _ => 9, .opened fun _ => 7),
    (.invokeCommand (fun _ => 5) (fun _ => 7) 3, .status skErrorSuccess)]

theorem server_refines_store_invoked :
    ∃ tr s, ServerRun sampleConfig tr s ∧ tr.map observe = sampleLabels ∧
      SessionStore.StorePath 1 sampleLabels s.tObj.conn.store := by
  obtain ⟨tr, s, hrun, _, hfair, hls, hid⟩ := exists_fair_run sampleConfig
    [sampleOpenContext, sampleOpenSession, sampleInvokeCommand] sampleLabels
    (by decide +kernel)
  have hpath := server_refines_store hrun hfair
  rw [hls, hid] at hpath
  exact ⟨tr, s, hrun, hls, hpath⟩

variable {o y : ServerStep} {context session : Handle} {taid : SkTaid}

/-- Once an open_session request has been answered with a handle, commands for
that session reach it, whatever else is requested, until it is closed or a sweep
is requested. -/
theorem opened_session_persists (h : ServerRun cfg (before ++ o :: (mid ++ [y])) s)
    (hfair : ∀ z ∈ before ++ o :: (mid ++ [y]), Fair z)
    (ho : observe o = (.openSession context taid, .opened session))
    (hmid : ∀ z ∈ mid, SessionStore.Spares context session (observe z)) {cmd : UInt32}
    (hy : (observe y).1 = .invokeCommand context session cmd) :
    ∃ err ∈ SessionStore.invokeReplies, (observe y).2 = .status err := by
  obtain ⟨_, σ, _, hopen, hrest⟩ := (h.simulates hfair).2.split (List.map_append ..)
  rw [List.map_append] at hrest
  obtain ⟨σ', _, hkept, hinvoke, _⟩ := hrest.split rfl
  rw [ho] at hopen
  have hholds : σ'.Holds context session :=
    hkept.preserves (List.forall_mem_map.mpr hmid) (·.Holds context session) hopen.opened
      fun _ _ _ hl hx hnext => hnext.holds hl hx
  exact hinvoke.invoked hy hholds

theorem opened_session_persists_invoked : ∃ y : ServerStep,
    (observe y).1 = .invokeCommand (fun _ => 5) (fun _ => 7) 3 ∧
      ∃ err ∈ SessionStore.invokeReplies, (observe y).2 = .status err := by
  obtain ⟨tr, s, hrun, _, hfair, hls, _⟩ := exists_fair_run sampleConfig
    [sampleOpenContext, sampleOpenSession, sampleInvokeCommand, sampleInvokeCommand]
    (sampleLabels ++ [(.invokeCommand (fun _ => 5) (fun _ => 7) 3, .status skErrorSuccess)])
    (by decide +kernel)
  obtain ⟨a, tr, rfl, _, hls⟩ := List.map_eq_cons_iff.mp hls
  obtain ⟨o, tr, rfl, ho, hls⟩ := List.map_eq_cons_iff.mp hls
  obtain ⟨z, tr, rfl, hz, hls⟩ := List.map_eq_cons_iff.mp hls
  obtain ⟨y, tr, rfl, hy, hls⟩ := List.map_eq_cons_iff.mp hls
  obtain rfl := List.map_eq_nil_iff.mp hls
  refine ⟨y, congrArg Prod.fst hy, ?_⟩
  have hspares : ∀ z' ∈ [z], SessionStore.Spares (fun _ => 5) (fun _ => 7) (observe z') := by
    intro z' hz'
    rw [List.mem_singleton.mp hz', hz]
    exact ⟨by decide, by decide⟩
  exact opened_session_persists (show ServerRun _ ([a] ++ o :: ([z] ++ [y])) s from hrun) hfair ho
    hspares (congrArg Prod.fst hy)

/-- Once a close_session request has succeeded, requests that name the session and
complete are told that it is not there, until a session is opened under the same
handle or under one that the client is not told. -/
theorem closed_session_unknown (h : ServerRun cfg (before ++ o :: (mid ++ [y])) s)
    (hfair : ∀ z ∈ before ++ o :: (mid ++ [y]), Fair z)
    (ho : observe o = (.closeSession context session, .status skErrorSuccess))
    (hmid : ∀ z ∈ mid, SessionStore.Withholds session (observe z))
    (hy : (observe y).1.session = some session) :
    ∃ err ∈ SessionStore.notFound, (observe y).2 = .status err := by
  obtain ⟨_, σ, hpath, hclose, hrest⟩ := (h.simulates hfair).2.split (List.map_append ..)
  rw [List.map_append] at hrest
  obtain ⟨σ', _, hkept, hlast, _⟩ := hrest.split rfl
  rw [ho] at hclose
  have hnot : ¬ σ'.Issued session :=
    hkept.preserves (List.forall_mem_map.mpr hmid) (fun σ => ¬ σ.Issued session)
      (hclose.closed (SessionStore.StorePath.unshared hpath))
      fun _ _ _ hl hx hnext => hnext.not_issued hl hx
  exact hlast.unknown hy hnot

/-- The next session takes the slot; before that, the stale handle stops the server. -/
theorem closed_session_unknown_invoked : ∃ y : ServerStep,
    (observe y).1 = .invokeCommand (fun _ => 5) (fun _ => 7) 3 ∧
      ∃ err ∈ SessionStore.notFound, (observe y).2 = .status err := by
  let again : Request := { sampleOpenSession with env := sampleEnv 6 }
  obtain ⟨tr, s, hrun, _, hfair, hls, _⟩ := exists_fair_run sampleConfig
    [sampleOpenContext, sampleOpenSession, sampleInvokeCommand, sampleCloseSession, again,
      sampleInvokeCommand]
    (sampleLabels ++ [(.closeSession (fun _ => 5) fun _ => 7, .status skErrorSuccess),
      (.openSession (fun _ => 5) fun _ => 9, .opened fun _ => 1),
      (.invokeCommand (fun _ => 5) (fun _ => 7) 3, .status skErrorSessionHandleNotFound)])
    (by decide +kernel)
  obtain ⟨before, tr, rfl, _, hls⟩ := List.map_eq_append_iff.mp hls
  obtain ⟨o, tr, rfl, ho, hls⟩ := List.map_eq_cons_iff.mp hls
  obtain ⟨z, tr, rfl, hz, hls⟩ := List.map_eq_cons_iff.mp hls
  obtain ⟨y, tr, rfl, hy, hls⟩ := List.map_eq_cons_iff.mp hls
  obtain rfl := List.map_eq_nil_iff.mp hls
  refine ⟨y, congrArg Prod.fst hy, ?_⟩
  have hwithholds : ∀ z' ∈ [z], SessionStore.Withholds (fun _ => 7) (observe z') := by
    intro z' hz' context taid _
    rw [List.mem_singleton.mp hz', hz]
    exact ⟨by decide, fun _ _ => nofun⟩
  exact closed_session_unknown (show ServerRun _ (before ++ o :: ([z] ++ [y])) s from hrun) hfair ho
    hwithholds (congrArg (fun l => l.1.session) hy)

/-- An open_context request is refused for want of room exactly if, going by the
replies, as many more contexts have been opened than closed as there are slots;
otherwise it is granted. More are never closed than opened. -/
theorem context_admission (h : ServerRun cfg (before ++ [y]) s)
    (hfair : ∀ z ∈ before ++ [y], Fair z) (hy : (observe y).1 = .openContext s.tObj.contextId) :
    let opened := (before.map observe).countP SessionStore.opensContext
    let closed := (before.map observe).countP SessionStore.closesContext
    closed ≤ opened ∧
      ((observe y).2 = .status skErrorOpenContext ↔
        skTapiMaxConnectionsPerContext ≤ opened - closed) ∧
      (opened - closed < skTapiMaxConnectionsPerContext →
        ∃ handle, (observe y).2 = .opened handle) := by
  intro opened closed
  obtain ⟨σ, _, hpath, hlast, _⟩ := (h.simulates hfair).2.split (List.map_append ..)
  have hcounted : σ.counted + closed = opened := SessionStore.StorePath.counted hpath
  have hdiff : opened - closed = σ.counted := by omega
  rw [hdiff]
  exact ⟨by omega, hlast.admitted hy⟩

/-- A second context, after the first has been closed. -/
theorem context_admission_reopened : ∃ y : ServerStep, ∃ handle,
    (observe y).1 = .openContext 1 ∧ (observe y).2 = .opened handle := by
  let again : Request := { sampleOpenContext with env := sampleEnv 6 }
  obtain ⟨tr, s, hrun, _, hfair, hls, hid⟩ := exists_fair_run sampleConfig
    [sampleOpenContext, sampleCloseContext, again]
    [(.openContext 1, .opened fun _ => 5),
      (.closeContext fun _ => 5, .status skErrorSuccess), (.openContext 1, .opened fun _ => 3)]
    (by decide +kernel)
  obtain ⟨a, tr, rfl, ha, hls⟩ := List.map_eq_cons_iff.mp hls
  obtain ⟨b, tr, rfl, hb, hls⟩ := List.map_eq_cons_iff.mp hls
  obtain ⟨y, tr, rfl, hy, hls⟩ := List.map_eq_cons_iff.mp hls
  obtain rfl := List.map_eq_nil_iff.mp hls
  have hrequest : (observe y).1 = .openContext 1 := congrArg Prod.fst hy
  obtain ⟨_, _, hgranted⟩ :=
    context_admission (show ServerRun _ ([a, b] ++ [y]) s from hrun) hfair
      (hrequest.trans (by rw [hid]))
  rw [List.map_cons, List.map_cons, List.map_nil, ha, hb] at hgranted
  obtain ⟨handle, hopened⟩ := hgranted (by decide)
  exact ⟨y, handle, hrequest, hopened⟩

end SkSdk
