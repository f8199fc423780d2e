import SkSdk.Swld.ServerInvariant

/-!
Sessions and the history of a run. Every session that is on a chain was put
there by an open_session request of the run, and that request can be named from
the handles and the TApp that the table holds for the session now.
-/

namespace SkSdk
open ByteMemory FaultState DoublyLinked

/-- The TApp that a call drives or ends. -/
def Event.operatesOn : Event → Option SkSwldTappInstance
  | pull tapp _ _ | close tapp | unload tapp => some tapp
  | generate _ | load _ _ _ | init _ => none

/-- The two handles of a request that names a session. -/
inductive Presents (req : Request) : Handle → Handle → Prop
  | closeSession (hcmd : Command.ofCmd req.hdr.cmd = some .closeSession) :
      Presents req (req.decode .closeSessionReq).2.1 (req.decode .closeSessionReq).2.2
  | invokeCommand (hcmd : Command.ofCmd req.hdr.cmd = some .invokeCommand) :
      Presents req (req.decode .invokeCommandReq).2.1 (req.decode .invokeCommandReq).2.2.1

/-- The open_session request `o` presented `contextHandle`, took the free slot
`i`, issued `sessionHandle` for it and stored `tapp` there. -/
structure Opens (o : ServerStep) (contextHandle sessionHandle : Handle) (i : SSlot)
    (tapp : SkSwldTappInstance) : Prop where
  command : Command.ofCmd o.input.hdr.cmd = some .openSession
  presents : (o.input.decode .openSessionReq).2.1 = contextHandle
  free : (o.pre.tObj.conn.stable i).active = false
  active : (o.post.tObj.conn.stable i).active = true
  issued : handleAt o.post.tObj.conn.sthandles i = sessionHandle
  stored : (o.post.tObj.conn.stable i).tapp = tapp
  loaded : ∃ taid err, Event.load taid err tapp ∈ o.post.events

/-- Session `i` was opened in `tr` and has been active ever since. -/
def OpenedIn (tr : List ServerStep) (contextHandle sessionHandle : Handle) (i : SSlot)
    (tapp : SkSwldTappInstance) : Prop :=
  ∃ b₁ o b₂, tr = b₁ ++ o :: b₂ ∧ Opens o contextHandle sessionHandle i tapp ∧
    ∀ y ∈ b₂, (y.post.tObj.conn.stable i).active = true

theorem OpenedIn.snoc {tr : List ServerStep} {contextHandle sessionHandle : Handle} {i : SSlot}
    {tapp : SkSwldTappInstance} (h : OpenedIn tr contextHandle sessionHandle i tapp)
    {x : ServerStep} (hx : (x.post.tObj.conn.stable i).active = true) :
    OpenedIn (tr ++ [x]) contextHandle sessionHandle i tapp := by
  obtain ⟨b₁, o, b₂, rfl, hopens, hactive⟩ := h
  refine ⟨b₁, o, b₂ ++ [x], by simp, hopens, fun y hy => ?_⟩
  rcases List.mem_append.mp hy with hy | hy
  · exact hactive y hy
  · rw [List.mem_singleton.mp hy]
    exact hx

/-- Every session has its opening in the history. -/
def Recorded (tr : List ServerStep) (s : Server) : Prop :=
  ∀ c, ∀ i ∈ s.tObj.conn.chain c,
    OpenedIn tr (handleAt s.tObj.conn.cthandles c) (handleAt s.tObj.conn.sthandles i) i
      (s.tObj.conn.stable i).tapp

variable {cfg : Config} {req : Request} {s s' : Server} {status : SkStatus}
  {tr : List ServerStep}

/-- Operations that open no session keep the record. -/
private theorem recorded_of_kept (hrec : Recorded tr s) (hs : s.Sound) {ops : List TableOp}
    {conn : TApiConnectionTable} (hops : Performs s.tObj.conn ops conn)
    (hnew : ∀ op ∈ ops, ∀ c i handle t t' taid tapp,
      op ≠ .openSession c i handle t t' taid tapp)
    {x : ServerStep} (hx : x.post.tObj.conn = conn) : Recorded (tr ++ [x]) x.post := by
  intro c i hi
  have hactive := (hops.consistent hs.table).mem_active (hx ▸ hi)
  obtain ⟨hmem, htapp, hsession, hcontext⟩ := hops.kept hs.table (c := c) (i := i)
    (fun op hop c' => hnew op hop c' i) (hx ▸ hi)
  rw [hx, htapp, hsession, hcontext]
  exact (hrec c i hmem).snoc (hx ▸ hactive)

/-- The operation of an open_session request records the session it opens. -/
private theorem recorded_of_opened (hrec : Recorded tr s) (hs : s.Sound) {x : ServerStep}
    (hcmd : Command.ofCmd x.input.hdr.cmd = some .openSession) (hpre : x.pre.tObj.conn = s.tObj.conn)
    {c : CSlot} {i : SSlot} {handle : Handle} {t t' : UInt32} {taid : SkTaid}
    {loaded : SkStatus × SkSwldTappInstance}
    (hfind : s.tObj.conn.findContext (x.input.decode .openSessionReq).2.1 = some c)
    (hc : (s.tObj.conn.ctable c).active = true) (hi : (s.tObj.conn.stable i).active = false)
    (hx : x.post.tObj.conn = s.tObj.conn.openSession c i handle t t' taid loaded.2)
    (hevents : x.post.events = .generate handle :: loadEvents taid loaded) :
    Recorded (tr ++ [x]) x.post := by
  let op : TableOp := .openSession c i handle t t' taid loaded.2
  have hop : op.Enabled s.tObj.conn := ⟨hc, hi⟩
  have happly : op.apply s.tObj.conn = x.post.tObj.conn := hx.symm
  have hops : Performs s.tObj.conn [op] x.post.tObj.conn := happly ▸ .single hop
  have hrep : x.post.tObj.conn.Consistent := hops.consistent hs.table
  intro c' j hj
  by_cases hji : j = i
  · subst hji
    have hchain := congrFun (TableOp.chain_apply hs.table hop) c'
    have hcc : c' = c := by
      by_contra hne
      have hmem : j ∈ s.tObj.conn.chain c' := by
        have hj' : j ∈ (op.apply s.tObj.conn).chain c' := happly ▸ hj
        rw [hchain] at hj'
        simpa [op, TableOp.applyChains, hne] using hj'
      exact absurd (hs.table.mem_active hmem) (by simp [hi])
    subst hcc
    refine ⟨tr, x, [], rfl, ⟨hcmd, ?_, by rw [hpre]; exact hi, hrep.mem_active hj, rfl, rfl, ?_⟩,
      by simp⟩
    · have hkept := TableOp.cthandles_apply hop hc
      rw [hx]
      exact ((lookup_some hfind).symm.trans hkept.symm)
    · have htapp : (x.post.tObj.conn.stable j).tapp = loaded.2 := by
        rw [hx, TApiConnectionTable.tapp_openSession, if_pos rfl]
      rw [htapp, hevents]
      exact ⟨taid, loaded.1, by simp [loadEvents]⟩
  · have hnew : ∀ c' handle t t' taid tapp, op ≠ .openSession c' j handle t t' taid tapp := by
      intro _ _ _ _ _ _ he
      simp only [op, TableOp.openSession.injEq] at he
      exact hji he.2.1.symm
    have hactive := hrep.mem_active hj
    obtain ⟨hmem, htapp, hsession, hcontext⟩ := TableOp.kept hs.table hop hnew (happly ▸ hj)
    rw [hx]
    change OpenedIn _ (handleAt (op.apply s.tObj.conn).cthandles c')
      (handleAt (op.apply s.tObj.conn).sthandles j) j ((op.apply s.tObj.conn).stable j).tapp
    rw [htapp, hsession, hcontext]
    exact (hrec c' j hmem).snoc hactive

private theorem recorded_step (hrec : Recorded tr s) (hs : s.Sound)
    (hrun : handleRequest cfg req s = .ok (status, s')) :
    Recorded (tr ++ [⟨req, s, status, s'⟩]) s' := by
  rcases handleRequest_outcome hs hrun with rfl | ⟨cmd, hacc, hserved⟩
  · exact recorded_of_kept hrec hs (.nil _) (by simp) (x := ⟨req, s, status, receive req s⟩) rfl
  · obtain ⟨ops, evs, heffect, hops, hevents⟩ := hserved.effect
    rw [receive_events, List.nil_append] at hevents
    generalize hv : req.decode cmd.reqLayout = v at heffect
    have hkept : (∀ op ∈ ops, ∀ c i handle t t' taid tapp,
        op ≠ .openSession c i handle t t' taid tapp) →
        Recorded (tr ++ [⟨req, s, status, s'⟩]) s' := fun hnew =>
      recorded_of_kept hrec hs hops hnew (x := ⟨req, s, status, s'⟩) rfl
    cases heffect with
    | openSession hfind hc hi =>
      refine recorded_of_opened hrec hs (x := ⟨req, s, status, s'⟩) hacc.command rfl ?_ hc hi
        hops.of_single.2 hevents
      rw [hv]
      exact hfind
    | check _ hexpires _ =>
      refine hkept fun op hop c i handle t t' taid tapp he => ?_
      exact (he ▸ hexpires op hop : Expires (.openSession c i handle t t' taid tapp))
    | _ => exact hkept (by simp)

private theorem recorded_of_run {s₀ : Server} (h₀ : Started s₀)
    (hrun : Run (handleRequest cfg) s₀ tr s) : s.Sound ∧ Recorded tr s := by
  refine hrun.invariant_of (fun _ => True) (fun _ _ => trivial)
    (fun tr s => s.Sound ∧ Recorded tr s) ⟨h₀.sound, ?_⟩ ?_
  · intro c i hi
    have hactive := h₀.sound.table.mem_active hi
    have hinit := h₀.conn
    simp [hinit, TApiConnectionTable.init] at hactive
  · intro tr s req status s' hinv hstep _
    exact ⟨handleRequest_sound hinv.1 hstep, recorded_step hinv.2 hinv.1 hstep⟩

/-! ## Isolation -/

/-- Chain, session count and active flag of a context are the same in both tables. -/
def Untouched (conn conn' : TApiConnectionTable) (c : CSlot) : Prop :=
  conn'.chain c = conn.chain c ∧
    (conn'.ctable c).numConnectedSessions = (conn.ctable c).numConnectedSessions ∧
    (conn'.ctable c).active = (conn.ctable c).active

private theorem untouched_apply {conn : TApiConnectionTable} (h : conn.Consistent) (op : TableOp)
    (hop : op.Enabled conn) {c : CSlot} (hchain : op.applyChains conn.chain c = conn.chain c)
    (hactive : ((op.apply conn).ctable c).active = (conn.ctable c).active) :
    Untouched conn (op.apply conn) c := by
  have hc : (op.apply conn).chain c = conn.chain c := by rw [TableOp.chain_apply h hop, hchain]
  refine ⟨hc, ?_, hactive⟩
  rw [(TableOp.consistent_apply h hop).count c, h.count c, hc]

private theorem untouched_closeSession {conn : TApiConnectionTable} (h : conn.Consistent)
    {c c' : CSlot} {i : SSlot} (hi : i ∈ conn.chain c) (t : UInt32) (tapp : SkSwldTappInstance)
    (hc : c' ≠ c) : Untouched conn (conn.closeSession c i t tapp) c' := by
  refine untouched_apply h (.closeSession c i t tapp) hi ?_ ?_
  · simp [TableOp.applyChains, hc]
  · simp [TableOp.apply, TApiConnectionTable.closeSession,
      TApiConnectionTable.active_remove_context, TApiConnectionTable.setTapp,
      TApiConnectionTable.active_touchContext]

private theorem untouched_invoke {conn : TApiConnectionTable} (h : conn.Consistent) (c c' : CSlot)
    (i : SSlot) (t t' : UInt32) :
    Untouched conn ((conn.touchContext c t).touchSession i t') c' := by
  have h₁ : Untouched conn (conn.touchContext c t) c' :=
    untouched_apply h (.touchContext c t) trivial rfl (conn.active_touchContext c c' t)
  have h₂ : Untouched (conn.touchContext c t) ((conn.touchContext c t).touchSession i t') c' :=
    untouched_apply (h.touchContext c t).consistent (.touchSession i t') trivial rfl rfl
  exact ⟨h₂.1.trans h₁.1, h₂.2.1.trans h₁.2.1, h₂.2.2.trans h₁.2.2⟩

/-- What holds of a step `x` after the history `before` that operates on `tapp`. -/
structure Isolated (before : List ServerStep) (x : ServerStep) (tapp : SkSwldTappInstance)
    (contextHandle sessionHandle : Handle) (c : CSlot) (i : SSlot) : Prop where
  presents : Presents x.input contextHandle sessionHandle
  context : handleAt x.pre.tObj.conn.cthandles c = contextHandle
  contextActive : (x.pre.tObj.conn.ctable c).active = true
  session : handleAt x.pre.tObj.conn.sthandles i = sessionHandle
  sessionActive : (x.pre.tObj.conn.stable i).active = true
  stored : (x.pre.tObj.conn.stable i).tapp = tapp
  opened : OpenedIn before contextHandle sessionHandle i tapp
  others : ∀ c', c' ≠ c → Untouched x.pre.tObj.conn x.post.tObj.conn c'

/-- What is found is on the chain, and what is on a chain is on record. -/
private theorem isolated_of_found {before : List ServerStep} {x : ServerStep}
    (hrec : Recorded before x.pre) {contextHandle sessionHandle : Handle} {c : CSlot} {i : SSlot}
    (hpresents : Presents x.input contextHandle sessionHandle)
    (hfind : x.pre.tObj.conn.findObjects contextHandle sessionHandle = .ok (.ok (c, i)))
    (hothers : ∀ c', c' ≠ c → Untouched x.pre.tObj.conn x.post.tObj.conn c') :
    Isolated before x (x.pre.tObj.conn.stable i).tapp contextHandle sessionHandle c i := by
  obtain ⟨hcontext, hc, hsession, hi, hmem⟩ := TApiConnectionTable.findObjects_ok hfind
  have hopened := hrec c i hmem
  rw [lookup_some hcontext, lookup_some hsession] at hopened
  exact ⟨hpresents, lookup_some hcontext, hc, lookup_some hsession, hi, rfl, hopened, hothers⟩

private theorem isolated_of_step {before : List ServerStep} {x : ServerStep}
    (hsound : x.pre.Sound) (hrec : Recorded before x.pre)
    (hstep : handleRequest cfg x.input x.pre = .ok (x.result, x.post)) {e : Event}
    {tapp : SkSwldTappInstance} (he : e ∈ x.post.events) (htapp : e.operatesOn = some tapp) :
    ∃ contextHandle sessionHandle c i,
      Isolated before x tapp contextHandle sessionHandle c i := by
  rcases handleRequest_outcome hsound hstep with heq | ⟨cmd, hacc, hserved⟩
  · rw [heq] at he
    exact absurd he (List.not_mem_nil)
  obtain ⟨ops, evs, heffect, hops, hevents⟩ := hserved.effect
  rw [hevents, receive_events, List.nil_append] at he
  generalize hv : x.input.decode cmd.reqLayout = v at heffect
  cases heffect with
  | @closeSession hdr contextHandle sessionHandle c i t unloaded hfind =>
    have hpresents := Presents.closeSession hacc.command
    rw [hv] at hpresents
    have hpost := hops.of_single.2
    have hmem := (TApiConnectionTable.findObjects_ok hfind).2.2.2.2
    have heq : (x.pre.tObj.conn.stable i).tapp = tapp := by
      simp only [List.mem_cons, List.not_mem_nil, or_false] at he
      rcases he with rfl | rfl <;> exact Option.some.inj htapp
    refine ⟨contextHandle, sessionHandle, c, i, ?_⟩
    rw [← heq]
    refine isolated_of_found hrec hpresents hfind fun c' hc' => ?_
    rw [hpost]
    exact untouched_closeSession hsound.table hmem t unloaded hc'
  | @invokeCommand hdr contextHandle sessionHandle icmd c i t t' hfind =>
    have hpresents := Presents.invokeCommand hacc.command
    rw [hv] at hpresents
    have hpost : x.post.tObj.conn = (x.pre.tObj.conn.touchContext c t).touchSession i t' := by
      cases hops with
      | cons _ hrest => exact hrest.of_single.2
    have heq : (x.pre.tObj.conn.stable i).tapp = tapp := by
      rw [List.mem_singleton] at he
      subst he
      exact Option.some.inj htapp
    refine ⟨contextHandle, sessionHandle, c, i, ?_⟩
    rw [← heq]
    refine isolated_of_found hrec hpresents hfind fun c' _ => ?_
    rw [hpost]
    exact untouched_invoke hsound.table c c' i t t'
  | openSession _ _ _ =>
    simp only [loadEvents, List.mem_cons] at he
    rcases he with rfl | rfl | he
    · exact absurd htapp (by simp [Event.operatesOn])
    · exact absurd htapp (by simp [Event.operatesOn])
    · split at he
      · rw [List.mem_singleton] at he
        subst he
        exact absurd htapp (by simp [Event.operatesOn])
      · exact absurd he (List.not_mem_nil)
  | openContext _ _ _ =>
    rw [List.mem_singleton] at he
    subst he
    exact absurd htapp (by simp [Event.operatesOn])
  | _ => exact absurd he (List.not_mem_nil)

/-- A request that names a session and ends the run has not found the session. -/
private theorem fault_of_presents (hs : s.Sound) {contextHandle sessionHandle : Handle}
    (hpresents : Presents req contextHandle sessionHandle)
    (hlen : req.bytes.length ≤ s.tObj.maxMrecvSize) {fault : Fault}
    (hrun : handleRequest cfg req s = .error fault) :
    s.tObj.conn.findObjects contextHandle sessionHandle = .error fault := by
  -- the fault is that of the handler
  have hserve : ∀ c, Command.ofCmd req.hdr.cmd = some c →
      c.serve cfg req.env (req.decode c.reqLayout) (receive req s) = .error fault := by
    intro c hc
    by_cases hacc : ∃ c, Accepted s req c
    · obtain ⟨c', hc'⟩ := hacc
      obtain rfl : c = c' := Option.some.inj (hc.symm.trans hc'.command)
      rw [handleRequest_of_accepted cfg hs hc'] at hrun
      cases hserved : c.serve cfg req.env (req.decode c.reqLayout) (receive req s) with
      | ok r => simp [hserved, Except.map] at hrun
      | error e => simpa [hserved, Except.map] using hrun
    · obtain ⟨st, _, hrefused⟩ :=
        handleRequest_of_refused cfg hs hlen fun c hc => hacc ⟨c, hc⟩
      simp [hrefused] at hrun
  have hs' := hs.receive req
  cases hpresents with
  | closeSession hcmd =>
    have hclose := hserve _ hcmd
    change serveCloseSession req.env _ _ _ _ = _ at hclose
    rw [serveCloseSession_run _ _ hs'.table hs'.room hs'.slots] at hclose
    split at hclose
    · rename_i e hfind
      rw [show fault = e from (Except.error.inj hclose).symm]
      exact hfind
    · split at hclose <;> simp [answer] at hclose
    · simp [answer] at hclose
  | invokeCommand hcmd =>
    have hinvoke := hserve _ hcmd
    change serveInvokeCommand req.env _ _ _ _ _ = _ at hinvoke
    rw [serveInvokeCommand_run _ _ hs'.table hs'.room] at hinvoke
    split at hinvoke
    · rename_i e hfind
      rw [show fault = e from (Except.error.inj hinvoke).symm]
      exact hfind
    · split at hinvoke <;> simp [answer] at hinvoke
    · simp [answer] at hinvoke

/-- A request that operates on a TApp presents the handles of an active context
and of a session that was opened for that context and has been active since;
the TApp is the one stored then, and no other context is touched. A request
that ends the run instead has not got past the lookup of its session. -/
theorem session_isolation (hrun : ServerRun cfg tr s) :
    (∀ before x after e tapp, tr = before ++ x :: after → e ∈ x.post.events →
      e.operatesOn = some tapp →
      ∃ contextHandle sessionHandle c i,
        Isolated before x tapp contextHandle sessionHandle c i) ∧
    ∀ req contextHandle sessionHandle fault, Presents req contextHandle sessionHandle →
      req.bytes.length ≤ s.tObj.maxMrecvSize → handleRequest cfg req s = .error fault →
      s.tObj.conn.findObjects contextHandle sessionHandle = .error fault := by
  obtain ⟨s₀, h₀, hrun⟩ := hrun
  constructor
  · rintro before x after e tapp rfl he htapp
    obtain ⟨hbefore, hstep⟩ := hrun.split rfl
    obtain ⟨hsound, hrec⟩ := recorded_of_run h₀ hbefore
    exact isolated_of_step hsound hrec hstep he htapp
  · intro req contextHandle sessionHandle fault hpresents hlen hfault
    exact fault_of_presents (recorded_of_run h₀ hrun).1 hpresents hlen hfault

/-- An invoke_command request on the session that the request before it opened. -/
theorem session_isolation_invoke : ∃ before x contextHandle sessionHandle c i,
    ServerRun sampleConfig (before ++ [x]) x.post ∧
      Isolated before x ⟨some 1⟩ contextHandle sessionHandle c i := by
  obtain ⟨⟨tr, s⟩, hrun, hcalls⟩ := Option.map_eq_some_iff.mp
    (show (execute (handleRequest sampleConfig)
        [sampleOpenContext, sampleOpenSession, sampleInvokeCommand] (sampleServer 64)).map
        (fun r => r.1.map fun x => x.post.events.any fun e => e.operatesOn = some ⟨some 1⟩) =
      some [false, false, true] by decide +kernel)
  have hserver : ServerRun sampleConfig tr s :=
    ⟨_, sampleServer_started 64, run_of_execute hrun⟩
  obtain ⟨a, tr, rfl, _, hcalls⟩ := List.map_eq_cons_iff.mp hcalls
  obtain ⟨b, tr, rfl, _, hcalls⟩ := List.map_eq_cons_iff.mp hcalls
  obtain ⟨x, tr, rfl, hx, hcalls⟩ := List.map_eq_cons_iff.mp hcalls
  obtain rfl := List.map_eq_nil_iff.mp hcalls
  obtain ⟨e, he, htapp⟩ := List.any_eq_true.mp hx
  obtain ⟨contextHandle, sessionHandle, c, i, hisolated⟩ :=
    (session_isolation hserver).1 [a, b] x [] e ⟨some 1⟩ rfl he (of_decide_eq_true htapp)
  refine ⟨[a, b], x, contextHandle, sessionHandle, c, i, ?_, hisolated⟩
  obtain ⟨s₀, h₀, hsteps⟩ := hserver
  have htr : [a, b, x] = [a, b] ++ x :: [] := rfl
  obtain ⟨hbefore, hstep⟩ := hsteps.split htr
  exact ⟨s₀, h₀, hbefore.next hstep⟩

end SkSdk
