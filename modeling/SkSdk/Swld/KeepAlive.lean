import SkSdk.Swld.ExpirySweep
import SkSdk.Swld.StoreRefinement

/-!
How long a session lasts whose client keeps using it. A check request takes away
what the readings of earlier requests, left in the tables, make too old; so a
session is there as long as every sweep finds it used in time.
-/

namespace SkSdk
open ByteMemory FaultState DoublyLinked

/-! ## The readings left in the tables -/

theorem TApiConnectionTable.sessionTime_attach (conn : TApiConnectionTable) (c : CSlot)
    (s s' : SSlot) (taid : SkTaid) :
    ((conn.attach c s taid).stable s').timeAccess = (conn.stable s').timeAccess := by
  by_cases h : s' = s
  · simp [attach, h]
  · by_cases hl : (conn.chain c).getLast? = some s' <;> simp [attach, h, hl]

namespace TableOp

/-- The reading that an operation leaves with context `c`, if any. -/
def contextStamp (c : CSlot) : TableOp → Option UInt32
  | touchContext c' t | openSession c' _ _ t _ _ _ | closeSession c' _ t _ =>
    if c = c' then some t else none
  | _ => none

def sessionStamp (i : SSlot) : TableOp → Option UInt32
  | touchSession i' t | openSession _ i' _ _ t _ _ => if i = i' then some t else none
  | _ => none

variable (conn : TApiConnectionTable)

theorem contextTime_apply (op : TableOp) (c : CSlot) :
    ((op.apply conn).ctable c).timeAccess =
      (op.contextStamp c).getD (conn.ctable c).timeAccess := by
  cases op with
  | touchContext c' t =>
    by_cases h : c = c' <;> simp [apply, contextStamp, TApiConnectionTable.touchContext, h]
  | openContext c' handle pid =>
    by_cases h : c = c' <;> simp [apply, contextStamp, TApiConnectionTable.openContext, h]
  | closeContext c' =>
    by_cases h : c = c' <;>
      simp [apply, contextStamp, TApiConnectionTable.deactivate, TApiConnectionTable.countOut, h]
  | expireContext c' =>
    by_cases h : c = c' <;> simp [apply, contextStamp, TApiConnectionTable.deactivate, h]
  | openSession c' s handle t t' taid tapp =>
    by_cases h : c = c' <;>
      simp [apply, contextStamp, TApiConnectionTable.openSession, TApiConnectionTable.setTapp,
        TApiConnectionTable.attach, TApiConnectionTable.touchSession,
        TApiConnectionTable.touchContext, TApiConnectionTable.issueSession, h]
  | closeSession c' s t tapp =>
    by_cases h : c = c' <;>
      simp [apply, contextStamp, TApiConnectionTable.closeSession, TApiConnectionTable.remove,
        TApiConnectionTable.setTapp, TApiConnectionTable.touchContext, h]
  | expireSession c' s =>
    by_cases h : c = c' <;> simp [apply, contextStamp, TApiConnectionTable.remove, h]
  | _ => rfl

theorem sessionTime_apply (op : TableOp) (i : SSlot) :
    ((op.apply conn).stable i).timeAccess =
      (op.sessionStamp i).getD (conn.stable i).timeAccess := by
  cases op with
  | touchSession s t =>
    by_cases h : i = s <;> simp [apply, sessionStamp, TApiConnectionTable.touchSession, h]
  | openSession c s handle t t' taid tapp =>
    by_cases h : i = s <;>
      simp [apply, sessionStamp, TApiConnectionTable.openSession, TApiConnectionTable.setTapp,
        TApiConnectionTable.sessionTime_attach, TApiConnectionTable.touchSession,
        TApiConnectionTable.touchContext, TApiConnectionTable.issueSession, h]
  | closeSession c s t tapp =>
    by_cases h : i = s <;>
      simp [apply, sessionStamp, TApiConnectionTable.closeSession, TApiConnectionTable.remove,
        TApiConnectionTable.setTapp, TApiConnectionTable.touchContext, h]
  | expireSession c s =>
    by_cases h : i = s <;> simp [apply, sessionStamp, TApiConnectionTable.remove, h]
  | _ => rfl

end TableOp

/-- Session slot `i` is on the chain of context slot `c`, under these handles. -/
structure TApiConnectionTable.Seats (conn : TApiConnectionTable) (c : CSlot) (i : SSlot)
    (context session : Handle) : Prop where
  mem : i ∈ conn.chain c
  context : handleAt conn.cthandles c = context
  session : handleAt conn.sthandles i = session

/-- The session of `Seats` is there before and after with its TApp, and its times are
those from before or readings of `env`. -/
structure Carried (env : Env) (conn conn' : TApiConnectionTable) (c : CSlot) (i : SSlot)
    (context session : Handle) : Prop where
  seats : conn'.Seats c i context session
  contextTime : (conn'.ctable c).timeAccess = (conn.ctable c).timeAccess ∨
    (conn'.ctable c).timeAccess = env.timer 0
  sessionTime : (conn'.stable i).timeAccess = (conn.stable i).timeAccess ∨
    (conn'.stable i).timeAccess = env.timer 1
  tapp : (conn'.stable i).tapp = (conn.stable i).tapp

section Steps

variable {cfg : Config} {env : Env} {conn conn' conn'' : TApiConnectionTable} {c : CSlot}
  {i : SSlot} {context session : Handle}

theorem TApiConnectionTable.Seats.carried (h : conn.Seats c i context session) :
    Carried env conn conn c i context session := ⟨h, .inl rfl, .inl rfl, rfl⟩

theorem TApiConnectionTable.Seats.apply (h : conn.Consistent)
    (hx : conn.Seats c i context session) {op : TableOp} (hop : op.Enabled conn)
    (hslot : op.slot ≠ some i) : (op.apply conn).Seats c i context session := by
  have hmem : i ∈ (op.apply conn).chain c := by
    rw [TableOp.chain_apply h hop]
    cases op with
    | openSession c' s handle t t' taid tapp =>
      by_cases hc : c = c'
      · subst hc
        simp [TableOp.applyChains, hx.mem]
      · simpa [TableOp.applyChains, hc] using hx.mem
    | closeSession c' s t tapp | expireSession c' s =>
      have hs : i ≠ s := fun hs => hslot (congrArg some hs.symm)
      by_cases hc : c = c'
      · subst hc
        simpa [TableOp.applyChains] using (List.mem_erase_of_ne hs).mpr hx.mem
      · simpa [TableOp.applyChains, hc] using hx.mem
    | _ => exact hx.mem
  have hnew : ∀ c' handle t t' taid tapp, op ≠ .openSession c' i handle t t' taid tapp := by
    rintro c' handle t t' taid tapp rfl
    exact hslot rfl
  obtain ⟨_, _, hs, hc⟩ := TableOp.kept h hop hnew hmem
  exact ⟨hmem, hc.trans hx.context, hs.trans hx.session⟩

/-- A session that is opened is seated in the slot found for it. -/
theorem TApiConnectionTable.seats_openSession (h : conn.Consistent)
    (hc : (conn.ctable c).active = true) (hi : (conn.stable i).active = false)
    (hcontext : handleAt conn.cthandles c = context) {t t' : UInt32} {taid : SkTaid}
    {tapp : SkSwldTappInstance} :
    (conn.openSession c i session t t' taid tapp).Seats c i context session := by
  have hop : (TableOp.openSession c i session t t' taid tapp).Enabled conn := ⟨hc, hi⟩
  have hchain := congrFun (TableOp.chain_apply h hop) c
  rw [TableOp.applyChains, Function.update_self] at hchain
  exact ⟨hchain ▸ List.mem_concat_self, hcontext, handleAt_setHandleAt _ _ _⟩

theorem Carried.of_op (h : conn.Consistent) (hx : conn.Seats c i context session) {op : TableOp}
    (hop : op.Enabled conn) (hslot : op.slot ≠ some i)
    (hc : ∀ t ∈ op.contextStamp c, t = env.timer 0) (hs : ∀ t ∈ op.sessionStamp i, t = env.timer 1) :
    Carried env conn (op.apply conn) c i context session := by
  refine ⟨hx.apply h hop hslot, ?_, ?_, ?_⟩
  · rw [TableOp.contextTime_apply]
    cases hstamp : op.contextStamp c with
    | none => exact .inl rfl
    | some t => exact .inr (hc t hstamp)
  · rw [TableOp.sessionTime_apply]
    cases hstamp : op.sessionStamp i with
    | none => exact .inl rfl
    | some t => exact .inr (hs t hstamp)
  · rw [TableOp.tapp_apply]
    cases op with
    | openSession _ s _ _ _ _ _ | closeSession _ s _ _ =>
      exact if_neg fun hs => hslot (congrArg some hs.symm)
    | _ => rfl

theorem Carried.trans (h : Carried env conn conn' c i context session)
    (h' : Carried env conn' conn'' c i context session) :
    Carried env conn conn'' c i context session := by
  refine ⟨h'.seats, ?_, ?_, h'.tapp.trans h.tapp⟩
  · rcases h'.contextTime with heq | heq
    · rw [heq]
      exact h.contextTime
    · exact .inr heq
  · rcases h'.sessionTime with heq | heq
    · rw [heq]
      exact h.sessionTime
    · exact .inr heq

theorem TApiConnectionTable.Seats.unique (hd : conn.HandlesDistinct) (h : conn.Consistent)
    (hx : conn.Seats c i context session) {c' : CSlot} {i' : SSlot}
    (hx' : conn.Seats c' i' context session) : c' = c ∧ i' = i := by
  have hc := Represents.active_of_mem h hx.mem
  exact ⟨(hd.context c c' hc (hx.context.trans hx'.context.symm)).symm,
    (hd.session i i' (h.mem_active hx.mem) (hx.session.trans hx'.session.symm)).symm⟩

/-! ## Sweeps -/

theorem mem_leftByPass {l : List SSlot} {k : Nat} (hi : i ∈ l)
    (hexp : ∀ k, ¬ sessionExpired cfg env conn i k) : i ∈ leftByPass cfg env conn l k := by
  induction l generalizing k with
  | nil => exact hi
  | cons s l ih =>
    rw [leftByPass]
    split
    · rename_i hs
      refine (List.mem_cons.mp hi).resolve_left fun he => ?_
      rw [he] at hexp
      exact hexp k hs
    · rcases List.mem_cons.mp hi with rfl | hi
      · exact List.mem_cons_self
      · exact List.mem_cons_of_mem _ (ih hi)

/-- A sweep leaves a session at which no reading finds it or its context expired. -/
theorem carried_of_swept (h : conn.Consistent) {k : Nat}
    (hsweep : sweepContexts cfg env (List.finRange skTapiMaxConnectionsPerContext) conn 0 =
      some (conn', k))
    (hx : conn.Seats c i context session) (hc : ∀ k, ¬ contextExpired cfg env conn c k)
    (hs : ∀ k, ¬ sessionExpired cfg env conn i k) :
    Carried env conn conn' c i context session := by
  have hswept := sweepContexts_swept cfg env h (List.nodup_finRange _) hsweep
  obtain ⟨ops, hops, hexpires, _⟩ := sweepContexts_performs cfg env h (List.nodup_finRange _) hsweep
  have hmem : i ∈ conn'.chain c := by
    obtain ⟨_, hchain⟩ := (hswept.swept c (List.mem_finRange c)
      (TApiConnectionTable.Represents.active_of_mem h hx.mem)).kept (hc _)
    rw [hchain]
    exact mem_leftByPass hx.mem hs
  have hnew : ∀ op ∈ ops, ∀ c' handle t t' taid tapp,
      op ≠ .openSession c' i handle t t' taid tapp := by
    rintro op hop c' handle t t' taid tapp rfl
    exact hexpires _ hop
  obtain ⟨_, _, hsession, hcontext⟩ := hops.kept h hnew hmem
  have htimes : (conn'.ctable c).timeAccess = (conn.ctable c).timeAccess ∧
      (conn'.stable i).timeAccess = (conn.stable i).timeAccess := by
    refine hops.preserves h (fun x => (x.ctable c).timeAccess = (conn.ctable c).timeAccess ∧
      (x.stable i).timeAccess = (conn.stable i).timeAccess) ⟨rfl, rfl⟩ ?_
    intro op hop x _ _ hx
    have hexp := hexpires op hop
    rw [TableOp.contextTime_apply, TableOp.sessionTime_apply]
    cases op with
    | expireSession | expireContext => exact hx
    | _ => exact hexp.elim
  exact ⟨⟨hmem, hcontext.trans hx.context, hsession.trans hx.session⟩, .inl htimes.1,
    .inl htimes.2, (hops.expires_tapp hexpires i).1⟩

end Steps

/-! ## Requests -/

/-- The request opened the session, or had its TApp run a command. -/
def SessionStore.Uses (context session : Handle) : StoreRequest × StoreReply → Prop
  | (.openSession context' _, .opened session') => context' = context ∧ session' = session
  | (.invokeCommand context' session' _, .status err) =>
    context' = context ∧ session' = session ∧ err ∈ invokeReplies
  | _ => False

section Requests

variable {cfg : Config} {req : Request} {s s' : Server} {status : SkStatus} {c : CSlot} {i : SSlot}
  {context session : Handle} {cmd : Command} {conn : TApiConnectionTable} {evs : List Event}
  {reply : Option cmd.respLayout.Fields}

/-- A request that is no sweep leaves a session that it does not close. -/
theorem RequestOutcome.carried (h : s.Sound)
    (houtcome : RequestOutcome cfg req s cmd conn evs reply) (hcheck : cmd ≠ .check)
    (hclose : (cmd.storeRequest req, cmd.storeAnswer reply) ≠
      (.closeSession context session, .status skErrorSuccess))
    (hx : s.tObj.conn.Seats c i context session) :
    Carried req.env s.tObj.conn conn c i context session := by
  have ht := h.table
  have hread : ∀ {p : Prop} [Decidable p] {t : UInt32}, ∀ t' ∈ (if p then some t else none),
      t' = t := fun _ ht' => (Option.ite_some_none_eq_some.mp ht').2.symm
  have hnone : ∀ {t : UInt32}, ∀ t' ∈ (none : Option UInt32), t' = t :=
    fun t' ht' => absurd ht' (Option.not_mem_none t')
  have hother : (none : Option SSlot) ≠ some i := (Option.some_ne_none i).symm
  cases houtcome with
  | @contextOpened c' hid hroom hfree =>
    have hop : (TableOp.openContext c' (nextContextHandle req s c')
      req.env.reqMsg.type.openContext.req.pid).Enabled s.tObj.conn := firstFree_some hfree
    exact .of_op ht hx hop hother hnone hnone
  | @contextClosed c' hfind hc hempty hcount =>
    have hop : (TableOp.closeContext c').Enabled s.tObj.conn := ⟨hc, hempty⟩
    exact .of_op ht hx hop hother hnone hnone
  | contextCountedOut hfind hc hchain hcount =>
    have hop : TableOp.countOut.Enabled s.tObj.conn := trivial
    exact .of_op ht hx hop hother hnone hnone
  | @sessionOpened c' i' hfind hc hfree =>
    have hop : (TableOp.openSession c' i' (nextSessionHandle req s i') (req.env.timer 0)
      (req.env.timer 1) (openSessionTaid req) (loadResult req s i').2).Enabled s.tObj.conn :=
      ⟨hc, firstFree_some hfree⟩
    refine .of_op ht hx hop (fun hi => ?_) hread hread
    have hidle := firstFree_some hfree
    rw [Option.some.inj hi, ht.mem_active hx.mem] at hidle
    cases hidle
  | @sessionClosed c' i' hfind =>
    obtain ⟨hc', _, hs', _, hmem⟩ := TApiConnectionTable.findObjects_ok hfind
    have hop : (TableOp.closeSession c' i' (req.env.timer 0)
      (req.env.tappUnload (s.tObj.conn.stable i').tapp).2).Enabled s.tObj.conn := hmem
    refine .of_op ht hx hop (fun hi => hclose ?_) hread hnone
    obtain rfl : i' = i := Option.some.inj hi
    obtain rfl := ht.disjoint c' c i' hmem hx.mem
    rw [Command.storeRequest, ← lookup_some hc', ← lookup_some hs', hx.context, hx.session]
    rfl
  | @commandInvoked c' i' hfind =>
    have hop : (TableOp.touchContext c' (req.env.timer 0)).Enabled s.tObj.conn := trivial
    have hfirst : Carried req.env s.tObj.conn _ c i context session :=
      .of_op ht hx hop hother hread hnone
    have hop' : (TableOp.touchSession i' (req.env.timer 1)).Enabled
      (s.tObj.conn.touchContext c' (req.env.timer 0)) := trivial
    exact hfirst.trans (.of_op (TableOp.consistent_apply ht hop) hfirst.seats hop' hother hnone hread)
  | @memoryStamped _ c' _ hcmd =>
    have hop : (TableOp.touchContext c' (req.env.timer 0)).Enabled s.tObj.conn := trivial
    exact .of_op ht hx hop hother hread hnone
  | swept => exact absurd rfl hcheck
  | _ => exact hx.carried

/-- A request that uses a session leaves its own readings with it and its context. -/
theorem RequestOutcome.used (h : s.Sound)
    (houtcome : RequestOutcome cfg req s cmd conn evs reply)
    (huse : SessionStore.Uses context session (cmd.storeRequest req, cmd.storeAnswer reply)) :
    ∃ c i, conn.Seats c i context session ∧ (conn.ctable c).timeAccess = req.env.timer 0 ∧
      (conn.stable i).timeAccess = req.env.timer 1 := by
  have ht := h.table
  cases houtcome with
  | @sessionOpened c i hfind hc hfree =>
    have hcontext := TableOp.contextTime_apply s.tObj.conn (.openSession c i
      (nextSessionHandle req s i) (req.env.timer 0) (req.env.timer 1) (openSessionTaid req)
      (loadResult req s i).2) c
    have hsession := TableOp.sessionTime_apply s.tObj.conn (.openSession c i
      (nextSessionHandle req s i) (req.env.timer 0) (req.env.timer 1) (openSessionTaid req)
      (loadResult req s i).2) i
    rw [TableOp.contextStamp, if_pos rfl] at hcontext
    rw [TableOp.sessionStamp, if_pos rfl] at hsession
    rw [Command.storeAnswer, Command.storeRequest] at huse
    rcases openSessionReply_store req.env req.env.respMsg.type.openSession.resp.sessionHandle
      (nextSessionHandle req s i) (loadResult req s i).1 (loadResult req s i).2 with
      heq | ⟨err, _, heq⟩
    · rw [heq] at huse
      obtain ⟨rfl, rfl⟩ := huse
      exact ⟨c, i, TApiConnectionTable.seats_openSession ht hc (firstFree_some hfree)
        (lookup_some hfind), hcontext, hsession⟩
    · rw [heq] at huse
      exact huse.elim
  | @commandInvoked c i hfind =>
    obtain ⟨hc, _, hs, _, hmem⟩ := TApiConnectionTable.findObjects_ok hfind
    obtain ⟨hcontext, hsession, _⟩ := huse
    have hx : s.tObj.conn.Seats c i context session :=
      ⟨hmem, (lookup_some hc).trans hcontext, (lookup_some hs).trans hsession⟩
    have hop : (TableOp.touchContext c (req.env.timer 0)).Enabled s.tObj.conn := trivial
    have hop' : (TableOp.touchSession i (req.env.timer 1)).Enabled
      (s.tObj.conn.touchContext c (req.env.timer 0)) := trivial
    have hother : (none : Option SSlot) ≠ some i := (Option.some_ne_none i).symm
    have hfirst := hx.apply ht hop hother
    have hlast := hfirst.apply (TableOp.consistent_apply ht hop) hop' hother
    refine ⟨c, i, hlast, ?_, ?_⟩
    · exact (TableOp.contextTime_apply s.tObj.conn (.touchContext c _) c).trans
        (by rw [TableOp.contextStamp, if_pos rfl, Option.getD_some])
    · exact (TableOp.sessionTime_apply _ (.touchSession i _) i).trans
        (by rw [TableOp.sessionStamp, if_pos rfl, Option.getD_some])
  | invokeUnresolved hfind herr =>
    obtain ⟨_, _, hmem⟩ := huse
    rcases TApiConnectionTable.findObjects_error hfind with rfl | rfl | rfl <;>
      exact absurd hmem (by decide)
  | memoryUnknown hcmd => rcases hcmd with rfl | rfl <;> exact huse.elim
  | memoryStamped hcmd => rcases hcmd with rfl | rfl <;> exact huse.elim
  | _ => exact huse.elim

theorem handleRequest_carried (h : s.Sound) (hrun : handleRequest cfg req s = .ok (status, s'))
    (hfits : ∀ c : Command, c.respLayout.wireLength ≤ s.tObj.maxMsendSize)
    (hclose : observe ⟨req, s, status, s'⟩ ≠
      (.closeSession context session, .status skErrorSuccess))
    (hcheck : (observe ⟨req, s, status, s'⟩).1 = .check →
      ∀ k, ¬ contextExpired cfg req.env s.tObj.conn c k ∧
        ¬ sessionExpired cfg req.env s.tObj.conn i k)
    (hx : s.tObj.conn.Seats c i context session) :
    Carried req.env s.tObj.conn s'.tObj.conn c i context session := by
  rcases handleRequest_handled h hrun with ⟨_, _, rfl⟩ | ⟨cmd, reply, hc⟩
  · exact hx.carried
  rw [observe_handled h hrun hc (hfits cmd)] at hclose hcheck
  have houtcome := hc.outcome
  by_cases hsweep : cmd = .check
  · subst hsweep
    have hkept := hcheck rfl
    generalize s'.tObj.conn = conn, s'.events = evs at houtcome
    cases houtcome with
    | swept hswept =>
      exact carried_of_swept h.table hswept hx (fun k => (hkept k).1) fun k => (hkept k).2
    | memoryUnknown hcmd | memoryStamped hcmd => rcases hcmd with hcmd | hcmd <;> cases hcmd
  · exact houtcome.carried h hsweep hclose hx

theorem handleRequest_used (h : s.Sound) (hrun : handleRequest cfg req s = .ok (status, s'))
    (hfits : ∀ c : Command, c.respLayout.wireLength ≤ s.tObj.maxMsendSize)
    (huse : SessionStore.Uses context session (observe ⟨req, s, status, s'⟩)) :
    ∃ c i, s'.tObj.conn.Seats c i context session ∧
      (s'.tObj.conn.ctable c).timeAccess = req.env.timer 0 ∧
      (s'.tObj.conn.stable i).timeAccess = req.env.timer 1 := by
  rcases handleRequest_handled h hrun with ⟨hrefused, _, rfl⟩ | ⟨cmd, reply, hc⟩
  · rw [observe_refused hrefused] at huse
    exact huse.elim
  · rw [observe_handled h hrun hc (hfits cmd)] at huse
    exact hc.outcome.used h huse

end Requests

/-! ## Runs -/

/-- The times of session slot `i` and context slot `c` are readings of requests of `l`. -/
structure SeenBy (conn : TApiConnectionTable) (c : CSlot) (i : SSlot) (l : List ServerStep) :
    Prop where
  context : ∃ w ∈ l, (conn.ctable c).timeAccess = w.input.env.timer 0
  session : ∃ w ∈ l, (conn.stable i).timeAccess = w.input.env.timer 1

/-- The session is in its slots, and the times there are readings of its last use
or of later requests. -/
def KeptBy (conn : TApiConnectionTable) (context session : Handle) (l : List ServerStep) : Prop :=
  ∃ c i, conn.Seats c i context session ∧ ∀ before u after, l = before ++ u :: after →
    SessionStore.Uses context session (observe u) → SeenBy conn c i (u :: after)

/-- At no reading of `z` have the readings of the earlier request `w` become too old. -/
def InTime (cfg : Config) (w z : ServerStep) : Prop :=
  ∀ k, diffTime z.input.env (w.input.env.timer 0) (z.input.env.timer k) ≤ cfg.contextTimeoutMs ∧
    diffTime z.input.env (w.input.env.timer 1) (z.input.env.timer k) ≤ cfg.sessionTimeoutMs

/-- The sweep of `z` finds that the session has been used, and nothing too old since. -/
def UsedInTime (cfg : Config) (context session : Handle) (l : List ServerStep) (z : ServerStep) :
    Prop :=
  ∃ before u after, l = before ++ u :: after ∧ SessionStore.Uses context session (observe u) ∧
    ∀ w ∈ u :: after, InTime cfg w z

variable {cfg : Config} {tr before mid : List ServerStep} {s : Server} {o y z : ServerStep}
  {context session : Handle}

theorem SeenBy.carried {conn conn' : TApiConnectionTable} {c : CSlot} {i : SSlot}
    {l : List ServerStep} (h : SeenBy conn c i l)
    (hx : Carried z.input.env conn conn' c i context session) : SeenBy conn' c i (l ++ [z]) := by
  have hlast : z ∈ l ++ [z] := List.mem_concat_self
  refine ⟨?_, ?_⟩
  · rcases hx.contextTime with heq | heq
    · obtain ⟨w, hw, htime⟩ := h.context
      exact ⟨w, List.mem_append_left _ hw, heq.trans htime⟩
    · exact ⟨z, hlast, heq⟩
  · rcases hx.sessionTime with heq | heq
    · obtain ⟨w, hw, htime⟩ := h.session
      exact ⟨w, List.mem_append_left _ hw, heq.trans htime⟩
    · exact ⟨z, hlast, heq⟩

/-- A sweep in time finds neither the session nor its context expired. -/
theorem SeenBy.not_expired {conn : TApiConnectionTable} {c : CSlot} {i : SSlot}
    {l : List ServerStep} (h : SeenBy conn c i l) (hl : ∀ w ∈ l, InTime cfg w z) (k : Nat) :
    ¬ contextExpired cfg z.input.env conn c k ∧ ¬ sessionExpired cfg z.input.env conn i k := by
  obtain ⟨w, hw, hcontext⟩ := h.context
  obtain ⟨w', hw', hsession⟩ := h.session
  rw [contextExpired, sessionExpired, hcontext, hsession]
  exact ⟨UInt32.not_lt.mpr (hl w hw k).1, UInt32.not_lt.mpr (hl w' hw' k).2⟩

/-- One more request: it uses the session, or leaves it where it is. -/
theorem KeptBy.step {l : List ServerStep} (h : KeptBy z.pre.tObj.conn context session l)
    (hs : z.pre.Sound) (hd : z.post.tObj.conn.HandlesDistinct)
    (hrun : handleRequest cfg z.input z.pre = .ok (z.result, z.post)) (hfair : Fair z)
    (hclose : observe z ≠ (.closeSession context session, .status skErrorSuccess))
    (hcheck : (observe z).1 = .check → UsedInTime cfg context session l z) :
    KeptBy z.post.tObj.conn context session (l ++ [z]) := by
  obtain ⟨c, i, hx, hseen⟩ := h
  have hcarried : Carried z.input.env z.pre.tObj.conn z.post.tObj.conn c i context session := by
    refine handleRequest_carried hs hrun hfair.fits hclose (fun hsweep k => ?_) hx
    obtain ⟨before, u, after, rfl, huse, hin⟩ := hcheck hsweep
    exact (hseen before u after rfl huse).not_expired hin k
  refine ⟨c, i, hcarried.seats, fun before u after hl huse => ?_⟩
  rcases List.eq_nil_or_concat after with rfl | ⟨after', x, rfl⟩
  · obtain ⟨rfl, hu⟩ := List.append_inj' hl rfl
    obtain rfl : z = u := (List.cons.inj hu).1
    obtain ⟨c', i', hx', hcontext, hsession⟩ := handleRequest_used hs hrun hfair.fits huse
    obtain ⟨rfl, rfl⟩ := hcarried.seats.unique hd (handleRequest_sound hs hrun).table hx'
    exact ⟨⟨z, List.mem_singleton_self z, hcontext⟩, ⟨z, List.mem_singleton_self z, hsession⟩⟩
  · rw [List.concat_eq_append, ← List.cons_append, ← List.append_assoc] at hl
    obtain ⟨rfl, hz⟩ := List.append_inj' hl rfl
    obtain rfl : z = x := (List.cons.inj hz).1
    rw [List.concat_eq_append, ← List.cons_append]
    exact (hseen before u after' rfl huse).carried hcarried

/-- The last step of a run, and the run before it. -/
theorem ServerRun.last (h : ServerRun cfg (tr ++ [z]) s) :
    ServerRun cfg tr z.pre ∧ z.pre.Sound ∧
      handleRequest cfg z.input z.pre = .ok (z.result, z.post) ∧ s = z.post := by
  obtain ⟨s₀, h₀, hrun⟩ := h
  obtain ⟨hbefore, hstep⟩ := hrun.split rfl
  exact ⟨⟨s₀, h₀, hbefore⟩, Reachable.sound ⟨tr, s₀, h₀, hbefore⟩, hstep, hrun.eq_post⟩

/-- A session that every sweep since its opening has found used in time. -/
theorem kept_of_used_in_time (h : ServerRun cfg (before ++ o :: mid) s)
    (hfair : ∀ z ∈ before ++ o :: mid, Fair z) {taid : SkTaid}
    (ho : observe o = (.openSession context taid, .opened session))
    (hclose : ∀ z ∈ mid, observe z ≠ (.closeSession context session, .status skErrorSuccess))
    (hcheck : ∀ l z after, mid = l ++ z :: after → (observe z).1 = .check →
      UsedInTime cfg context session (o :: l) z) :
    KeptBy s.tObj.conn context session (o :: mid) := by
  induction mid using List.reverseRecOn generalizing s with
  | nil =>
    obtain ⟨_, hsound, hstep, rfl⟩ := h.last
    have huse : SessionStore.Uses context session (observe o) := ho ▸ ⟨rfl, rfl⟩
    obtain ⟨c, i, hx, hcontext, hsession⟩ :=
      handleRequest_used hsound hstep (hfair o (by simp)).fits huse
    refine ⟨c, i, hx, fun before u after hl _ => ?_⟩
    obtain ⟨rfl, rfl⟩ : u = o ∧ after = [] := by
      cases before with
      | nil => exact ⟨(List.cons.inj hl).1.symm, (List.cons.inj hl).2.symm⟩
      | cons x before => simp at hl
    exact ⟨⟨u, List.mem_singleton_self u, hcontext⟩, ⟨u, List.mem_singleton_self u, hsession⟩⟩
  | append_singleton mid z ih =>
    rw [← List.cons_append, ← List.append_assoc] at h hfair
    obtain ⟨hbefore, hsound, hstep, rfl⟩ := h.last
    have hkept := ih hbefore (fun x hx => hfair x (List.mem_append_left _ hx))
      (fun x hx => hclose x (List.mem_append_left _ hx))
      fun l x after hl => hcheck l x (after ++ [z]) (by simp [hl])
    exact hkept.step hsound (h.simulates hfair).1 hstep (hfair z List.mem_concat_self)
      (hclose z List.mem_concat_self) (hcheck mid z [] rfl)

theorem TApiConnectionTable.Seats.holds {conn : TApiConnectionTable} {c : CSlot} {i : SSlot}
    (hx : conn.Seats c i context session) (h : conn.Consistent) (hd : conn.HandlesDistinct) :
    conn.store.Holds context session :=
  ⟨_, hx.context ▸ hd.store_contexts (Represents.active_of_mem h hx.mem), _,
    List.mem_map_of_mem hx.mem, hx.session⟩

theorem KeptBy.reached {l : List ServerStep} (hkept : KeptBy y.pre.tObj.conn context session l)
    (h : ServerRun cfg (tr ++ [y]) s) (hfair : ∀ z ∈ tr ++ [y], Fair z) {cmd : UInt32}
    (hy : (observe y).1 = .invokeCommand context session cmd) :
    ∃ err ∈ SessionStore.invokeReplies, (observe y).2 = .status err := by
  obtain ⟨hbefore, hsound, hstep, _⟩ := h.last
  have hd := (hbefore.simulates fun z hz => hfair z (List.mem_append_left _ hz)).1
  obtain ⟨c, i, hx, _⟩ := hkept
  have hnext := (handleRequest_next hsound hd hstep (hfair y List.mem_concat_self)).2
  exact hnext.invoked hy (hx.holds hsound.table hd)

/-- Commands for a session reach it, whatever else is requested and however often
sweeps are, if every sweep since its opening finds it used in time and it has not
been closed. -/
theorem used_session_persists (h : ServerRun cfg (before ++ o :: (mid ++ [y])) s)
    (hfair : ∀ z ∈ before ++ o :: (mid ++ [y]), Fair z) {taid : SkTaid}
    (ho : observe o = (.openSession context taid, .opened session))
    (hclose : ∀ z ∈ mid, observe z ≠ (.closeSession context session, .status skErrorSuccess))
    (hcheck : ∀ l z after, mid = l ++ z :: after → (observe z).1 = .check →
      UsedInTime cfg context session (o :: l) z) {cmd : UInt32}
    (hy : (observe y).1 = .invokeCommand context session cmd) :
    ∃ err ∈ SessionStore.invokeReplies, (observe y).2 = .status err := by
  rw [← List.cons_append, ← List.append_assoc] at h hfair
  have hfair' : ∀ z ∈ before ++ o :: mid, Fair z := fun z hz => hfair z (List.mem_append_left _ hz)
  exact (kept_of_used_in_time h.last.1 hfair' ho hclose hcheck).reached h hfair hy

/-! ### A client that outlives the timeouts -/

/-- A request that reads `t` from the timer. -/
def Request.atTime (req : Request) (t : UInt32) : Request :=
  { req with env := { req.env with timer := fun _ => t } }

/-- Two checks, each within ten ticks of the last use; the second is not within ten
of the opening. -/
theorem used_session_persists_invoked : ∃ y : ServerStep,
    (observe y).1 = .invokeCommand (fun _ => 5) (fun _ => 7) 3 ∧
      ∃ err ∈ SessionStore.invokeReplies, (observe y).2 = .status err := by
  obtain ⟨tr, s, hrun, hinputs, hfair, hls, _⟩ := exists_fair_run ⟨10, 10⟩
    [sampleOpenContext, sampleOpenSession, sampleCheck.atTime 8, sampleInvokeCommand.atTime 9,
      sampleCheck.atTime 18, sampleInvokeCommand.atTime 20]
    [(.openContext 1, .opened fun _ => 5),
      (.openSession (fun _ => 5) fun _ => 9, .opened fun _ => 7), (.check, .status skErrorSuccess),
      (.invokeCommand (fun _ => 5) (fun _ => 7) 3, .status skErrorSuccess),
      (.check, .status skErrorSuccess),
      (.invokeCommand (fun _ => 5) (fun _ => 7) 3, .status skErrorSuccess)]
    (by decide +kernel)
  obtain ⟨a, tr, rfl, _, hls⟩ := List.map_eq_cons_iff.mp hls
  obtain ⟨o, tr, rfl, ho, hls⟩ := List.map_eq_cons_iff.mp hls
  obtain ⟨z, tr, rfl, hz, hls⟩ := List.map_eq_cons_iff.mp hls
  obtain ⟨u, tr, rfl, hu, hls⟩ := List.map_eq_cons_iff.mp hls
  obtain ⟨z', tr, rfl, hz', hls⟩ := List.map_eq_cons_iff.mp hls
  obtain ⟨y, tr, rfl, hy, hls⟩ := List.map_eq_cons_iff.mp hls
  obtain rfl := List.map_eq_nil_iff.mp hls
  simp only [List.map_cons, List.cons.injEq] at hinputs
  obtain ⟨-, ho_input, hz_input, hu_input, hz'_input, -⟩ := hinputs
  have hfirst : InTime ⟨10, 10⟩ o z := by
    intro k
    rw [ho_input, hz_input]
    have hle : diffTime (sampleEnv 0) 0 8 ≤ 10 := by decide
    exact ⟨hle, hle⟩
  have hsecond : InTime ⟨10, 10⟩ u z' := by
    intro k
    rw [hu_input, hz'_input]
    have hle : diffTime (sampleEnv 0) 9 18 ≤ 10 := by decide
    exact ⟨hle, hle⟩
  refine ⟨y, congrArg Prod.fst hy, ?_⟩
  refine used_session_persists (show ServerRun _ ([a] ++ o :: ([z, u, z'] ++ [y])) s from hrun) hfair
    ho (fun x hx hclose => ?_) (fun l x after hl hcheck => ?_) (congrArg Prod.fst hy)
  · simp only [List.mem_cons, List.not_mem_nil, or_false] at hx
    rcases hx with rfl | rfl | rfl
    · exact absurd (hz.symm.trans hclose) (by decide)
    · exact absurd (hu.symm.trans hclose) (by decide)
    · exact absurd (hz'.symm.trans hclose) (by decide)
  · rcases l with _ | ⟨_, _ | ⟨_, _ | ⟨_, l⟩⟩⟩
    · cases hl
      exact ⟨[], o, [], rfl, ho ▸ ⟨rfl, rfl⟩, fun w hw => List.mem_singleton.mp hw ▸ hfirst⟩
    · cases hl
      rw [hu] at hcheck
      cases hcheck
    · cases hl
      exact ⟨[o, z], u, [], rfl, hu ▸ ⟨rfl, rfl, by decide⟩,
        fun w hw => List.mem_singleton.mp hw ▸ hsecond⟩
    · simp at hl

/-! ## The timers of the platforms -/

/-- `sk_drv_swld_secure_timer_diff` of both platforms. -/
def skDrvSwldSecureTimerDiff (_t1 _t2 : UInt32) : Int32 := 0

theorem inTime_of_platform (hz : z.input.env.timerDiff = skDrvSwldSecureTimerDiff)
    (w : ServerStep) : InTime cfg w z := by
  intro k
  have hdiff : ∀ t t', diffTime z.input.env t t' = 0 := fun _ _ => by rw [diffTime, hz]; rfl
  rw [hdiff, hdiff]
  exact ⟨UInt32.zero_le, UInt32.zero_le⟩

/-- On either platform no sweep takes a session away. -/
theorem platform_session_persists (h : ServerRun cfg (before ++ o :: (mid ++ [y])) s)
    (hfair : ∀ z ∈ before ++ o :: (mid ++ [y]), Fair z)
    (htimer : ∀ z ∈ mid, z.input.env.timerDiff = skDrvSwldSecureTimerDiff) {taid : SkTaid}
    (ho : observe o = (.openSession context taid, .opened session))
    (hclose : ∀ z ∈ mid, observe z ≠ (.closeSession context session, .status skErrorSuccess))
    {cmd : UInt32} (hy : (observe y).1 = .invokeCommand context session cmd) :
    ∃ err ∈ SessionStore.invokeReplies, (observe y).2 = .status err := by
  rw [← List.cons_append, ← List.append_assoc] at h hfair
  have hfair' : ∀ z ∈ before ++ o :: mid, Fair z := fun z hz => hfair z (List.mem_append_left _ hz)
  refine (kept_of_used_in_time h.last.1 hfair' ho hclose fun l z after hl _ => ?_).reached h hfair hy
  have hz := htimer z (by simp [hl])
  exact ⟨[], o, l, rfl, ho ▸ ⟨rfl, rfl⟩, fun w _ => inTime_of_platform hz w⟩

end SkSdk
