import SkSdk.Nwld.ClientContexts

/-!
The session objects of the programs over the session arrays of the driver. A session
object points to its context object and keeps its number when it is closed, so it is
only as good as the program that uses it.
-/

namespace SkSdk
open ByteMemory FaultState NameTable

/-! ## The session arrays as a table -/

/-- The server's handle of an entry in use, by connection and session number. -/
def Nwld.sessionTable (s : Nwld) (n : UInt32 × UInt32) : Option Handle :=
  (s.tapi.clist n.1.toNat).s.bind fun p =>
    let entry := s.sessions p n.2.toNat
    if entry.used then some entry.session else none

/-- No two connections have the same session array. -/
def Nwld.ArraysDistinct (s : Nwld) : Prop :=
  ∀ h h' p, (s.tapi.clist h).s = some p → (s.tapi.clist h').s = some p → h = h'

/-- What a call of the driver does to the session arrays. -/
inductive SessionStep (call : Call) (s : Nwld) (r : SkStatus × SkTeecUserInfo) (t : Nwld) : Prop
  | kept : t.sessionTable = s.sessionTable →
      (r.1 = skErrorSuccess → call.info.cmd ≠ skTapiOpenSession ∧
        call.info.cmd ≠ skTapiCloseSession ∧ call.info.cmd ≠ skTapiCloseContext) →
      SessionStep call s r t
  | opened {pos : SkTeecUserOpenSession} {k : UInt32} {e : NwldExchange} :
      call.info = .openSession pos →
      r = (skErrorSuccess, .openSession { pos with sessionHandle := k }) →
      s.sessionTable (pos.contextHandle, k) = none →
      t.sessionTable = Function.update s.sessionTable (pos.contextHandle, k) (some e.reply.handle) →
      t.exchanges = s.exchanges ++ [e] → SessionStep call s r t
  | closed {pcs : SkTeecUserCloseSession} :
      call.info = .closeSession pcs → r.1 = skErrorSuccess →
      t.sessionTable = Function.update s.sessionTable (pcs.contextHandle, pcs.sessionHandle) none →
      SessionStep call s r t
  | dropped {pcc : SkTeecUserCloseContext} :
      call.info = .closeContext pcc → r.1 = skErrorSuccess →
      (∀ n, t.sessionTable n = if n.1 = pcc.contextHandle then none else s.sessionTable n) →
      SessionStep call s r t

section SessionStep

variable {call : Call} {s t : Nwld} {r : SkStatus × SkTeecUserInfo}

theorem Nwld.sessionTable_congr (hs : ∀ h, (t.tapi.clist h).s = (s.tapi.clist h).s)
    (hsessions : t.sessions = s.sessions) : t.sessionTable = s.sessionTable := by
  funext n
  rw [sessionTable, sessionTable, hs, hsessions]

theorem Nwld.s_updConn (s : Nwld) (h h' : Nat) {f : TSkSysConnection → TSkSysConnection}
    (hf : (f (s.tapi.clist h)).s = (s.tapi.clist h).s) :
    ((s.updConn h f).tapi.clist h').s = (s.tapi.clist h').s := by
  rw [clist_updConn]
  split
  · next heq => rw [hf, heq]
  · rfl

theorem Nwld.s_connected (s : Nwld) (y x : Nat) (i : IdSlot) (context : Handle) :
    ((s.connected y i context).tapi.clist x).s = (s.tapi.clist x).s :=
  s_updConn s y x (f := fun c => { c with
    contextId := (s.tapi.info i).contextId
    contextIdIndex := i
    used := true
    comm := some i
    context }) rfl

theorem Nwld.s_attached (s : Nwld) (h p k x : Nat) (session : Handle) :
    ((s.attached h p k session).tapi.clist x).s = (s.tapi.clist x).s :=
  s_updConn (s.updSession p k ⟨session, true⟩) h x
    (f := fun c => { c with numSessions := c.numSessions + 1 }) rfl

theorem Nwld.s_detached (s : Nwld) (h p k x : Nat) :
    ((s.detached h p k).tapi.clist x).s = (s.tapi.clist x).s :=
  s_updConn s h x (f := fun c => { c with numSessions := c.numSessions - 1 }) rfl

/-- An entry of the one connection that has the array. -/
theorem Nwld.sessionTable_updSession (hdistinct : s.ArraysDistinct) {n k : UInt32} {p : Nat}
    (hp : (s.tapi.clist n.toNat).s = some p) (x : TSkSysSession) :
    (s.updSession p k.toNat x).sessionTable =
      Function.update s.sessionTable (n, k) (if x.used then some x.session else none) := by
  funext m
  obtain ⟨n', k'⟩ := m
  rcases eq_or_ne (n', k') (n, k) with heq | hne
  · cases heq
    rw [Function.update_self, sessionTable, tapi_updSession, hp]
    simp
  · rw [Function.update_of_ne hne, sessionTable, sessionTable, tapi_updSession]
    cases hp' : (s.tapi.clist n'.toNat).s with
    | none => rfl
    | some p' =>
      have hentry : ¬ (p' = p ∧ k'.toNat = k.toNat) := by
        rintro ⟨rfl, hk⟩
        have hn := UInt32.toNat_inj.mp (hdistinct _ _ _ hp' hp)
        exact hne (by rw [hn, UInt32.toNat_inj.mp hk])
      simp [hentry]

theorem CallOutcome.arrays (h : CallOutcome call s r t) (x : Nat) :
    (t.tapi.clist x).s = (s.tapi.clist x).s ∨ (t.tapi.clist x).s = none := by
  have hclist (ht : t.tapi.clist = s.tapi.clist) : (t.tapi.clist x).s = (s.tapi.clist x).s := by
    rw [ht]
  cases h with
  | refused _ => exact .inl rfl
  | unclaimed _ hclaim => exact .inl (hclist hclaim.frame.1)
  | unsent _ hclaim => exact .inl (hclist hclaim.frame.1)
  | unopened _ hclaim _ _ _ => exact .inl (hclist hclaim.frame.1)
  | @openedContext _ _ u e y _ hclaim _ _ _ _ =>
    rw [Nwld.s_connected]
    exact .inl (by rw [← hclaim.frame.1]; rfl)
  | rejected _ _ _ => exact .inl rfl
  | unreleased _ _ _ hrelease _ => exact .inl (hclist hrelease.frame.1)
  | @closedContext pcc _ _ _ u _ _ _ hrelease _ =>
    simp only [Nwld.disconnected, Nwld.clist_updConn]
    split
    · exact .inr rfl
    · exact .inl (by rw [hrelease.frame.1]; rfl)
  | sessionsFull _ _ _ _ _ => exact .inl rfl
  | @openedSession pos _ _ e p k _ _ _ _ _ _ =>
    exact .inl (Nwld.s_attached ..)
  | @closedSession pcs _ _ e p _ _ _ _ _ => exact .inl (Nwld.s_detached ..)
  | invoked _ _ _ => exact .inl rfl
  | registered _ _ _ _ => exact .inl rfl
  | unregistered _ _ _ => exact .inl rfl

theorem Nwld.ArraysDistinct.outcome (hdistinct : s.ArraysDistinct) (h : CallOutcome call s r t) :
    t.ArraysDistinct := by
  have hback : ∀ x p, (t.tapi.clist x).s = some p → (s.tapi.clist x).s = some p := by
    intro x p hx
    rcases h.arrays x with heq | heq
    · exact heq ▸ hx
    · rw [heq] at hx
      cases hx
  exact fun x y p hx hy => hdistinct x y p (hback x p hx) (hback y p hy)

theorem CallOutcome.sessions (h : CallOutcome call s r t) (hdistinct : s.ArraysDistinct) :
    SessionStep call s r t := by
  have hfailed {err : SkStatus} {arg : SkTeecUserInfo} (herr : err ≠ skErrorSuccess)
      (hclist : t.tapi.clist = s.tapi.clist) (hsessions : t.sessions = s.sessions) :
      SessionStep call s (err, arg) t :=
    .kept (Nwld.sessionTable_congr (fun x => by rw [hclist]) hsessions)
      fun hsuccess => absurd hsuccess herr
  have hother {err : SkStatus} {arg : SkTeecUserInfo} {cmd : UInt32} (hcmd : call.info.cmd = cmd)
      (hne : cmd ≠ skTapiOpenSession ∧ cmd ≠ skTapiCloseSession ∧ cmd ≠ skTapiCloseContext)
      (ht : t.sessionTable = s.sessionTable) : SessionStep call s (err, arg) t :=
    .kept ht fun _ => hcmd ▸ hne
  cases h with
  | refused herr => exact hfailed herr rfl rfl
  | unclaimed _ hclaim => exact hfailed hclaim.error_ne hclaim.frame.1 hclaim.frame.2.2.2.1
  | unsent _ hclaim =>
    exact hfailed (by decide : skErrorCommFailed ≠ skErrorSuccess) hclaim.frame.1
      hclaim.frame.2.2.2.1
  | unopened _ hclaim _ herr _ => exact hfailed herr hclaim.frame.1 hclaim.frame.2.2.2.1
  | @openedContext _ i u e y hinfo hclaim _ _ _ _ =>
    refine hother (by rw [hinfo]) (by decide : skTapiOpenContext ≠ _ ∧ _ ∧ _) ?_
    refine Nwld.sessionTable_congr (fun x => ?_) hclaim.frame.2.2.2.1
    rw [Nwld.s_connected, ← hclaim.frame.1]
    rfl
  | rejected _ _ herr => exact hfailed herr rfl rfl
  | unreleased _ _ _ hrelease herr => exact hfailed herr hrelease.frame.1 hrelease.frame.2.2.2.1
  | @closedContext pcc _ _ e u hinfo _ _ hrelease _ =>
    refine .dropped hinfo rfl fun n => ?_
    have hsessions : u.sessions = s.sessions := hrelease.frame.2.2.2.1
    have hclist : u.tapi.clist = s.tapi.clist := hrelease.frame.1
    rw [Nwld.sessionTable, Nwld.sessionTable, Nwld.disconnected, Nwld.clist_updConn]
    split
    · rename_i hn
      rw [if_pos (UInt32.toNat_inj.mp hn)]
      rfl
    · rename_i hn
      rw [if_neg fun heq => hn (by rw [heq])]
      simp only [Nwld.sessions_updConn, hclist, hsessions]
  | sessionsFull _ _ _ _ _ =>
    exact hfailed (by decide : skErrorSessionHandleNotFound ≠ skErrorSuccess) rfl rfl
  | @openedSession pos pconn _ e p k hinfo hsends _ hp hfree _ =>
    obtain ⟨-, -, hpconn⟩ := SkNwldTapi.connection_eq_some hsends.connection
    rw [hpconn] at hp
    obtain ⟨hmax, hunused, -⟩ := firstUnused_eq_some.mp hfree
    have hindex := toNat_ofNat hmax
    refine .opened (k := (Int32.ofNat k).toUInt32) (e := e) hinfo rfl ?_ ?_ rfl
    · rw [Nwld.sessionTable, hp, Option.bind_some, hindex]
      exact if_neg (by simpa using hunused)
    · have hupdate := Nwld.sessionTable_updSession (s := s.record e) (k := (Int32.ofNat k).toUInt32)
        hdistinct hp ⟨e.reply.handle, true⟩
      rw [hindex] at hupdate
      refine Eq.trans ?_ hupdate
      exact Nwld.sessionTable_congr (fun x => Nwld.s_attached ..) rfl
  | @closedSession pcs pconn _ e p hinfo hsends _ hp _ =>
    obtain ⟨-, -, hpconn⟩ := SkNwldTapi.connection_eq_some hsends.connection
    rw [hpconn] at hp
    refine .closed hinfo rfl ?_
    have hupdate := Nwld.sessionTable_updSession (s := s.record e) (k := pcs.sessionHandle)
      hdistinct hp .zero
    refine Eq.trans ?_ hupdate
    exact Nwld.sessionTable_congr (fun x => Nwld.s_detached ..) rfl
  | invoked hinfo _ _ =>
    exact hother (by rw [hinfo]) (by decide : skTapiInvokeCommand ≠ _ ∧ _ ∧ _) rfl
  | registered hinfo _ _ _ =>
    exact hother (by rw [hinfo]) (by decide : skTapiRegisterMemory ≠ _ ∧ _ ∧ _) rfl
  | unregistered hinfo _ _ =>
    exact hother (by rw [hinfo]) (by decide : skTapiUnregisterMemory ≠ _ ∧ _ ∧ _) rfl

end SessionStep

/-! ## The calls that write a session object -/

/-- A successful call that opened session object `q` through context object `p` and
was replied with a handle. -/
def OpenedSession (q p : Nat) (v : Handle) (x : TeecStep) : Prop :=
  (∃ taid, x.input.call = .openSession (some p) (some q) (some taid)) ∧
    x.result = skErrorSuccess ∧ ∃ e, sent x = [e] ∧ e.reply.handle = v

/-- A successful call that closed session object `q`. -/
def ClosedSession (q : Nat) (x : TeecStep) : Prop :=
  x.input.call = .closeSession (some q) ∧ x.result = skErrorSuccess

/-- A call that clears, fills or closes session object `q`. -/
def WritesSession (q : Nat) (x : TeecStep) : Prop :=
  (∃ p taid, x.input.call = .openSession (some p) (some q) (some taid)) ∨ ClosedSession q x

/-- What a call does to the session objects and the session arrays. -/
inductive SessionEffect (x : TeecStep) : Prop
  | kept : x.post.sessions = x.pre.sessions → x.post.nwld.sessionTable = x.pre.nwld.sessionTable →
      (∀ q, ¬ WritesSession q x) → (∀ p, ¬ ClosedContext p x) → SessionEffect x
  | failed {q p : Nat} {taid : SkTaid} :
      x.input.call = .openSession (some p) (some q) (some taid) → x.result ≠ skErrorSuccess →
      x.post.sessions = Function.update x.pre.sessions q ⟨0, none⟩ →
      x.post.nwld.sessionTable = x.pre.nwld.sessionTable → SessionEffect x
  | opened {q p : Nat} {k : UInt32} {v : Handle} :
      OpenedSession q p v x → x.pre.nwld.sessionTable (x.pre.handles p, k) = none →
      x.post.sessions = Function.update x.pre.sessions q ⟨k, some p⟩ →
      x.post.nwld.sessionTable =
        Function.update x.pre.nwld.sessionTable (x.pre.handles p, k) (some v) → SessionEffect x
  | closed {q p : Nat} :
      ClosedSession q x → (x.pre.sessions q).context = some p →
      x.post.sessions = x.pre.sessions →
      x.post.nwld.sessionTable = Function.update x.pre.nwld.sessionTable
        (x.pre.handles p, (x.pre.sessions q).handle) none → SessionEffect x
  | dropped {p : Nat} :
      ClosedContext p x → x.post.sessions = x.pre.sessions →
      (∀ n, x.post.nwld.sessionTable n =
        if n.1 = x.pre.handles p then none else x.pre.nwld.sessionTable n) → SessionEffect x

section SessionEffect

variable {logs : Bool} {x : TeecStep} {q q' : Nat}

theorem SessionStep.kept_of_failed {call : Call} {s t : Nwld} {r : SkStatus × SkTeecUserInfo}
    (h : SessionStep call s r t) (hr : r.1 ≠ skErrorSuccess) : t.sessionTable = s.sessionTable := by
  cases h with
  | kept ht _ => exact ht
  | opened _ hsuccess _ _ _ => exact absurd (by rw [hsuccess]) hr
  | closed _ hsuccess _ => exact absurd hsuccess hr
  | dropped _ hsuccess _ => exact absurd hsuccess hr

theorem teecStep_sessions (hdistinct : x.pre.nwld.ArraysDistinct)
    (h : teecStep logs x.input x.pre = .ok (x.result, x.post)) : SessionEffect x := by
  obtain ⟨⟨call, env⟩, s, status, s'⟩ := x
  have hout := teecStep_cases h
  dsimp only at hout
  cases hout with
  | invalid hasks =>
    refine .kept rfl rfl ?_ ?_
    · rintro q (⟨p, taid, hcall⟩ | ⟨-, hresult⟩)
      · cases hcall
        exact hasks _ .openSession
      · cases hresult
    · rintro p ⟨-, hresult⟩
      cases hresult
  | failed hasks _ hstep herr =>
    have htable := ((nwldStep_cases hstep).sessions hdistinct).kept_of_failed herr
    cases hasks with
    | openSession =>
      exact .failed rfl (by decide : skErrorSendToDriver ≠ skErrorSuccess) rfl htable
    | _ =>
      refine .kept rfl htable ?_ ?_
      · rintro q (⟨p, taid, hcall⟩ | ⟨-, hresult⟩)
        · cases hcall
        · cases hresult
      · rintro p ⟨-, hresult⟩
        cases hresult
  | @done info arg nwld hasks hstep =>
    have hsession := (nwldStep_cases hstep).sessions hdistinct
    cases hasks with
    | @openSession p q taid =>
      cases hsession with
      | kept _ hother => exact absurd rfl (hother rfl).1
      | closed hinfo _ _ => cases hinfo
      | dropped hinfo _ _ => cases hinfo
      | @opened pos k e hinfo hr hfree htable hex =>
        cases hinfo
        cases hr
        refine .opened (q := q) (p := p) (v := e.reply.handle) ⟨⟨taid, rfl⟩, rfl, e, ?_, rfl⟩
          hfree ?_ htable
        · exact (if_neg (by decide : skErrorSuccess ≠ skErrorInvalidParam)).trans hex
        · change Function.update (Function.update s.sessions q ⟨0, none⟩) q ⟨k, some p⟩ = _
          rw [Function.update_idem]
    | @closeSession p q hq =>
      cases hsession with
      | kept _ hother => exact absurd rfl (hother rfl).2.1
      | opened hinfo _ _ _ _ => cases hinfo
      | dropped hinfo _ _ => cases hinfo
      | closed hinfo _ htable =>
        cases hinfo
        exact .closed ⟨rfl, rfl⟩ hq rfl htable
    | @closeContext p =>
      cases hsession with
      | kept _ hother => exact absurd rfl (hother rfl).2.2
      | opened hinfo _ _ _ _ => cases hinfo
      | closed hinfo _ _ => cases hinfo
      | dropped hinfo _ htable =>
        cases hinfo
        exact .dropped ⟨rfl, rfl⟩ rfl htable
    | _ =>
      cases hsession with
      | opened hinfo _ _ _ _ => cases hinfo
      | closed hinfo _ _ => cases hinfo
      | dropped hinfo _ _ => cases hinfo
      | kept htable _ =>
        refine .kept rfl htable ?_ ?_
        · rintro q (⟨p, taid, hcall⟩ | ⟨hcall, -⟩)
          · cases hcall
          · cases hcall
        · rintro p ⟨hcall, -⟩
          cases hcall

theorem OpenedSession.writes {p : Nat} {v : Handle} (h : OpenedSession q p v x) :
    WritesSession q x :=
  .inl ⟨p, h.1.choose, h.1.choose_spec⟩

theorem OpenedSession.unique {p p' : Nat} {v v' : Handle} (h : OpenedSession q p v x)
    (h' : OpenedSession q' p' v' x) : q' = q ∧ p' = p := by
  obtain ⟨⟨taid, hcall⟩, -⟩ := h
  obtain ⟨⟨taid', hcall'⟩, -⟩ := h'
  rw [hcall] at hcall'
  cases hcall'
  exact ⟨rfl, rfl⟩

theorem OpenedSession.not_writes_context {p p' : Nat} {v : Handle} (h : OpenedSession q p v x) :
    ¬ WritesContext p' x := by
  obtain ⟨⟨taid, hcall⟩, -⟩ := h
  rintro (⟨name, id, hcall'⟩ | ⟨hcall', -⟩)
  · rw [hcall] at hcall'
    cases hcall'
  · rw [hcall] at hcall'
    cases hcall'

theorem WritesSession.of_open {p : Nat} {taid : SkTaid}
    (hcall : x.input.call = .openSession (some p) (some q) (some taid))
    (h : WritesSession q' x) : q' = q := by
  rcases h with ⟨_, _, hcall'⟩ | ⟨hcall', -⟩
  · rw [hcall] at hcall'
    cases hcall'
    rfl
  · rw [hcall] at hcall'
    cases hcall'

theorem WritesSession.of_close (hcall : x.input.call = .closeSession (some q))
    (h : WritesSession q' x) : q' = q := by
  rcases h with ⟨_, _, hcall'⟩ | ⟨hcall', -⟩
  · rw [hcall] at hcall'
    cases hcall'
  · rw [hcall] at hcall'
    cases hcall'
    rfl

theorem SessionEffect.kept_of (h : SessionEffect x) (hq : ¬ WritesSession q x) :
    x.post.sessions q = x.pre.sessions q := by
  cases h with
  | kept hsessions _ _ _ => rw [hsessions]
  | @failed q' p taid hcall _ hsessions _ =>
    rw [hsessions, Function.update_of_ne]
    rintro rfl
    exact hq (.inl ⟨p, taid, hcall⟩)
  | opened hopen _ hsessions _ =>
    rw [hsessions, Function.update_of_ne]
    rintro rfl
    exact hq hopen.writes
  | closed _ _ hsessions _ => rw [hsessions]
  | dropped _ hsessions _ => rw [hsessions]

theorem SessionEffect.opened_of {p : Nat} {v : Handle} (h : SessionEffect x)
    (hopen : OpenedSession q p v x) : (x.post.sessions q).context = some p := by
  cases h with
  | kept _ _ hwrites _ => exact absurd hopen.writes (hwrites q)
  | failed _ hresult _ _ => exact absurd hopen.2.1 hresult
  | opened hopen' _ hsessions _ =>
    obtain ⟨rfl, rfl⟩ := hopen'.unique hopen
    rw [hsessions, Function.update_self]
  | closed hclose _ _ _ =>
    obtain ⟨⟨taid, hcall⟩, -⟩ := hopen
    rw [hclose.1] at hcall
    cases hcall
  | dropped hclose _ _ => exact absurd (.inr hclose) hopen.not_writes_context

end SessionEffect

/-! ## Programs that close only what they opened -/

/-- Session object `q` was last opened through `p` with `v`, and neither object was
written since. -/
def LastSession (tr : List TeecStep) (q p : Nat) (v : Handle) (x : TeecStep) : Prop :=
  Latest (OpenedSession q p v) (fun y => WritesSession q y ∨ WritesContext p y) tr x

/-- Session object `q` is open. -/
def SessionIn (tr : List TeecStep) (q : Nat) : Prop := ∃ p v x, LastSession tr q p v x

/-- Sessions are opened through open context objects, and only what is open is closed. -/
structure Disciplined (tr : List TeecStep) : Prop where
  closes : ClosesOpen tr
  opens : ∀ before x after q p v, tr = before ++ x :: after → OpenedSession q p v x →
    OpenIn before p
  closesSession : ∀ before x after q, tr = before ++ x :: after → ClosedSession q x →
    SessionIn before q

open Classical in
/-- The numbers that an open session object stands for. -/
noncomputable def sessionName (tr : List TeecStep) (s : SkClient) (q : Nat) :
    Option (UInt32 × UInt32) :=
  if SessionIn tr q then
    (s.sessions q).context.map fun p => (s.handles p, (s.sessions q).handle)
  else none

/-- The open session objects have distinct entries in use, each its own. -/
structure SessionsHeld (tr : List TeecStep) (s : SkClient) : Prop where
  distinct : s.nwld.ArraysDistinct
  contexts : OpenHeld tr s
  through : ∀ q p v x, LastSession tr q p v x → (s.sessions q).context = some p ∧ OpenIn tr p
  held : Held none (sessionName tr s) (lift s.nwld.sessionTable)
    fun q v => ∃ p x, LastSession tr q p v x

section Own

variable {tr : List TeecStep} {x y : TeecStep} {s : SkClient} {q p : Nat} {v : Handle}

theorem lastSession_concat : LastSession (tr ++ [x]) q p v y ↔ y = x ∧ OpenedSession q p v x ∨
    LastSession tr q p v y ∧ ¬ WritesSession q x ∧ ¬ WritesContext p x := by
  rw [LastSession, latest_concat, not_or]
  rfl

theorem sessionName_of (h : LastSession tr q p v y) (hp : (s.sessions q).context = some p) :
    sessionName tr s q = some (s.handles p, (s.sessions q).handle) := by
  rw [sessionName, if_pos ⟨p, v, y, h⟩, hp]
  rfl

theorem sessionIn_of_name (h : sessionName tr s q ≠ none) : SessionIn tr q := by
  by_contra hnot
  exact h (if_neg hnot)

/-- A session object that a call leaves open keeps its context object and its name. -/
private theorem survives (h : SessionsHeld tr x.pre) (hx : SessionEffect x) (hc : ContextStep x)
    (hlast : LastSession tr q p v y) (hq : ¬ WritesSession q x) (hp : ¬ WritesContext p x) :
    (x.post.sessions q).context = some p ∧ OpenIn (tr ++ [x]) p ∧
      sessionName (tr ++ [x]) x.post q = sessionName tr x.pre q := by
  obtain ⟨hctx, hopen⟩ := h.through q p v y hlast
  have hsame := hx.kept_of hq
  have hlast' : LastSession (tr ++ [x]) q p v y := lastSession_concat.mpr (.inr ⟨hlast, hq, hp⟩)
  have hctx' : (x.post.sessions q).context = some p := by rw [hsame, hctx]
  refine ⟨hctx', (openIn_concat hp).mpr hopen, ?_⟩
  rw [sessionName_of hlast' hctx', sessionName_of hlast hctx, hsame, hc.kept_of hp]

/-- The name that a session object gets when it is opened. -/
private theorem sessionName_opened {k : UInt32} (hc : ContextStep x) (hopen : OpenedSession q p v x)
    (hsessions : x.post.sessions = Function.update x.pre.sessions q ⟨k, some p⟩) :
    sessionName (tr ++ [x]) x.post q = some (x.pre.handles p, k) := by
  have hlast : LastSession (tr ++ [x]) q p v x := Latest.last hopen _ tr
  have hctx : (x.post.sessions q).context = some p := by rw [hsessions, Function.update_self]
  rw [sessionName_of hlast hctx, hsessions, Function.update_self,
    hc.kept_of hopen.not_writes_context]

private theorem through_concat (h : SessionsHeld tr x.pre) (hx : SessionEffect x)
    (hc : ContextStep x) (hopens : ∀ q p v, OpenedSession q p v x →
      (x.post.sessions q).context = some p ∧ OpenIn (tr ++ [x]) p)
    (hlast : LastSession (tr ++ [x]) q p v y) :
    (x.post.sessions q).context = some p ∧ OpenIn (tr ++ [x]) p := by
  rcases lastSession_concat.mp hlast with ⟨-, hopen⟩ | ⟨hlast, hq, hp⟩
  · exact hopens q p v hopen
  · obtain ⟨hctx, hin, -⟩ := survives h hx hc hlast hq hp
    exact ⟨hctx, hin⟩

/-- A call that opens no session leaves some of the open session objects open. -/
private theorem held_restrict (h : SessionsHeld tr x.pre) (hx : SessionEffect x)
    (hc : ContextStep x) (hnew : ∀ q p v, ¬ OpenedSession q p v x)
    (htable : ∀ q p v y, LastSession tr q p v y → ¬ WritesSession q x → ¬ WritesContext p x →
      lift x.post.nwld.sessionTable (sessionName tr x.pre q) =
        lift x.pre.nwld.sessionTable (sessionName tr x.pre q)) :
    Held none (sessionName (tr ++ [x]) x.post) (lift x.post.nwld.sessionTable)
      fun q v => ∃ p y, LastSession (tr ++ [x]) q p v y := by
  have hold : ∀ q, sessionName (tr ++ [x]) x.post q ≠ none → ∃ p v y, LastSession tr q p v y ∧
      ¬ WritesSession q x ∧ ¬ WritesContext p x := by
    intro q hname
    obtain ⟨p, v, y, hlast⟩ := sessionIn_of_name hname
    rcases lastSession_concat.mp hlast with ⟨-, hopen⟩ | hold
    · exact absurd hopen (hnew q p v)
    · exact ⟨p, v, y, hold⟩
  refine h.held.restrict (fun q hname => ?_) (fun q hname => ?_) fun q v hname hsource => ?_
  · obtain ⟨p, v, y, hlast, hq, hp⟩ := hold q hname
    exact (survives h hx hc hlast hq hp).2.2
  · obtain ⟨p, v, y, hlast, hq, hp⟩ := hold q hname
    exact htable q p v y hlast hq hp
  · obtain ⟨p, w, z, hlast, hq, hp⟩ := hold q hname
    obtain ⟨p', y, hlast'⟩ := hsource
    have hctx := (h.through q p w z hlast).1
    rw [(h.through q p' v y hlast').1] at hctx
    cases hctx
    exact ⟨p, y, lastSession_concat.mpr (.inr ⟨hlast', hq, hp⟩)⟩

theorem SessionsHeld.step (h : SessionsHeld tr x.pre) (hx : SessionEffect x) (hc : ContextStep x)
    (hdistinct : x.post.nwld.ArraysDistinct) (hcloses : ∀ p, ClosedContext p x → OpenIn tr p)
    (hopens : ∀ q p v, OpenedSession q p v x → OpenIn tr p)
    (hclosesS : ∀ q, ClosedSession q x → SessionIn tr q) : SessionsHeld (tr ++ [x]) x.post := by
  have hthrough {q p : Nat} {v : Handle} (hopen : OpenedSession q p v x) :
      (x.post.sessions q).context = some p ∧ OpenIn (tr ++ [x]) p :=
    ⟨hx.opened_of hopen, (openIn_concat hopen.not_writes_context).mpr (hopens q p v hopen)⟩
  refine ⟨hdistinct, h.contexts.step hc hcloses, fun q p v y => through_concat h hx hc
    fun q p v => hthrough, ?_⟩
  have hquiet := held_restrict h hx hc
  cases hx with
  | kept _ htable hwrites _ =>
    refine hquiet (fun q p v hopen => hwrites q hopen.writes) fun q p v y _ _ _ => ?_
    rw [htable]
  | failed _ hresult _ htable =>
    refine hquiet (fun q p v hopen => hresult hopen.2.1) fun q p v y _ _ _ => ?_
    rw [htable]
  | @closed q₀ p₀ hclose hctx _ htable =>
    refine hquiet ?_ fun q p v y hlast hq _ => ?_
    · rintro q p v ⟨⟨taid, hcall⟩, -⟩
      rw [hclose.1] at hcall
      cases hcall
    · obtain ⟨p₁, v₀, z, hlast₀⟩ := hclosesS q₀ hclose
      have hctx₀ := (h.through q₀ p₁ v₀ z hlast₀).1
      rw [hctx] at hctx₀
      cases hctx₀
      rw [htable, lift_update, ← sessionName_of hlast₀ hctx, Function.update_of_ne]
      intro heq
      have hname := sessionName_of hlast (h.through q p v y hlast).1
      have hsame := h.held.exclusive q q₀ (by rw [hname]; exact Option.some_ne_none _) heq
      exact hq (hsame ▸ .inr hclose)
  | @dropped p₀ hclose _ htable =>
    refine hquiet (fun q p v hopen => hopen.not_writes_context (.inr hclose))
      fun q p v y hlast _ hp => ?_
    obtain ⟨hctx, hopen⟩ := h.through q p v y hlast
    rw [sessionName_of hlast hctx]
    refine (htable _).trans (if_neg fun heq => ?_)
    have hsame := h.contexts.distinct hopen (hcloses p₀ hclose) heq
    exact hp (hsame ▸ .inr hclose)
  | @opened q₀ p₀ k v₀ hopen hfree hsessions htable =>
    have hcall := hopen.1.choose_spec
    have hlast₀ : LastSession (tr ++ [x]) q₀ p₀ v₀ x := Latest.last hopen _ tr
    have hothers : ∀ q, q ≠ q₀ → ¬ WritesSession q x := fun q hq hw => hq (hw.of_open hcall)
    have hname : sessionName (tr ++ [x]) x.post =
        Function.update (sessionName tr x.pre) q₀ (some (x.pre.handles p₀, k)) := by
      funext q
      rcases eq_or_ne q q₀ with rfl | hq
      · rw [Function.update_self, sessionName_opened hc hopen hsessions]
      · rw [Function.update_of_ne hq]
        by_cases hin : SessionIn tr q
        · obtain ⟨p, v, y, hlast⟩ := hin
          exact (survives h (.opened hopen hfree hsessions htable) hc hlast (hothers q hq)
            hopen.not_writes_context).2.2
        · have hin' : ¬ SessionIn (tr ++ [x]) q := by
            rintro ⟨p, v, y, hlast⟩
            rcases lastSession_concat.mp hlast with ⟨-, hopen'⟩ | ⟨hlast, -⟩
            · exact hq (hopen.unique hopen').1
            · exact hin ⟨p, v, y, hlast⟩
          rw [sessionName, sessionName, if_neg hin, if_neg hin']
    rw [hname, htable, lift_update]
    refine h.held.acquire hfree ⟨p₀, x, hlast₀⟩ ?_
    rintro q v hq ⟨p, y, hlast⟩
    exact ⟨p, y, lastSession_concat.mpr (.inr ⟨hlast, hothers q hq, hopen.not_writes_context⟩)⟩

theorem SessionsHeld.of_init {alloc : InitAlloc} {commObj : Nat}
    {maxConnections maxSessions smId : UInt32} {s₀ : SkClient} (hmax : maxConnections ≠ 0) :
    SessionsHeld []
      (skNwldPlatformTapiIoctlInit alloc commObj maxConnections maxSessions smId s₀).2 := by
  have hnone {q p : Nat} {v : Handle} {y : TeecStep} : ¬ LastSession [] q p v y := by
    rintro ⟨before, after, heq, -⟩
    simp at heq
  have hfresh := fresh_init alloc s₀.nwld maxConnections maxSessions smId commObj hmax
  refine ⟨?_, .nil, fun q p v y h => absurd h hnone, Held.of_null fun q => if_neg ?_⟩
  · intro x y p hx hy
    rw [(hfresh.array x p hx).1, (hfresh.array y p hy).1]
  · rintro ⟨p, v, y, h⟩
    exact hnone h

theorem Disciplined.init (h : Disciplined (tr ++ [x])) : Disciplined tr := by
  refine ⟨fun before y after p heq => ?_, fun before y after q p v heq => ?_,
    fun before y after q heq => ?_⟩
  · exact h.closes before y (after ++ [x]) p (by rw [heq]; simp)
  · exact h.opens before y (after ++ [x]) q p v (by rw [heq]; simp)
  · exact h.closesSession before y (after ++ [x]) q (by rw [heq]; simp)

theorem SessionsHeld.run {logs : Bool} {s₀ : SkClient} (h₀ : SessionsHeld [] s₀)
    (hrun : Run (teecStep logs) s₀ tr s) (hown : Disciplined tr) : SessionsHeld tr s := by
  refine hrun.invariant_of (fun _ => True) (fun _ _ => trivial)
    (fun tr s => Disciplined tr → SessionsHeld tr s) (fun _ => h₀) ?_ hown
  intro tr s i a s' hprev hstep _ hown
  have hheld := hprev hown.init
  have hstart : Nwld.ArraysDistinct { s.nwld with exchanges := [] } := hheld.distinct
  have hdistinct : s'.nwld.ArraysDistinct := by
    rcases teecStep_driver hstep with ⟨-, rfl⟩ | ⟨-, info, r, -, -, hdriver⟩
    · exact hheld.distinct
    · exact hstart.outcome (nwldStep_cases hdriver)
  exact SessionsHeld.step (x := ⟨i, s, a, s'⟩) hheld (teecStep_sessions hheld.distinct hstep)
    (teecStep_contexts hstep) hdistinct (fun p => hown.closes tr _ [] p rfl)
    (fun q p v => hown.opens tr _ [] q p v rfl) fun q => hown.closesSession tr _ [] q rfl

/-- Sessions are opened into session objects that are not open. -/
def OpensIdle (tr : List TeecStep) : Prop :=
  ∀ before x after q p taid, tr = before ++ x :: after →
    x.input.call = .openSession (some p) (some q) (some taid) → ¬ SessionIn before q

/-- Every entry in use is that of an open session object. -/
def AllSessions (tr : List TeecStep) (s : SkClient) : Prop :=
  ∀ n v, s.nwld.sessionTable n = some v → ∃ q, sessionName tr s q = some n

theorem AllSessions.step (h : AllSessions tr x.pre) (hheld : SessionsHeld tr x.pre)
    (hx : SessionEffect x) (hc : ContextStep x)
    (hopens : ∀ p name id, x.input.call = .openContext (some p) (some name) id → ¬ OpenIn tr p)
    (hidle : ∀ q p taid, x.input.call = .openSession (some p) (some q) (some taid) →
      ¬ SessionIn tr q) : AllSessions (tr ++ [x]) x.post := by
  have hold {n : UInt32 × UInt32} {v : Handle} (hv : x.pre.nwld.sessionTable n = some v)
      (hsession : ∀ q, SessionIn tr q → sessionName tr x.pre q = some n → ¬ WritesSession q x)
      (hcontext : ∀ p, x.pre.handles p = n.1 → ¬ ClosedContext p x) :
      ∃ q, sessionName (tr ++ [x]) x.post q = some n := by
    obtain ⟨q, hq⟩ := h n v hv
    have hin : SessionIn tr q := sessionIn_of_name (by rw [hq]; exact Option.some_ne_none _)
    obtain ⟨p, w, y, hlast⟩ := id hin
    obtain ⟨hctx, hopen⟩ := hheld.through q p w y hlast
    have hname := hq
    rw [sessionName_of hlast hctx] at hname
    have hp : ¬ WritesContext p x := by
      rintro (⟨name, id, hcall⟩ | hclose)
      · exact hopens p name id hcall hopen
      · exact hcontext p (congrArg Prod.fst (Option.some.inj hname)) hclose
    exact ⟨q, (survives hheld hx hc hlast (hsession q hin hq) hp).2.2.trans hq⟩
  intro n v hv
  cases hx with
  | kept _ htable hwrites hcloses =>
    rw [htable] at hv
    exact hold hv (fun q _ _ => hwrites q) fun p _ => hcloses p
  | @failed q₀ p₀ taid hcall _ _ htable =>
    rw [htable] at hv
    refine hold hv (fun q hin _ hw => hidle _ _ _ hcall (hw.of_open hcall ▸ hin)) fun p _ hclose => ?_
    rw [hclose.1] at hcall
    cases hcall
  | @opened q₀ p₀ k v₀ hopen hfree hsessions htable =>
    have hcall := hopen.1.choose_spec
    rcases eq_or_ne n (x.pre.handles p₀, k) with rfl | hne
    · exact ⟨q₀, sessionName_opened hc hopen hsessions⟩
    · rw [htable, Function.update_of_ne hne] at hv
      exact hold hv (fun q hin _ hw => hidle _ _ _ hcall (hw.of_open hcall ▸ hin))
        fun p _ hclose => hopen.not_writes_context (.inr hclose)
  | @closed q₀ p₀ hclose hctx hsessions htable =>
    rcases eq_or_ne n (x.pre.handles p₀, (x.pre.sessions q₀).handle) with rfl | hne
    · rw [htable, Function.update_self] at hv
      cases hv
    · rw [htable, Function.update_of_ne hne] at hv
      refine hold hv (fun q hin hname hw => ?_) fun p _ hcontext => ?_
      · obtain rfl := hw.of_close hclose.1
        obtain ⟨p, w, y, hlast⟩ := hin
        obtain rfl := Option.some.inj (hctx.symm.trans (hheld.through q p w y hlast).1)
        rw [sessionName_of hlast hctx] at hname
        exact hne (Option.some.inj hname).symm
      · have hcall := hcontext.1
        rw [hclose.1] at hcall
        cases hcall
  | @dropped p₀ hclose _ htable =>
    rw [htable] at hv
    split at hv
    · cases hv
    rename_i hne
    refine hold hv (fun q _ _ hw => ?_) fun p hp hcontext => ?_
    · rcases hw with ⟨_, _, hcall⟩ | ⟨hcall, -⟩
      · rw [hclose.1] at hcall
        cases hcall
      · rw [hclose.1] at hcall
        cases hcall
    · have hcall := hcontext.1
      rw [hclose.1] at hcall
      cases hcall
      exact hne hp.symm

theorem AllSessions.run {logs : Bool} {s₀ : SkClient} (hheld₀ : SessionsHeld [] s₀)
    (h₀ : AllSessions [] s₀) (hrun : Run (teecStep logs) s₀ tr s) (hown : Disciplined tr)
    (hopens : OpensClosed tr) (hidle : OpensIdle tr) : AllSessions tr s := by
  induction hrun with
  | start => exact h₀
  | @next tr s s' i a hbefore hstep ih =>
    have hheld := hheld₀.run hbefore hown.init
    refine (ih hown.init (fun before y after p name id heq => ?_)
      fun before y after q p taid heq => ?_).step (x := ⟨i, s, a, s'⟩) hheld
      (teecStep_sessions hheld.distinct hstep) (teecStep_contexts hstep)
      (fun p name id => hopens tr _ [] p name id rfl) fun q p taid => hidle tr _ [] q p taid rfl
    · exact hopens before y (after ++ [⟨i, s, a, s'⟩]) p name id (by rw [heq]; simp)
    · exact hidle before y (after ++ [⟨i, s, a, s'⟩]) q p taid (by rw [heq]; simp)

end Own

/-! ## What the requests carry -/

/-- The session object of a call. -/
def TeecCall.session : TeecCall → Option Nat
  | closeSession session => session
  | invokeCommand session _ _ => session
  | _ => none

theorem TeecCall.through_of_session {call : TeecCall} {s : SkClient} {q : Nat}
    (hq : call.session = some q) : call.through s = (s.sessions q).context := by
  cases call with
  | closeSession session =>
    cases hq
    rfl
  | invokeCommand session commandId operation =>
    cases hq
    rfl
  | _ => cases hq

theorem TeecCall.Asks.session {call : TeecCall} {env : TeecEnv} {s : SkClient}
    {info : SkTeecUserInfo} {q : Nat} (h : call.Asks env s info) (hq : call.session = some q) :
    info.sessionHandle = some (s.sessions q).handle := by
  cases h with
  | closeSession _ =>
    cases hq
    rfl
  | invokeCommand _ _ =>
    cases hq
    rfl
  | _ => cases hq

/-- A request on a session carries what the arrays have for it. -/
theorem Sends.sessionTable {call : Call} {s : Nwld} {hd sh : UInt32} {pconn : TSkSysConnection}
    {session : Handle} {e : NwldExchange} (h : Sends call s hd pconn session e)
    (hsh : call.info.sessionHandle = some sh) : s.sessionTable (hd, sh) = some e.sessionHandle := by
  obtain ⟨p, hp, -, hused, hsession⟩ := h.entry sh hsh
  obtain ⟨-, -, hpconn⟩ := SkNwldTapi.connection_eq_some h.connection
  obtain ⟨c, -, hexchange⟩ := h.exchange
  have hrequest : e.request = call.info.request pconn.contextId s.tapi.smId pconn.context
      session := by rw [hexchange]; rfl
  rw [hpconn] at hp
  rw [sessionHandle_request h.handle hsh hrequest, Nwld.sessionTable, hp, ← hsession]
  exact if_pos hused

theorem SessionsHeld.name_ne_none {tr : List TeecStep} {s : SkClient} {q : Nat}
    (h : SessionsHeld tr s) (hq : SessionIn tr q) : sessionName tr s q ≠ none := by
  obtain ⟨p, v, o, hlast⟩ := hq
  rw [sessionName_of hlast (h.through q p v o hlast).1]
  exact Option.some_ne_none _

/-- A request on an open session object carries what its own opening was given. -/
theorem SessionsHeld.relays {logs : Bool} {tr : List TeecStep} {x : TeecStep} {q : Nat}
    {e : NwldExchange} (h : SessionsHeld tr x.pre)
    (hstep : teecStep logs x.input x.pre = .ok (x.result, x.post))
    (hq : x.input.call.session = some q) (hopen : SessionIn tr q) (he : e ∈ sent x) :
    ∃ p o o', LastSession tr q p e.sessionHandle o ∧
      LastOpening tr p (e.contextId, e.contextHandle) o' := by
  obtain ⟨p, v, o, hlast⟩ := id hopen
  obtain ⟨hctx, hin⟩ := h.through q p v o hlast
  have hthrough : x.input.call.through x.pre = some p := by
    rw [TeecCall.through_of_session hq, hctx]
  obtain ⟨o', ho'⟩ := h.contexts.relays hstep hthrough hin he
  obtain ⟨call, pconn, session, hasks, hsends⟩ := exists_sends hstep hthrough he
  obtain ⟨w, hw, p', o'', hlast'⟩ := h.held.entry q (h.name_ne_none hopen)
  have hentry : x.pre.nwld.sessionTable (x.pre.handles p, (x.pre.sessions q).handle) =
      some e.sessionHandle := hsends.sessionTable (hasks.session hq)
  rw [sessionName_of hlast hctx, lift, Option.bind_some, hentry] at hw
  cases hw
  have hctx' := (h.through q p' _ o'' hlast').1
  rw [hctx] at hctx'
  cases hctx'
  exact ⟨p, o'', o', hlast', ho'⟩

/-- In a program that opens sessions through open context objects and closes only what
is open, no two open session objects stand for the same entry, and a request on an open
session carries what its own opening and that of its context object were given. -/
theorem client_own_sessions {logs : Bool} {s₀ s : SkClient} {alloc : InitAlloc} {commObj : Nat}
    {maxConnections maxSessions smId : UInt32} {before after : List TeecStep} {x : TeecStep}
    {q : Nat} (hmax : maxConnections ≠ 0)
    (hrun : Run (teecStep logs)
      (skNwldPlatformTapiIoctlInit alloc commObj maxConnections maxSessions smId s₀).2
      (before ++ x :: after) s)
    (hown : Disciplined before) (hq : x.input.call.session = some q) (hopen : SessionIn before q) :
    (∀ q', SessionIn before q' → sessionName before x.pre q' = sessionName before x.pre q →
      q' = q) ∧
      ∀ e ∈ sent x, ∃ p o o', LastSession before q p e.sessionHandle o ∧
        LastOpening before p (e.contextId, e.contextHandle) o' := by
  obtain ⟨hbefore, hstep⟩ := hrun.split rfl
  have hheld : SessionsHeld before x.pre := (SessionsHeld.of_init hmax).run hbefore hown
  exact ⟨fun q' hq' heq => hheld.held.exclusive q' q (hheld.name_ne_none hq') heq,
    fun e he => hheld.relays hstep hq hopen he⟩

def sampleTeecOpenSession (p q : Nat) : TeecRequest :=
  TeecCall.answeredAs (.openSession (some p) (some q) (some fun _ => 3)) (sampleNwldOpenSession 0)

def sampleTeecInvokeCommand (q : Nat) : TeecRequest :=
  TeecCall.answeredAs (.invokeCommand (some q) 9 (some ⟨0, fun _ => none⟩))
    (sampleNwldInvokeCommand 0 0)

/-- A context object and a session object are opened. -/
theorem Disciplined.of_opened {y z : TeecStep} {p q : Nat} {id : UInt32 × Handle} {v : Handle}
    (hopened : OpenedAs p id y) (hsession : OpenedSession q p v z) : Disciplined [y, z] := by
  obtain ⟨name, hy⟩ := hopened.1
  obtain ⟨taid, hz⟩ := hsession.1
  refine ⟨fun before w after p' heq hw => ?_, fun before w after q' p' v' heq hw => ?_,
    fun before w after q' heq hw => ?_⟩ <;>
  obtain _ | ⟨a, _ | ⟨b, rest⟩⟩ := before <;> simp at heq
  · rw [← heq.1, ClosedContext, hy] at hw
    cases hw.1
  · rw [← heq.2.1, ClosedContext, hz] at hw
    cases hw.1
  · rw [← heq.1] at hw
    obtain ⟨⟨taid', hcall⟩, -⟩ := hw
    rw [hy] at hcall
    cases hcall
  · obtain ⟨rfl, rfl, -⟩ := heq
    obtain ⟨-, rfl⟩ := hsession.unique hw
    exact ⟨_, y, Latest.last hopened _ []⟩
  · rw [← heq.1, ClosedSession, hy] at hw
    cases hw.1
  · rw [← heq.2.1, ClosedSession, hz] at hw
    cases hw.1

/-- A command on the session that was opened through a context object. -/
theorem client_own_sessions_invoke : ∃ before x s e,
    Run (teecStep false) sampleClient (before ++ [x]) s ∧
      x.input = sampleTeecInvokeCommand 0 ∧ e ∈ sent x ∧
      ∃ p o o', LastSession before 0 p e.sessionHandle o ∧
        LastOpening before p (e.contextId, e.contextHandle) o' := by
  obtain ⟨before, x, s, hrun, hbefore, hx, hall⟩ := exists_answered
    [sampleTeecOpenContext 0, sampleTeecOpenSession 0 0] (sampleTeecInvokeCommand 0)
    (by decide +kernel)
  obtain ⟨y, rest, rfl, hy, hrest⟩ := List.map_eq_cons_iff.mp hbefore
  obtain ⟨z, rfl, hz⟩ := List.map_eq_singleton_iff.mp hrest
  obtain ⟨hsuccess, f, hf⟩ := hall y (by simp)
  obtain ⟨hsuccess', f', hf'⟩ := hall z (by simp)
  obtain ⟨-, e, he⟩ := hall x (by simp)
  have hopened : OpenedAs 0 (1, f.reply.handle) y := ⟨⟨"sk", by rw [hy]; rfl⟩, hsuccess, f, hf, rfl⟩
  have hsession : OpenedSession 0 0 f'.reply.handle z :=
    ⟨⟨fun _ => 3, by rw [hz]; rfl⟩, hsuccess', f', hf', rfl⟩
  have hown := Disciplined.of_opened hopened hsession
  have hopen : SessionIn [y, z] 0 := ⟨0, _, z, Latest.last hsession _ [y]⟩
  have hq : x.input.call.session = some 0 := by rw [hx]; rfl
  have hmem : e ∈ sent x := by simp [he]
  exact ⟨[y, z], x, s, e, hrun, hx, hmem,
    (client_own_sessions (by decide : (2 : UInt32) ≠ 0) hrun hown hq hopen).2 e hmem⟩

end SkSdk
