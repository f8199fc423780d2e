import SkSdk.Library.Refinement
import SkSdk.Swld.TapiProcess

/-!
What the server is for, without its tables: a store of contexts and of the
sessions opened in them, named by nothing but their handles. The operations are
those that clients can tell apart by the replies.
-/

namespace SkSdk
open ByteMemory FaultState

@[ext] structure StoredSession where
  handle : Handle
  taid : SkTaid
  tapp : SkSwldTappInstance

/-- The open contexts with their sessions in the order of opening, and the
number that is compared with the limit when a context is opened. -/
@[ext] structure SessionStore where
  contexts : Handle → Option (List StoredSession)
  counted : Nat

/-- A request as the store sees it; `ignored` is one that is not for this server. -/
inductive StoreRequest
  | ignored
  | openContext (contextId : UInt32)
  | closeContext (context : Handle)
  | openSession (context : Handle) (taid : SkTaid)
  | closeSession (context session : Handle)
  | invokeCommand (context session : Handle) (cmd : UInt32)
  | memory
  | check

/-- The kind of a request and its members. -/
def StoreRequest.members : StoreRequest → Nat × UInt32 × List (Blk 16)
  | ignored => (0, 0, [])
  | openContext contextId => (1, contextId, [])
  | closeContext context => (2, 0, [context])
  | openSession context taid => (3, 0, [context, taid])
  | closeSession context session => (4, 0, [context, session])
  | invokeCommand context session cmd => (5, cmd, [context, session])
  | memory => (6, 0, [])
  | check => (7, 0, [])

-- derived instances would cast along an equation of functions, which blocks evaluation
instance : DecidableEq StoreRequest := fun a b =>
  decidable_of_iff (a.members = b.members)
    (by cases a <;> cases b <;> simp [StoreRequest.members, and_comm, and_left_comm])

/-- The session that a request names. -/
def StoreRequest.session : StoreRequest → Option Handle
  | closeSession _ session | invokeCommand _ session _ => some session
  | _ => none

/-- A reply as the client sees it. The handle in the reply to a refused opening
means nothing and is left out. -/
inductive StoreReply
  | silent
  | status (err : SkStatus)
  | opened (handle : Handle)

instance : DecidableEq StoreReply
  | .silent, .silent => .isTrue rfl
  | .status err, .status err' => decidable_of_iff (err = err') (by simp)
  | .opened handle, .opened handle' => decidable_of_iff (handle = handle') (by simp)
  | .silent, .status _ | .silent, .opened _ | .status _, .silent | .status _, .opened _
  | .opened _, .silent | .opened _, .status _ => .isFalse nofun

namespace SessionStore

def empty : SessionStore := ⟨fun _ => none, 0⟩

def put (σ : SessionStore) (context : Handle) (l : Option (List StoredSession)) : SessionStore :=
  { σ with contexts := Function.update σ.contexts context l }

/-- The context has a session with this handle. -/
def Holds (σ : SessionStore) (context session : Handle) : Prop :=
  ∃ l, σ.contexts context = some l ∧ ∃ x ∈ l, x.handle = session

/-- Some context has a session with this handle. -/
def Issued (σ : SessionStore) (session : Handle) : Prop := ∃ context, σ.Holds context session

/-- Contexts have gone, and sessions of those that stay. -/
def Within (σ' σ : SessionStore) : Prop :=
  ∀ context l', σ'.contexts context = some l' →
    ∃ l, σ.contexts context = some l ∧ l'.Sublist l

theorem Within.refl (σ : SessionStore) : σ.Within σ := fun _ l hl => ⟨l, hl, .refl l⟩

theorem Within.trans {σ σ' σ'' : SessionStore} (h : σ.Within σ') (h' : σ'.Within σ'') :
    σ.Within σ'' := by
  intro context l hl
  obtain ⟨l', hl', hsub⟩ := h context l hl
  obtain ⟨l'', hl'', hsub'⟩ := h' context l' hl'
  exact ⟨l'', hl'', hsub.trans hsub'⟩

theorem within_put {σ σ' : SessionStore} {context : Handle} {l' : Option (List StoredSession)}
    (hput : σ'.contexts = Function.update σ.contexts context l')
    (hsub : ∀ x ∈ l', ∃ l, σ.contexts context = some l ∧ x.Sublist l) : σ'.Within σ := by
  intro context' x hx
  rw [hput] at hx
  by_cases hc : context' = context
  · subst hc
    rw [Function.update_self] at hx
    exact hsub x hx
  · rw [Function.update_of_ne hc] at hx
    exact ⟨x, hx, .refl x⟩

/-- How a request that names a session fails to reach it. A session of another
context is not reported to the client. -/
inductive Unresolved (σ : SessionStore) (context session : Handle) : StoreReply → Prop
  | context : σ.contexts context = none →
      Unresolved σ context session (.status skErrorContextHandleNotFound)
  | session {l : List StoredSession} : σ.contexts context = some l → ¬ σ.Issued session →
      Unresolved σ context session (.status skErrorSessionHandleNotFound)
  | elsewhere {l : List StoredSession} : σ.contexts context = some l →
      (∀ x ∈ l, x.handle ≠ session) → σ.Issued session → Unresolved σ context session .silent

/-- The replies to an opening whose TApp did not load or start. -/
def openFailures : List SkStatus := [skErrorTappLoad, skErrorTappCall, skErrorTappTimeout]

/-- The replies to a command whose session has been found. -/
def invokeReplies : List SkStatus := [skErrorSuccess, skErrorTappCall, skErrorTappTimeout]

/-- One request on the store of the server for `contextId`. -/
inductive Next (contextId : UInt32) : SessionStore → StoreRequest × StoreReply → SessionStore → Prop
  | ignored {σ : SessionStore} : Next contextId σ (.ignored, .silent) σ
  | contextMisaddressed {σ : SessionStore} {id : UInt32} : id ≠ contextId →
      Next contextId σ (.openContext id, .status skErrorBadContextId) σ
  | contextsFull {σ : SessionStore} : skTapiMaxConnectionsPerContext ≤ σ.counted →
      Next contextId σ (.openContext contextId, .status skErrorOpenContext) σ
  | contextOpened {σ : SessionStore} {context : Handle} :
      σ.counted < skTapiMaxConnectionsPerContext → σ.contexts context = none →
      Next contextId σ (.openContext contextId, .opened context)
        { σ.put context (some []) with counted := σ.counted + 1 }
  | closeUnknown {σ : SessionStore} {context : Handle} : σ.contexts context = none →
      Next contextId σ (.closeContext context, .status skErrorContextHandleNotFound) σ
  | contextClosed {σ : SessionStore} {context : Handle} : σ.contexts context = some [] →
      0 < σ.counted →
      Next contextId σ (.closeContext context, .status skErrorSuccess)
        { σ.put context none with counted := σ.counted - 1 }
  /-- A context with sessions stays, and is counted out all the same. -/
  | contextCountedOut {σ : SessionStore} {context : Handle} {l : List StoredSession} :
      σ.contexts context = some l → l ≠ [] → 0 < σ.counted →
      Next contextId σ (.closeContext context, .status skErrorSuccess)
        { σ with counted := σ.counted - 1 }
  | openSessionUnknown {σ : SessionStore} {context : Handle} {taid : SkTaid} :
      σ.contexts context = none →
      Next contextId σ (.openSession context taid, .status skErrorContextHandleNotFound) σ
  | sessionsFull {σ : SessionStore} {context : Handle} {taid : SkTaid} {l : List StoredSession} :
      σ.contexts context = some l → skTapiMaxSessionsPerContext ≤ l.length →
      Next contextId σ (.openSession context taid, .status skErrorOpenSession) σ
  /-- The session is there whatever became of its TApp; only a success tells the handle. -/
  | sessionOpened {σ : SessionStore} {context : Handle} {l : List StoredSession}
      {x : StoredSession} {reply : StoreReply} :
      σ.contexts context = some l → ¬ σ.Issued x.handle →
      reply = .opened x.handle ∨ (∃ err ∈ openFailures, reply = .status err) →
      Next contextId σ (.openSession context x.taid, reply) (σ.put context (some (l ++ [x])))
  | closeUnresolved {σ : SessionStore} {context session : Handle} {reply : StoreReply} :
      Unresolved σ context session reply →
      Next contextId σ (.closeSession context session, reply) σ
  | sessionClosed {σ : SessionStore} {context : Handle} {l : List StoredSession}
      {x : StoredSession} : σ.contexts context = some l → x ∈ l →
      Next contextId σ (.closeSession context x.handle, .status skErrorSuccess)
        (σ.put context (some (l.filter fun y => y.handle ≠ x.handle)))
  | invokeUnresolved {σ : SessionStore} {context session : Handle} {cmd : UInt32}
      {reply : StoreReply} : Unresolved σ context session reply →
      Next contextId σ (.invokeCommand context session cmd, reply) σ
  | commandInvoked {σ : SessionStore} {context : Handle} {l : List StoredSession}
      {x : StoredSession} {cmd : UInt32} {err : SkStatus} :
      σ.contexts context = some l → x ∈ l →
      err ∈ invokeReplies →
      Next contextId σ (.invokeCommand context x.handle cmd, .status err) σ
  | memory {σ : SessionStore} {reply : StoreReply} : Next contextId σ (.memory, reply) σ
  /-- A sweep does not change the count. -/
  | swept {σ σ' : SessionStore} : σ'.Within σ → σ'.counted = σ.counted →
      Next contextId σ (.check, .status skErrorSuccess) σ'

abbrev StorePath (contextId : UInt32) := Path (Next contextId) empty

/-! ## Contexts counted -/

/-- The request opened a context. -/
def opensContext : StoreRequest × StoreReply → Bool
  | (.openContext _, .opened _) => true
  | _ => false

/-- The request closed a context, as far as the client can tell. -/
def closesContext : StoreRequest × StoreReply → Bool
  | (.closeContext _, .status err) => err = skErrorSuccess
  | _ => false

variable {contextId : UInt32} {σ σ' : SessionStore} {l : StoreRequest × StoreReply}
  {context context' session : Handle}

theorem Next.counted (h : Next contextId σ l σ') :
    σ'.counted + (closesContext l).toNat = σ.counted + (opensContext l).toNat := by
  cases h with
  | contextClosed _ hcount | contextCountedOut _ _ hcount =>
    exact Nat.sub_add_cancel hcount
  | swept _ hcounted => exact hcounted
  | _ => rfl

/-- The count is that of the contexts opened less those closed, in replies. -/
theorem StorePath.counted {ls : List (StoreRequest × StoreReply)} (h : StorePath contextId ls σ) :
    σ.counted + ls.countP closesContext = ls.countP opensContext := by
  refine h.invariant (fun ls σ => σ.counted + ls.countP closesContext = ls.countP opensContext)
    rfl fun ls σ l σ' ih hnext => ?_
  have hstep := hnext.counted
  have htoNat : ∀ p : StoreRequest × StoreReply → Bool, List.countP p [l] = (p l).toNat := by
    intro p
    cases hp : p l <;> simp [hp]
  simp only [List.countP_append, htoNat]
  omega

/-! ## Sessions that stay and handles that do not come back -/

/-- The labels that leave the session `session` of `context` alone. -/
def Spares (context session : Handle) (l : StoreRequest × StoreReply) : Prop :=
  l.1 ≠ .check ∧ l ≠ (.closeSession context session, .status skErrorSuccess)

theorem holds_put_self {xs : Option (List StoredSession)} :
    (σ.put context xs).Holds context session ↔ ∃ l ∈ xs, ∃ x ∈ l, x.handle = session := by
  rw [Holds, put]
  dsimp only
  rw [Function.update_self]
  rfl

theorem holds_put_of_ne (h : context ≠ context') {xs : Option (List StoredSession)} :
    (σ.put context' xs).Holds context session ↔ σ.Holds context session := by
  rw [Holds, Holds, put]
  dsimp only
  rw [Function.update_of_ne h]

theorem Next.holds (h : Next contextId σ l σ') (hl : Spares context session l)
    (hx : σ.Holds context session) : σ'.Holds context session := by
  obtain ⟨xs, hxs, x, hmem, rfl⟩ := id hx
  cases h with
  | @contextOpened context' hroom hnone =>
    have hne : context ≠ context' := by
      rintro rfl
      cases hxs.symm.trans hnone
    exact (holds_put_of_ne hne).mpr hx
  | @contextClosed context' hnil hcount =>
    have hne : context ≠ context' := by
      rintro rfl
      cases hxs.symm.trans hnil
      cases hmem
    exact (holds_put_of_ne hne).mpr hx
  | @sessionOpened context' xs' y reply hxs' hnew hreply =>
    by_cases hc : context = context'
    · subst hc
      cases hxs.symm.trans hxs'
      exact holds_put_self.mpr ⟨_, rfl, x, List.mem_append_left _ hmem, rfl⟩
    · exact (holds_put_of_ne hc).mpr hx
  | @sessionClosed context' xs' y hxs' hy =>
    by_cases hc : context = context'
    · subst hc
      cases hxs.symm.trans hxs'
      have hne : x.handle ≠ y.handle := fun heq => hl.2 (by rw [heq])
      exact holds_put_self.mpr ⟨_, rfl, x, List.mem_filter.mpr ⟨hmem, by simpa using hne⟩, rfl⟩
    · exact (holds_put_of_ne hc).mpr hx
  | swept => exact absurd rfl hl.1
  | _ => exact hx

/-- A session after a request was there before, or the request opened it, under a
handle that no session had. -/
theorem Next.held (h : Next contextId σ l σ') (hx : σ'.Holds context session) :
    σ.Holds context session ∨ ¬ σ.Issued session ∧ ∃ taid, l.1 = .openSession context taid ∧
      (l.2 = .opened session ∨ ∃ err ∈ openFailures, l.2 = .status err) := by
  cases h with
  | @contextOpened context' hroom hnone =>
    by_cases hc : context = context'
    · subst hc
      obtain ⟨_, ⟨⟩, _, hmem, _⟩ := holds_put_self.mp hx
      cases hmem
    · exact .inl ((holds_put_of_ne hc).mp hx)
  | @contextClosed context' hnil hcount =>
    by_cases hc : context = context'
    · subst hc
      obtain ⟨_, ⟨⟩, _⟩ := holds_put_self.mp hx
    · exact .inl ((holds_put_of_ne hc).mp hx)
  | @sessionOpened context' xs y reply hxs hnew hreply =>
    by_cases hc : context = context'
    · subst hc
      obtain ⟨_, ⟨⟩, x, hmem, rfl⟩ := holds_put_self.mp hx
      rcases List.mem_append.mp hmem with hold | hlast
      · exact .inl ⟨xs, hxs, x, hold, rfl⟩
      · rw [List.mem_singleton.mp hlast]
        exact .inr ⟨hnew, y.taid, rfl, hreply⟩
    · exact .inl ((holds_put_of_ne hc).mp hx)
  | @sessionClosed context' xs y hxs hy =>
    by_cases hc : context = context'
    · subst hc
      obtain ⟨_, ⟨⟩, x, hmem, rfl⟩ := holds_put_self.mp hx
      exact .inl ⟨xs, hxs, x, List.mem_of_mem_filter hmem, rfl⟩
    · exact .inl ((holds_put_of_ne hc).mp hx)
  | swept hwithin _ =>
    obtain ⟨xs, hxs, x, hmem, rfl⟩ := hx
    obtain ⟨xs', hxs', hsub⟩ := hwithin _ _ hxs
    exact .inl ⟨xs', hxs', x, hsub.subset hmem, rfl⟩
  | _ => exact .inl hx

/-- No two contexts have a session with the same handle. -/
def Unshared (σ : SessionStore) : Prop :=
  ∀ context context' session, σ.Holds context session → σ.Holds context' session →
    context = context'

theorem Next.unshared (h : Next contextId σ l σ') (hσ : σ.Unshared) : σ'.Unshared := by
  intro context context' session hx hx'
  rcases h.held hx with hold | ⟨hnew, taid, hl, _⟩
  · rcases h.held hx' with hold' | ⟨hnew, _⟩
    · exact hσ _ _ _ hold hold'
    · exact absurd ⟨_, hold⟩ hnew
  · rcases h.held hx' with hold' | ⟨_, taid', hl', _⟩
    · exact absurd ⟨_, hold'⟩ hnew
    · cases hl.symm.trans hl'
      rfl

theorem StorePath.unshared {ls : List (StoreRequest × StoreReply)}
    (h : StorePath contextId ls σ) : σ.Unshared :=
  h.invariant (fun _ σ => σ.Unshared) (fun _ _ _ hx => by obtain ⟨_, ⟨⟩, _⟩ := hx)
    fun _ _ _ _ hσ hnext => hnext.unshared hσ

/-- The labels that cannot bring `session` in: nothing was opened under this
handle, and nothing under a handle that was not told. -/
def Withholds (session : Handle) (l : StoreRequest × StoreReply) : Prop :=
  ∀ context taid, l.1 = .openSession context taid →
    l.2 ≠ .opened session ∧ ∀ err ∈ openFailures, l.2 ≠ .status err

theorem Next.not_issued (h : Next contextId σ l σ') (hl : Withholds session l)
    (hx : ¬ σ.Issued session) : ¬ σ'.Issued session := by
  rintro ⟨context, hx'⟩
  rcases h.held hx' with hold | ⟨_, taid, hopen, hreply⟩
  · exact hx ⟨context, hold⟩
  · obtain ⟨hopened, hfailed⟩ := hl context taid hopen
    rcases hreply with heq | ⟨err, herr, heq⟩
    · exact hopened heq
    · exact hfailed err herr heq

theorem Unresolved.not_holds {reply : StoreReply} (h : σ.Unresolved context session reply) :
    ¬ σ.Holds context session := by
  rintro ⟨xs, hxs, x, hmem, heq⟩
  cases h with
  | context hnone => cases hxs.symm.trans hnone
  | session _ hnot => exact hnot ⟨context, xs, hxs, x, hmem, heq⟩
  | elsewhere hxs' hnot _ =>
    cases hxs.symm.trans hxs'
    exact hnot x hmem heq

/-- The statuses by which a client is told that its session is not there. -/
def notFound : List SkStatus := [skErrorContextHandleNotFound, skErrorSessionHandleNotFound]

theorem Unresolved.notFound {reply : StoreReply} (h : σ.Unresolved context session reply)
    (hx : ¬ σ.Issued session) : ∃ err ∈ SessionStore.notFound, reply = .status err := by
  cases h with
  | context _ => exact ⟨_, List.mem_cons_self .., rfl⟩
  | session _ _ => exact ⟨_, List.mem_cons_of_mem _ (List.mem_singleton_self _), rfl⟩
  | elsewhere _ _ hissued => exact absurd hissued hx

/-- A session that has been closed is in no context. -/
theorem Next.closed
    (h : Next contextId σ (.closeSession context session, .status skErrorSuccess) σ')
    (hσ : σ.Unshared) : ¬ σ'.Issued session := by
  cases h with
  | closeUnresolved hunresolved => cases hunresolved
  | @sessionClosed _ xs x hxs hmem =>
    rintro ⟨context', hx⟩
    by_cases hc : context' = context
    · subst hc
      obtain ⟨_, ⟨⟩, y, hy, heq⟩ := holds_put_self.mp hx
      exact absurd heq (by simpa using (List.mem_filter.mp hy).2)
    · have hold := (holds_put_of_ne hc).mp hx
      exact hc (hσ _ _ _ hold ⟨xs, hxs, x, hmem, rfl⟩)

theorem Next.invoked {cmd : UInt32} (h : Next contextId σ l σ')
    (hl : l.1 = .invokeCommand context session cmd) (hx : σ.Holds context session) :
    ∃ err ∈ invokeReplies, l.2 = .status err := by
  cases h with
  | invokeUnresolved hunresolved =>
    cases hl
    exact absurd hx hunresolved.not_holds
  | commandInvoked _ _ herr => exact ⟨_, herr, rfl⟩
  | _ => cases hl

/-- A request for a session that no context has. -/
theorem Next.unknown (h : Next contextId σ l σ') (hl : l.1.session = some session)
    (hx : ¬ σ.Issued session) : ∃ err ∈ notFound, l.2 = .status err := by
  cases h with
  | closeUnresolved hunresolved | invokeUnresolved hunresolved =>
    cases hl
    exact hunresolved.notFound hx
  | sessionClosed hxs hmem | commandInvoked hxs hmem _ =>
    cases hl
    exact absurd ⟨_, _, hxs, _, hmem, rfl⟩ hx
  | _ => cases hl

theorem Next.opened {taid : SkTaid}
    (h : Next contextId σ (.openSession context taid, .opened session) σ') :
    σ'.Holds context session := by
  cases h with
  | @sessionOpened _ xs x _ hxs _ hreply =>
    obtain heq | ⟨_, _, heq⟩ := hreply
    · cases heq
      exact holds_put_self.mpr ⟨_, rfl, x, by simp, rfl⟩
    · cases heq

theorem Next.admitted (h : Next contextId σ l σ') (hl : l.1 = .openContext contextId) :
    (l.2 = .status skErrorOpenContext ↔ skTapiMaxConnectionsPerContext ≤ σ.counted) ∧
      (σ.counted < skTapiMaxConnectionsPerContext → ∃ handle, l.2 = .opened handle) := by
  cases h with
  | contextMisaddressed hid =>
    cases hl
    exact absurd rfl hid
  | contextsFull hfull => exact ⟨by simp [hfull], fun h => absurd h (Nat.not_lt.mpr hfull)⟩
  | contextOpened hroom hnone =>
    exact ⟨by simp [Nat.not_le.mpr hroom], fun _ => ⟨_, rfl⟩⟩
  | _ => cases hl

end SessionStore

end SkSdk
