import SkSdk.Nwld.TeecApi
import SkSdk.Nwld.Relay
import SkSdk.Library.NameTable

/-!
The context objects of the programs over the connections of the driver. A context
object holds a connection number, and 0 is both the first connection and what the
library leaves in an object that has none.
-/

namespace SkSdk
open ByteMemory FaultState NameTable

/-! ## The connections as a table -/

/-- The context id and the server's handle of a connection in use. -/
def Nwld.connections (s : Nwld) (n : UInt32) : Option (UInt32 × Handle) :=
  let pconn := s.tapi.clist n.toNat
  if pconn.used then some (pconn.contextId, pconn.context) else none

theorem Nwld.connections_eq_some {s : Nwld} {n : UInt32} {v : UInt32 × Handle} :
    s.connections n = some v ↔ (s.tapi.clist n.toNat).used = true ∧
      (s.tapi.clist n.toNat).contextId = v.1 ∧ (s.tapi.clist n.toNat).context = v.2 := by
  obtain ⟨id, handle⟩ := v
  rw [connections, Option.ite_none_right_eq_some, Option.some.injEq, Prod.mk.injEq]

/-- What a call of the driver does to the connections. -/
inductive ConnectionStep (call : Call) (s : Nwld) (r : SkStatus × SkTeecUserInfo) (t : Nwld) : Prop
  | kept : t.connections = s.connections →
      (r.1 = skErrorSuccess → call.info.cmd ≠ skTapiOpenContext ∧
        call.info.cmd ≠ skTapiCloseContext) → ConnectionStep call s r t
  | opened {poc : SkTeecUserOpenContext} {n : UInt32} {e : NwldExchange} :
      call.info = .openContext poc →
      r = (skErrorSuccess, .openContext { poc with contextHandle := n }) → s.connections n = none →
      t.connections = Function.update s.connections n (some (poc.contextId, e.reply.handle)) →
      t.exchanges = s.exchanges ++ [e] → ConnectionStep call s r t
  | closed {pcc : SkTeecUserCloseContext} :
      call.info = .closeContext pcc → r.1 = skErrorSuccess →
      t.connections = Function.update s.connections pcc.contextHandle none →
      ConnectionStep call s r t

section ConnectionStep

variable {call : Call} {s t : Nwld} {r : SkStatus × SkTeecUserInfo}

theorem Nwld.connections_congr (h : t.tapi.clist = s.tapi.clist) :
    t.connections = s.connections := by
  funext n
  rw [connections, connections, h]

/-- Sessions do not show in the connections. -/
theorem Nwld.connections_updConn (s : Nwld) (h : Nat) (f : TSkSysConnection → TSkSysConnection)
    (hf : ∀ c, (f c).used = c.used ∧ (f c).contextId = c.contextId ∧ (f c).context = c.context) :
    (s.updConn h f).connections = s.connections := by
  funext n
  rw [connections, connections, clist_updConn]
  split
  · next hn =>
    obtain ⟨hused, hid, hcontext⟩ := hf (s.tapi.clist h)
    rw [hused, hid, hcontext, ← hn]
  · rfl

theorem Nwld.connections_connected {s : Nwld} {y : Nat} {i : IdSlot} {context : Handle}
    (hy : y < s.tapi.maxConnections.toNat) :
    (s.connected y i context).connections = Function.update s.connections
      (Int32.ofNat y).toUInt32 (some ((s.tapi.info i).contextId, context)) := by
  have hindex := toNat_ofNat hy
  funext n
  rcases eq_or_ne n (Int32.ofNat y).toUInt32 with rfl | hn
  · rw [Function.update_self, connections, hindex]
    simp [connected]
  · have hne : n.toNat ≠ y := fun heq => hn (UInt32.toNat_inj.mp (heq.trans hindex.symm))
    rw [Function.update_of_ne hn, connections, connections]
    simp [connected, hne]

theorem Nwld.connections_disconnected (s : Nwld) (n : UInt32) :
    (s.disconnected n.toNat).connections = Function.update s.connections n none := by
  funext n'
  rcases eq_or_ne n' n with rfl | hn
  · rw [Function.update_self, connections]
    simp [disconnected, TSkSysConnection.zero]
  · have hne : n'.toNat ≠ n.toNat := fun heq => hn (UInt32.toNat_inj.mp heq)
    rw [Function.update_of_ne hn, connections, connections]
    simp [disconnected, hne]

theorem CallOutcome.connections (h : CallOutcome call s r t) : ConnectionStep call s r t := by
  have hfailed {err : SkStatus} {arg : SkTeecUserInfo} (herr : err ≠ skErrorSuccess)
      (ht : t.tapi.clist = s.tapi.clist) : ConnectionStep call s (err, arg) t :=
    .kept (Nwld.connections_congr ht) fun hsuccess => absurd hsuccess herr
  have hother {err : SkStatus} {arg : SkTeecUserInfo} {cmd : UInt32} (hcmd : call.info.cmd = cmd)
      (hopen : cmd ≠ skTapiOpenContext) (hclose : cmd ≠ skTapiCloseContext)
      (ht : t.connections = s.connections) : ConnectionStep call s (err, arg) t :=
    .kept ht fun _ => ⟨hcmd ▸ hopen, hcmd ▸ hclose⟩
  cases h with
  | refused herr => exact hfailed herr rfl
  | unclaimed _ hclaim => exact hfailed hclaim.error_ne hclaim.frame.1
  | unsent _ hclaim =>
    exact hfailed (by decide : skErrorCommFailed ≠ skErrorSuccess) hclaim.frame.1
  | unopened _ hclaim _ herr _ => exact hfailed herr hclaim.frame.1
  | @openedContext poc i u e y hinfo hclaim _ _ hfree _ =>
    obtain ⟨hmax, hunused, -⟩ := firstUnused_eq_some.mp hfree
    obtain ⟨hclist, -, -, -, hexchanges⟩ := hclaim.frame
    refine .opened (n := (Int32.ofNat y).toUInt32) (e := e) hinfo rfl ?_ ?_ ?_
    · rw [Nwld.connections, toNat_ofNat hmax, ← hclist]
      exact if_neg (by simpa using hunused)
    · have htable : (u.record e).connections = s.connections := Nwld.connections_congr hclist
      rw [Nwld.connections_connected (s := u.record e) hmax, htable, ← hclaim.slot.2]
      rfl
    · rw [← hexchanges]
      rfl
  | rejected _ _ herr => exact hfailed herr rfl
  | unreleased _ _ _ hrelease herr => exact hfailed herr hrelease.frame.1
  | closedContext hinfo _ _ hrelease _ =>
    refine .closed hinfo rfl ?_
    rw [Nwld.connections_disconnected, Nwld.connections_congr (s := s) hrelease.frame.1]
  | sessionsFull _ _ _ _ _ =>
    exact hfailed (by decide : skErrorSessionHandleNotFound ≠ skErrorSuccess) rfl
  | openedSession hinfo _ _ _ _ _ =>
    refine hother (by rw [hinfo]) (by decide : skTapiOpenSession ≠ _) (by decide) ?_
    exact Nwld.connections_updConn _ _ _ fun c => ⟨rfl, rfl, rfl⟩
  | @closedSession pcs _ _ e _ hinfo _ _ _ _ =>
    refine hother (by rw [hinfo]) (by decide : skTapiCloseSession ≠ _) (by decide) ?_
    exact Nwld.connections_updConn (s.record e) pcs.contextHandle.toNat
      (fun c => { c with numSessions := c.numSessions - 1 }) fun c => ⟨rfl, rfl, rfl⟩
  | invoked hinfo _ _ =>
    exact hother (by rw [hinfo]) (by decide : skTapiInvokeCommand ≠ _) (by decide) rfl
  | registered hinfo _ _ _ =>
    exact hother (by rw [hinfo]) (by decide : skTapiRegisterMemory ≠ _) (by decide) rfl
  | unregistered hinfo _ _ =>
    exact hother (by rw [hinfo]) (by decide : skTapiUnregisterMemory ≠ _) (by decide) rfl

theorem ConnectionStep.kept_of_failed (h : ConnectionStep call s r t)
    (hr : r.1 ≠ skErrorSuccess) : t.connections = s.connections := by
  cases h with
  | kept ht _ => exact ht
  | opened _ hsuccess _ _ _ => exact absurd (by rw [hsuccess]) hr
  | closed _ hsuccess _ => exact absurd hsuccess hr

end ConnectionStep

/-! ## The calls that write a context object -/

/-- The connection numbers in the context objects. -/
def SkClient.handles (s : SkClient) (p : Nat) : UInt32 := (s.contexts p).handle

/-- The exchanges of a call: none where the library refuses it. -/
def sent (x : TeecStep) : List NwldExchange :=
  if x.result = skErrorInvalidParam then [] else x.post.nwld.exchanges

/-- A successful call that opened object `p` with a context id and the handle of
its reply. -/
def OpenedAs (p : Nat) (v : UInt32 × Handle) (x : TeecStep) : Prop :=
  (∃ name, x.input.call = .openContext (some p) (some name) v.1) ∧ x.result = skErrorSuccess ∧
    ∃ e, sent x = [e] ∧ e.reply.handle = v.2

/-- A successful call that closed object `p`. -/
def ClosedContext (p : Nat) (x : TeecStep) : Prop :=
  x.input.call = .closeContext (some p) ∧ x.result = skErrorSuccess

/-- A call that clears or fills object `p`. -/
def WritesContext (p : Nat) (x : TeecStep) : Prop :=
  (∃ name id, x.input.call = .openContext (some p) (some name) id) ∨ ClosedContext p x

/-- A successful opening of any object that got connection `n`. -/
def GotConnection (n : UInt32) (x : TeecStep) : Prop :=
  ∃ p v, OpenedAs p v x ∧ x.post.handles p = n

/-- A successful closing of any object that named connection `n`. -/
def GaveConnection (n : UInt32) (x : TeecStep) : Prop :=
  ∃ p, ClosedContext p x ∧ x.pre.handles p = n

/-- What a call does to the context objects and the connections. -/
inductive ContextStep (x : TeecStep) : Prop
  | kept : x.post.handles = x.pre.handles → x.post.nwld.connections = x.pre.nwld.connections →
      (∀ p, ¬ WritesContext p x) → ContextStep x
  | failed {p : Nat} {name : String} {id : UInt32} :
      x.input.call = .openContext (some p) (some name) id → x.result ≠ skErrorSuccess →
      x.post.handles = Function.update x.pre.handles p 0 →
      x.post.nwld.connections = x.pre.nwld.connections → ContextStep x
  | opened {p : Nat} {n : UInt32} {v : UInt32 × Handle} :
      OpenedAs p v x → x.pre.nwld.connections n = none →
      x.post.handles = Function.update x.pre.handles p n →
      x.post.nwld.connections = Function.update x.pre.nwld.connections n (some v) → ContextStep x
  | closed {p : Nat} :
      ClosedContext p x → x.post.handles = Function.update x.pre.handles p 0 →
      x.post.nwld.connections =
        Function.update x.pre.nwld.connections (x.pre.handles p) none → ContextStep x

theorem SkClient.handles_setContext (s : SkClient) (p : Nat) (c : SkteecContext) :
    (s.setContext p c).handles = Function.update s.handles p c.handle := by
  funext p'
  simp only [handles, setContext, Function.update_apply]
  split <;> rfl

section ContextStep

variable {logs : Bool} {x : TeecStep}

/-- The driver's part of a call that it took, from the exchanges of that call on. -/
theorem connectionStep_of_nwldStep {call : Call} {s t : Nwld} {r : SkStatus × SkTeecUserInfo}
    (h : nwldStep call s = .ok (r, t)) : ConnectionStep call { s with exchanges := [] } r t :=
  (nwldStep_cases h).connections

theorem teecStep_contexts (h : teecStep logs x.input x.pre = .ok (x.result, x.post)) :
    ContextStep x := by
  obtain ⟨⟨call, env⟩, s, status, s'⟩ := x
  have hout := teecStep_cases h
  dsimp only at hout
  cases hout with
  | invalid hasks =>
    refine .kept rfl rfl ?_
    rintro p (⟨name, id, hcall⟩ | ⟨-, hresult⟩)
    · cases hcall
      exact hasks _ .openContext
    · cases hresult
  | failed hasks _ hstep herr =>
    have htable := (connectionStep_of_nwldStep hstep).kept_of_failed herr
    cases hasks with
    | openContext =>
      exact .failed rfl (by decide : skErrorSendToDriver ≠ skErrorSuccess)
        (SkClient.handles_setContext ..) htable
    | _ =>
      refine .kept rfl htable ?_
      rintro p (⟨name, id, hcall⟩ | ⟨-, hresult⟩)
      · cases hcall
      · cases hresult
  | @done info arg nwld hasks hstep =>
    have hconn := connectionStep_of_nwldStep hstep
    cases hasks with
    | @openContext p name contextId =>
      cases hconn with
      | kept _ hother => exact absurd rfl (hother rfl).1
      | closed hinfo _ _ => cases hinfo
      | @opened poc n e hinfo hr hfree htable hex =>
        cases hinfo
        cases hr
        refine .opened (p := p) (v := (contextId, e.reply.handle)) ⟨⟨name, rfl⟩, rfl, e, ?_, rfl⟩
          hfree ?_ htable
        · exact (if_neg (by decide : skErrorSuccess ≠ skErrorInvalidParam)).trans hex
        · refine (SkClient.handles_setContext ..).trans ?_
          change Function.update (s.setContext p ⟨0, 0⟩).handles p n = Function.update s.handles p n
          rw [SkClient.handles_setContext, Function.update_idem]
    | @closeContext p =>
      cases hconn with
      | kept _ hother => exact absurd rfl (hother rfl).2
      | opened hinfo _ _ _ _ => cases hinfo
      | closed hinfo _ htable =>
        cases hinfo
        exact .closed ⟨rfl, rfl⟩ (SkClient.handles_setContext ..) htable
    | _ =>
      cases hconn with
      | opened hinfo _ _ _ _ => cases hinfo
      | closed hinfo _ _ => cases hinfo
      | kept htable _ =>
        refine .kept rfl htable ?_
        rintro p (⟨name, id, hcall⟩ | ⟨hcall, -⟩)
        · cases hcall
        · cases hcall

end ContextStep

/-! ## The ledger of the context objects -/

/-- The last call that wrote object `p` opened it with `v`. -/
def LastOpening (tr : List TeecStep) (p : Nat) (v : UInt32 × Handle) (x : TeecStep) : Prop :=
  Latest (OpenedAs p v) (WritesContext p) tr x

/-- The last call that got or gave back connection `n` opened object `p` with `v`. -/
def LastGot (tr : List TeecStep) (n : UInt32) (p : Nat) (v : UInt32 × Handle) (x : TeecStep) :
    Prop :=
  Latest (fun y => OpenedAs p v y ∧ y.post.handles p = n)
    (fun y => GotConnection n y ∨ GaveConnection n y) tr x

/-- Every connection in use was got by an object, and every object that names another
connection than 0 is the one that got it. -/
structure ClientLedger (tr : List TeecStep) (s : SkClient) : Prop where
  held : Held 0 s.handles s.nwld.connections fun p v => ∃ x, LastOpening tr p v x
  got : ∀ n v, s.nwld.connections n = some v → ∃ p x, LastGot tr n p v x

section Ledger

variable {tr : List TeecStep} {x : TeecStep} {p p' : Nat} {v : UInt32 × Handle}

theorem OpenedAs.writes (h : OpenedAs p v x) : WritesContext p x :=
  .inl ⟨h.1.choose, v.1, h.1.choose_spec⟩

theorem OpenedAs.unique {v' : UInt32 × Handle} (h : OpenedAs p v x) (h' : OpenedAs p' v' x) :
    v = v' := by
  obtain ⟨⟨name, hcall⟩, -, e, he, hv⟩ := h
  obtain ⟨⟨name', hcall'⟩, -, e', he', hv'⟩ := h'
  rw [hcall] at hcall'
  rw [he] at he'
  obtain ⟨-, -, hid⟩ := TeecCall.openContext.inj hcall'
  obtain ⟨rfl, -⟩ := List.cons.inj he'
  exact Prod.ext hid (hv.symm.trans hv')

theorem WritesContext.of_open {name : String} {id : UInt32}
    (hcall : x.input.call = .openContext (some p) (some name) id) (h : WritesContext p' x) :
    p' = p := by
  rcases h with ⟨_, _, hcall'⟩ | ⟨hcall', -⟩
  · rw [hcall] at hcall'
    cases hcall'
    rfl
  · rw [hcall] at hcall'
    cases hcall'

theorem WritesContext.of_close (hcall : x.input.call = .closeContext (some p))
    (h : WritesContext p' x) : p' = p := by
  rcases h with ⟨_, _, hcall'⟩ | ⟨hcall', -⟩
  · rw [hcall] at hcall'
    cases hcall'
  · rw [hcall] at hcall'
    cases hcall'
    rfl

private theorem LastOpening.other (h : ∃ y, LastOpening tr p' v y) (hp : ¬ WritesContext p' x) :
    ∃ y, LastOpening (tr ++ [x]) p' v y := by
  obtain ⟨y, hy⟩ := h
  exact ⟨y, hy.snoc hp⟩

theorem ClientLedger.step (h : ClientLedger tr x.pre) (hx : ContextStep x) :
    ClientLedger (tr ++ [x]) x.post := by
  have hgot {n : UInt32} {v : UInt32 × Handle} (hn : ¬ GotConnection n x)
      (hn' : ¬ GaveConnection n x) (hv : x.pre.nwld.connections n = some v) :
      ∃ p y, LastGot (tr ++ [x]) n p v y := by
    obtain ⟨p, y, hy⟩ := h.got n v hv
    exact ⟨p, y, hy.snoc (not_or.mpr ⟨hn, hn'⟩)⟩
  cases hx with
  | kept hhandles htable hwrites =>
    constructor
    · rw [hhandles, htable]
      exact h.held.keep fun p v hv => LastOpening.other hv (hwrites p)
    · rw [htable]
      intro n v
      refine hgot ?_ ?_
      · rintro ⟨p, v, hopen, -⟩
        exact hwrites p hopen.writes
      · rintro ⟨p, hclose, -⟩
        exact hwrites p (.inr hclose)
  | failed hcall hresult hhandles htable =>
    constructor
    · rw [hhandles, htable]
      exact h.held.drop (fun _ _ => rfl) fun p' v hp' hv =>
        LastOpening.other hv fun hw => hp' (hw.of_open hcall)
    · rw [htable]
      intro n v
      refine hgot ?_ ?_
      · rintro ⟨p, v, ⟨-, hsuccess, -⟩, -⟩
        exact hresult hsuccess
      · rintro ⟨p, ⟨-, hsuccess⟩, -⟩
        exact hresult hsuccess
  | @opened p n v hopen hfree hhandles htable =>
    have hcall := hopen.1.choose_spec
    have hn : x.post.handles p = n := by rw [hhandles, Function.update_self]
    constructor
    · rw [hhandles, htable]
      exact h.held.acquire hfree ⟨x, Latest.last hopen _ tr⟩ fun p' v hp' hv =>
        LastOpening.other hv fun hw => hp' (hw.of_open hcall)
    · rw [htable]
      intro n' v' hv'
      rcases eq_or_ne n' n with rfl | hne
      · rw [Function.update_self] at hv'
        cases hv'
        exact ⟨p, x, Latest.last ⟨hopen, hn⟩ _ tr⟩
      · rw [Function.update_of_ne hne] at hv'
        refine hgot ?_ ?_ hv'
        · rintro ⟨p', v'', hopen', hn'⟩
          rw [hopen'.writes.of_open hcall, hn] at hn'
          exact hne hn'.symm
        · rintro ⟨p', ⟨hcall', -⟩, -⟩
          rw [hcall] at hcall'
          cases hcall'
  | @closed p hclose hhandles htable =>
    constructor
    · rw [hhandles, htable]
      exact h.held.drop (fun n hn => Function.update_of_ne hn _ _) fun p' v hp' hv =>
        LastOpening.other hv fun hw => hp' (hw.of_close hclose.1)
    · rw [htable]
      intro n v hv
      rcases eq_or_ne n (x.pre.handles p) with rfl | hne
      · rw [Function.update_self] at hv
        cases hv
      · rw [Function.update_of_ne hne] at hv
        refine hgot ?_ ?_ hv
        · rintro ⟨p', v', ⟨⟨name, hcall⟩, -⟩, -⟩
          rw [hclose.1] at hcall
          cases hcall
        · rintro ⟨p', ⟨hcall, -⟩, hn⟩
          rw [hclose.1] at hcall
          cases hcall
          exact hne hn.symm

end Ledger

section Runs

variable {logs : Bool} {s₀ s : SkClient} {alloc : InitAlloc} {commObj : Nat}
  {maxConnections maxSessions smId : UInt32}

theorem ClientLedger.of_init (hmax : maxConnections ≠ 0)
    (hcleared : ∀ p, (s₀.contexts p).handle = 0) : ClientLedger []
      (skNwldPlatformTapiIoctlInit alloc commObj maxConnections maxSessions smId s₀).2 := by
  refine ⟨Held.of_null hcleared, fun n v hv => ?_⟩
  have hfresh := fresh_init alloc s₀.nwld maxConnections maxSessions smId commObj hmax
  change Nwld.connections (skNwldTapiInit alloc s₀.nwld _ _ _ _).2 n = some v at hv
  rw [Nwld.connections, hfresh.unused] at hv
  cases hv

theorem ClientLedger.run {tr : List TeecStep} (h₀ : ClientLedger [] s₀)
    (hrun : Run (teecStep logs) s₀ tr s) : ClientLedger tr s :=
  hrun.invariant_of (fun _ => True) (fun _ _ => trivial) ClientLedger h₀
    fun _ _ _ _ _ hprev hstep _ => hprev.step (teecStep_contexts hstep)

/-- In every run two context objects name the same connection only if it is 0, and
an object that names another one names the connection of its own last opening. -/
theorem client_handles_exclusive (hmax : maxConnections ≠ 0)
    (hcleared : ∀ p, (s₀.contexts p).handle = 0) {tr : List TeecStep}
    (hrun : Run (teecStep logs)
      (skNwldPlatformTapiIoctlInit alloc commObj maxConnections maxSessions smId s₀).2 tr s) :
    (∀ p p', s.handles p ≠ 0 → s.handles p = s.handles p' → p = p') ∧
      ∀ p, s.handles p ≠ 0 → ∃ v x, s.nwld.connections (s.handles p) = some v ∧
        LastOpening tr p v x := by
  have hledger := (ClientLedger.of_init hmax hcleared).run hrun
  refine ⟨hledger.held.exclusive, fun p hp => ?_⟩
  obtain ⟨v, hv, x, hx⟩ := hledger.held.entry p hp
  exact ⟨v, x, hv, hx⟩

end Runs

/-- A program with cleared objects and a driver of two connections. -/
def sampleClient : SkClient :=
  (skNwldPlatformTapiIoctlInit ⟨true, true⟩ 0 2 2 2
    ⟨sampleNwld, fun _ => ⟨0, 0⟩, fun _ => ⟨0, none⟩, fun _ => ⟨0, 0, 0, Blk.zero 16⟩⟩).2

/-- A call answered as one of the driver is. -/
def TeecCall.answeredAs (call : TeecCall) (nwld : Call) : TeecRequest :=
  ⟨call, ⟨nwld.env, 0, ⟨0, fun _ => ⟨0, 0, 0, Blk.zero 16⟩⟩, Blk.zero 16⟩⟩

def sampleTeecOpenContext (p : Nat) : TeecRequest :=
  TeecCall.answeredAs (.openContext (some p) (some "sk") 1) sampleNwldOpenContext

def sampleTeecCloseContext (p : Nat) : TeecRequest :=
  TeecCall.answeredAs (.closeContext (some p)) (sampleNwldCloseContext 0)

/-- Two objects are opened; the second one gets connection 1. -/
theorem client_handles_exclusive_two : ∃ tr s, Run (teecStep false) sampleClient tr s ∧
    s.handles 1 = 1 ∧ s.handles 0 ≠ s.handles 1 ∧
    ∃ v x, s.nwld.connections 1 = some v ∧ LastOpening tr 1 v x := by
  obtain ⟨tr, s, hrun, -, hone⟩ := exists_run_of_execute (teecStep false) sampleClient
    [sampleTeecOpenContext 0, sampleTeecOpenContext 1] (fun _ s => s.handles 1 = 1)
    (by decide +kernel)
  obtain ⟨hexclusive, hentry⟩ :=
    client_handles_exclusive (by decide : (2 : UInt32) ≠ 0) (fun _ => rfl) hrun
  have hne : s.handles 1 ≠ 0 := by rw [hone]; decide
  refine ⟨tr, s, hrun, hone, fun heq => ?_, ?_⟩
  · exact absurd (hexclusive 1 0 hne heq.symm) (by decide)
  · have h := hentry 1 hne
    rwa [hone] at h

/-! ## What the requests carry -/

/-- The context object whose connection a call uses. -/
def TeecCall.through (s : SkClient) : TeecCall → Option Nat
  | openContext _ _ _ => none
  | closeContext context => context
  | openSession context _ _ => context
  | closeSession session => session.bind fun q => (s.sessions q).context
  | invokeCommand session _ _ => session.bind fun q => (s.sessions q).context
  | allocateSharedMemory context _ => context
  | registerMemory context _ => context
  | unregisterMemory context _ => context

theorem TeecCall.Asks.through {call : TeecCall} {env : TeecEnv} {s : SkClient}
    {info : SkTeecUserInfo} {p : Nat} (h : call.Asks env s info) (hp : call.through s = some p) :
    info.contextHandle = some (s.handles p) := by
  cases h with
  | openContext => cases hp
  | closeSession hq =>
    rw [TeecCall.through, Option.bind_some, hq] at hp
    cases hp
    rfl
  | invokeCommand hq _ =>
    rw [TeecCall.through, Option.bind_some, hq] at hp
    cases hp
    rfl
  | _ =>
    cases hp
    rfl

/-- The driver's call behind a request that the library has sent. -/
theorem exists_sends {logs : Bool} {x : TeecStep} {p : Nat} {e : NwldExchange}
    (h : teecStep logs x.input x.pre = .ok (x.result, x.post))
    (hp : x.input.call.through x.pre = some p) (he : e ∈ sent x) :
    ∃ call pconn session, x.input.call.Asks x.input.env x.pre call.info ∧
      Sends call { x.pre.nwld with exchanges := [] } (x.pre.handles p) pconn session e := by
  rcases teecStep_driver h with ⟨hresult, -⟩ | ⟨hresult, info, r, hasks, -, hstep⟩
  · rw [sent, if_pos hresult] at he
    cases he
  · rw [sent, if_neg hresult] at he
    obtain ⟨pconn, session, hsends⟩ := (nwldStep_cases hstep).sends (hasks.through hp) rfl he
    exact ⟨_, pconn, session, hasks, hsends⟩

/-- A request on a connection carries what the table has for it. -/
theorem Sends.connections {call : Call} {s : Nwld} {hd : UInt32} {pconn : TSkSysConnection}
    {session : Handle} {e : NwldExchange} (h : Sends call s hd pconn session e) :
    s.connections hd = some (e.contextId, e.contextHandle) := by
  obtain ⟨-, hused, hpconn⟩ := SkNwldTapi.connection_eq_some h.connection
  obtain ⟨c, -, hexchange⟩ := h.exchange
  have hrequest : e.request = call.info.request pconn.contextId s.tapi.smId pconn.context
      session := by rw [hexchange]; rfl
  rw [contextId_request h.handle hrequest, contextHandle_request h.handle hrequest,
    Nwld.connections, ← hpconn]
  exact if_pos hused

section Relay

variable {logs : Bool} {s₀ s : SkClient} {alloc : InitAlloc} {commObj : Nat}
  {maxConnections maxSessions smId : UInt32} {before after : List TeecStep} {x : TeecStep}
  {p : Nat} {e : NwldExchange}

/-- Every request that a call sends through a context object carries what the opening
of the connection that the object names was given: that of the object's own last
opening, unless the object names connection 0. -/
theorem client_relays_contexts (hmax : maxConnections ≠ 0)
    (hcleared : ∀ p, (s₀.contexts p).handle = 0)
    (hrun : Run (teecStep logs)
      (skNwldPlatformTapiIoctlInit alloc commObj maxConnections maxSessions smId s₀).2
      (before ++ x :: after) s)
    (hp : x.input.call.through x.pre = some p) (he : e ∈ sent x) :
    (∃ p' o, LastGot before (x.pre.handles p) p' (e.contextId, e.contextHandle) o) ∧
      (x.pre.handles p ≠ 0 → ∃ o, LastOpening before p (e.contextId, e.contextHandle) o) := by
  obtain ⟨hbefore, hstep⟩ := hrun.split rfl
  have hledger := (ClientLedger.of_init hmax hcleared).run hbefore
  obtain ⟨call, pconn, session, -, hsends⟩ := exists_sends hstep hp he
  have hentry : x.pre.nwld.connections (x.pre.handles p) = some (e.contextId, e.contextHandle) :=
    hsends.connections
  refine ⟨hledger.got _ _ hentry, fun hne => ?_⟩
  obtain ⟨v, hv, o, ho⟩ := hledger.held.entry p hne
  rw [hentry] at hv
  cases hv
  exact ⟨o, ho⟩

end Relay

/-- An executed list of calls that succeed with one request each. -/
theorem exists_answered (is : List TeecRequest) (i : TeecRequest)
    (h : (execute (teecStep false) (is ++ [i]) sampleClient).any (fun r => decide
      (r.1.all (fun x => x.result == skErrorSuccess && (sent x).length == 1) = true)) = true) :
    ∃ before x s, Run (teecStep false) sampleClient (before ++ [x]) s ∧
      before.map Step.input = is ∧ x.input = i ∧
      ∀ y ∈ before ++ [x], y.result = skErrorSuccess ∧ ∃ e, sent y = [e] := by
  obtain ⟨tr, s, hrun, hinputs, hall⟩ := exists_run_of_execute (teecStep false) sampleClient
    (is ++ [i]) (fun tr _ => tr.all (fun x =>
      x.result == skErrorSuccess && (sent x).length == 1) = true) h
  rcases List.eq_nil_or_concat tr with rfl | ⟨before, x, rfl⟩
  · simp at hinputs
  rw [List.concat_eq_append] at hrun hinputs hall
  rw [List.map_append] at hinputs
  obtain ⟨hbefore, hx⟩ := List.append_inj' hinputs rfl
  refine ⟨before, x, s, hrun, hbefore, List.singleton_inj.mp hx, fun y hy => ?_⟩
  have hanswered := List.all_eq_true.mp hall y hy
  rw [Bool.and_eq_true, beq_iff_eq, beq_iff_eq, List.length_eq_one_iff] at hanswered
  exact hanswered

/-- An object that was never opened is closed: the request is for the connection that
another object got. -/
theorem client_relays_contexts_unopened : ∃ before x s e,
    Run (teecStep false) sampleClient (before ++ [x]) s ∧
      x.input = sampleTeecCloseContext 1 ∧ e ∈ sent x ∧
      ∃ p' o, LastGot before (x.pre.handles 1) p' (e.contextId, e.contextHandle) o := by
  obtain ⟨before, x, s, hrun, -, hx, hall⟩ :=
    exists_answered [sampleTeecOpenContext 0] (sampleTeecCloseContext 1) (by decide +kernel)
  obtain ⟨-, e, he⟩ := hall x (by simp)
  have hmem : e ∈ sent x := by simp [he]
  have hp : x.input.call.through x.pre = some 1 := by rw [hx]; rfl
  exact ⟨before, x, s, e, hrun, hx, hmem,
    (client_relays_contexts (by decide : (2 : UInt32) ≠ 0) (fun _ => rfl) hrun hp hmem).1⟩

/-! ## Programs that close only what they opened -/

/-- Object `p` has been opened and not written since. -/
def OpenIn (tr : List TeecStep) (p : Nat) : Prop := ∃ v x, LastOpening tr p v x

/-- Every successful closing is of an object that is open. -/
def ClosesOpen (tr : List TeecStep) : Prop :=
  ∀ before x after p, tr = before ++ x :: after → ClosedContext p x → OpenIn before p

open Classical in
/-- The connection number of an object that is open. -/
noncomputable def openName (tr : List TeecStep) (s : SkClient) (p : Nat) : Option UInt32 :=
  if OpenIn tr p then some (s.handles p) else none

/-- The open objects have distinct connections in use, each its own. -/
def OpenHeld (tr : List TeecStep) (s : SkClient) : Prop :=
  Held none (openName tr s) (lift s.nwld.connections) fun p v => ∃ x, LastOpening tr p v x

section Own

variable {tr : List TeecStep} {x : TeecStep} {p : Nat} {v : UInt32 × Handle}

theorem openIn_concat (h : ¬ WritesContext p x) : OpenIn (tr ++ [x]) p ↔ OpenIn tr p := by
  constructor
  · rintro ⟨v, y, hy⟩
    rcases latest_concat.mp hy with ⟨-, hopen⟩ | ⟨hy, -⟩
    · exact absurd hopen.writes h
    · exact ⟨v, y, hy⟩
  · rintro ⟨v, y, hy⟩
    exact ⟨v, y, hy.snoc h⟩

theorem not_openIn_concat (h : WritesContext p x) (hopen : ∀ v, ¬ OpenedAs p v x) :
    ¬ OpenIn (tr ++ [x]) p := by
  rintro ⟨v, y, hy⟩
  rcases latest_concat.mp hy with ⟨-, hx⟩ | ⟨-, hx⟩
  · exact hopen v hx
  · exact hx h

theorem ContextStep.kept_of (h : ContextStep x) (hp : ¬ WritesContext p x) :
    x.post.handles p = x.pre.handles p := by
  cases h with
  | kept hhandles _ _ => rw [hhandles]
  | @failed p' name id hcall _ hhandles _ =>
    rw [hhandles, Function.update_of_ne]
    rintro rfl
    exact hp (.inl ⟨name, id, hcall⟩)
  | opened hopen _ hhandles _ =>
    rw [hhandles, Function.update_of_ne]
    rintro rfl
    exact hp hopen.writes
  | closed hclose hhandles _ =>
    rw [hhandles, Function.update_of_ne]
    rintro rfl
    exact hp (.inr hclose)

/-- A call changes the name of one open object at most. -/
private theorem openName_concat {n : Option UInt32} {handle : UInt32}
    (hhandles : x.post.handles = Function.update x.pre.handles p handle)
    (hp : openName (tr ++ [x]) x.post p = n)
    (hothers : ∀ p', p' ≠ p → ¬ WritesContext p' x) :
    openName (tr ++ [x]) x.post = Function.update (openName tr x.pre) p n := by
  funext p'
  rcases eq_or_ne p' p with rfl | hne
  · rw [Function.update_self, hp]
  · rw [Function.update_of_ne hne, openName, openName, hhandles, Function.update_of_ne hne,
      propext (openIn_concat (hothers p' hne))]

theorem OpenHeld.step (h : OpenHeld tr x.pre) (hx : ContextStep x)
    (hown : ∀ p, ClosedContext p x → OpenIn tr p) : OpenHeld (tr ++ [x]) x.post := by
  unfold OpenHeld at h ⊢
  cases hx with
  | kept hhandles htable hwrites =>
    have hname : openName (tr ++ [x]) x.post = openName tr x.pre := by
      funext p
      rw [openName, openName, hhandles, propext (openIn_concat (hwrites p))]
    rw [hname, htable]
    exact h.keep fun p v hv => LastOpening.other hv (hwrites p)
  | @failed p name id hcall hresult hhandles htable =>
    have hnot : ¬ OpenIn (tr ++ [x]) p :=
      not_openIn_concat (.inl ⟨name, id, hcall⟩) fun v hopen => hresult hopen.2.1
    have hothers : ∀ p', p' ≠ p → ¬ WritesContext p' x := fun p' hp' hw => hp' (hw.of_open hcall)
    rw [openName_concat hhandles (if_neg hnot) hothers, htable]
    exact h.drop (fun _ _ => rfl) fun p' v hp' hv => LastOpening.other hv (hothers p' hp')
  | @opened p n v hopen hfree hhandles htable =>
    have hcall := hopen.1.choose_spec
    have hlast : LastOpening (tr ++ [x]) p v x := Latest.last hopen _ tr
    have hname : openName (tr ++ [x]) x.post p = some n := by
      rw [openName, if_pos ⟨v, x, hlast⟩, hhandles, Function.update_self]
    have hothers : ∀ p', p' ≠ p → ¬ WritesContext p' x := fun p' hp' hw => hp' (hw.of_open hcall)
    rw [openName_concat hhandles hname hothers, htable, lift_update]
    exact h.acquire hfree ⟨x, hlast⟩ fun p' v hp' hv => LastOpening.other hv (hothers p' hp')
  | @closed p hclose hhandles htable =>
    have hnot : ¬ OpenIn (tr ++ [x]) p := by
      refine not_openIn_concat (.inr hclose) ?_
      rintro v ⟨⟨name, hcall⟩, -⟩
      rw [hclose.1] at hcall
      cases hcall
    have hothers : ∀ p', p' ≠ p → ¬ WritesContext p' x := fun p' hp' hw =>
      hp' (hw.of_close hclose.1)
    have hname : openName tr x.pre p = some (x.pre.handles p) := if_pos (hown p hclose)
    rw [openName_concat hhandles (if_neg hnot) hothers, htable, lift_update, ← hname]
    exact h.drop (fun n hn => Function.update_of_ne hn _ _) fun p' v hp' hv =>
      LastOpening.other hv (hothers p' hp')

theorem OpenHeld.distinct {s : SkClient} {p' : Nat} (h : OpenHeld tr s) (hp : OpenIn tr p)
    (hp' : OpenIn tr p') (heq : s.handles p = s.handles p') : p = p' := by
  have hname : ∀ {p}, OpenIn tr p → openName tr s p = some (s.handles p) := fun hp => if_pos hp
  refine h.exclusive p p' ?_ ?_
  · rw [hname hp]
    exact Option.some_ne_none _
  · rw [hname hp, hname hp', heq]

theorem OpenHeld.entry {s : SkClient} (h : OpenHeld tr s) (hp : OpenIn tr p) :
    ∃ v x, s.nwld.connections (s.handles p) = some v ∧ LastOpening tr p v x := by
  have hname : openName tr s p = some (s.handles p) := if_pos hp
  obtain ⟨v, hv, x, hx⟩ := Held.entry h p (by rw [hname]; exact Option.some_ne_none _)
  rw [hname, lift, Option.bind_some] at hv
  exact ⟨v, x, hv, hx⟩

/-- An open object stands for what its last opening was given. -/
theorem OpenHeld.connections {s : SkClient} (h : OpenHeld tr s) (hp : LastOpening tr p v x) :
    s.nwld.connections (s.handles p) = some v := by
  obtain ⟨w, y, hw, hy⟩ := h.entry ⟨v, x, hp⟩
  have hsame : y = x := hy.unique hp (fun _ => OpenedAs.writes) fun _ => OpenedAs.writes
  subst hsame
  obtain ⟨_, _, -, hopened, -⟩ := hy
  obtain ⟨_, _, -, hopened', -⟩ := hp
  rw [hw, hopened.unique hopened']

/-- A request through an open object carries what its own opening was given. -/
theorem OpenHeld.relays {logs : Bool} {e : NwldExchange} (h : OpenHeld tr x.pre)
    (hstep : teecStep logs x.input x.pre = .ok (x.result, x.post))
    (hp : x.input.call.through x.pre = some p) (hopen : OpenIn tr p) (he : e ∈ sent x) :
    ∃ o, LastOpening tr p (e.contextId, e.contextHandle) o := by
  obtain ⟨v, o, hv, ho⟩ := h.entry hopen
  obtain ⟨call, pconn, session, -, hsends⟩ := exists_sends hstep hp he
  have hentry : x.pre.nwld.connections (x.pre.handles p) = some (e.contextId, e.contextHandle) :=
    hsends.connections
  rw [hentry] at hv
  cases hv
  exact ⟨o, ho⟩

theorem OpenHeld.nil {s : SkClient} : OpenHeld [] s := by
  refine Held.of_null fun p => if_neg ?_
  rintro ⟨v, y, before, after, heq, -⟩
  simp at heq

theorem OpenHeld.run {logs : Bool} {s₀ s : SkClient} (hrun : Run (teecStep logs) s₀ tr s)
    (hown : ClosesOpen tr) : OpenHeld tr s := by
  refine hrun.invariant_of (fun _ => True) (fun _ _ => trivial)
    (fun tr s => ClosesOpen tr → OpenHeld tr s) (fun _ => .nil) ?_ hown
  intro tr s i a s' hprev hstep _ hown
  refine (hprev fun before y after p heq hclose => ?_).step (x := ⟨i, s, a, s'⟩)
    (teecStep_contexts hstep) fun p hclose => hown tr _ [] p rfl hclose
  exact hown before y (after ++ [⟨i, s, a, s'⟩]) p (by rw [heq]; simp) hclose

/-- Every opening is of an object that is not open. -/
def OpensClosed (tr : List TeecStep) : Prop :=
  ∀ before x after p name id, tr = before ++ x :: after →
    x.input.call = .openContext (some p) (some name) id → ¬ OpenIn before p

/-- Every connection in use is that of an open object. -/
def AllOpen (tr : List TeecStep) (s : SkClient) : Prop :=
  ∀ n v, s.nwld.connections n = some v → ∃ p, OpenIn tr p ∧ s.handles p = n

theorem AllOpen.step (h : AllOpen tr x.pre) (hx : ContextStep x)
    (hopens : ∀ p name id, x.input.call = .openContext (some p) (some name) id → ¬ OpenIn tr p) :
    AllOpen (tr ++ [x]) x.post := by
  have hold {n : UInt32} {v : UInt32 × Handle} (hv : x.pre.nwld.connections n = some v)
      (hkept : ∀ p, OpenIn tr p → x.pre.handles p = n → ¬ WritesContext p x) :
      ∃ p, OpenIn (tr ++ [x]) p ∧ x.post.handles p = n := by
    obtain ⟨p, hp, hn⟩ := h n v hv
    have hnot := hkept p hp hn
    exact ⟨p, (openIn_concat hnot).mpr hp, (hx.kept_of hnot).trans hn⟩
  intro n v hv
  cases hx with
  | kept _ htable hwrites =>
    rw [htable] at hv
    exact hold hv fun p _ _ => hwrites p
  | failed hcall _ _ htable =>
    rw [htable] at hv
    exact hold hv fun p hp _ hw => hopens _ _ _ hcall (hw.of_open hcall ▸ hp)
  | @opened p₀ n₀ v₀ hopen _ hhandles htable =>
    have hcall := hopen.1.choose_spec
    rcases eq_or_ne n n₀ with rfl | hne
    · exact ⟨p₀, ⟨v₀, x, Latest.last hopen _ tr⟩, by rw [hhandles, Function.update_self]⟩
    · rw [htable, Function.update_of_ne hne] at hv
      exact hold hv fun p hp _ hw => hopens _ _ _ hcall (hw.of_open hcall ▸ hp)
  | @closed p₀ hclose _ htable =>
    rcases eq_or_ne n (x.pre.handles p₀) with rfl | hne
    · rw [htable, Function.update_self] at hv
      cases hv
    · rw [htable, Function.update_of_ne hne] at hv
      exact hold hv fun p _ hn hw => hne (by rw [← hn, hw.of_close hclose.1])

theorem AllOpen.run {logs : Bool} {s₀ s : SkClient} (h₀ : AllOpen [] s₀)
    (hrun : Run (teecStep logs) s₀ tr s) (hopens : OpensClosed tr) : AllOpen tr s := by
  refine hrun.invariant_of (fun _ => True) (fun _ _ => trivial)
    (fun tr s => OpensClosed tr → AllOpen tr s) (fun _ => h₀) ?_ hopens
  intro tr s i a s' hprev hstep _ hopens
  refine (hprev fun before y after p name id heq hcall => ?_).step (x := ⟨i, s, a, s'⟩)
    (teecStep_contexts hstep) fun p name id hcall => hopens tr _ [] p name id rfl hcall
  exact hopens before y (after ++ [⟨i, s, a, s'⟩]) p name id (by rw [heq]; simp) hcall

/-- In a program that closes only what it has opened, a call through an open object
finds its connection in use, shares it with no other open object and sends what the
object's own opening was given, whatever the number of the connection. -/
theorem client_own_contexts {logs : Bool} {s₀ s : SkClient} {before after : List TeecStep}
    (hrun : Run (teecStep logs) s₀ (before ++ x :: after) s) (hown : ClosesOpen before)
    (hp : x.input.call.through x.pre = some p) (hopen : OpenIn before p) :
    (∃ v, x.pre.nwld.connections (x.pre.handles p) = some v) ∧
      (∀ p', OpenIn before p' → x.pre.handles p' = x.pre.handles p → p' = p) ∧
      ∀ e ∈ sent x, ∃ o, LastOpening before p (e.contextId, e.contextHandle) o := by
  obtain ⟨hbefore, hstep⟩ := hrun.split rfl
  have hheld : OpenHeld before x.pre := OpenHeld.run hbefore hown
  obtain ⟨v, -, hv, -⟩ := hheld.entry hopen
  exact ⟨⟨v, hv⟩, fun p' hp' heq => hheld.distinct hp' hopen heq, fun e he =>
    hheld.relays hstep hp hopen he⟩

/-- Of two open objects the one that names connection 0 is closed. -/
theorem client_own_contexts_first : ∃ before x s e,
    Run (teecStep false) sampleClient (before ++ [x]) s ∧
      x.input = sampleTeecCloseContext 0 ∧ e ∈ sent x ∧
      ∃ o, LastOpening before 0 (e.contextId, e.contextHandle) o := by
  obtain ⟨before, x, s, hrun, hbefore, hx, hall⟩ := exists_answered
    [sampleTeecOpenContext 0, sampleTeecOpenContext 1] (sampleTeecCloseContext 0)
    (by decide +kernel)
  obtain ⟨y, rest, rfl, hy, hrest⟩ := List.map_eq_cons_iff.mp hbefore
  obtain ⟨z, rfl, hz⟩ := List.map_eq_singleton_iff.mp hrest
  obtain ⟨hsuccess, f, hf⟩ := hall y (by simp)
  obtain ⟨-, e, he⟩ := hall x (by simp)
  have hopened : OpenedAs 0 (1, f.reply.handle) y := ⟨⟨"sk", by rw [hy]; rfl⟩, hsuccess, f, hf, rfl⟩
  have hother : ¬ WritesContext 0 z := fun hw => by
    have hcall : z.input.call = .openContext (some 1) (some "sk") 1 := by rw [hz]; rfl
    cases hw.of_open hcall
  have hopen : OpenIn [y, z] 0 := ⟨_, y, (Latest.last hopened _ []).snoc hother⟩
  have hown : ClosesOpen [y, z] := by
    rintro before' w after' p heq ⟨hcall, -⟩
    have hw : w ∈ [y, z] := by rw [heq]; simp
    rcases List.mem_pair.mp hw with rfl | rfl
    · rw [hy] at hcall
      cases hcall
    · rw [hz] at hcall
      cases hcall
  have hp : x.input.call.through x.pre = some 0 := by rw [hx]; rfl
  have hmem : e ∈ sent x := by simp [he]
  exact ⟨[y, z], x, s, e, hrun, hx, hmem, (client_own_contexts hrun hown hp hopen).2.2 e hmem⟩

end Own

end SkSdk
