import SkSdk.Nwld.TableInvariant

/-!
The handles in the requests. The driver hands out its own small numbers and
sends the sixteen bytes that the secure world returned for them; a ledger of
the calls made so far says which reply each table entry was copied from.
-/

namespace SkSdk
open ByteMemory FaultState Format

/-! ## The bytes of a request -/

namespace NwldExchange

def contextId (e : NwldExchange) : UInt32 := be32.dec (e.request.take 4)

def contextHandle (e : NwldExchange) : Handle := (blk 16).dec ((e.request.drop 12).take 16)

def sessionHandle (e : NwldExchange) : Handle := (blk 16).dec ((e.request.drop 28).take 16)

end NwldExchange

section Request

variable {info : SkTeecUserInfo} {id smId : UInt32} {context session : Handle}

/-- The handles follow the header in the order context, session. -/
theorem request_split {hd : UInt32} (id smId : UInt32) (context session : Handle)
    (h : info.contextHandle = some hd) :
    ∃ rest, info.request id smId context session =
        Layout.headerFormat.enc ⟨id, smId, info.cmd⟩ ++ (List.ofFn context ++ rest) ∧
      ∀ sh, info.sessionHandle = some sh → ∃ rest', rest = List.ofFn session ++ rest' := by
  cases info with
  | openContext _ => cases h
  | closeContext _ =>
    refine ⟨[], ?_, fun sh hsh => by cases hsh⟩
    rw [List.append_nil]
    rfl
  | openSession _ => exact ⟨_, rfl, fun sh hsh => by cases hsh⟩
  | closeSession _ =>
    refine ⟨List.ofFn session, rfl, fun sh _ => ⟨[], ?_⟩⟩
    rw [List.append_nil]
  | invokeCmd _ => exact ⟨_, rfl, fun sh _ => ⟨_, rfl⟩⟩
  | regMem _ => exact ⟨_, rfl, fun sh hsh => by cases hsh⟩
  | unregMem _ => exact ⟨_, rfl, fun sh hsh => by cases hsh⟩

theorem contextId_request {e : NwldExchange} {hd : UInt32} (h : info.contextHandle = some hd)
    (he : e.request = info.request id smId context session) : e.contextId = id := by
  obtain ⟨rest, hsplit, -⟩ :=
    request_split id smId context session h
  rw [NwldExchange.contextId, he, hsplit]
  have hhead : Layout.headerFormat.enc ⟨id, smId, info.cmd⟩ =
      be32.enc id ++ (be32.enc smId ++ be32.enc info.cmd) := rfl
  rw [hhead, List.append_assoc, List.take_left' (be32.length_enc _), be32.dec_enc]

theorem contextHandle_request {e : NwldExchange} {hd : UInt32} (h : info.contextHandle = some hd)
    (he : e.request = info.request id smId context session) : e.contextHandle = context := by
  obtain ⟨rest, hsplit, -⟩ :=
    request_split id smId context session h
  rw [NwldExchange.contextHandle, he, hsplit, List.drop_left' (Layout.headerFormat.length_enc _),
    List.take_left' List.length_ofFn]
  exact (blk 16).dec_enc context

theorem sessionHandle_request {e : NwldExchange} {hd sh : UInt32} (h : info.contextHandle = some hd)
    (hs : info.sessionHandle = some sh)
    (he : e.request = info.request id smId context session) : e.sessionHandle = session := by
  obtain ⟨rest, hsplit, hrest⟩ :=
    request_split id smId context session h
  obtain ⟨rest', hrest⟩ := hrest sh hs
  have hlen : (Layout.headerFormat.enc ⟨id, smId, info.cmd⟩ ++ List.ofFn context).length = 28 := by
    rw [List.length_append, Layout.headerFormat.length_enc, List.length_ofFn]
  rw [NwldExchange.sessionHandle, he, hsplit, hrest, ← List.append_assoc, List.drop_left' hlen,
    List.take_left' List.length_ofFn]
  exact (blk 16).dec_enc session

end Request

/-! ## The calls that fill and clear the tables -/

/-- A successful open_context call that returned `h`. -/
def ReturnsContext (h : UInt32) (x : NwldStep) : Prop :=
  ∃ poc poc', x.input.info = .openContext poc ∧
    x.result = (skErrorSuccess, .openContext poc') ∧ poc'.contextHandle = h

def DropsContext (h : UInt32) (x : NwldStep) : Prop :=
  ∃ pcc, x.input.info = .closeContext pcc ∧ pcc.contextHandle = h ∧ x.result.1 = skErrorSuccess

/-- A successful open_session call on `h` that returned `sh`. -/
def ReturnsSession (h sh : UInt32) (x : NwldStep) : Prop :=
  ∃ pos pos', x.input.info = .openSession pos ∧ pos.contextHandle = h ∧
    x.result = (skErrorSuccess, .openSession pos') ∧ pos'.sessionHandle = sh

def DropsSession (h sh : UInt32) (x : NwldStep) : Prop :=
  ∃ pcs, x.input.info = .closeSession pcs ∧ pcs.contextHandle = h ∧ pcs.sessionHandle = sh ∧
    x.result.1 = skErrorSuccess

theorem ReturnsContext.cmd_eq {h : UInt32} {x : NwldStep} (hx : ReturnsContext h x) :
    x.input.info.cmd = skTapiOpenContext := by
  obtain ⟨_, _, hinfo, -⟩ := hx
  rw [hinfo]

theorem DropsContext.cmd_eq {h : UInt32} {x : NwldStep} (hx : DropsContext h x) :
    x.input.info.cmd = skTapiCloseContext := by
  obtain ⟨_, hinfo, -⟩ := hx
  rw [hinfo]

theorem ReturnsSession.cmd_eq {h sh : UInt32} {x : NwldStep} (hx : ReturnsSession h sh x) :
    x.input.info.cmd = skTapiOpenSession := by
  obtain ⟨_, _, hinfo, -⟩ := hx
  rw [hinfo]

theorem DropsSession.cmd_eq {h sh : UInt32} {x : NwldStep} (hx : DropsSession h sh x) :
    x.input.info.cmd = skTapiCloseSession := by
  obtain ⟨_, hinfo, -⟩ := hx
  rw [hinfo]

/-- The one reply of the call carried these sixteen bytes behind its header. -/
def RepliedWith (handle : Handle) (x : NwldStep) : Prop :=
  ∃ e, x.post.exchanges = [e] ∧ e.reply.handle = handle

/-- The last call that opened `h`, and nothing closed it since. -/
def SourceOfContext (tr : List NwldStep) (h : UInt32) : NwldStep → Prop :=
  Latest (ReturnsContext h) (fun y => ReturnsContext h y ∨ DropsContext h y) tr

def SourceOfSession (tr : List NwldStep) (h sh : UInt32) : NwldStep → Prop :=
  Latest (ReturnsSession h sh)
    (fun y => ReturnsSession h sh y ∨ DropsSession h sh y ∨ DropsContext h y) tr

/-! ## The ledger -/

/-- Every table entry in use is a copy from the reply that opened it. -/
structure Ledger (tr : List NwldStep) (s : Nwld) : Prop where
  exclusive : ∀ h h' p, (s.tapi.clist h).s = some p → (s.tapi.clist h').s = some p → h = h'
  context : ∀ h : UInt32, (s.tapi.clist h.toNat).used = true → ∃ o, SourceOfContext tr h o ∧
    (∃ poc, o.input.info = .openContext poc ∧ poc.contextId = (s.tapi.clist h.toNat).contextId) ∧
    RepliedWith (s.tapi.clist h.toNat).context o
  session : ∀ (h sh : UInt32) (p : Nat), (s.tapi.clist h.toNat).s = some p →
    (s.sessions p sh.toNat).used = true →
    (s.tapi.clist h.toNat).used = true ∧ ∃ o, SourceOfSession tr h sh o ∧
      RepliedWith (s.sessions p sh.toNat).session o

/-- A call that neither opens nor closes anything. -/
def Quiet (x : NwldStep) : Prop :=
  (∀ h, ¬ ReturnsContext h x) ∧ (∀ h, ¬ DropsContext h x) ∧ (∀ h sh, ¬ ReturnsSession h sh x) ∧
    ∀ h sh, ¬ DropsSession h sh x

theorem quiet_of_failed {x : NwldStep} (h : x.result.1 ≠ skErrorSuccess) : Quiet x := by
  refine ⟨fun _ => ?_, fun _ => ?_, fun _ _ => ?_, fun _ _ => ?_⟩
  · rintro ⟨_, _, _, hres, _⟩
    rw [hres] at h
    exact h rfl
  · rintro ⟨_, _, _, hres⟩
    exact h hres
  · rintro ⟨_, _, _, _, hres, _⟩
    rw [hres] at h
    exact h rfl
  · rintro ⟨_, _, _, _, hres⟩
    exact h hres

theorem quiet_of_cmd {x : NwldStep} {cmd : UInt32} (h : x.input.info.cmd = cmd)
    (hopen : cmd ≠ skTapiOpenContext) (hclose : cmd ≠ skTapiCloseContext)
    (hopenS : cmd ≠ skTapiOpenSession) (hcloseS : cmd ≠ skTapiCloseSession) : Quiet x :=
  ⟨fun _ hx => hopen (h.symm.trans hx.cmd_eq), fun _ hx => hclose (h.symm.trans hx.cmd_eq),
    fun _ _ hx => hopenS (h.symm.trans hx.cmd_eq), fun _ _ hx => hcloseS (h.symm.trans hx.cmd_eq)⟩

theorem quiet_of_info {x : NwldStep}
    (h : (∃ pic, x.input.info = .invokeCmd pic) ∨ (∃ rm, x.input.info = .regMem rm) ∨
      ∃ urm, x.input.info = .unregMem urm) : Quiet x := by
  rcases h with ⟨_, h⟩ | ⟨_, h⟩ | ⟨_, h⟩
  · have hcmd : x.input.info.cmd = skTapiInvokeCommand := congrArg SkTeecUserInfo.cmd h
    exact quiet_of_cmd hcmd (by decide) (by decide) (by decide) (by decide)
  · have hcmd : x.input.info.cmd = skTapiRegisterMemory := congrArg SkTeecUserInfo.cmd h
    exact quiet_of_cmd hcmd (by decide) (by decide) (by decide) (by decide)
  · have hcmd : x.input.info.cmd = skTapiUnregisterMemory := congrArg SkTeecUserInfo.cmd h
    exact quiet_of_cmd hcmd (by decide) (by decide) (by decide) (by decide)

namespace Ledger

variable {tr : List NwldStep} {s t : Nwld} {x : NwldStep}

theorem quiet (h : Ledger tr s) (hx : Quiet x) (hclist : t.tapi.clist = s.tapi.clist)
    (hsessions : t.sessions = s.sessions) : Ledger (tr ++ [x]) t := by
  obtain ⟨hopen, hclose, hopenS, hcloseS⟩ := hx
  constructor
  · rw [hclist]
    exact h.exclusive
  · rw [hclist]
    intro c hused
    obtain ⟨o, ho, hrest⟩ := h.context c hused
    exact ⟨o, ho.snoc (not_or.mpr ⟨hopen c, hclose c⟩), hrest⟩
  · rw [hclist, hsessions]
    intro c k p hp hused
    obtain ⟨hc, o, ho, hrest⟩ := h.session c k p hp hused
    exact ⟨hc, o, ho.snoc (not_or.mpr ⟨hopenS c k, not_or.mpr ⟨hcloseS c k, hclose c⟩⟩), hrest⟩

theorem opened (h : Ledger tr s) {i : IdSlot} {context : Handle}
    {poc poc' : SkTeecUserOpenContext}
    (hinfo : x.input.info = .openContext poc)
    (hres : x.result = (skErrorSuccess, .openContext poc'))
    (hfree : (s.tapi.clist poc'.contextHandle.toNat).used = false)
    (hid : (s.tapi.info i).contextId = poc.contextId) (hreply : RepliedWith context x) :
    Ledger (tr ++ [x]) (s.connected poc'.contextHandle.toNat i context) := by
  have hs (y : Nat) : ((s.connected poc'.contextHandle.toNat i context).tapi.clist y).s =
      (s.tapi.clist y).s := by
    by_cases hy : y = poc'.contextHandle.toNat
    · subst hy
      simp [Nwld.connected]
    · simp [Nwld.connected, hy]
  have hcmd : x.input.info.cmd = skTapiOpenContext := congrArg SkTeecUserInfo.cmd hinfo
  have hdrop (c : UInt32) : ¬ DropsContext c x := fun hx =>
    absurd (hcmd.symm.trans hx.cmd_eq) (by decide)
  constructor
  · intro y z p
    rw [hs y, hs z]
    exact h.exclusive y z p
  · intro c hused
    by_cases hc : c = poc'.contextHandle
    · subst hc
      refine ⟨x, Latest.last ⟨poc, poc', hinfo, hres, rfl⟩ _ _, ⟨poc, hinfo, ?_⟩, ?_⟩
      · simp [Nwld.connected, hid]
      · simpa [Nwld.connected] using hreply
    · have hne : c.toNat ≠ poc'.contextHandle.toNat := fun heq => hc (UInt32.toNat_inj.mp heq)
      have hsame : (s.connected poc'.contextHandle.toNat i context).tapi.clist c.toNat =
          s.tapi.clist c.toNat := by
        simp [Nwld.connected, hne]
      rw [hsame] at hused ⊢
      obtain ⟨o, ho, hrest⟩ := h.context c hused
      refine ⟨o, ho.snoc (not_or.mpr ⟨?_, hdrop c⟩), hrest⟩
      rintro ⟨_, _, _, hres', hc'⟩
      rw [hres] at hres'
      cases hres'
      exact hc hc'.symm
  · intro c k p hp hused
    rw [hs] at hp
    obtain ⟨hcused, o, ho, hrest⟩ := h.session c k p hp hused
    have hne : c.toNat ≠ poc'.contextHandle.toNat := by
      intro heq
      rw [heq, hfree] at hcused
      cases hcused
    refine ⟨by simpa [Nwld.connected, hne] using hcused, o, ho.snoc ?_, hrest⟩
    rintro (hopen | hclose | hclose)
    · exact absurd (hcmd.symm.trans hopen.cmd_eq) (by decide)
    · exact absurd (hcmd.symm.trans hclose.cmd_eq) (by decide)
    · exact hdrop c hclose

theorem closed (h : Ledger tr s) {pcc : SkTeecUserCloseContext}
    (hinfo : x.input.info = .closeContext pcc) :
    Ledger (tr ++ [x]) (s.disconnected pcc.contextHandle.toNat) := by
  have hself : (s.disconnected pcc.contextHandle.toNat).tapi.clist pcc.contextHandle.toNat =
      .zero := by simp [Nwld.disconnected]
  have hother (y : Nat) (hy : y ≠ pcc.contextHandle.toNat) :
      (s.disconnected pcc.contextHandle.toNat).tapi.clist y = s.tapi.clist y := by
    simp [Nwld.disconnected, hy]
  have hsource {y : Nat} {p : Nat}
      (hp : ((s.disconnected pcc.contextHandle.toNat).tapi.clist y).s = some p) :
      y ≠ pcc.contextHandle.toNat := by
    rintro rfl
    rw [hself] at hp
    cases hp
  have hdrop {c : UInt32} (hc : c.toNat ≠ pcc.contextHandle.toNat) : ¬ DropsContext c x := by
    rintro ⟨pcc', hcall, hc', -⟩
    rw [hinfo] at hcall
    cases hcall
    exact hc (by rw [hc'])
  have hcmd : x.input.info.cmd = skTapiCloseContext := congrArg SkTeecUserInfo.cmd hinfo
  constructor
  · intro y z p hy hz
    rw [hother y (hsource hy)] at hy
    rw [hother z (hsource hz)] at hz
    exact h.exclusive y z p hy hz
  · intro c hused
    have hne : c.toNat ≠ pcc.contextHandle.toNat := by
      intro heq
      rw [heq, hself] at hused
      cases hused
    rw [hother _ hne] at hused ⊢
    obtain ⟨o, ho, hrest⟩ := h.context c hused
    refine ⟨o, ho.snoc (not_or.mpr ⟨fun hopen => ?_, hdrop hne⟩), hrest⟩
    exact absurd (hcmd.symm.trans hopen.cmd_eq) (by decide)
  · intro c k p hp hused
    have hne := hsource hp
    rw [hother _ hne] at hp ⊢
    obtain ⟨hcused, o, ho, hrest⟩ := h.session c k p hp hused
    refine ⟨hcused, o, ho.snoc ?_, hrest⟩
    rintro (hopen | hclose | hclose)
    · exact absurd (hcmd.symm.trans hopen.cmd_eq) (by decide)
    · exact absurd (hcmd.symm.trans hclose.cmd_eq) (by decide)
    · exact hdrop hne hclose

theorem attached (h : Ledger tr s) {pos pos' : SkTeecUserOpenSession} {p : Nat} {session : Handle}
    (hp : (s.tapi.clist pos.contextHandle.toNat).s = some p)
    (hused : (s.tapi.clist pos.contextHandle.toNat).used = true)
    (hinfo : x.input.info = .openSession pos)
    (hres : x.result = (skErrorSuccess, .openSession pos')) (hreply : RepliedWith session x) :
    Ledger (tr ++ [x])
      (s.attached pos.contextHandle.toNat p pos'.sessionHandle.toNat session) := by
  have hkept (y : Nat) :
      ((s.attached pos.contextHandle.toNat p pos'.sessionHandle.toNat session).tapi.clist y) =
        { s.tapi.clist y with
          numSessions := ((s.attached pos.contextHandle.toNat p pos'.sessionHandle.toNat
            session).tapi.clist y).numSessions } := by
    by_cases hy : y = pos.contextHandle.toNat
    · subst hy
      simp [Nwld.attached]
    · simp [Nwld.attached, hy]
  have hcmd : x.input.info.cmd = skTapiOpenSession := congrArg SkTeecUserInfo.cmd hinfo
  have hdrop (c : UInt32) : ¬ DropsContext c x := fun hx =>
    absurd (hcmd.symm.trans hx.cmd_eq) (by decide)
  constructor
  · intro y z q
    rw [hkept y, hkept z]
    exact h.exclusive y z q
  · intro c hc
    rw [hkept] at hc ⊢
    obtain ⟨o, ho, hrest⟩ := h.context c hc
    refine ⟨o, ho.snoc (not_or.mpr ⟨fun hopen => ?_, hdrop c⟩), hrest⟩
    exact absurd (hcmd.symm.trans hopen.cmd_eq) (by decide)
  · intro c k q hq hk
    rw [hkept] at hq ⊢
    by_cases hnew : q = p ∧ k = pos'.sessionHandle
    · obtain ⟨rfl, rfl⟩ := hnew
      have hc : c = pos.contextHandle := UInt32.toNat_inj.mp (h.exclusive _ _ q hq hp)
      subst hc
      refine ⟨hused, x, Latest.last ⟨pos, pos', hinfo, rfl, hres, rfl⟩ _ _, ?_⟩
      simpa [Nwld.attached] using hreply
    · have hentry : (s.attached pos.contextHandle.toNat p pos'.sessionHandle.toNat
          session).sessions q k.toNat = s.sessions q k.toNat := by
        have hne : ¬ (q = p ∧ k.toNat = pos'.sessionHandle.toNat) := fun heq =>
          hnew ⟨heq.1, UInt32.toNat_inj.mp heq.2⟩
        simp [Nwld.attached, hne]
      rw [hentry] at hk ⊢
      obtain ⟨hcused, o, ho, hrest⟩ := h.session c k q hq hk
      refine ⟨hcused, o, ho.snoc ?_, hrest⟩
      rintro (⟨pos₁, pos₂, hcall, hc, hres', hk'⟩ | hclose | hclose)
      · rw [hinfo] at hcall
        cases hcall
        rw [hres] at hres'
        cases hres'
        rw [← hc, hp] at hq
        cases hq
        exact hnew ⟨rfl, hk'.symm⟩
      · exact absurd (hcmd.symm.trans hclose.cmd_eq) (by decide)
      · exact hdrop c hclose

theorem detached (h : Ledger tr s) {pcs : SkTeecUserCloseSession} {p : Nat}
    (hp : (s.tapi.clist pcs.contextHandle.toNat).s = some p)
    (hinfo : x.input.info = .closeSession pcs) :
    Ledger (tr ++ [x]) (s.detached pcs.contextHandle.toNat p pcs.sessionHandle.toNat) := by
  have hkept (y : Nat) :
      ((s.detached pcs.contextHandle.toNat p pcs.sessionHandle.toNat).tapi.clist y) =
        { s.tapi.clist y with
          numSessions := ((s.detached pcs.contextHandle.toNat p
            pcs.sessionHandle.toNat).tapi.clist y).numSessions } := by
    by_cases hy : y = pcs.contextHandle.toNat
    · subst hy
      simp [Nwld.detached]
    · simp [Nwld.detached, hy]
  have hcmd : x.input.info.cmd = skTapiCloseSession := congrArg SkTeecUserInfo.cmd hinfo
  have hdrop (c : UInt32) : ¬ DropsContext c x := fun hx =>
    absurd (hcmd.symm.trans hx.cmd_eq) (by decide)
  constructor
  · intro y z q
    rw [hkept y, hkept z]
    exact h.exclusive y z q
  · intro c hc
    rw [hkept] at hc ⊢
    obtain ⟨o, ho, hrest⟩ := h.context c hc
    refine ⟨o, ho.snoc (not_or.mpr ⟨fun hopen => ?_, hdrop c⟩), hrest⟩
    exact absurd (hcmd.symm.trans hopen.cmd_eq) (by decide)
  · intro c k q hq hk
    rw [hkept] at hq ⊢
    have hne : ¬ (q = p ∧ k.toNat = pcs.sessionHandle.toNat) := by
      rintro ⟨rfl, heq⟩
      simp [Nwld.detached, heq, TSkSysSession.zero] at hk
    have hentry : (s.detached pcs.contextHandle.toNat p pcs.sessionHandle.toNat).sessions q k.toNat =
        s.sessions q k.toNat := by
      simp [Nwld.detached, hne]
    rw [hentry] at hk ⊢
    obtain ⟨hcused, o, ho, hrest⟩ := h.session c k q hq hk
    refine ⟨hcused, o, ho.snoc ?_, hrest⟩
    rintro (hopen | ⟨_, hcall, hc, hk', -⟩ | hclose)
    · exact absurd (hcmd.symm.trans hopen.cmd_eq) (by decide)
    · rw [hinfo] at hcall
      cases hcall
      rw [← hc, hp] at hq
      cases hq
      exact hne ⟨rfl, by rw [hk']⟩
    · exact hdrop c hclose

theorem of_frame (h : Ledger tr s) (hclist : t.tapi.clist = s.tapi.clist)
    (hsessions : t.sessions = s.sessions) : Ledger tr t := by
  obtain ⟨hexclusive, hcontext, hsession⟩ := h
  constructor
  · rwa [hclist]
  · rwa [hclist]
  · rwa [hclist, hsessions]

theorem outcome (h : Ledger tr s) (hs : s.exchanges = []) {call : Call} {pre : Nwld}
    {r : SkStatus × SkTeecUserInfo} (hout : CallOutcome call s r t) :
    Ledger (tr ++ [⟨call, pre, r, t⟩]) t := by
  cases hout with
  | refused herr => exact h.quiet (quiet_of_failed herr) rfl rfl
  | unclaimed _ hclaim =>
    obtain ⟨hclist, -, -, hsessions, -⟩ := hclaim.frame
    exact h.quiet (quiet_of_failed hclaim.error_ne) hclist hsessions
  | unsent _ hclaim =>
    obtain ⟨hclist, -, -, hsessions, -⟩ := hclaim.frame
    exact h.quiet (quiet_of_failed (by decide : skErrorCommFailed ≠ skErrorSuccess)) hclist
      hsessions
  | unopened _ hclaim _ herr _ =>
    obtain ⟨hclist, -, -, hsessions, -⟩ := hclaim.frame
    exact h.quiet (quiet_of_failed herr) hclist hsessions
  | @openedContext poc i u e y hinfo hclaim _ _ hfree _ =>
    obtain ⟨hclist, -, -, hsessions, hexchanges⟩ := hclaim.frame
    obtain ⟨hmax, hunused, -⟩ := firstUnused_eq_some.mp hfree
    have hrec : Ledger tr (u.record e) := h.of_frame hclist hsessions
    have hreply : ((u.record e).connected y i e.reply.handle).exchanges = [e] := by
      change u.exchanges ++ [e] = [e]
      rw [hexchanges, hs, List.nil_append]
    have hindex := toNat_ofNat hmax
    have hstep := hrec.opened (x := ⟨call, pre,
      (skErrorSuccess, .openContext { poc with contextHandle := (Int32.ofNat y).toUInt32 }),
      (u.record e).connected y i e.reply.handle⟩)
      hinfo rfl (by rw [hindex]; exact hunused) hclaim.slot.2 ⟨e, hreply, rfl⟩
    rwa [hindex] at hstep
  | rejected _ _ herr => exact h.quiet (quiet_of_failed herr) rfl rfl
  | unreleased _ _ _ hrelease herr =>
    obtain ⟨hclist, -, -, hsessions, -⟩ := hrelease.frame
    exact h.quiet (quiet_of_failed herr) hclist hsessions
  | closedContext hinfo _ _ hrelease _ =>
    obtain ⟨hclist, -, -, hsessions, -⟩ := hrelease.frame
    exact (h.of_frame hclist hsessions).closed hinfo
  | sessionsFull _ _ _ _ _ =>
    exact h.quiet
      (quiet_of_failed (by decide : skErrorSessionHandleNotFound ≠ skErrorSuccess)) rfl rfl
  | @openedSession pos pconn session e p k hinfo hsends _ hp hfree _ =>
    obtain ⟨-, hused, hpconn⟩ := SkNwldTapi.connection_eq_some hsends.connection
    rw [hpconn] at hp hused
    have hrec : Ledger tr (s.record e) := h.of_frame rfl rfl
    have hreply : ((s.record e).attached pos.contextHandle.toNat p k e.reply.handle).exchanges =
        [e] := by
      change s.exchanges ++ [e] = [e]
      rw [hs, List.nil_append]
    have hindex := toNat_ofNat (firstUnused_eq_some.mp hfree).1
    have hstep := hrec.attached (x := ⟨call, pre,
      (skErrorSuccess, .openSession { pos with sessionHandle := (Int32.ofNat k).toUInt32 }),
      (s.record e).attached pos.contextHandle.toNat p k e.reply.handle⟩)
      hp hused hinfo rfl ⟨e, hreply, rfl⟩
    rwa [hindex] at hstep
  | @closedSession pcs pconn session e p hinfo hsends _ hp _ =>
    obtain ⟨-, -, hpconn⟩ := SkNwldTapi.connection_eq_some hsends.connection
    rw [hpconn] at hp
    have hrec : Ledger tr (s.record e) := h.of_frame rfl rfl
    exact hrec.detached hp hinfo
  | invoked hinfo _ _ => exact h.quiet (quiet_of_info (Or.inl ⟨_, hinfo⟩)) rfl rfl
  | registered hinfo _ _ _ =>
    exact h.quiet (quiet_of_info (Or.inr (Or.inl ⟨_, hinfo⟩))) rfl rfl
  | unregistered hinfo _ _ =>
    exact h.quiet (quiet_of_info (Or.inr (Or.inr ⟨_, hinfo⟩))) rfl rfl

/-- Tables without used connections and sessions need no history. -/
theorem of_fresh {maxSessions : UInt32} (h : s.Fresh maxSessions) : Ledger [] s := by
  refine ⟨fun x y p hx hy => ?_, fun c hc => ?_, fun c k p hp hk => ?_⟩
  · rw [(h.array x p hx).1, (h.array y p hy).1]
  · rw [h.unused] at hc
    cases hc
  · obtain ⟨-, -, -, -, hunused⟩ := h.array _ p hp
    rw [hunused] at hk
    cases hk

theorem run {s₀ : Nwld} (h₀ : Ledger [] s₀) (hrun : Run nwldStep s₀ tr s) : Ledger tr s :=
  hrun.invariant_of (fun _ => True) (fun _ _ => trivial) Ledger h₀
    fun _ u _ _ _ hprev hstep _ =>
      (hprev.of_frame (t := { u with exchanges := [] }) rfl rfl).outcome rfl
        (nwldStep_cases hstep)

end Ledger

/-- A request of a call on a connection was sent from the tables as they were. -/
theorem CallOutcome.sends {call : Call} {s t : Nwld} {r : SkStatus × SkTeecUserInfo} {hd : UInt32}
    {e : NwldExchange} (h : CallOutcome call s r t) (hhd : call.info.contextHandle = some hd)
    (hs : s.exchanges = []) (he : e ∈ t.exchanges) :
    ∃ pconn session, Sends call s hd pconn session e := by
  have hsent {hd' : UInt32} {pconn : TSkSysConnection} {session : Handle} {e' : NwldExchange}
      (hsends : Sends call s hd' pconn session e') (ht : t.exchanges = s.exchanges ++ [e']) :
      ∃ pconn session, Sends call s hd pconn session e := by
    have hhandle := hsends.handle
    rw [hhd] at hhandle
    cases hhandle
    rw [ht, hs, List.nil_append, List.mem_singleton] at he
    rw [he]
    exact ⟨pconn, session, hsends⟩
  have hopen {poc : SkTeecUserOpenContext} (hinfo : call.info = .openContext poc) :
      ∃ pconn session, Sends call s hd pconn session e := by
    rw [hinfo] at hhd
    cases hhd
  cases h with
  | refused _ =>
    rw [hs] at he
    cases he
  | unclaimed hinfo _ => exact hopen hinfo
  | unsent hinfo _ => exact hopen hinfo
  | unopened hinfo _ _ _ _ => exact hopen hinfo
  | openedContext hinfo _ _ _ _ _ => exact hopen hinfo
  | rejected hsends _ _ => exact hsent hsends rfl
  | unreleased _ hsends _ hrelease _ => exact hsent hsends hrelease.frame.2.2.2.2
  | closedContext _ hsends _ hrelease _ => exact hsent hsends hrelease.frame.2.2.2.2
  | sessionsFull _ hsends _ _ _ => exact hsent hsends rfl
  | openedSession _ hsends _ _ _ _ => exact hsent hsends rfl
  | closedSession _ hsends _ _ _ => exact hsent hsends rfl
  | invoked _ hsends _ => exact hsent hsends rfl
  | registered _ hsends _ _ => exact hsent hsends rfl
  | unregistered _ hsends _ => exact hsent hsends rfl

/-- Whenever an operation on connection `hd` sends a request, it carries the
context id given to the call that last returned `hd` and the handle of that
call's reply; an operation on a session of it also the handle of the reply to
the call that last returned the session and was not undone since. A call that
fails an assertion after its exchange ends the process and is no step of the run. -/
theorem nwld_relays_handles (alloc : InitAlloc) (s₀ : Nwld)
    (maxConnections maxSessions smId : UInt32) (commObj : Nat) (hmax : maxConnections ≠ 0)
    {before after : List NwldStep} {x : NwldStep} {s : Nwld}
    (hrun : Run nwldStep (skNwldTapiInit alloc s₀ maxConnections maxSessions smId commObj).2
      (before ++ x :: after) s)
    {hd : UInt32} (hhd : x.input.info.contextHandle = some hd) {e : NwldExchange}
    (he : e ∈ x.post.exchanges) :
    (∃ o, SourceOfContext before hd o ∧
      (∃ poc, o.input.info = .openContext poc ∧ e.contextId = poc.contextId) ∧
      RepliedWith e.contextHandle o) ∧
    ∀ sh, x.input.info.sessionHandle = some sh → ∃ o, SourceOfSession before hd sh o ∧
      RepliedWith e.sessionHandle o := by
  obtain ⟨hbefore, hstep⟩ := hrun.split rfl
  have hledger : Ledger before x.pre :=
    (Ledger.of_fresh (fresh_init alloc s₀ maxConnections maxSessions smId commObj hmax)).run hbefore
  obtain ⟨pconn, session, hsends⟩ := (nwldStep_cases hstep).sends hhd rfl he
  obtain ⟨-, hused, hpconn⟩ := SkNwldTapi.connection_eq_some hsends.connection
  rw [hpconn] at hused
  obtain ⟨c, -, hexchange⟩ := hsends.exchange
  have hrequest : e.request = x.input.info.request pconn.contextId x.pre.tapi.smId pconn.context
      session := by rw [hexchange]; rfl
  constructor
  · obtain ⟨o, ho, ⟨poc, hpoc, hid⟩, hreply⟩ := hledger.context hd hused
    refine ⟨o, ho, ⟨poc, hpoc, ?_⟩, ?_⟩
    · rw [contextId_request hhd hrequest, hpconn]
      exact hid.symm
    · rw [contextHandle_request hhd hrequest, hpconn]
      exact hreply
  · intro sh hsh
    obtain ⟨p, hp, -, hsused, hsession⟩ := hsends.entry sh hsh
    rw [hpconn] at hp
    obtain ⟨-, o, ho, hreply⟩ := hledger.session hd sh p hp hsused
    refine ⟨o, ho, ?_⟩
    rw [sessionHandle_request hhd hsh hrequest, ← hsession]
    exact hreply

def sampleNwldInvokeCommand (h sh : UInt32) : Call :=
  .answered (.invokeCmd ⟨h, sh, 9, ⟨0, fun _ => ⟨0, 0, 0, fun _ => 0⟩⟩⟩) skErrorSuccess

/-- An invoke_command call on the first session of the first connection. -/
theorem nwld_relays_handles_invoke : ∃ before x s, Run nwldStep sampleNwld (before ++ [x]) s ∧
    ∃ e, x.post.exchanges = [e] ∧ e.contextId = 1 ∧
      (∃ o, SourceOfContext before 0 o ∧ RepliedWith e.contextHandle o) ∧
      ∃ o, SourceOfSession before 0 0 o ∧ RepliedWith e.sessionHandle o := by
  obtain ⟨tr, s, hrun, hinputs, hid⟩ := exists_run_of_execute nwldStep sampleNwld
    [sampleNwldOpenContext, sampleNwldOpenSession 0, sampleNwldInvokeCommand 0 0]
    (fun _ s => s.exchanges.map NwldExchange.contextId = [1]) (by decide +kernel)
  rcases List.eq_nil_or_concat tr with rfl | ⟨before, x, rfl⟩
  · cases hinputs
  rw [List.concat_eq_append] at hrun hinputs
  rw [List.map_append] at hinputs
  have hsplit : before.map Step.input ++ [x.input] =
      [sampleNwldOpenContext, sampleNwldOpenSession 0] ++ [sampleNwldInvokeCommand 0 0] := hinputs
  have hinput : x.input = sampleNwldInvokeCommand 0 0 :=
    List.singleton_inj.mp (List.append_inj' hsplit rfl).2
  have hhd : x.input.info.contextHandle = some 0 := by rw [hinput]; rfl
  have hsh : x.input.info.sessionHandle = some 0 := by rw [hinput]; rfl
  obtain ⟨e, hexchanges, he⟩ := List.map_eq_singleton_iff.mp hid
  rw [hrun.eq_post] at hexchanges
  obtain ⟨⟨o, ho, -, hreply⟩, hsession⟩ := nwld_relays_handles ⟨true, true⟩ _ 2 2 2 0 (by decide)
    hrun hhd (by rw [hexchanges]; exact List.mem_singleton_self e)
  exact ⟨before, x, s, hrun, e, hexchanges, he, ⟨o, ho, hreply⟩, hsession 0 hsh⟩

end SkSdk
