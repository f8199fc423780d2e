import SkSdk.Nwld.TableInvariant

/-!
The session arrays of the connections. The start allocates one array, for the
first connection, and wiping a connection loses the pointer to it; a connection
taken without an array fails the assertions of the next open_session call.
-/

namespace SkSdk
open ByteMemory FaultState

/-- The used entries of session array `p`. -/
def Nwld.usedEntries (s : Nwld) (p : Nat) (n : UInt32) : Finset Nat :=
  (Finset.range n.toNat).filter fun k => (s.sessions p k).used = true

/-- Only the first connection can have an array, and a used connection has one. -/
structure SingleArray (maxSessions : UInt32) (s : Nwld) : Prop where
  own : ∀ h, (s.tapi.clist h).s ≠ none → h = 0
  first : ∀ p, (s.tapi.clist 0).s = some p → p = 0 ∧
    (s.tapi.clist 0).maxSessions = maxSessions ∧
    (s.tapi.clist 0).numSessions = (s.usedEntries 0 maxSessions).card ∧
    ((s.usedEntries 0 maxSessions).card < 2 ^ 31 ∨ maxSessions.toNat ≤ 2 ^ 31)
  array : ∀ h, (s.tapi.clist h).used = true → (s.tapi.clist h).s ≠ none

namespace SingleArray

variable {maxSessions : UInt32} {s t : Nwld}

theorem of_connection (h : SingleArray maxSessions s) {hd : UInt32} {pconn : TSkSysConnection}
    (hconn : s.tapi.connection hd = some pconn) :
    hd.toNat = 0 ∧ pconn = s.tapi.clist 0 ∧ pconn.s = some 0 := by
  obtain ⟨-, hused, heq⟩ := SkNwldTapi.connection_eq_some hconn
  rw [heq] at hused
  have hs := h.array _ hused
  have hzero := h.own _ hs
  rw [hzero] at heq hs
  refine ⟨hzero, heq, ?_⟩
  cases hp : (s.tapi.clist 0).s with
  | none => exact absurd hp hs
  | some p => rw [heq, hp, (h.first p hp).1]

theorem of_parts (hsessions : ∀ k, (t.sessions 0 k).used = (s.sessions 0 k).used)
    (hclist : ∀ h, (t.tapi.clist h).used = (s.tapi.clist h).used ∧
      (t.tapi.clist h).s = (s.tapi.clist h).s ∧
      (t.tapi.clist h).maxSessions = (s.tapi.clist h).maxSessions ∧
      (t.tapi.clist h).numSessions = (s.tapi.clist h).numSessions)
    (h : SingleArray maxSessions s) : SingleArray maxSessions t := by
  have hentries : t.usedEntries 0 maxSessions = s.usedEntries 0 maxSessions := by
    simp only [Nwld.usedEntries, hsessions]
  constructor
  · intro x
    rw [(hclist x).2.1]
    exact h.own x
  · rw [(hclist 0).2.1, (hclist 0).2.2.1, (hclist 0).2.2.2, hentries]
    exact h.first
  · intro x
    rw [(hclist x).1, (hclist x).2.1]
    exact h.array x

theorem connected (h : SingleArray maxSessions s) {x : Nat} (hx : (s.tapi.clist x).s ≠ none)
    (i : IdSlot) (context : Handle) : SingleArray maxSessions (s.connected x i context) := by
  have hkept (y : Nat) :
      ((s.connected x i context).tapi.clist y).s = (s.tapi.clist y).s ∧
      ((s.connected x i context).tapi.clist y).maxSessions = (s.tapi.clist y).maxSessions ∧
      ((s.connected x i context).tapi.clist y).numSessions = (s.tapi.clist y).numSessions := by
    by_cases hy : y = x
    · subst hy
      simp [Nwld.connected]
    · simp [Nwld.connected, hy]
  constructor
  · intro y
    rw [(hkept y).1]
    exact h.own y
  · rw [(hkept 0).1, (hkept 0).2.1, (hkept 0).2.2]
    exact h.first
  · intro y hy
    rw [(hkept y).1]
    by_cases hyx : y = x
    · rwa [hyx]
    · refine h.array y ?_
      simpa [Nwld.connected, hyx] using hy

theorem disconnected (h : SingleArray maxSessions s) (x : Nat) :
    SingleArray maxSessions (s.disconnected x) := by
  have hself : (s.disconnected x).tapi.clist x = .zero := by simp [Nwld.disconnected]
  have hother (y : Nat) (hy : y ≠ x) : (s.disconnected x).tapi.clist y = s.tapi.clist y := by
    simp [Nwld.disconnected, hy]
  constructor
  · intro y hy
    by_cases hyx : y = x
    · subst hyx
      rw [hself] at hy
      exact absurd rfl hy
    · rw [hother y hyx] at hy
      exact h.own y hy
  · intro p hp
    by_cases hx : 0 = x
    · rw [← hx] at hself
      rw [← hx, hself] at hp
      cases hp
    · rw [hother 0 hx] at hp ⊢
      exact h.first p hp
  · intro y hy
    by_cases hyx : y = x
    · subst hyx
      rw [hself] at hy
      cases hy
    · rw [hother y hyx] at hy ⊢
      exact h.array y hy

/-- The entries of array 0 as one of them changes. -/
private theorem entries_updSession (s : Nwld) (k : Nat) (x : TSkSysSession) :
    (s.updSession 0 k x).usedEntries 0 maxSessions =
      if x.used = true ∧ k < maxSessions.toNat then insert k (s.usedEntries 0 maxSessions)
      else (s.usedEntries 0 maxSessions).erase k := by
  ext j
  by_cases hj : j = k
  · subst hj
    by_cases hx : x.used = true <;> by_cases hk : j < maxSessions.toNat <;>
      simp [Nwld.usedEntries, hx, hk]
  · by_cases hx : x.used = true ∧ k < maxSessions.toNat
    · rw [if_pos hx]
      simp [Nwld.usedEntries, hj]
    · rw [if_neg hx]
      simp [Nwld.usedEntries, hj]

theorem attached (h : SingleArray maxSessions s) (hs : (s.tapi.clist 0).s = some 0) {k : Nat}
    (session : Handle) (hk : k < maxSessions.toNat) (hfree : (s.sessions 0 k).used = false)
    (hsmall : (s.tapi.clist 0).numSessions + 1 < 2 ^ 31 ∨ maxSessions.toNat ≤ 2 ^ 31) :
    SingleArray maxSessions (s.attached 0 0 k session) := by
  obtain ⟨-, hmax, hnum, -⟩ := h.first 0 hs
  have hkept (y : Nat) :
      ((s.attached 0 0 k session).tapi.clist y).used = (s.tapi.clist y).used ∧
      ((s.attached 0 0 k session).tapi.clist y).s = (s.tapi.clist y).s := by
    by_cases hy : y = 0
    · subst hy
      simp [Nwld.attached]
    · simp [Nwld.attached, hy]
  have hentries : (s.attached 0 0 k session).usedEntries 0 maxSessions =
      insert k (s.usedEntries 0 maxSessions) := by
    refine (entries_updSession s k ⟨session, true⟩).trans ?_
    rw [if_pos ⟨rfl, hk⟩]
  have hcard : (insert k (s.usedEntries 0 maxSessions)).card = (s.tapi.clist 0).numSessions + 1 := by
    rw [Finset.card_insert_of_notMem (by simp [Nwld.usedEntries, hfree]), hnum]
  constructor
  · intro y
    rw [(hkept y).2]
    exact h.own y
  · intro p hp
    rw [(hkept 0).2] at hp
    rw [hentries, hcard]
    refine ⟨(h.first p hp).1, ?_, ?_, hsmall⟩
    · simpa [Nwld.attached] using hmax
    · simp [Nwld.attached]
  · intro y
    rw [(hkept y).1, (hkept y).2]
    exact h.array y

theorem detached (h : SingleArray maxSessions s) (hs : (s.tapi.clist 0).s = some 0) {k : Nat}
    (hk : k < maxSessions.toNat) (hused : (s.sessions 0 k).used = true) :
    SingleArray maxSessions (s.detached 0 0 k) := by
  obtain ⟨-, hmax, hnum, hsmall⟩ := h.first 0 hs
  have hkept (y : Nat) :
      ((s.detached 0 0 k).tapi.clist y).used = (s.tapi.clist y).used ∧
      ((s.detached 0 0 k).tapi.clist y).s = (s.tapi.clist y).s := by
    by_cases hy : y = 0
    · subst hy
      simp [Nwld.detached]
    · simp [Nwld.detached, hy]
  have hentries : (s.detached 0 0 k).usedEntries 0 maxSessions =
      (s.usedEntries 0 maxSessions).erase k := by
    refine (entries_updSession (s.updConn 0 _) k .zero).trans ?_
    rw [if_neg (by simp [TSkSysSession.zero])]
    rfl
  have hmem : k ∈ s.usedEntries 0 maxSessions := by simp [Nwld.usedEntries, hk, hused]
  have hcard : ((s.usedEntries 0 maxSessions).erase k).card = (s.tapi.clist 0).numSessions - 1 := by
    rw [Finset.card_erase_of_mem hmem, hnum]
  constructor
  · intro y
    rw [(hkept y).2]
    exact h.own y
  · intro p hp
    rw [(hkept 0).2] at hp
    rw [hentries, hcard]
    refine ⟨(h.first p hp).1, ?_, ?_, by omega⟩
    · simpa [Nwld.detached] using hmax
    · simp [Nwld.detached]
  · intro y
    rw [(hkept y).1, (hkept y).2]
    exact h.array y

end SingleArray

/-! ## Runs -/

/-- What the property asks of a call: the connection that an open_context call
takes still has an array, and 2^31 sessions are not opened on one. -/
structure KeepsArrays (call : Call) (s : Nwld) : Prop where
  context : ∀ (poc : SkTeecUserOpenContext) (i : IdSlot) (t : Nwld) (e : NwldExchange) (h : Nat),
    call.info = .openContext poc → Claim call.env poc.contextId s (.ok i) t →
    SendsOpen call t i e → call.info.Accepts e.reply →
    firstUnused (fun j => (s.tapi.clist j).used) s.tapi.maxConnections.toNat = some h →
    (s.tapi.clist h).s ≠ none
  session : ∀ (pos : SkTeecUserOpenSession) (pconn : TSkSysConnection) (session : Handle)
    (e : NwldExchange), call.info = .openSession pos →
    Sends call s pos.contextHandle pconn session e → call.info.Accepts e.reply →
    pconn.numSessions + 1 < 2 ^ 31 ∨ pconn.maxSessions.toNat ≤ 2 ^ 31

section Runs

variable {maxSessions : UInt32} {s t : Nwld}

theorem SingleArray.of_clist (h : SingleArray maxSessions s)
    (hclist : t.tapi.clist = s.tapi.clist) (hsessions : t.sessions = s.sessions) :
    SingleArray maxSessions t := by
  refine h.of_parts (fun k => ?_) (fun x => ?_)
  · rw [hsessions]
  · rw [hclist]
    exact ⟨rfl, rfl, rfl, rfl⟩

theorem SingleArray.outcome (h : SingleArray maxSessions s) {call : Call}
    {r : SkStatus × SkTeecUserInfo} (hcond : KeepsArrays call s) (hout : CallOutcome call s r t) :
    SingleArray maxSessions t := by
  cases hout with
  | refused _ => exact h
  | unclaimed _ hclaim => exact h.of_clist hclaim.frame.1 hclaim.frame.2.2.2.1
  | unsent _ hclaim => exact h.of_clist hclaim.frame.1 hclaim.frame.2.2.2.1
  | unopened _ hclaim _ _ _ => exact h.of_clist hclaim.frame.1 hclaim.frame.2.2.2.1
  | @openedContext poc i u e x hinfo hclaim hsends hacc hfree _ =>
    obtain ⟨hclist, hmax, -, hsessions, -⟩ := hclaim.frame
    rw [hclist, hmax] at hfree
    have hs := hcond.context poc i u e x hinfo hclaim hsends hacc hfree
    have hrec : SingleArray maxSessions (u.record e) := h.of_clist hclist hsessions
    exact hrec.connected (by rw [Nwld.tapi_record, hclist]; exact hs) i _
  | rejected _ _ _ => exact h.of_clist rfl rfl
  | unreleased _ _ _ hrelease _ => exact h.of_clist hrelease.frame.1 hrelease.frame.2.2.2.1
  | closedContext _ _ _ hrelease _ =>
    have hrel := h.of_clist hrelease.frame.1 hrelease.frame.2.2.2.1
    exact hrel.disconnected _
  | sessionsFull _ _ _ _ _ => exact h.of_clist rfl rfl
  | @openedSession pos pconn session e p k hinfo hsends hacc hp hfree _ =>
    obtain ⟨hzero, hpconn, hs⟩ := h.of_connection hsends.connection
    have hsmall := hcond.session pos pconn session e hinfo hsends hacc
    obtain ⟨-, hmax, -, -⟩ := h.first 0 (hpconn ▸ hs)
    rw [hs] at hp
    cases hp
    rw [hpconn, hmax] at hfree hsmall
    obtain ⟨hk, hunused, -⟩ := firstUnused_eq_some.mp hfree
    have hrec : SingleArray maxSessions (s.record e) := h.of_clist rfl rfl
    rw [hzero]
    exact hrec.attached (hpconn ▸ hs) _ hk hunused hsmall
  | @closedSession pcs pconn session e p hinfo hsends _ hp _ =>
    obtain ⟨hzero, hpconn, hs⟩ := h.of_connection hsends.connection
    obtain ⟨-, hmax, -, -⟩ := h.first 0 (hpconn ▸ hs)
    rw [hs] at hp
    cases hp
    obtain ⟨q, hq, hlt, hused, -⟩ := hsends.entry pcs.sessionHandle (by rw [hinfo]; rfl)
    rw [hs] at hq
    cases hq
    rw [hpconn, hmax] at hlt
    have hrec : SingleArray maxSessions (s.record e) := h.of_clist rfl rfl
    rw [hzero]
    exact hrec.detached (hpconn ▸ hs) (UInt32.lt_iff_toNat_lt.mp hlt) hused
  | invoked _ _ _ => exact h.of_clist rfl rfl
  | registered _ _ _ _ => exact h.of_clist rfl rfl
  | unregistered _ _ _ => exact h.of_clist rfl rfl

/-- A table without used connections, an array at most in front and that empty. -/
theorem SingleArray.of_fresh (h : s.Fresh maxSessions) : SingleArray maxSessions s := by
  refine ⟨fun x hx => ?_, fun p hp => ?_, fun x hx => ?_⟩
  · cases hp : (s.tapi.clist x).s with
    | none => exact absurd hp hx
    | some p => exact (h.array x p hp).1
  · obtain ⟨-, rfl, hmax, hnum, hunused⟩ := h.array 0 p hp
    have hempty : s.usedEntries 0 maxSessions = ∅ :=
      Finset.filter_eq_empty_iff.mpr fun k _ => by simp [hunused k]
    rw [hempty, hnum]
    exact ⟨rfl, hmax, rfl, Or.inl (by decide)⟩
  · rw [h.unused x] at hx
    cases hx

end Runs

end SkSdk
