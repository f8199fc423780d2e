import SkSdk.Worlds.Composition

/-!
What is open on the two sides. `Paired` pairs the used connections of the
driver with the active contexts of the server, by handle, and with them their
session tables. Every completed call keeps the pairing unless one side has
acted and the other then fails; nothing is rolled back in that case.
-/

namespace SkSdk
open ByteMemory FaultState DoublyLinked Format

/-! ## What each side names -/

/-- The handles in the used session entries of connection `h`. -/
def Nwld.sessionHandles (s : Nwld) (h : Nat) : Multiset Handle :=
  match (s.tapi.clist h).s with
  | none => 0
  | some p => (s.usedEntries p (s.tapi.clist h).maxSessions).val.map fun k => (s.sessions p k).session

/-- The handles of the sessions chained to context `c`. -/
def TApiConnectionTable.sessionHandles (conn : TApiConnectionTable) (c : CSlot) : Multiset Handle :=
  Multiset.map (fun i : SSlot => handleAt conn.sthandles i) (conn.chain c)

/-- The driver names exactly what is open on the server. -/
structure Agree (nwld : Nwld) (conn : TApiConnectionTable) : Prop where
  contexts : ∀ handle, (∃ h, (nwld.tapi.clist h).used = true ∧
      (nwld.tapi.clist h).context = handle) ↔
    ∃ c : CSlot, (conn.ctable c).active = true ∧ handleAt conn.cthandles c = handle
  sessions : ∀ (h : Nat) (c : CSlot), (nwld.tapi.clist h).used = true →
    (conn.ctable c).active = true → handleAt conn.cthandles c = (nwld.tapi.clist h).context →
    nwld.sessionHandles h = conn.sessionHandles c

/-- Agreement, no two connections or contexts with the same handle, and no
session table that is shared or left over. -/
structure Paired (nwld : Nwld) (conn : TApiConnectionTable) : Prop extends Agree nwld conn where
  alone : ∀ h h', (nwld.tapi.clist h).used = true → (nwld.tapi.clist h').used = true →
    (nwld.tapi.clist h).context = (nwld.tapi.clist h').context → h = h'
  distinct : ∀ c c' : CSlot, (conn.ctable c).active = true → (conn.ctable c').active = true →
    handleAt conn.cthandles c = handleAt conn.cthandles c' → c = c'
  exclusive : ∀ h h' p, (nwld.tapi.clist h).s = some p → (nwld.tapi.clist h').s = some p → h = h'
  idle : ∀ h, (nwld.tapi.clist h).used = false → nwld.sessionHandles h = 0

section Client

variable {s t : Nwld} {h : Nat}

theorem Nwld.sessionHandles_congr (hs : (t.tapi.clist h).s = (s.tapi.clist h).s)
    (hmax : (t.tapi.clist h).maxSessions = (s.tapi.clist h).maxSessions)
    (hsessions : ∀ p, (s.tapi.clist h).s = some p → t.sessions p = s.sessions p) :
    t.sessionHandles h = s.sessionHandles h := by
  unfold sessionHandles usedEntries
  rw [hs, hmax]
  cases hp : (s.tapi.clist h).s with
  | none => rfl
  | some p => simp only [hsessions p hp]

theorem Nwld.sessionHandles_of_unused (hnone : ∀ p ∈ (s.tapi.clist h).s,
    ∀ k < (s.tapi.clist h).maxSessions.toNat, (s.sessions p k).used = false) :
    s.sessionHandles h = 0 := by
  unfold sessionHandles usedEntries
  cases hp : (s.tapi.clist h).s with
  | none => rfl
  | some p =>
    have hempty : (Finset.range (s.tapi.clist h).maxSessions.toNat).filter
        (fun k => (s.sessions p k).used = true) = ∅ := by
      refine Finset.filter_false_of_mem fun k hk => ?_
      rw [hnone p hp k (Finset.mem_range.mp hk)]
      decide
    simp only [hempty]
    rfl

theorem Nwld.sessionHandles_attached {p k : Nat} (session : Handle)
    (hp : (s.tapi.clist h).s = some p) (hk : k < (s.tapi.clist h).maxSessions.toNat)
    (hfree : (s.sessions p k).used = false) :
    (s.attached h p k session).sessionHandles h = session ::ₘ s.sessionHandles h := by
  have hs : ((s.attached h p k session).tapi.clist h).s = some p := by simp [attached, hp]
  have hmax : ((s.attached h p k session).tapi.clist h).maxSessions =
      (s.tapi.clist h).maxSessions := by simp [attached]
  have hentry (j : Nat) : (s.attached h p k session).sessions p j =
      if j = k then ⟨session, true⟩ else s.sessions p j := by
    simp [attached]
  have hnot : k ∉ s.usedEntries p (s.tapi.clist h).maxSessions := by simp [usedEntries, hfree]
  have hentries : (s.attached h p k session).usedEntries p (s.tapi.clist h).maxSessions =
      insert k (s.usedEntries p (s.tapi.clist h).maxSessions) := by
    ext j
    by_cases hj : j = k
    · subst hj
      simp [usedEntries, hentry, hk]
    · simp [usedEntries, hentry, hj]
  unfold sessionHandles
  simp only [hs, hp, hmax, hentries, Finset.insert_val_of_notMem hnot, Multiset.map_cons, hentry,
    ↓reduceIte]
  congr 1
  refine Multiset.map_congr rfl fun j hj => ?_
  have hjk : j ≠ k := fun heq => hnot (heq ▸ hj)
  rw [if_neg hjk]

theorem Nwld.sessionHandles_detached {p k : Nat} (hp : (s.tapi.clist h).s = some p)
    (hk : k < (s.tapi.clist h).maxSessions.toNat) (hused : (s.sessions p k).used = true) :
    s.sessionHandles h = (s.sessions p k).session ::ₘ (s.detached h p k).sessionHandles h := by
  have hs : ((s.detached h p k).tapi.clist h).s = some p := by simp [detached, hp]
  have hmax : ((s.detached h p k).tapi.clist h).maxSessions = (s.tapi.clist h).maxSessions := by
    simp [detached]
  have hentry (j : Nat) : (s.detached h p k).sessions p j =
      if j = k then .zero else s.sessions p j := by
    simp [detached]
  have hmem : k ∈ s.usedEntries p (s.tapi.clist h).maxSessions := by simp [usedEntries, hk, hused]
  have hentries : (s.detached h p k).usedEntries p (s.tapi.clist h).maxSessions =
      (s.usedEntries p (s.tapi.clist h).maxSessions).erase k := by
    ext j
    by_cases hj : j = k
    · subst hj
      simp [usedEntries, hentry, TSkSysSession.zero]
    · simp [usedEntries, hentry, hj]
  unfold sessionHandles
  simp only [hs, hp, hmax, hentries, hentry, Finset.erase_val]
  rw [← Multiset.cons_erase (Finset.mem_val.mpr hmem), Multiset.map_cons]
  congr 1
  rw [Multiset.cons_erase (Finset.mem_val.mpr hmem)]
  refine Multiset.map_congr rfl fun j hj => ?_
  have hjk : j ≠ k := by
    rintro rfl
    exact (s.usedEntries p (s.tapi.clist h).maxSessions).nodup.notMem_erase hj
  rw [if_neg hjk]

theorem Nwld.clist_connected_of_ne {x y : Nat} (i : IdSlot) (handle : Handle) (hy : y ≠ x) :
    (s.connected x i handle).tapi.clist y = s.tapi.clist y := by
  simp [connected, hy]

theorem Nwld.used_connected {x y : Nat} {i : IdSlot} {handle : Handle} :
    ((s.connected x i handle).tapi.clist y).used = true ↔
      y = x ∨ (s.tapi.clist y).used = true := by
  by_cases hy : y = x
  · simp [hy, connected]
  · simp [hy, clist_connected_of_ne i handle hy]

/-- Taking a connection leaves every session table where it is. -/
theorem Nwld.sessions_connected (x y : Nat) (i : IdSlot) (handle : Handle) :
    ((s.connected x i handle).tapi.clist y).s = (s.tapi.clist y).s ∧
      ((s.connected x i handle).tapi.clist y).maxSessions = (s.tapi.clist y).maxSessions := by
  by_cases hy : y = x
  · subst hy
    simp [connected]
  · rw [clist_connected_of_ne i handle hy]
    exact ⟨rfl, rfl⟩

theorem Nwld.sessionHandles_connected (x y : Nat) (i : IdSlot) (handle : Handle) :
    (s.connected x i handle).sessionHandles y = s.sessionHandles y :=
  sessionHandles_congr (sessions_connected x y i handle).1 (sessions_connected x y i handle).2
    fun _ _ => rfl

end Client

section Table

variable {conn conn' : TApiConnectionTable}

theorem TApiConnectionTable.sessionHandles_congr {c : CSlot} (hchain : conn'.chain c = conn.chain c)
    (hhandles : ∀ i ∈ conn.chain c, handleAt conn'.sthandles i = handleAt conn.sthandles i) :
    conn'.sessionHandles c = conn.sessionHandles c := by
  rw [sessionHandles, sessionHandles, hchain]
  exact Multiset.map_congr rfl fun i hi => hhandles i (Multiset.mem_coe.mp hi)

theorem TApiConnectionTable.chain_eq_nil {c : CSlot} (h : conn.sessionHandles c = 0) :
    conn.chain c = [] := (Multiset.coe_eq_zero _).mp (Multiset.map_eq_zero.mp h)

theorem TApiConnectionTable.sessionHandles_openSession (hcons : conn.Consistent) {c : CSlot}
    {i : SSlot} (hc : (conn.ctable c).active = true) (hi : (conn.stable i).active = false)
    (handle : Handle) (t t' : UInt32) (taid : SkTaid) (tapp : SkSwldTappInstance) (c' : CSlot) :
    (conn.openSession c i handle t t' taid tapp).sessionHandles c' =
      if c' = c then handle ::ₘ conn.sessionHandles c else conn.sessionHandles c' := by
  have hop : (TableOp.openSession c i handle t t' taid tapp).Enabled conn := ⟨hc, hi⟩
  have hchain := congrFun (TableOp.chain_apply hcons hop) c'
  have hother {d : CSlot} {j : SSlot} (hj : j ∈ conn.chain d) :
      handleAt (conn.openSession c i handle t t' taid tapp).sthandles j =
        handleAt conn.sthandles j := by
    have hne : i ≠ j := by
      rintro rfl
      exact absurd ((hcons.mem_active hj).symm.trans hi) (by decide)
    exact handleAt_setHandleAt_of_ne (fun heq => hne (Fin.ext heq).symm) _ _
  have hself : handleAt (conn.openSession c i handle t t' taid tapp).sthandles i = handle :=
    handleAt_setHandleAt _ _ _
  change (conn.openSession c i handle t t' taid tapp).chain c' =
    Function.update conn.chain c (conn.chain c ++ [i]) c' at hchain
  by_cases hcc : c' = c
  · subst hcc
    rw [if_pos rfl, sessionHandles, hchain, Function.update_self, sessionHandles,
      ← Multiset.coe_add, Multiset.map_add, Multiset.map_coe _ [i], List.map_singleton, hself,
      Multiset.coe_singleton, Multiset.add_comm, Multiset.singleton_add]
    congr 1
    exact Multiset.map_congr rfl fun j hj => hother (Multiset.mem_coe.mp hj)
  · rw [if_neg hcc]
    rw [Function.update_of_ne hcc] at hchain
    exact sessionHandles_congr hchain fun j hj => hother hj

theorem TApiConnectionTable.sessionHandles_closeSession (hcons : conn.Consistent) {c : CSlot}
    {i : SSlot} (hi : i ∈ conn.chain c) (t : UInt32) (tapp : SkSwldTappInstance) :
    conn.sessionHandles c =
        handleAt conn.sthandles i ::ₘ (conn.closeSession c i t tapp).sessionHandles c ∧
      ∀ c', c' ≠ c → (conn.closeSession c i t tapp).sessionHandles c' = conn.sessionHandles c' := by
  have hop : (TableOp.closeSession c i t tapp).Enabled conn := hi
  have hchain (c' : CSlot) : (conn.closeSession c i t tapp).chain c' =
      Function.update conn.chain c ((conn.chain c).erase i) c' :=
    congrFun (TableOp.chain_apply hcons hop) c'
  constructor
  · rw [sessionHandles, sessionHandles, hchain, Function.update_self,
      Multiset.coe_eq_coe.mpr (List.perm_cons_erase hi), ← Multiset.cons_coe, Multiset.map_cons]
    rfl
  · intro c' hc'
    refine sessionHandles_congr ?_ fun _ _ => rfl
    rw [hchain, Function.update_of_ne hc']

theorem TApiConnectionTable.active_openContext {c d : CSlot} {handle : Handle} {pid : Int32} :
    ((conn.openContext c handle pid).ctable d).active = true ↔
      d = c ∨ (conn.ctable d).active = true := by
  have happly := TableOp.active_apply conn (.openContext c handle pid) d
  change ((conn.openContext c handle pid).ctable d).active =
    (d = c || (conn.ctable d).active) at happly
  rw [happly]
  simp

theorem TApiConnectionTable.sessionHandles_openContext (hcons : conn.Consistent) {c : CSlot}
    (hc : (conn.ctable c).active = false) (handle : Handle) (pid : Int32) (d : CSlot) :
    (conn.openContext c handle pid).sessionHandles d = conn.sessionHandles d :=
  have hop : (TableOp.openContext c handle pid).Enabled conn := hc
  sessionHandles_congr (congrFun (TableOp.chain_apply hcons hop) d) fun _ _ => rfl

theorem TApiConnectionTable.active_closeContext {c d : CSlot} :
    ((conn.deactivate c).countOut.ctable d).active = true ↔
      d ≠ c ∧ (conn.ctable d).active = true := by
  have happly := TableOp.active_apply conn (.closeContext c) d
  change ((conn.deactivate c).countOut.ctable d).active =
    (!decide (d = c) && (conn.ctable d).active) at happly
  rw [happly]
  simp

end Table

/-! ## Steps of the pairing -/

namespace Paired

open TApiConnectionTable

variable {s t : Nwld} {conn conn' : TApiConnectionTable}

/-- Neither the handles nor the session tables of one side have changed. -/
theorem congr (h : Paired s conn) (hclist : ∀ x, (t.tapi.clist x).used = (s.tapi.clist x).used ∧
      (t.tapi.clist x).context = (s.tapi.clist x).context ∧
      (t.tapi.clist x).s = (s.tapi.clist x).s ∧
      (t.tapi.clist x).maxSessions = (s.tapi.clist x).maxSessions)
    (hsessions : t.sessions = s.sessions)
    (hactive : ∀ c, (conn'.ctable c).active = (conn.ctable c).active)
    (hcontext : ∀ c : CSlot, handleAt conn'.cthandles c = handleAt conn.cthandles c)
    (hchain : ∀ c, conn'.sessionHandles c = conn.sessionHandles c) : Paired t conn' := by
  have hentries (x : Nat) : t.sessionHandles x = s.sessionHandles x :=
    Nwld.sessionHandles_congr (hclist x).2.2.1 (hclist x).2.2.2 fun _ _ => by rw [hsessions]
  constructor
  · constructor
    · intro handle
      simp only [(hclist _).1, (hclist _).2.1, hactive, hcontext]
      exact h.contexts handle
    · intro x c
      rw [(hclist x).1, (hclist x).2.1, hactive, hcontext, hentries, hchain]
      exact h.sessions x c
  · intro x y
    rw [(hclist x).1, (hclist y).1, (hclist x).2.1, (hclist y).2.1]
    exact h.alone x y
  · intro c c'
    rw [hactive, hactive, hcontext, hcontext]
    exact h.distinct c c'
  · intro x y p
    rw [(hclist x).2.2.1, (hclist y).2.2.1]
    exact h.exclusive x y p
  · intro x
    rw [(hclist x).1, hentries]
    exact h.idle x

/-- A connection and a context taken for the same new handle. -/
theorem opened (h : Paired s conn) (hcons : conn.Consistent) {x : Nat} {c : CSlot} {i : IdSlot}
    {handle : Handle} {pid : Int32} (hx : (s.tapi.clist x).used = false)
    (hc : (conn.ctable c).active = false)
    (hfresh : ∀ c' : CSlot, (conn.ctable c').active = true → handleAt conn.cthandles c' ≠ handle) :
    Paired (s.connected x i handle) (conn.openContext c handle pid) := by
  have hop : (TableOp.openContext c handle pid).Enabled conn := hc
  have hself : ((s.connected x i handle).tapi.clist x).context = handle := by simp [Nwld.connected]
  have hother (y : Nat) (hy : y ≠ x) : (s.connected x i handle).tapi.clist y = s.tapi.clist y :=
    Nwld.clist_connected_of_ne i handle hy
  have hnew : handleAt (conn.openContext c handle pid).cthandles c = handle :=
    handleAt_setHandleAt _ _ _
  have hkept {d : CSlot} (hd : (conn.ctable d).active = true) :
      handleAt (conn.openContext c handle pid).cthandles d = handleAt conn.cthandles d :=
    TableOp.cthandles_apply hop hd
  have hunknown {y : Nat} (hy : (s.tapi.clist y).used = true) :
      (s.tapi.clist y).context ≠ handle := by
    intro heq
    obtain ⟨d, hd, hdh⟩ := (h.contexts handle).mp ⟨y, hy, heq⟩
    exact hfresh d hd hdh
  constructor
  · constructor
    · intro handle'
      constructor
      · rintro ⟨y, hy, hctx⟩
        by_cases hyx : y = x
        · rw [hyx, hself] at hctx
          exact ⟨c, active_openContext.mpr (Or.inl rfl), hnew.trans hctx⟩
        · rw [hother y hyx] at hy hctx
          obtain ⟨d, hd, hdh⟩ := (h.contexts handle').mp ⟨y, hy, hctx⟩
          exact ⟨d, active_openContext.mpr (Or.inr hd), (hkept hd).trans hdh⟩
      · rintro ⟨d, hd, hdh⟩
        rcases active_openContext.mp hd with rfl | hd
        · exact ⟨x, Nwld.used_connected.mpr (Or.inl rfl), by rw [hself, ← hdh, hnew]⟩
        · rw [hkept hd] at hdh
          obtain ⟨y, hy, hctx⟩ := (h.contexts handle').mpr ⟨d, hd, hdh⟩
          have hyx : y ≠ x := by
            rintro rfl
            exact absurd (hy.symm.trans hx) (by decide)
          exact ⟨y, Nwld.used_connected.mpr (Or.inr hy), by rw [hother y hyx, hctx]⟩
    · intro y d hy hd hctx
      rw [Nwld.sessionHandles_connected, sessionHandles_openContext hcons hc]
      by_cases hyx : y = x
      · have hdc : d = c := by
          rcases active_openContext.mp hd with hdc | hd
          · exact hdc
          · rw [hkept hd, hyx, hself] at hctx
            exact absurd hctx (hfresh d hd)
        rw [hyx, h.idle x hx, hdc, sessionHandles, hcons.closed c hc]
        rfl
      · rw [hother y hyx] at hy hctx
        rcases active_openContext.mp hd with rfl | hd
        · exact absurd (hctx.symm.trans hnew) (hunknown hy)
        · rw [hkept hd] at hctx
          exact h.sessions y d hy hd hctx
  · intro y z hy hz hctx
    by_cases hyx : y = x <;> by_cases hzx : z = x
    · rw [hyx, hzx]
    · rw [hother z hzx] at hz hctx
      rw [hyx, hself] at hctx
      exact absurd hctx.symm (hunknown hz)
    · rw [hother y hyx] at hy hctx
      rw [hzx, hself] at hctx
      exact absurd hctx (hunknown hy)
    · rw [hother y hyx] at hy hctx
      rw [hother z hzx] at hz hctx
      exact h.alone y z hy hz hctx
  · intro d d' hd hd' heq
    rcases active_openContext.mp hd with hdc | hdold <;>
      rcases active_openContext.mp hd' with hdc' | hdold'
    · rw [hdc, hdc']
    · rw [hdc, hnew, hkept hdold'] at heq
      exact absurd heq.symm (hfresh d' hdold')
    · rw [hdc', hnew, hkept hdold] at heq
      exact absurd heq (hfresh d hdold)
    · rw [hkept hdold, hkept hdold'] at heq
      exact h.distinct d d' hdold hdold' heq
  · intro y z p
    rw [(Nwld.sessions_connected x y i handle).1, (Nwld.sessions_connected x z i handle).1]
    exact h.exclusive y z p
  · intro y hy
    rw [Nwld.sessionHandles_connected]
    refine h.idle y ?_
    by_cases hyx : y = x
    · rw [hyx]
      exact hx
    · rwa [hother y hyx] at hy

/-- A connection and the context of the same handle given back. -/
theorem closed (h : Paired s conn) (hcons : conn.Consistent) {x : Nat} {c : CSlot}
    (hx : (s.tapi.clist x).used = true) (hc : (conn.ctable c).active = true)
    (hctx : handleAt conn.cthandles c = (s.tapi.clist x).context) (hempty : conn.chain c = []) :
    Paired (s.disconnected x) (conn.deactivate c).countOut := by
  have hop : (TableOp.closeContext c).Enabled conn := ⟨hc, hempty⟩
  have hself : (s.disconnected x).tapi.clist x = .zero := by simp [Nwld.disconnected]
  have hother (y : Nat) (hy : y ≠ x) : (s.disconnected x).tapi.clist y = s.tapi.clist y := by
    simp [Nwld.disconnected, hy]
  have hused {y : Nat} (hy : ((s.disconnected x).tapi.clist y).used = true) : y ≠ x := by
    rintro rfl
    rw [hself] at hy
    cases hy
  have hentries (y : Nat) (hy : y ≠ x) :
      (s.disconnected x).sessionHandles y = s.sessionHandles y := by
    have heq := hother y hy
    exact Nwld.sessionHandles_congr (by rw [heq]) (by rw [heq]) fun _ _ => rfl
  have hchains (d : CSlot) : ((conn.deactivate c).countOut).sessionHandles d =
      conn.sessionHandles d :=
    TApiConnectionTable.sessionHandles_congr (congrFun (TableOp.chain_apply hcons hop) d)
      fun _ _ => rfl
  constructor
  · constructor
    · intro handle
      constructor
      · rintro ⟨y, hy, hyctx⟩
        have hyx := hused hy
        rw [hother y hyx] at hy hyctx
        obtain ⟨d, hd, hdh⟩ := (h.contexts handle).mp ⟨y, hy, hyctx⟩
        have hdc : d ≠ c := by
          rintro rfl
          exact hyx (h.alone y x hy hx (by rw [hyctx, ← hctx, hdh]))
        exact ⟨d, active_closeContext.mpr ⟨hdc, hd⟩, hdh⟩
      · rintro ⟨d, hd, hdh⟩
        obtain ⟨hdc, hd⟩ := active_closeContext.mp hd
        change handleAt conn.cthandles d = handle at hdh
        obtain ⟨y, hy, hyctx⟩ := (h.contexts handle).mpr ⟨d, hd, hdh⟩
        have hyx : y ≠ x := by
          rintro rfl
          exact hdc (h.distinct d c hd hc (by rw [hctx, hyctx, hdh]))
        exact ⟨y, by rw [hother y hyx, hy], by rw [hother y hyx, hyctx]⟩
    · intro y d hy hd hyctx
      have hyx := hused hy
      rw [hentries y hyx, hchains]
      rw [hother y hyx] at hy hyctx
      exact h.sessions y d hy (active_closeContext.mp hd).2 hyctx
  · intro y z hy hz hyz
    have hyx := hused hy
    have hzx := hused hz
    rw [hother y hyx] at hy hyz
    rw [hother z hzx] at hz hyz
    exact h.alone y z hy hz hyz
  · intro d d' hd hd'
    exact h.distinct d d' (active_closeContext.mp hd).2 (active_closeContext.mp hd').2
  · intro y z p hy hz
    have hsource {v : Nat} (hv : ((s.disconnected x).tapi.clist v).s = some p) : v ≠ x := by
      rintro rfl
      rw [hself] at hv
      cases hv
    have hyx := hsource hy
    have hzx := hsource hz
    rw [hother y hyx] at hy
    rw [hother z hzx] at hz
    exact h.exclusive y z p hy hz
  · intro y hy
    by_cases hyx : y = x
    · rw [Nwld.sessionHandles, hyx, hself]
      rfl
    · rw [hentries y hyx]
      rw [hother y hyx] at hy
      exact h.idle y hy

/-- One session table of the driver and the chain of its context change alike. -/
theorem edited (h : Paired s conn) {x : Nat} {c : CSlot}
    (hx : (s.tapi.clist x).used = true) (hc : (conn.ctable c).active = true)
    (hctx : handleAt conn.cthandles c = (s.tapi.clist x).context)
    (hclist : ∀ y, (t.tapi.clist y).used = (s.tapi.clist y).used ∧
      (t.tapi.clist y).context = (s.tapi.clist y).context ∧
      (t.tapi.clist y).s = (s.tapi.clist y).s)
    (hentries : ∀ y, y ≠ x → t.sessionHandles y = s.sessionHandles y)
    (hactive : ∀ d, (conn'.ctable d).active = (conn.ctable d).active)
    (hcontext : ∀ d : CSlot, handleAt conn'.cthandles d = handleAt conn.cthandles d)
    (hchains : ∀ d, d ≠ c → conn'.sessionHandles d = conn.sessionHandles d)
    (hboth : t.sessionHandles x = conn'.sessionHandles c) : Paired t conn' := by
  constructor
  · constructor
    · intro handle
      simp only [(hclist _).1, (hclist _).2.1, hactive, hcontext]
      exact h.contexts handle
    · intro y d
      rw [(hclist y).1, (hclist y).2.1, hactive, hcontext]
      intro hy hd hyd
      by_cases hyx : y = x
      · have hdc : d = c := h.distinct d c hd hc (by rw [hyd, hctx, hyx])
        rw [hyx, hdc, hboth]
      · have hdc : d ≠ c := by
          rintro rfl
          exact hyx (h.alone y x hy hx (by rw [← hyd, hctx]))
        rw [hentries y hyx, hchains d hdc]
        exact h.sessions y d hy hd hyd
  · intro y z
    rw [(hclist y).1, (hclist z).1, (hclist y).2.1, (hclist z).2.1]
    exact h.alone y z
  · intro d d'
    rw [hactive, hactive, hcontext, hcontext]
    exact h.distinct d d'
  · intro y z p
    rw [(hclist y).2.2, (hclist z).2.2]
    exact h.exclusive y z p
  · intro y
    rw [(hclist y).1]
    intro hy
    have hyx : y ≠ x := by
      rintro rfl
      exact absurd (hx.symm.trans hy) (by decide)
    rw [hentries y hyx]
    exact h.idle y hy

theorem attached (h : Paired s conn) (hcons : conn.Consistent) {x p k : Nat} {c : CSlot} {i : SSlot}
    (hx : (s.tapi.clist x).used = true) (hc : (conn.ctable c).active = true)
    (hctx : handleAt conn.cthandles c = (s.tapi.clist x).context)
    (hp : (s.tapi.clist x).s = some p) (hk : k < (s.tapi.clist x).maxSessions.toNat)
    (hfree : (s.sessions p k).used = false) (hi : (conn.stable i).active = false) (handle : Handle)
    (t t' : UInt32) (taid : SkTaid) (tapp : SkSwldTappInstance) :
    Paired (s.attached x p k handle) (conn.openSession c i handle t t' taid tapp) := by
  have hsessions := TApiConnectionTable.sessionHandles_openSession hcons hc hi handle t t' taid tapp
  have hclist (y : Nat) :
      ((s.attached x p k handle).tapi.clist y).used = (s.tapi.clist y).used ∧
      ((s.attached x p k handle).tapi.clist y).context = (s.tapi.clist y).context ∧
      ((s.attached x p k handle).tapi.clist y).s = (s.tapi.clist y).s ∧
      ((s.attached x p k handle).tapi.clist y).maxSessions = (s.tapi.clist y).maxSessions := by
    by_cases hy : y = x
    · subst hy
      simp [Nwld.attached]
    · simp [Nwld.attached, hy]
  refine h.edited hx hc hctx (fun y => ⟨(hclist y).1, (hclist y).2.1, (hclist y).2.2.1⟩) ?_
    (TableOp.active_apply conn (.openSession c i handle t t' taid tapp)) (fun d => rfl) ?_ ?_
  · intro y hy
    refine Nwld.sessionHandles_congr (hclist y).2.2.1 (hclist y).2.2.2 fun q hq => ?_
    have hqp : q ≠ p := by
      rintro rfl
      exact hy (h.exclusive y x q hq hp)
    funext j
    simp [Nwld.attached, hqp]
  · intro d hd
    rw [hsessions d, if_neg hd]
  · rw [hsessions c, if_pos rfl, Nwld.sessionHandles_attached handle hp hk hfree,
      h.sessions x c hx hc hctx]

theorem detached (h : Paired s conn) (hcons : conn.Consistent) {x p k : Nat} {c : CSlot} {i : SSlot}
    (hx : (s.tapi.clist x).used = true) (hc : (conn.ctable c).active = true)
    (hctx : handleAt conn.cthandles c = (s.tapi.clist x).context)
    (hp : (s.tapi.clist x).s = some p) (hk : k < (s.tapi.clist x).maxSessions.toNat)
    (hused : (s.sessions p k).used = true) (hi : i ∈ conn.chain c)
    (hhandle : handleAt conn.sthandles i = (s.sessions p k).session) (t : UInt32)
    (tapp : SkSwldTappInstance) :
    Paired (s.detached x p k) (conn.closeSession c i t tapp) := by
  obtain ⟨hself, hothers⟩ := TApiConnectionTable.sessionHandles_closeSession hcons hi t tapp
  have hclist (y : Nat) :
      ((s.detached x p k).tapi.clist y).used = (s.tapi.clist y).used ∧
      ((s.detached x p k).tapi.clist y).context = (s.tapi.clist y).context ∧
      ((s.detached x p k).tapi.clist y).s = (s.tapi.clist y).s ∧
      ((s.detached x p k).tapi.clist y).maxSessions = (s.tapi.clist y).maxSessions := by
    by_cases hy : y = x
    · subst hy
      simp [Nwld.detached]
    · simp [Nwld.detached, hy]
  refine h.edited hx hc hctx (fun y => ⟨(hclist y).1, (hclist y).2.1, (hclist y).2.2.1⟩) ?_
    (TableOp.active_apply conn (.closeSession c i t tapp)) (fun d => rfl) hothers ?_
  · intro y hy
    refine Nwld.sessionHandles_congr (hclist y).2.2.1 (hclist y).2.2.2 fun q hq => ?_
    have hqp : q ≠ p := by
      rintro rfl
      exact hy (h.exclusive y x q hq hp)
    funext j
    simp [Nwld.detached, hqp]
  · have hclient := Nwld.sessionHandles_detached hp hk hused
    rw [h.sessions x c hx hc hctx, hself, hhandle] at hclient
    exact ((Multiset.cons_inj_right _).mp hclient).symm

end Paired

/-! ## Calls that need no rollback -/

/-- Once the server has acted on a call, the driver can act as well. -/
def Worlds.NoRollback (w : Worlds) (call : WorldsCall) : Prop :=
  let tapi := w.nwld.tapi
  let conn := w.swld.tObj.conn
  match call.info with
  | .openContext _ => conn.numCtableElements < skTapiMaxConnectionsPerContext →
    ∀ c ∈ firstFree fun i => (conn.ctable i).active,
      (∃ h < tapi.maxConnections.toNat, (tapi.clist h).used = false) ∧
      ∀ c' : CSlot, (conn.ctable c').active = true →
        handleAt conn.cthandles c' ≠ Blk.xor (handleAt conn.cthandles c) call.swldEnv.keystream
  | .closeContext pcc =>
    let pconn := tapi.clist pcc.contextHandle.toNat
    (∀ p ∈ pconn.s, ∀ k < pconn.maxSessions.toNat, (w.nwld.sessions p k).used = false) ∧
    ((tapi.info pconn.contextIdIndex).contextIdCnt = 1 → ∀ c ∈ pconn.comm,
      (call.env.commUnregister (tapi.info c).comm).1 = skErrorSuccess)
  | .openSession pos =>
    let pconn := tapi.clist pos.contextHandle.toNat
    ∀ i ∈ firstFree fun i => (conn.stable i).active,
      (∀ p ∈ pconn.s, ∃ k < pconn.maxSessions.toNat, (w.nwld.sessions p k).used = false) ∧
      let loaded := call.swldEnv.tappLoad pos.taid (conn.stable i).tapp
      loaded.1 = skErrorSuccess ∧ call.swldEnv.tappInit loaded.2 = skErrorSuccess
  | .closeSession _ | .invokeCmd _ | .regMem _ | .unregMem _ => True

instance (w : Worlds) : (call : WorldsCall) → Decidable (w.NoRollback call)
  | ⟨.openContext _, _, _, _, _⟩ => inferInstanceAs (Decidable (_ → ∀ c ∈ _, _ ∧ ∀ _, _ → _))
  | ⟨.closeContext _, _, _, _, _⟩ =>
    inferInstanceAs (Decidable ((∀ p ∈ _, ∀ k < _, _) ∧ (_ → ∀ c ∈ _, _)))
  | ⟨.openSession _, _, _, _, _⟩ =>
    inferInstanceAs (Decidable (∀ i ∈ _, (∀ p ∈ _, ∃ k < _, _) ∧ _ ∧ _))
  | ⟨.closeSession _, _, _, _, _⟩ | ⟨.invokeCmd _, _, _, _, _⟩ | ⟨.regMem _, _, _, _, _⟩
  | ⟨.unregMem _, _, _, _, _⟩ => inferInstanceAs (Decidable True)

/-! ## The step -/

section Step

variable {cfg : Config} {call : WorldsCall} {s : Nwld} {swld swld' : Server}

private theorem exchanged_of_sends {hd : UInt32} {pconn : TSkSysConnection} {session : Handle}
    {e : NwldExchange} (hs : swld.Sound) (hlossless : call.Lossless)
    (hsends : Sends (call.toCall cfg swld) s hd pconn session e)
    (hanswers : ServerAnswers cfg call swld [e] swld') :
    swld'.Sound ∧ ∃ v, Exchanged call swld.tObj.conn pconn.context session e.reply v swld' := by
  obtain ⟨c, -, he⟩ := hsends.exchange
  subst he
  exact hanswers.exchanged hs hlossless rfl rfl

private theorem exchanged_of_sendsOpen {i : IdSlot} {e : NwldExchange} (hs : swld.Sound)
    (hlossless : call.Lossless) (hsends : SendsOpen (call.toCall cfg swld) s i e)
    (hanswers : ServerAnswers cfg call swld [e] swld') :
    swld'.Sound ∧ ∃ v,
      Exchanged call swld.tObj.conn (Blk.zero 16) (Blk.zero 16) e.reply v swld' := by
  subst hsends
  exact hanswers.exchanged hs hlossless rfl rfl

/-- Stamps alone do not change what is open. -/
theorem Paired.stamped {conn conn' : TApiConnectionTable} {ops : List TableOp}
    (h : Paired s conn) (hcons : conn.Consistent) (htouches : ∀ op ∈ ops, op.Touches)
    (hops : Performs conn ops conn') : Paired s conn' := by
  refine hops.preserves hcons (Paired s) h fun op hop conn hcons henabled h => ?_
  have htouch := htouches op hop
  have hchain := TableOp.chain_apply hcons henabled
  have hactive := TableOp.active_apply conn op
  refine h.congr (fun _ => ⟨rfl, rfl, rfl, rfl⟩) rfl ?_ ?_ fun c => ?_
  · cases op with
    | touchContext c t => exact hactive
    | touchSession i t => exact hactive
    | _ => exact htouch.elim
  · cases op with
    | touchContext c t => exact fun _ => rfl
    | touchSession i t => exact fun _ => rfl
    | _ => exact htouch.elim
  · refine TApiConnectionTable.sessionHandles_congr ?_ fun i _ => ?_
    · cases op with
      | touchContext c t => exact congrFun hchain _
      | touchSession i t => exact congrFun hchain _
      | _ => exact htouch.elim
    · cases op with
      | touchContext c t => rfl
      | touchSession i t => rfl
      | _ => exact htouch.elim

/-- The driver's tables where only `info` and the record of exchanges differ. -/
private theorem Paired.of_clist {t : Nwld} {conn : TApiConnectionTable} (h : Paired s conn)
    (hclist : t.tapi.clist = s.tapi.clist) (hsessions : t.sessions = s.sessions) :
    Paired t conn :=
  h.congr (fun x => by rw [hclist]; exact ⟨rfl, rfl, rfl, rfl⟩) hsessions (fun _ => rfl)
    (fun _ => rfl) fun _ => rfl

/-- A refusal of the server has not changed what is open. -/
private theorem Paired.rejected {w : Worlds} {context session : Handle}
    {v : call.info.respLayout.Fields} {conn' : TApiConnectionTable}
    (h : Paired s w.swld.tObj.conn) (hs : w.swld.Sound) (hcond : w.NoRollback call)
    (hreaction : Reaction call.swldEnv w.swld.tObj.conn context session call.info v conn')
    (hstatus : call.info.respLayout.statusOf v ≠ skErrorSuccess) : Paired s conn' := by
  obtain ⟨info, env, recvBuf, swldEnv, msg⟩ := call
  cases hreaction with
  | refused _ => exact h
  | openedContext _ _ _ => exact absurd rfl hstatus
  | closedContext _ _ _ => exact absurd rfl hstatus
  | countedOut _ _ _ => exact absurd rfl hstatus
  | openedSession _ _ hfree hloaded =>
    obtain ⟨-, hload, hinit⟩ := hcond _ hfree
    rw [← hloaded] at hload hinit
    exact absurd (openSessionReply_success.mpr ⟨hload, hinit⟩) hstatus
  | closedSession _ => exact absurd rfl hstatus
  | touched _ htouches hops => exact h.stamped hs.table htouches hops

/-- Operations that open and close nothing. -/
private theorem Paired.answered {context session : Handle} {v : call.info.respLayout.Fields}
    {conn' : TApiConnectionTable} (h : Paired s swld.tObj.conn) (hs : swld.Sound)
    (hstamps : call.info.Stamps)
    (hreaction : Reaction call.swldEnv swld.tObj.conn context session call.info v conn') :
    Paired s conn' := by
  obtain ⟨info, env, recvBuf, swldEnv, msg⟩ := call
  cases hreaction with
  | refused _ => exact h
  | touched _ htouches hops => exact h.stamped hs.table htouches hops
  | _ => exact hstamps.elim

section Reactions

variable {w : Worlds} {session : Handle} {reply : CommReply} {v : call.info.respLayout.Fields}
variable (h : Paired s w.swld.tObj.conn) (hs : w.swld.Sound) (hcond : w.NoRollback call)

include h hs hcond

/-- The driver has no room for a context that the server has opened. -/
private theorem Paired.unopened {poc : SkTeecUserOpenContext} (hinfo : call.info = .openContext poc)
    (hclist : s.tapi.clist = w.nwld.tapi.clist)
    (hmax : s.tapi.maxConnections = w.nwld.tapi.maxConnections)
    (hfull : call.info.Accepts reply →
      ∀ x < s.tapi.maxConnections.toNat, (s.tapi.clist x).used = true)
    (hex : Exchanged call w.swld.tObj.conn (Blk.zero 16) (Blk.zero 16) reply v swld') :
    Paired s swld'.tObj.conn := by
  obtain ⟨hreaction, haccepted, -⟩ := hex
  by_cases hstatus : call.info.respLayout.statusOf v = skErrorSuccess
  · have hused := hfull (haccepted.mpr hstatus)
    generalize swld'.tObj.conn = conn' at hreaction ⊢
    obtain ⟨info, env, recvBuf, swldEnv, msg⟩ := call
    cases hinfo
    cases hreaction with
    | refused hne => exact absurd hstatus hne
    | openedContext hroom hfree _ =>
      obtain ⟨⟨x, hx, hunused⟩, -⟩ := hcond hroom _ hfree
      rw [hmax, hclist] at hused
      exact absurd ((hused x hx).symm.trans hunused) (by decide)
    | touched hstamps _ _ => exact hstamps.elim
  · exact h.rejected hs hcond hreaction hstatus

private theorem Paired.openedContext {poc : SkTeecUserOpenContext} {x : Nat} {i : IdSlot}
    (hinfo : call.info = .openContext poc) (hacc : call.info.Accepts reply)
    (hunused : (s.tapi.clist x).used = false)
    (hex : Exchanged call w.swld.tObj.conn (Blk.zero 16) (Blk.zero 16) reply v swld') :
    Paired (s.connected x i reply.handle) swld'.tObj.conn := by
  obtain ⟨hreaction, haccepted, hmembers⟩ := hex
  have hstatus := haccepted.mp hacc
  generalize swld'.tObj.conn = conn' at hreaction ⊢
  obtain ⟨info, env, recvBuf, swldEnv, msg⟩ := call
  cases hinfo
  cases hreaction with
  | refused hne => exact absurd hstatus hne
  | openedContext hroom hfree hhandle =>
    obtain ⟨-, hfresh⟩ := hcond hroom _ hfree
    have hreply : reply.handle = _ := (get_blk reply.recvBuf 12 16).symm.trans
      (congrArg Prod.fst hmembers)
    rw [hreply]
    exact h.opened hs.table hunused (firstFree_some hfree) (by rw [hhandle]; exact hfresh)
  | touched hstamps _ _ => exact hstamps.elim

private theorem Paired.closedContext {pcc : SkTeecUserCloseContext}
    (hinfo : call.info = .closeContext pcc) (hacc : call.info.Accepts reply)
    (hclist : s.tapi.clist = w.nwld.tapi.clist) (hsessions : s.sessions = w.nwld.sessions)
    (hused : (s.tapi.clist pcc.contextHandle.toNat).used = true)
    (hex : Exchanged call w.swld.tObj.conn (s.tapi.clist pcc.contextHandle.toNat).context session
      reply v swld') :
    Paired (s.disconnected pcc.contextHandle.toNat) swld'.tObj.conn := by
  obtain ⟨hreaction, haccepted, -⟩ := hex
  have hstatus := haccepted.mp hacc
  generalize swld'.tObj.conn = conn' at hreaction ⊢
  obtain ⟨info, env, recvBuf, swldEnv, msg⟩ := call
  cases hinfo
  obtain ⟨hempty, -⟩ := hcond
  cases hreaction with
  | refused hne => exact absurd hstatus hne
  | closedContext hfind hc hchain =>
    exact h.closed hs.table hused hc (lookup_some hfind) hchain
  | countedOut hfind hc hchain =>
    have hsame := h.sessions _ _ hused hc (lookup_some hfind)
    rw [Nwld.sessionHandles_of_unused (by rw [hclist, hsessions]; exact hempty)] at hsame
    exact absurd (TApiConnectionTable.chain_eq_nil hsame.symm) hchain
  | touched hstamps _ _ => exact hstamps.elim

private theorem Paired.openedSession {pos : SkTeecUserOpenSession} {p k : Nat}
    (hinfo : call.info = .openSession pos) (hacc : call.info.Accepts reply)
    (hused : (s.tapi.clist pos.contextHandle.toNat).used = true)
    (hp : (s.tapi.clist pos.contextHandle.toNat).s = some p)
    (hk : k < (s.tapi.clist pos.contextHandle.toNat).maxSessions.toNat)
    (hunused : (s.sessions p k).used = false)
    (hex : Exchanged call w.swld.tObj.conn (s.tapi.clist pos.contextHandle.toNat).context session
      reply v swld') :
    Paired (s.attached pos.contextHandle.toNat p k reply.handle) swld'.tObj.conn := by
  obtain ⟨hreaction, haccepted, hmembers⟩ := hex
  have hstatus := haccepted.mp hacc
  generalize swld'.tObj.conn = conn' at hreaction ⊢
  obtain ⟨info, env, recvBuf, swldEnv, msg⟩ := call
  cases hinfo
  cases hreaction with
  | refused hne => exact absurd hstatus hne
  | openedSession hfind hc hfree hloaded =>
    obtain ⟨-, hload, hinit⟩ := hcond _ hfree
    rw [← hloaded] at hload hinit
    rw [openSessionReply_handle hload hinit] at hmembers
    have hreply : reply.handle = _ := (get_blk reply.recvBuf 12 16).symm.trans
      (congrArg Prod.fst hmembers)
    rw [hreply]
    exact h.attached hs.table hused hc (lookup_some hfind) hp hk hunused (firstFree_some hfree)
      _ _ _ _ _
  | touched hstamps _ _ => exact hstamps.elim

end Reactions

/-- The server has opened a session and the driver has no entry for it. -/
private theorem not_sessionsFull {w : Worlds} {pos : SkTeecUserOpenSession}
    {context session : Handle} {reply : CommReply} {v : call.info.respLayout.Fields} {p : Nat}
    (hcond : w.NoRollback call)
    (hinfo : call.info = .openSession pos) (hacc : call.info.Accepts reply)
    (hp : (w.nwld.tapi.clist pos.contextHandle.toNat).s = some p)
    (hfull : ∀ k < (w.nwld.tapi.clist pos.contextHandle.toNat).maxSessions.toNat,
      (w.nwld.sessions p k).used = true)
    (hex : Exchanged call w.swld.tObj.conn context session reply v swld') : False := by
  obtain ⟨hreaction, haccepted, -⟩ := hex
  have hstatus := haccepted.mp hacc
  generalize swld'.tObj.conn = conn' at hreaction
  obtain ⟨info, env, recvBuf, swldEnv, msg⟩ := call
  cases hinfo
  cases hreaction with
  | refused hne => exact absurd hstatus hne
  | openedSession _ _ hfree _ =>
    obtain ⟨hroom, -⟩ := hcond _ hfree
    obtain ⟨k, hk, hunused⟩ := hroom p hp
    exact absurd ((hfull k hk).symm.trans hunused) (by decide)
  | touched hstamps _ _ => exact hstamps.elim

private theorem Paired.closedSession {conn : TApiConnectionTable} {pcs : SkTeecUserCloseSession}
    {reply : CommReply} {v : call.info.respLayout.Fields} {p k : Nat}
    (h : Paired s conn) (hcons : conn.Consistent)
    (hinfo : call.info = .closeSession pcs) (hacc : call.info.Accepts reply)
    (hused : (s.tapi.clist pcs.contextHandle.toNat).used = true)
    (hp : (s.tapi.clist pcs.contextHandle.toNat).s = some p)
    (hk : k < (s.tapi.clist pcs.contextHandle.toNat).maxSessions.toNat)
    (hentry : (s.sessions p k).used = true)
    (hex : Exchanged call conn (s.tapi.clist pcs.contextHandle.toNat).context
      (s.sessions p k).session reply v swld') :
    Paired (s.detached pcs.contextHandle.toNat p k) swld'.tObj.conn := by
  obtain ⟨hreaction, haccepted, -⟩ := hex
  have hstatus := haccepted.mp hacc
  generalize swld'.tObj.conn = conn' at hreaction ⊢
  obtain ⟨info, env, recvBuf, swldEnv, msg⟩ := call
  cases hinfo
  cases hreaction with
  | refused hne => exact absurd hstatus hne
  | closedSession hfind =>
    obtain ⟨hcontext, hc, hfound, -, hmem⟩ := TApiConnectionTable.findObjects_ok hfind
    exact h.detached hcons hused hc (lookup_some hcontext) hp hk hentry hmem
      (lookup_some hfound) _ _
  | touched hstamps _ _ => exact hstamps.elim

/-- A completed call that needs no rollback keeps the pairing. -/
theorem Paired.step {w w' : Worlds} {r : SkStatus × SkTeecUserInfo}
    (h : Paired w.nwld w.swld.tObj.conn) (hs : w.swld.Sound) (hlossless : call.Lossless)
    (hcond : w.NoRollback call) (hrun : worldsStep cfg call w = .ok (r, w')) :
    w'.swld.Sound ∧ Paired w'.nwld w'.swld.tObj.conn := by
  obtain ⟨houtcome, hanswers⟩ := worldsStep_cases hrun
  obtain ⟨nwld, swld⟩ := w
  obtain ⟨nwld', swld'⟩ := w'
  simp only at h hs houtcome hanswers ⊢
  have hstart : Paired { nwld with exchanges := [] } swld.tObj.conn := h.of_clist rfl rfl
  have hrecord (e : NwldExchange) :
      Paired (({ nwld with exchanges := [] } : Nwld).record e) swld.tObj.conn :=
    hstart.of_clist rfl rfl
  cases houtcome with
  | refused hne =>
    cases hanswers
    exact ⟨hs, hstart⟩
  | unclaimed hinfo hclaim =>
    obtain ⟨hclist, -, -, hsessions, hexchanges⟩ := hclaim.frame
    rw [hexchanges] at hanswers
    cases hanswers
    exact ⟨hs, hstart.of_clist hclist hsessions⟩
  | unsent hinfo hclaim =>
    obtain ⟨hclist, -, -, hsessions, hexchanges⟩ := hclaim.frame
    rw [hexchanges] at hanswers
    cases hanswers
    exact ⟨hs, hstart.of_clist hclist hsessions⟩
  | @unopened poc i t e err hinfo hclaim hsends hne hfull =>
    obtain ⟨hclist, hmax, -, hsessions, hexchanges⟩ := hclaim.frame
    have hkept : Paired (t.record e) swld.tObj.conn := hstart.of_clist hclist hsessions
    rw [Nwld.record, hexchanges] at hanswers
    obtain ⟨hs', v, hex⟩ := exchanged_of_sendsOpen hs hlossless hsends hanswers
    exact ⟨hs', hkept.unopened (w := ⟨nwld, swld⟩) hs hcond hinfo hclist hmax hfull hex⟩
  | @openedContext poc i t e x hinfo hclaim hsends hacc hfound hsmall =>
    obtain ⟨hclist, hmax, -, hsessions, hexchanges⟩ := hclaim.frame
    have hkept : Paired (t.record e) swld.tObj.conn := hstart.of_clist hclist hsessions
    change ServerAnswers cfg call swld (t.exchanges ++ [e]) swld' at hanswers
    rw [hexchanges] at hanswers
    obtain ⟨hs', v, hex⟩ := exchanged_of_sendsOpen hs hlossless hsends hanswers
    have hunused : ((t.record e).tapi.clist x).used = false := (firstUnused_eq_some.mp hfound).2.1
    exact ⟨hs', hkept.openedContext (w := ⟨nwld, swld⟩) hs hcond hinfo hacc hunused hex⟩
  | @rejected hd pconn session e err hsends hacc hne =>
    obtain ⟨hs', v, hex⟩ := exchanged_of_sends hs hlossless hsends hanswers
    exact ⟨hs', (hrecord e).rejected (w := ⟨nwld, swld⟩) hs hcond hex.reaction
      fun hstatus => hacc (hex.accepted.mpr hstatus)⟩
  | @unreleased pcc pconn session e err t hinfo hsends hacc hrelease hne =>
    obtain ⟨-, -, hpconn⟩ := SkNwldTapi.connection_eq_some hsends.connection
    obtain ⟨info, env, recvBuf, swldEnv, msg⟩ := call
    cases hinfo
    obtain ⟨-, hunregisters⟩ := hcond
    cases hrelease with
    | kept _ _ => exact absurd rfl hne
    | freed _ _ _ _ => exact absurd rfl hne
    | failed hlast hcomm herr =>
      rw [hpconn] at hlast hcomm
      exact absurd (hunregisters (Int32.sub_eq_iff_eq_add.mp hlast) _ hcomm) herr
  | @closedContext pcc pconn session e t hinfo hsends hacc hrelease hnum =>
    obtain ⟨-, hused, hpconn⟩ := SkNwldTapi.connection_eq_some hsends.connection
    obtain ⟨hclist, -, -, hsessions, hexchanges⟩ := hrelease.frame
    change ServerAnswers cfg call swld t.exchanges swld' at hanswers
    rw [hexchanges] at hanswers
    obtain ⟨hs', v, hex⟩ := exchanged_of_sends hs hlossless hsends hanswers
    have hkept : Paired t swld.tObj.conn := hstart.of_clist hclist hsessions
    have hx : pconn = t.tapi.clist pcc.contextHandle.toNat := by rw [hclist, hpconn]; rfl
    rw [hx] at hused hex
    exact ⟨hs', hkept.closedContext (w := ⟨nwld, swld⟩) hs hcond hinfo hacc hclist hsessions
      hused hex⟩
  | @sessionsFull pos pconn session e p hinfo hsends hacc hp hfull =>
    obtain ⟨-, -, hpconn⟩ := SkNwldTapi.connection_eq_some hsends.connection
    obtain ⟨-, v, hex⟩ := exchanged_of_sends hs hlossless hsends hanswers
    rw [hpconn] at hp hfull
    exact (not_sessionsFull (w := ⟨nwld, swld⟩) hcond hinfo hacc hp hfull hex).elim
  | @openedSession pos pconn session e p k hinfo hsends hacc hp hfound hsmall =>
    obtain ⟨-, hused, hpconn⟩ := SkNwldTapi.connection_eq_some hsends.connection
    obtain ⟨hs', v, hex⟩ := exchanged_of_sends hs hlossless hsends hanswers
    obtain ⟨hk, hunused, -⟩ := firstUnused_eq_some.mp hfound
    subst hpconn
    exact ⟨hs', (hrecord e).openedSession (w := ⟨nwld, swld⟩) hs hcond hinfo hacc hused hp hk
      hunused hex⟩
  | @closedSession pcs pconn session e p hinfo hsends hacc hp hnum =>
    obtain ⟨-, hused, hpconn⟩ := SkNwldTapi.connection_eq_some hsends.connection
    obtain ⟨hs', v, hex⟩ := exchanged_of_sends hs hlossless hsends hanswers
    obtain ⟨p', hp', hk, hentry, hsession⟩ := hsends.entry pcs.sessionHandle (by rw [hinfo]; rfl)
    obtain rfl := Option.some.inj (hp.symm.trans hp')
    subst hpconn hsession
    exact ⟨hs', (hrecord e).closedSession hs.table hinfo hacc hused hp
      (UInt32.lt_iff_toNat_lt.mp hk) hentry hex⟩
  | @invoked pic pconn session e hinfo hsends hacc =>
    obtain ⟨hs', v, hex⟩ := exchanged_of_sends hs hlossless hsends hanswers
    have hinfo : call.info = .invokeCmd pic := hinfo
    exact ⟨hs', (hrecord e).answered hs (by rw [hinfo]; trivial) hex.reaction⟩
  | @registered rm rm' pconn session e err hinfo hsends hacc _ =>
    obtain ⟨hs', v, hex⟩ := exchanged_of_sends hs hlossless hsends hanswers
    have hinfo : call.info = .regMem rm := hinfo
    exact ⟨hs', (hrecord e).answered hs (by rw [hinfo]; trivial) hex.reaction⟩
  | @unregistered urm pconn session e err hinfo hsends hacc =>
    obtain ⟨hs', v, hex⟩ := exchanged_of_sends hs hlossless hsends hanswers
    have hinfo : call.info = .unregMem urm := hinfo
    exact ⟨hs', (hrecord e).answered hs (by rw [hinfo]; trivial) hex.reaction⟩

end Step

/-! ## Runs -/

theorem Paired.of_fresh {s : Nwld} {maxSessions : UInt32} (h : s.Fresh maxSessions) :
    Paired s .init := by
  have hunused {x : Nat} : ¬ (s.tapi.clist x).used = true := by simp [h.unused x]
  have hinactive {c : CSlot} : ¬ (TApiConnectionTable.init.ctable c).active = true := by
    simp [TApiConnectionTable.init]
  constructor
  · constructor
    · intro handle
      constructor
      · rintro ⟨x, hx, -⟩
        exact absurd hx hunused
      · rintro ⟨c, hc, -⟩
        exact absurd hc hinactive
    · exact fun _ _ hx => absurd hx hunused
  · exact fun _ _ hx => absurd hx hunused
  · exact fun _ _ hc => absurd hc hinactive
  · intro x y p hx hy
    rw [(h.array x p hx).1, (h.array y p hy).1]
  · intro x _
    exact Nwld.sessionHandles_of_unused fun p hp k _ => (h.array x p hp).2.2.2.2 k

/-- In every run from two fresh tables whose calls need no rollback the driver
names exactly what is open on the server. -/
theorem worlds_agree {cfg : Config} {swld : Server} (hstart : Started swld) (alloc : InitAlloc)
    (s₀ : Nwld) (maxConnections maxSessions smId : UInt32) (commObj : Nat)
    (hmax : maxConnections ≠ 0) {tr : List WorldsStep} {w : Worlds}
    (hrun : Run (worldsStep cfg)
      ⟨(skNwldTapiInit alloc s₀ maxConnections maxSessions smId commObj).2, swld⟩ tr w)
    (hlossless : ∀ x ∈ tr, x.input.Lossless) (hcond : ∀ x ∈ tr, x.pre.NoRollback x.input) :
    Agree w.nwld w.swld.tObj.conn := by
  have hpaired : w.swld.Sound ∧ Paired w.nwld w.swld.tObj.conn := by
    refine hrun.invariant_of (fun x => x.input.Lossless ∧ x.pre.NoRollback x.input)
      (fun x hx => ⟨hlossless x hx, hcond x hx⟩)
      (fun _ w => w.swld.Sound ∧ Paired w.nwld w.swld.tObj.conn) ⟨hstart.sound, ?_⟩ ?_
    · rw [hstart.conn]
      exact .of_fresh (fresh_init alloc s₀ maxConnections maxSessions smId commObj hmax)
    · rintro - w call r w' ⟨hs, h⟩ hstep ⟨hlossless, hcond⟩
      exact h.step hs hlossless hcond hstep
  exact hpaired.2.toAgree

/-! ## Sample runs -/

def sampleWorlds : Worlds := ⟨sampleNwld, sampleServer 64⟩

def sampleWorldsCall (info : SkTeecUserInfo) (env : Env) : WorldsCall :=
  ⟨info, sampleNwldEnv [], Mem.ofList [], env, .zero⟩

/-- A context and a session opened, and the session closed. -/
def sampleWorldsCalls : List WorldsCall :=
  [sampleWorldsCall (.openContext ⟨1, 0⟩) (sampleEnv 5),
    sampleWorldsCall (.openSession ⟨0, fun _ => 3, 0⟩) (sampleEnv 7),
    sampleWorldsCall (.closeSession ⟨0, 0⟩) (sampleEnv 0)]

theorem worlds_agree_session : ∃ tr w, Run (worldsStep sampleConfig) sampleWorlds tr w ∧
    (∃ x ∈ tr, x.post.swld.tObj.conn.sessionHandles 0 = {fun _ => 7}) ∧
    Agree w.nwld w.swld.tObj.conn := by
  obtain ⟨tr, w, hrun, -, hcalls, hopened⟩ :=
    exists_run_of_execute (worldsStep sampleConfig) sampleWorlds sampleWorldsCalls
    (fun tr _ => (∀ x ∈ tr, x.input.Lossless ∧ x.pre.NoRollback x.input) ∧
      ∃ x ∈ tr, x.post.swld.tObj.conn.sessionHandles 0 = {fun _ => 7}) (by decide +kernel)
  exact ⟨tr, w, hrun, hopened, worlds_agree (sampleServer_started 64) ⟨true, true⟩ _ 2 2 2 0
    (by decide) hrun (fun x hx => (hcalls x hx).1) fun x hx => (hcalls x hx).2⟩

/-- A TApp that cannot be loaded leaves a session that the driver cannot name. -/
theorem worlds_agree_false : ∃ tr w, Run (worldsStep sampleConfig) sampleWorlds tr w ∧
    (∀ x ∈ tr, x.input.Lossless) ∧ ¬ Agree w.nwld w.swld.tObj.conn := by
  obtain ⟨tr, w, hrun, -, hlossless, hused, hactive, hcontext, hsessions⟩ :=
    exists_run_of_execute (worldsStep sampleConfig) sampleWorlds
      [sampleWorldsCall (.openContext ⟨1, 0⟩) (sampleEnv 5),
        sampleWorldsCall (.openSession ⟨0, fun _ => 3, 0⟩) unloadableEnv]
      (fun tr w => (∀ x ∈ tr, x.input.Lossless) ∧ (w.nwld.tapi.clist 0).used = true ∧
        (w.swld.tObj.conn.ctable 0).active = true ∧
        handleAt w.swld.tObj.conn.cthandles 0 = (w.nwld.tapi.clist 0).context ∧
        w.nwld.sessionHandles 0 ≠ w.swld.tObj.conn.sessionHandles 0) (by decide +kernel)
  exact ⟨tr, w, hrun, hlossless, fun h => hsessions (h.sessions 0 0 hused hactive hcontext)⟩

end SkSdk
