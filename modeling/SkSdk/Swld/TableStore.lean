import SkSdk.Swld.SessionStore
import SkSdk.Swld.TappCalls

/-!
The store that a connection table stands for. Where the handles of the active
objects are distinct, every operation of the table is one of the store.
-/

namespace SkSdk
open ByteMemory FaultState DoublyLinked

/-! ## The store of a table -/

namespace TApiConnectionTable

def stored (conn : TApiConnectionTable) (i : SSlot) : StoredSession :=
  ⟨handleAt conn.sthandles i, (conn.stable i).taid, (conn.stable i).tapp⟩

/-- The active context with this handle. -/
def contextAt (conn : TApiConnectionTable) (handle : Handle) : Option CSlot :=
  (List.finRange skTapiMaxConnectionsPerContext).find? fun c =>
    (conn.ctable c).active && decide (handleAt conn.cthandles c = handle)

def sessionsOf (conn : TApiConnectionTable) (c : CSlot) : List StoredSession :=
  (conn.chain c).map conn.stored

def store (conn : TApiConnectionTable) : SessionStore where
  contexts handle := (conn.contextAt handle).map conn.sessionsOf
  counted := conn.numCtableElements

/-- The handle of an active object is in no other slot of its table. -/
structure HandlesDistinct (conn : TApiConnectionTable) : Prop where
  context : ∀ c c' : CSlot, (conn.ctable c).active = true →
    handleAt conn.cthandles c = handleAt conn.cthandles c' → c = c'
  session : ∀ i i' : SSlot, (conn.stable i).active = true →
    handleAt conn.sthandles i = handleAt conn.sthandles i' → i = i'

variable {conn conn' : TApiConnectionTable} {c : CSlot} {handle : Handle}

theorem contextAt_none :
    conn.contextAt handle = none ↔
      ∀ c, (conn.ctable c).active = true → handleAt conn.cthandles c ≠ handle := by
  simp [contextAt]

theorem HandlesDistinct.contextAt (hd : conn.HandlesDistinct) (hc : (conn.ctable c).active = true) :
    conn.contextAt (handleAt conn.cthandles c) = some c := by
  rw [TApiConnectionTable.contextAt, find?_finRange_eq_some]
  refine ⟨by simp [hc], fun (c' : CSlot) hlt => ?_⟩
  by_contra hne
  simp only [Bool.not_eq_false, Bool.and_eq_true, decide_eq_true_eq] at hne
  exact hlt.ne' (hd.context c c' hc hne.2.symm)

theorem HandlesDistinct.store_contexts (hd : conn.HandlesDistinct)
    (hc : (conn.ctable c).active = true) :
    conn.store.contexts (handleAt conn.cthandles c) = some (conn.sessionsOf c) := by
  rw [store]
  dsimp only
  rw [hd.contextAt hc]
  rfl

theorem store_contexts_none
    (h : ∀ c, (conn.ctable c).active = true → handleAt conn.cthandles c ≠ handle) :
    conn.store.contexts handle = none := by
  rw [store]
  dsimp only
  rw [contextAt_none.mpr h]
  rfl

theorem store_contexts_some {l : List StoredSession} (h : conn.store.contexts handle = some l) :
    ∃ c, (conn.ctable c).active = true ∧ handleAt conn.cthandles c = handle ∧
      l = conn.sessionsOf c := by
  obtain ⟨c, hc, rfl⟩ := Option.map_eq_some_iff.mp h
  have hfound := List.find?_some hc
  simp only [Bool.and_eq_true, decide_eq_true_eq] at hfound
  exact ⟨c, hfound.1, hfound.2, rfl⟩

/-- Two tables that differ at context `c` only, which has handle `handle` as far as
it is active. -/
theorem store_put (hd' : conn'.HandlesDistinct) {l : Option (List StoredSession)}
    (hothers : ∀ c', c' ≠ c → (conn'.ctable c').active = (conn.ctable c').active ∧
      handleAt conn'.cthandles c' = handleAt conn.cthandles c' ∧
      ((conn.ctable c').active = true → conn'.sessionsOf c' = conn.sessionsOf c'))
    (hbefore : ∀ c', (conn.ctable c').active = true → handleAt conn.cthandles c' = handle → c' = c)
    (hold : (conn.ctable c).active = true → handleAt conn.cthandles c = handle)
    (hnew : (conn'.ctable c).active = false ∧ l = none ∨
      (conn'.ctable c).active = true ∧ handleAt conn'.cthandles c = handle ∧
        l = some (conn'.sessionsOf c)) :
    conn'.store.contexts = Function.update conn.store.contexts handle l := by
  funext handle'
  by_cases hh : handle' = handle
  · subst hh
    rw [Function.update_self]
    rcases hnew with ⟨hc, rfl⟩ | ⟨hc, rfl, rfl⟩
    · refine store_contexts_none fun c' hc' heq => ?_
      by_cases hcc : c' = c
      · rw [hcc, hc] at hc'
        cases hc'
      · obtain ⟨hact, hhandle, _⟩ := hothers c' hcc
        exact hcc (hbefore c' (hact ▸ hc') (hhandle ▸ heq))
    · exact hd'.store_contexts hc
  · rw [Function.update_of_ne hh]
    have hsame : ∀ c', ((conn'.ctable c').active &&
        decide (handleAt conn'.cthandles c' = handle')) =
        ((conn.ctable c').active && decide (handleAt conn.cthandles c' = handle')) := by
      intro c'
      by_cases hcc : c' = c
      · subst hcc
        have hfalse : ((conn.ctable c').active &&
            decide (handleAt conn.cthandles c' = handle')) = false := by
          by_contra hne
          simp only [Bool.not_eq_false, Bool.and_eq_true, decide_eq_true_eq] at hne
          exact hh (hne.2.symm.trans (hold hne.1))
        rw [hfalse]
        rcases hnew with ⟨hc, _⟩ | ⟨_, hhandle, _⟩
        · rw [hc, Bool.false_and]
        · rw [hhandle, decide_eq_false (Ne.symm hh), Bool.and_false]
      · rw [(hothers c' hcc).1, (hothers c' hcc).2.1]
    have hfind : conn'.contextAt handle' = conn.contextAt handle' := by
      rw [contextAt, contextAt]
      exact congrArg (fun p => List.find? p _) (funext hsame)
    rw [store, store]
    dsimp only
    rw [hfind]
    cases hfound : conn.contextAt handle' with
    | none => rfl
    | some c' =>
      have hc' := List.find?_some hfound
      simp only [Bool.and_eq_true, decide_eq_true_eq] at hc'
      have hcc : c' ≠ c := by
        rintro rfl
        exact hh (hc'.2.symm.trans (hold hc'.1))
      exact congrArg some ((hothers c' hcc).2.2 hc'.1)

/-- Two tables with the same contexts and sessions. -/
theorem store_congr (hactive : ∀ c, (conn'.ctable c).active = (conn.ctable c).active)
    (hhandles : conn'.cthandles = conn.cthandles)
    (hsessions : ∀ c, conn'.sessionsOf c = conn.sessionsOf c) :
    conn'.store.contexts = conn.store.contexts := by
  funext handle
  have hfind : conn'.contextAt handle = conn.contextAt handle := by
    simp only [contextAt, hactive, hhandles]
  rw [store, store]
  dsimp only
  rw [hfind, funext hsessions]

end TApiConnectionTable

/-! ## The operations of the table on the store -/

theorem TApiConnectionTable.taid_attach (conn : TApiConnectionTable) (c : CSlot) (s s' : SSlot)
    (taid : SkTaid) : ((conn.attach c s taid).stable s').taid =
      if s' = s then taid else (conn.stable s').taid := by
  by_cases h : s' = s
  · simp [attach, h]
  · by_cases hl : (conn.chain c).getLast? = some s' <;> simp [attach, h, hl]

namespace TableOp

/-- The session slot that an operation fills or empties. -/
def slot : TableOp → Option SSlot
  | openSession _ s _ _ _ _ _ | closeSession _ s _ _ | expireSession _ s => some s
  | _ => none

variable (conn : TApiConnectionTable) {op : TableOp} {i : SSlot}

theorem taid_apply (h : op.slot ≠ some i) :
    ((op.apply conn).stable i).taid = (conn.stable i).taid := by
  cases op with
  | touchSession s t => by_cases hs : i = s <;> simp [apply, TApiConnectionTable.touchSession, hs]
  | openSession c s handle t t' taid tapp =>
    have hs : i ≠ s := fun hs => h (congrArg some hs.symm)
    simp [apply, TApiConnectionTable.openSession, TApiConnectionTable.setTapp,
      TApiConnectionTable.taid_attach, TApiConnectionTable.touchSession,
      TApiConnectionTable.touchContext, TApiConnectionTable.issueSession, hs]
  | closeSession c s t tapp =>
    have hs : i ≠ s := fun hs => h (congrArg some hs.symm)
    simp [apply, TApiConnectionTable.closeSession, TApiConnectionTable.remove,
      TApiConnectionTable.setTapp, TApiConnectionTable.touchContext, hs]
  | expireSession c s =>
    have hs : i ≠ s := fun hs => h (congrArg some hs.symm)
    simp [apply, TApiConnectionTable.remove, hs]
  | _ => rfl

theorem sthandles_apply (h : op.slot ≠ some i) :
    handleAt (op.apply conn).sthandles i = handleAt conn.sthandles i := by
  cases op with
  | openSession c s handle t t' taid tapp =>
    have hs : i ≠ s := fun hs => h (congrArg some hs.symm)
    exact handleAt_setHandleAt_of_ne (fun he => hs (Fin.ext he)) _ _
  | _ => rfl

/-- A session that an operation does not name stays as it is. -/
theorem stored_apply (h : op.slot ≠ some i) : (op.apply conn).stored i = conn.stored i := by
  have htapp : ((op.apply conn).stable i).tapp = (conn.stable i).tapp := by
    rw [tapp_apply]
    cases op with
    | openSession c s handle t t' taid tapp =>
      exact if_neg fun hs => h (congrArg some hs.symm)
    | closeSession c s t tapp => exact if_neg fun hs => h (congrArg some hs.symm)
    | _ => rfl
  exact StoredSession.ext (sthandles_apply conn h) (taid_apply conn h) htapp

/-- The handle that an operation issues is in no slot of its table. -/
def IssuesFresh : TableOp → Prop
  | openContext _ handle _ => ∀ c : CSlot, handleAt conn.cthandles c ≠ handle
  | openSession _ _ handle _ _ _ _ => ∀ i : SSlot, handleAt conn.sthandles i ≠ handle
  | _ => True

end TableOp

namespace TApiConnectionTable

variable {conn conn' : TApiConnectionTable}

theorem HandlesDistinct.mono (hd : conn.HandlesDistinct) (hc : conn'.cthandles = conn.cthandles)
    (hs : conn'.sthandles = conn.sthandles)
    (hcontexts : ∀ c, (conn'.ctable c).active = true → (conn.ctable c).active = true)
    (hsessions : ∀ i, (conn'.stable i).active = true → (conn.stable i).active = true) :
    conn'.HandlesDistinct where
  context c c' h heq := hd.context c c' (hcontexts c h) (hc ▸ heq)
  session i i' h heq := hd.session i i' (hsessions i h) (hs ▸ heq)

/-- A table of handles in which one slot has been given a fresh one. -/
private theorem distinct_setHandleAt {n : Nat} {table : Mem} (active active' : Fin n → Bool)
    {k : Fin n} {handle : Handle}
    (hd : ∀ i j : Fin n, active i = true → handleAt table i = handleAt table j → i = j)
    (hfresh : ∀ i : Fin n, handleAt table i ≠ handle)
    (hactive : ∀ i, i ≠ k → active' i = true → active i = true) (i j : Fin n)
    (hi : active' i = true)
    (heq : handleAt (setHandleAt table k handle) i = handleAt (setHandleAt table k handle) j) :
    i = j := by
  have hother : ∀ l : Fin n, l ≠ k →
      handleAt (setHandleAt table k handle) l = handleAt table l := fun l hl =>
    handleAt_setHandleAt_of_ne (fun he => hl (Fin.ext he)) _ _
  by_cases hik : i = k
  · by_cases hjk : j = k
    · rw [hik, hjk]
    · rw [hik, handleAt_setHandleAt, hother j hjk] at heq
      exact absurd heq.symm (hfresh j)
  · by_cases hjk : j = k
    · rw [hjk, handleAt_setHandleAt, hother i hik] at heq
      exact absurd heq (hfresh i)
    · rw [hother i hik, hother j hjk] at heq
      exact hd i j (hactive i hik hi) heq

theorem HandlesDistinct.apply (hd : conn.HandlesDistinct) (op : TableOp)
    (hfresh : op.IssuesFresh conn) : (op.apply conn).HandlesDistinct := by
  have hcontexts := TableOp.active_apply conn op
  have hsessions := TableOp.sessionActive_apply conn op
  cases op with
  | openContext c handle pid =>
    refine ⟨distinct_setHandleAt (fun i => (conn.ctable i).active) _ hd.context hfresh ?_,
      hd.session⟩
    intro i hi hact
    simpa [hi] using (hcontexts i).symm.trans hact
  | openSession c s handle t t' taid tapp =>
    refine ⟨fun i j hi heq => hd.context i j ((hcontexts i).symm.trans hi) heq,
      distinct_setHandleAt (fun i => (conn.stable i).active) _ hd.session hfresh ?_⟩
    intro i hi hact
    simpa [hi] using (hsessions i).symm.trans hact
  | _ =>
    refine hd.mono rfl rfl (fun k hact => ?_) fun k hact => ?_
    · have hk := (hcontexts k).symm.trans hact
      simp_all
    · have hk := (hsessions k).symm.trans hact
      simp_all

/-- The sessions of a context of which an operation fills no slot. -/
theorem sessionsOf_apply (h : conn.Consistent) {op : TableOp} (hop : op.Enabled conn) {c : CSlot}
    (hslot : ∀ i ∈ op.applyChains conn.chain c, op.slot ≠ some i) :
    (op.apply conn).sessionsOf c = (op.applyChains conn.chain c).map conn.stored := by
  rw [sessionsOf, TableOp.chain_apply h hop]
  exact List.map_congr_left fun i hi => TableOp.stored_apply conn (hslot i hi)

/-- An operation that fills and empties no slot leaves the sessions of every context. -/
theorem sessionsOf_of_slot_none (h : conn.Consistent) (op : TableOp) (hop : op.Enabled conn)
    (hslot : op.slot = none) (c : CSlot) : (op.apply conn).sessionsOf c = conn.sessionsOf c := by
  have hchains : op.applyChains conn.chain = conn.chain := by
    cases op with
    | openSession | closeSession | expireSession => cases hslot
    | _ => rfl
  have hslots : ∀ i ∈ op.applyChains conn.chain c, op.slot ≠ some i := fun i _ hi =>
    absurd (hslot.symm.trans hi) (by simp)
  rw [sessionsOf_apply h hop hslots, hchains, sessionsOf]

theorem Represents.active_of_mem (h : conn.Consistent) {c : CSlot} {i : SSlot}
    (hi : i ∈ conn.chain c) : (conn.ctable c).active = true := by
  by_contra hne
  rw [h.closed c (by simpa using hne)] at hi
  exact absurd hi List.not_mem_nil

/-- The handles that the store has given out are those of the active sessions. -/
theorem issued_iff (hd : conn.HandlesDistinct) (h : conn.Consistent) {handle : Handle} :
    conn.store.Issued handle ↔
      ∃ i, (conn.stable i).active = true ∧ handleAt conn.sthandles i = handle := by
  constructor
  · rintro ⟨context, l, hl, x, hx, rfl⟩
    obtain ⟨c, _, _, rfl⟩ := store_contexts_some hl
    obtain ⟨i, hi, rfl⟩ := List.mem_map.mp hx
    exact ⟨i, h.mem_active hi, rfl⟩
  · rintro ⟨i, hi, rfl⟩
    obtain ⟨c, hc⟩ := (h.active i).mp hi
    exact ⟨_, _, hd.store_contexts (h.active_of_mem hc), _, List.mem_map_of_mem hc, rfl⟩

/-! ### The operations, one by one -/

theorem store_openContext (h : conn.Consistent) (hd : conn.HandlesDistinct) {c : CSlot}
    {handle : Handle} (pid : Int32) (hc : (conn.ctable c).active = false)
    (hfresh : ∀ c' : CSlot, handleAt conn.cthandles c' ≠ handle) :
    (conn.openContext c handle pid).store =
      { conn.store.put handle (some []) with counted := conn.store.counted + 1 } := by
  have hop : (TableOp.openContext c handle pid).Enabled conn := hc
  have hsessions := sessionsOf_of_slot_none h _ hop rfl
  have hd' : (conn.openContext c handle pid).HandlesDistinct :=
    hd.apply (.openContext c handle pid) hfresh
  refine SessionStore.ext (store_put (c := c) hd' (fun c' hcc => ?_) (fun c' _ heq => ?_)
    (fun hact => ?_) (.inr ⟨?_, ?_, ?_⟩)) rfl
  · exact ⟨by simp [openContext, hcc],
      handleAt_setHandleAt_of_ne (fun he => hcc (Fin.ext he)) _ _, fun _ => hsessions c'⟩
  · exact absurd heq (hfresh c')
  · exact absurd (hact.symm.trans hc) (by decide)
  · simp [openContext]
  · exact handleAt_setHandleAt _ _ _
  · exact congrArg some ((hsessions c).trans (by rw [sessionsOf, h.closed c hc, List.map_nil])).symm

theorem store_deactivate (h : conn.Consistent) (hd : conn.HandlesDistinct) {c : CSlot}
    (hc : (conn.ctable c).active = true) (hempty : conn.chain c = []) :
    (conn.deactivate c).store = conn.store.put (handleAt conn.cthandles c) none := by
  have hsessions := sessionsOf_of_slot_none h (.expireContext c) ⟨hc, hempty⟩ rfl
  have hd' : (conn.deactivate c).HandlesDistinct := hd.apply (.expireContext c) trivial
  refine SessionStore.ext (store_put (c := c) hd' (fun c' hcc => ?_) (fun c' hact heq => ?_)
    (fun _ => rfl) (.inl ⟨?_, rfl⟩)) rfl
  · exact ⟨by simp [deactivate, hcc], rfl, fun _ => hsessions c'⟩
  · exact hd.context c' c hact heq
  · simp [deactivate]

theorem store_countOut (h : conn.Consistent) :
    conn.countOut.store = { conn.store with counted := conn.store.counted - 1 } :=
  SessionStore.ext (store_congr (fun _ => rfl) rfl
    (sessionsOf_of_slot_none h .countOut trivial rfl)) rfl

theorem store_closeContext (h : conn.Consistent) (hd : conn.HandlesDistinct) {c : CSlot}
    (hc : (conn.ctable c).active = true) (hempty : conn.chain c = []) :
    (conn.deactivate c).countOut.store =
      { conn.store.put (handleAt conn.cthandles c) none with
        counted := conn.store.counted - 1 } := by
  have h' : (conn.deactivate c).Consistent :=
    TableOp.consistent_apply h (show TableOp.Enabled conn (.expireContext c) from ⟨hc, hempty⟩)
  rw [store_countOut h', store_deactivate h hd hc hempty]
  rfl

theorem store_touchContext (h : conn.Consistent) (c : CSlot) (t : UInt32) :
    (conn.touchContext c t).store = conn.store :=
  SessionStore.ext (store_congr (conn.active_touchContext c · t) rfl
    (sessionsOf_of_slot_none h (.touchContext c t) trivial rfl)) rfl

theorem store_touchSession (h : conn.Consistent) (i : SSlot) (t : UInt32) :
    (conn.touchSession i t).store = conn.store :=
  SessionStore.ext (store_congr (fun _ => rfl) rfl
    (sessionsOf_of_slot_none h (.touchSession i t) trivial rfl)) rfl

/-- An operation on the sessions of context `c` alone. -/
private theorem store_sessions (h : conn.Consistent) (hd : conn.HandlesDistinct) {op : TableOp}
    (hop : op.Enabled conn) {c : CSlot} {i : SSlot} (hslot : op.slot = some i)
    (hfresh : op.IssuesFresh conn) (hc : (conn.ctable c).active = true)
    (hothers : ∀ c', c' ≠ c → op.applyChains conn.chain c' = conn.chain c' ∧ i ∉ conn.chain c') :
    (op.apply conn).store.contexts = Function.update conn.store.contexts
      (handleAt conn.cthandles c) (some ((op.apply conn).sessionsOf c)) := by
  have hactive : ∀ c', ((op.apply conn).ctable c').active = (conn.ctable c').active := by
    intro c'
    rw [TableOp.active_apply]
    cases op with
    | openSession | closeSession | expireSession => rfl
    | _ => cases hslot
  have hhandles : (op.apply conn).cthandles = conn.cthandles := by
    cases op with
    | openSession | closeSession | expireSession => rfl
    | _ => cases hslot
  refine store_put (hd.apply op hfresh) (fun c' hcc => ?_) (fun c' hact heq => ?_) (fun _ => rfl)
    (.inr ⟨(hactive c).trans hc, by rw [hhandles], rfl⟩)
  · obtain ⟨hchain, hi⟩ := hothers c' hcc
    refine ⟨hactive c', by rw [hhandles], fun _ => ?_⟩
    rw [sessionsOf_apply h hop, hchain, sessionsOf]
    intro j hj hji
    rw [hchain] at hj
    cases hslot.symm.trans hji
    exact hi hj
  · exact hd.context c' c hact heq

private theorem stored_openSession (c : CSlot) (i : SSlot) (handle : Handle) (t t' : UInt32)
    (taid : SkTaid) (tapp : SkSwldTappInstance) :
    (conn.openSession c i handle t t' taid tapp).stored i = ⟨handle, taid, tapp⟩ := by
  refine StoredSession.ext (handleAt_setHandleAt _ _ _) ?_ ?_
  · simp [stored, openSession, setTapp, taid_attach]
  · exact (conn.tapp_openSession c i i handle t t' taid tapp).trans (if_pos rfl)

theorem store_openSession (h : conn.Consistent) (hd : conn.HandlesDistinct) {c : CSlot}
    {i : SSlot} {handle : Handle} (t t' : UInt32) (taid : SkTaid) (tapp : SkSwldTappInstance)
    (hc : (conn.ctable c).active = true) (hi : (conn.stable i).active = false)
    (hfresh : ∀ i' : SSlot, handleAt conn.sthandles i' ≠ handle) :
    (conn.openSession c i handle t t' taid tapp).store =
      conn.store.put (handleAt conn.cthandles c)
        (some (conn.sessionsOf c ++ [⟨handle, taid, tapp⟩])) := by
  have hop : (TableOp.openSession c i handle t t' taid tapp).Enabled conn := ⟨hc, hi⟩
  have hnew : ∀ c', i ∉ conn.chain c' := fun c' hmem =>
    absurd ((h.mem_active hmem).symm.trans hi) (by decide)
  have hcontexts := store_sessions (c := c) (i := i) h hd hop rfl hfresh hc fun c' hcc =>
    ⟨Function.update_of_ne hcc _ _, hnew c'⟩
  have hsessions : (conn.openSession c i handle t t' taid tapp).sessionsOf c =
      conn.sessionsOf c ++ [⟨handle, taid, tapp⟩] := by
    have hchain := congrFun (TableOp.chain_apply h hop) c
    rw [TableOp.applyChains, Function.update_self] at hchain
    rw [sessionsOf, show (conn.openSession c i handle t t' taid tapp).chain c = _ from hchain,
      List.map_append, List.map_singleton, stored_openSession, sessionsOf]
    refine congrArg (· ++ _) (List.map_congr_left fun j hj => ?_)
    have hslot : (TableOp.openSession c i handle t t' taid tapp).slot ≠ some j := by
      rintro ⟨⟩
      exact hnew c hj
    exact TableOp.stored_apply conn hslot
  refine SessionStore.ext ?_ rfl
  rw [← hsessions]
  exact hcontexts

/-- What is left of the sessions of a context when slot `i` is taken off its chain. -/
private theorem sessionsOf_erase (h : conn.Consistent) (hd : conn.HandlesDistinct) {c : CSlot}
    {i : SSlot} (hi : i ∈ conn.chain c) :
    ((conn.chain c).erase i).map conn.stored =
      (conn.sessionsOf c).filter fun x => x.handle ≠ handleAt conn.sthandles i := by
  rw [(h.linked c).nodup.erase_eq_filter, sessionsOf, List.filter_map]
  refine congrArg (List.map _) (List.filter_congr fun j _ => ?_)
  by_cases hji : j = i
  · simp [hji, stored]
  · have hne : handleAt conn.sthandles j ≠ handleAt conn.sthandles i := fun heq =>
      hji (hd.session i j (h.mem_active hi) heq.symm).symm
    simp [hji, hne, stored]

/-- An operation that takes slot `i` off the chain of `c`. -/
private theorem store_removed (h : conn.Consistent) (hd : conn.HandlesDistinct) (op : TableOp)
    (hop : op.Enabled conn) {c : CSlot} {i : SSlot} (hslot : op.slot = some i)
    (hfresh : op.IssuesFresh conn) (hi : i ∈ conn.chain c)
    (hchains : op.applyChains conn.chain =
      Function.update conn.chain c ((conn.chain c).erase i)) :
    (op.apply conn).store.contexts = Function.update conn.store.contexts
      (handleAt conn.cthandles c)
      (some ((conn.sessionsOf c).filter fun x => x.handle ≠ handleAt conn.sthandles i)) := by
  have hchain : op.applyChains conn.chain c = (conn.chain c).erase i := by
    rw [hchains, Function.update_self]
  rw [store_sessions h hd hop hslot hfresh (h.active_of_mem hi), sessionsOf_apply h hop, hchain,
    sessionsOf_erase h hd hi]
  · intro j hj hji
    rw [hchain] at hj
    cases hslot.symm.trans hji
    exact ((h.linked c).nodup.mem_erase_iff.mp hj).1 rfl
  · exact fun c' hcc => ⟨by rw [hchains, Function.update_of_ne hcc], h.notMem_of_ne hi hcc⟩

theorem store_closeSession (h : conn.Consistent) (hd : conn.HandlesDistinct) {c : CSlot}
    {i : SSlot} (t : UInt32) (tapp : SkSwldTappInstance) (hi : i ∈ conn.chain c) :
    (conn.closeSession c i t tapp).store = conn.store.put (handleAt conn.cthandles c)
      (some ((conn.sessionsOf c).filter fun x => x.handle ≠ handleAt conn.sthandles i)) :=
  SessionStore.ext (store_removed h hd (.closeSession c i t tapp) hi rfl trivial hi rfl) rfl

/-- The operations of a sweep take contexts and sessions away. -/
theorem store_expires (h : conn.Consistent) (hd : conn.HandlesDistinct) {op : TableOp}
    (hop : op.Enabled conn) (hexpires : Expires op) :
    (op.apply conn).store.Within conn.store ∧
      (op.apply conn).store.counted = conn.store.counted := by
  cases op with
  | expireContext c =>
    refine ⟨SessionStore.within_put (congrArg SessionStore.contexts
      (store_deactivate h hd hop.1 hop.2)) ?_, rfl⟩
    simp
  | expireSession c i =>
    refine ⟨SessionStore.within_put
      (store_removed h hd (.expireSession c i) hop rfl trivial hop rfl) ?_, rfl⟩
    rintro x ⟨⟩
    exact ⟨_, hd.store_contexts (h.active_of_mem hop), List.filter_sublist⟩
  | _ => exact hexpires.elim

theorem store_swept (h : conn.Consistent) (hd : conn.HandlesDistinct) {ops : List TableOp}
    (hops : Performs conn ops conn') (hexpires : ∀ op ∈ ops, Expires op) :
    conn'.HandlesDistinct ∧ conn'.store.Within conn.store ∧
      conn'.store.counted = conn.store.counted := by
  induction hops with
  | nil conn => exact ⟨hd, .refl _, rfl⟩
  | @cons conn _ op _ hop _ ih =>
    have hexp : Expires op := hexpires op (List.mem_cons_self ..)
    have hfresh : op.IssuesFresh conn := by cases op <;> trivial
    obtain ⟨hwithin, hcounted⟩ := store_expires h hd hop hexp
    obtain ⟨hd', hwithin', hcounted'⟩ := ih (TableOp.consistent_apply h hop) (hd.apply op hfresh)
      fun op hop => hexpires op (List.mem_cons_of_mem _ hop)
    exact ⟨hd', hwithin'.trans hwithin, hcounted'.trans hcounted⟩

/-! ### The objects that a request names -/

theorem store_unknown (h : conn.findContext handle = none) : conn.store.contexts handle = none :=
  store_contexts_none fun c _ => lookup_eq_none.mp h c

theorem store_found (hd : conn.HandlesDistinct) {c : CSlot} (h : conn.findContext handle = some c)
    (hc : (conn.ctable c).active = true) :
    conn.store.contexts handle = some (conn.sessionsOf c) :=
  lookup_some h ▸ hd.store_contexts hc

/-- The status that the client is sent for objects that were not found. -/
def unresolvedReply (err : SkStatus) : StoreReply :=
  if err = skErrorVerifyFailed then .silent else .status err

theorem store_unresolved (h : conn.Consistent) (hd : conn.HandlesDistinct)
    {context session : Handle} {err : SkStatus}
    (hfind : conn.findObjects context session = .ok (.error err)) :
    conn.store.Unresolved context session (unresolvedReply err) := by
  unfold findObjects at hfind
  cases hc : conn.findContext context with
  | none =>
    simp only [hc, Except.ok.injEq, Except.error.injEq] at hfind
    rw [← hfind]
    exact .context (store_unknown hc)
  | some c =>
    simp only [hc] at hfind
    split at hfind
    · cases hfind
    rename_i hactive
    have hcontext := store_found hd hc (by simpa using hactive)
    cases hs : conn.findSession session with
    | none =>
      simp only [hs, Except.ok.injEq, Except.error.injEq] at hfind
      rw [← hfind]
      refine .session hcontext fun hissued => ?_
      obtain ⟨i, _, hi⟩ := (issued_iff hd h).mp hissued
      exact lookup_eq_none.mp hs i hi
    | some i =>
      simp only [hs] at hfind
      split at hfind
      · cases hfind
      rename_i hiactive
      have hi : (conn.stable i).active = true := by simpa using hiactive
      split at hfind
      · cases hfind
      · rename_i hmem
        simp only [Except.ok.injEq, Except.error.injEq] at hfind
        rw [← hfind]
        have hissued := (issued_iff hd h).mpr ⟨i, hi, lookup_some hs⟩
        refine .elsewhere hcontext (fun x hx heq => ?_) hissued
        obtain ⟨j, hj, rfl⟩ := List.mem_map.mp hx
        have hij := hd.session i j hi ((lookup_some hs).trans heq.symm)
        exact hmem (hij ▸ hj)

/-- The context and the session that a request has found. -/
theorem store_resolved (hd : conn.HandlesDistinct) {context session : Handle} {c : CSlot}
    {i : SSlot} (hfind : conn.findObjects context session = .ok (.ok (c, i))) :
    conn.store.contexts context = some (conn.sessionsOf c) ∧ conn.stored i ∈ conn.sessionsOf c ∧
      handleAt conn.cthandles c = context ∧ (conn.stored i).handle = session := by
  obtain ⟨hc, hactive, hs, _, hmem⟩ := findObjects_ok hfind
  exact ⟨store_found hd hc hactive, List.mem_map_of_mem hmem, lookup_some hc, lookup_some hs⟩

end TApiConnectionTable

end SkSdk
