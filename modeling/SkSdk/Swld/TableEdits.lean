import SkSdk.Swld.SessionTable

/-!
The editing functions of `tapi.c` on a table that represents a registry: each
runs to its end and leaves the table that `remove`, `attach` and `deactivate`
describe.
-/

namespace SkSdk
open ByteMemory FaultState DoublyLinked

variable {conn : TApiConnectionTable} {ch : CSlot → List SSlot}

/-! ## Removing a session -/

theorem skSwldTapiRemoveSession_run (h : conn.Represents ch) {c : CSlot} {s : SSlot}
    (hs : s ∈ ch c) :
    skSwldTapiRemoveSession c (some s) conn = .ok ((conn.stable s).next, conn.remove c s) := by
  have hcount : 0 < (conn.ctable c).numConnectedSessions := by
    rw [h.count c]
    exact List.length_pos_of_mem hs
  have htotal := h.activeSessions_pos hs
  have hhead := (h.linked c).prev_eq_none hs
  apply ok_of_wp
  by_cases hstart : (conn.ctable c).start = some s
  · have hprev : (conn.stable s).prev = none := hhead.mpr hstart
    cases hnext : (conn.stable s).next with
    | none =>
      simp [skSwldTapiRemoveSession, hstart, hnext, hcount, htotal]
      refine TApiConnectionTable.ext (funext fun c' => ?_) rfl rfl (funext fun x => ?_) rfl rfl
      · by_cases hc : c' = c <;> simp [TApiConnectionTable.remove, hc, hstart, hnext]
      · by_cases hx : x = s <;>
          simp [TApiConnectionTable.remove, hx, hnext, hprev, Links.bypass_next, Links.bypass_prev]
    | some n =>
      have hns : s ≠ n := fun he => (h.linked c).next_ne hs (he ▸ hnext)
      simp [skSwldTapiRemoveSession, hstart, hnext, hcount, htotal]
      refine TApiConnectionTable.ext (funext fun c' => ?_) rfl rfl (funext fun x => ?_) rfl rfl
      · by_cases hc : c' = c <;> simp [TApiConnectionTable.remove, hc, hstart, hnext]
      · by_cases hx : x = s
        · simp [TApiConnectionTable.remove, hx, hns]
        · by_cases hn : n = x
          · subst hn
            simp [TApiConnectionTable.remove, hx, hnext, hprev, Links.bypass_next,
              Links.bypass_prev]
          · simp [TApiConnectionTable.remove, hx, hn, Ne.symm hn, hnext, hprev,
              Links.bypass_next, Links.bypass_prev]
  · have hprev : (conn.stable s).prev ≠ none := mt hhead.mp hstart
    obtain ⟨p, hp⟩ := Option.ne_none_iff_exists'.mp hprev
    have hps : s ≠ p := fun he => (h.linked c).prev_ne hs (he ▸ hp)
    cases hnext : (conn.stable s).next with
    | none =>
      simp [skSwldTapiRemoveSession, hstart, hnext, hp, hcount, htotal]
      refine TApiConnectionTable.ext (funext fun c' => ?_) rfl rfl (funext fun x => ?_) rfl rfl
      · by_cases hc : c' = c <;> simp [TApiConnectionTable.remove, hc, hstart]
      · by_cases hx : x = s
        · simp [TApiConnectionTable.remove, hx, hps]
        · by_cases hxp : p = x
          · subst hxp
            simp [TApiConnectionTable.remove, hx, hnext, hp, Links.bypass_next, Links.bypass_prev]
          · simp [TApiConnectionTable.remove, hx, hxp, Ne.symm hxp, hnext, hp, Links.bypass_next,
              Links.bypass_prev]
    | some n =>
      have hns : s ≠ n := fun he => (h.linked c).next_ne hs (he ▸ hnext)
      simp [skSwldTapiRemoveSession, hstart, hnext, hp, hcount, htotal]
      refine TApiConnectionTable.ext (funext fun c' => ?_) rfl rfl (funext fun x => ?_) rfl rfl
      · by_cases hc : c' = c <;> simp [TApiConnectionTable.remove, hc, hstart]
      · by_cases hx : x = s
        · simp [TApiConnectionTable.remove, hx, hps, hns]
        · by_cases hxp : p = x
          · subst hxp
            by_cases hn : n = p
            · subst hn
              simp [TApiConnectionTable.remove, hx, hnext, hp, Links.bypass_next,
                Links.bypass_prev]
            · simp [TApiConnectionTable.remove, hx, hn, Ne.symm hn, hnext, hp, Links.bypass_next,
                Links.bypass_prev]
          · by_cases hn : n = x
            · subst hn
              simp [TApiConnectionTable.remove, hx, hxp, Ne.symm hxp, hnext, hp,
                Links.bypass_next, Links.bypass_prev]
            · simp [TApiConnectionTable.remove, hx, hxp, Ne.symm hxp, hn, Ne.symm hn, hnext, hp,
                Links.bypass_next, Links.bypass_prev]

/-- A session that heads no chain and has no predecessor cannot be removed. -/
theorem skSwldTapiRemoveSession_unlinked {conn : TApiConnectionTable} {c : CSlot} {s : SSlot}
    (hstart : (conn.ctable c).start ≠ some s) (hprev : (conn.stable s).prev = none) :
    skSwldTapiRemoveSession c (some s) conn = .error .nullDeref := by
  have hwp : wp (skSwldTapiRemoveSession c (some s)) (fun _ _ => False) (· = .nullDeref) conn := by
    simp [skSwldTapiRemoveSession, hstart, hprev]
  exact error_of_wp hwp

namespace TApiConnectionTable

/-- All sessions of `l` taken out of the chain of context `c`, in order. -/
def removeAll (conn : TApiConnectionTable) (c : CSlot) (l : List SSlot) : TApiConnectionTable :=
  l.foldl (fun conn s => conn.remove c s) conn

theorem Represents.removeAll {l : List SSlot} (h : conn.Represents ch) {c : CSlot}
    {r : List SSlot} (hl : ch c = l ++ r) :
    (conn.removeAll c l).Represents (Function.update ch c r) := by
  induction l generalizing conn ch with
  | nil =>
    have hch : Function.update ch c r = ch := by
      rw [show r = ch c from hl.symm, Function.update_eq_self]
    rw [hch]
    exact h
  | cons a l ih =>
    have hrem := h.remove (c := c) (s := a) (by simp [hl])
    have hrest := ih hrem (by simp [hl])
    rwa [Function.update_idem] at hrest

end TApiConnectionTable

private theorem removeSessions_run {l : List SSlot} (h : conn.Represents ch) {c : CSlot}
    {a : SSlot} {k : Nat} (hl : ch c = a :: l) (hk : l.length < k) :
    removeSessions c k conn = .ok ((), conn.removeAll c (a :: l)) := by
  induction l generalizing conn ch a k with
  | nil =>
    cases k with
    | zero => simp at hk
    | succ k =>
      have hstart : (conn.ctable c).start = some a := by rw [(h.linked c).start_eq, hl]; rfl
      have hrun := skSwldTapiRemoveSession_run h (c := c) (s := a) (by simp [hl])
      have hnext : (conn.stable a).next = none := by
        have hseg := h.linked c
        rw [hl] at hseg
        exact hseg.2.2
      rw [hnext] at hrun
      rw [removeSessions]
      refine (get_bind_run _ _).trans ?_
      rw [hstart, bind_of_ok hrun]
      rfl
  | cons b l ih =>
    cases k with
    | zero => simp at hk
    | succ k =>
      have hstart : (conn.ctable c).start = some a := by rw [(h.linked c).start_eq, hl]; rfl
      have hrun := skSwldTapiRemoveSession_run h (c := c) (s := a) (by simp [hl])
      have hnext : (conn.stable a).next = some b := by
        have hseg := h.linked c
        rw [hl] at hseg
        exact hseg.2.2.1
      rw [hnext] at hrun
      rw [removeSessions]
      refine (get_bind_run _ _).trans ?_
      rw [hstart, bind_of_ok hrun]
      exact ih (h.remove (c := c) (s := a) (by simp [hl])) (by simp [hl]) (by simpa using hk)

/-- What closing a context leaves: with sessions on it, only `force` closes it. -/
theorem skSwldTapiRemoveContext_run (h : conn.Represents ch) (c : CSlot) (force : Bool) :
    skSwldTapiRemoveContext c force conn =
      if ch c ≠ [] ∧ force = false then .ok (skErrorFailed, conn)
      else .ok (skErrorSuccess, (conn.removeAll c (ch c)).deactivate c) := by
  have hcount := h.count c
  cases hl : ch c with
  | nil =>
    have hstart : (conn.ctable c).start = none := by rw [(h.linked c).start_eq, hl]; rfl
    rw [hl] at hcount
    rw [if_neg (by simp)]
    apply ok_of_wp
    simp [skSwldTapiRemoveContext, hcount, hstart, TApiConnectionTable.removeAll,
      TApiConnectionTable.deactivate]
  | cons a l =>
    rw [hl] at hcount
    cases force with
    | false =>
      rw [if_pos (by simp)]
      apply ok_of_wp
      simp [skSwldTapiRemoveContext, hcount]
    | true =>
      have hrun := removeSessions_run h hl (k := l.length + 1 + 1) (by omega)
      have hempty := ((h.removeAll (c := c) (l := a :: l) (r := []) (by simp [hl])).linked c).start_eq
      rw [Function.update_self] at hempty
      rw [if_neg (by simp)]
      apply ok_of_wp
      simp [skSwldTapiRemoveContext, hcount, wp_of_ok hrun, hempty, TApiConnectionTable.deactivate]

/-! ## Adding a session -/

theorem attachSession_run (h : conn.Represents ch) {c : CSlot} {i : SSlot}
    (hi : (conn.stable i).active = false) (hroom : (ch c).length < skTapiMaxSessionsPerContext)
    (taid : SkTaid) :
    attachSession c i taid conn = .ok ((), conn.attach c i taid) := by
  have hunlinked := h.unlinked i hi
  have htotal := h.total_lt hi
  have hcount := h.count c
  have hchain := h.chain_eq c
  have hlinked := h.linked c
  have hstart := hlinked.start_eq
  -- nulling the links of the free slot changes nothing
  have hlinks : (conn.updSession i fun t =>
      { t with active := true, taid, next := none, prev := none }).links = conn.links := by
    refine congrArg₂ Links.mk (funext fun x => ?_) (funext fun x => ?_) <;>
      by_cases hx : x = i <;> simp [hx, hunlinked]
  apply ok_of_wp
  cases hl : ch c with
  | nil =>
    rw [hl] at hstart hcount hchain
    simp [attachSession, hstart, hcount, htotal]
    refine TApiConnectionTable.ext (funext fun c' => ?_) rfl rfl (funext fun x => ?_) rfl rfl
    · by_cases hc : c' = c <;> simp [TApiConnectionTable.attach, hc, hstart]
    · by_cases hx : x = i <;> simp [TApiConnectionTable.attach, hx, hchain]
  | cons a l =>
    obtain ⟨t, ht⟩ : ∃ t, (ch c).getLast? = some t :=
      Option.isSome_iff_exists.mp (by simp [hl])
    have hti : t ≠ i := fun he => by
      have hactive := h.mem_active (he ▸ List.mem_of_getLast? ht)
      simp [hactive] at hi
    have hlast : lastFrom conn.links.next skTapiMaxSessionsPerContext a = some t := by
      rw [hstart, hl] at hlinked
      have hlen : l.length < skTapiMaxSessionsPerContext := by
        rw [hl, List.length_cons] at hroom
        omega
      rw [Seg.lastFrom_eq hlinked hlen, ← getLast?_eq_tailOf _ (by simp), ← hl, ht]
    have hroom' : (conn.ctable c).numConnectedSessions < skTapiMaxSessionsPerContext := by
      rw [hcount, hl]
      rwa [hl] at hroom
    rw [hl] at hstart
    simp [attachSession, hstart, hlinks, hlast, hroom', htotal]
    refine TApiConnectionTable.ext (funext fun c' => ?_) rfl rfl (funext fun x => ?_) rfl rfl
    · by_cases hc : c' = c <;> simp [TApiConnectionTable.attach, hc, hstart]
    · by_cases hx : x = i
      · simp [TApiConnectionTable.attach, hx, hchain, ht, Ne.symm hti]
      · by_cases hxt : x = t
        · subst hxt
          simp [TApiConnectionTable.attach, hx, hchain, ht]
        · simp [TApiConnectionTable.attach, hx, hxt, Ne.symm hxt, hchain, ht]

/-! ## Looking a session up -/

theorem skSwldTapiFindObjects_run (h : conn.Consistent)
    (hcount : conn.numCtableElements ≤ skTapiMaxConnectionsPerContext)
    (contextHandle sessionHandle : Handle) :
    skSwldTapiFindObjects contextHandle sessionHandle conn =
      (conn.findObjects contextHandle sessionHandle).map fun r => (r, conn) := by
  have htotal := h.total_le
  unfold TApiConnectionTable.findObjects TApiConnectionTable.findContext
    TApiConnectionTable.findSession
  cases hc : (lookup conn.cthandles contextHandle : Option CSlot) with
  | none =>
    apply ok_of_wp
    simp [skSwldTapiFindObjects, hcount, htotal,
      skSwldTapiHandleGeneratorPluginFindContextHandle, findHandle_eq, hc]
  | some c =>
    dsimp only
    by_cases hcact : (conn.ctable c).active = false
    · rw [if_pos hcact]
      apply error_of_wp
      simp [skSwldTapiFindObjects, hcount, htotal,
        skSwldTapiHandleGeneratorPluginFindContextHandle, findHandle_eq, hc, hcact]
    rw [if_neg hcact]
    rw [Bool.not_eq_false] at hcact
    cases hs : (lookup conn.sthandles sessionHandle : Option SSlot) with
    | none =>
      apply ok_of_wp
      simp [skSwldTapiFindObjects, hcount, htotal,
        skSwldTapiHandleGeneratorPluginFindContextHandle,
        skSwldTapiHandleGeneratorPluginFindSessionHandle, findHandle_eq, hc, hcact, hs]
    | some s =>
      dsimp only
      have hfind := (h.linked c).findFrom_eq (q := (· == s)) (h.length_le c)
      by_cases hsact : (conn.stable s).active = false
      · rw [if_pos hsact]
        apply error_of_wp
        simp [skSwldTapiFindObjects, hcount, htotal,
          skSwldTapiHandleGeneratorPluginFindContextHandle,
          skSwldTapiHandleGeneratorPluginFindSessionHandle, findHandle_eq, hc, hcact, hs, hsact]
      rw [if_neg hsact]
      rw [Bool.not_eq_false] at hsact
      by_cases hmem : s ∈ conn.chain c
      · rw [if_pos hmem]
        have hsome : (conn.chain c).find? (· == s) = some s := by
          obtain ⟨x, hx⟩ := Option.isSome_iff_exists.mp
            (List.find?_isSome (p := (· == s)).mpr ⟨s, hmem, by simp⟩)
          have hxs : x = s := by simpa using List.find?_some hx
          rw [hx, hxs]
        rw [hsome] at hfind
        apply ok_of_wp
        simp [skSwldTapiFindObjects, hcount, htotal,
          skSwldTapiHandleGeneratorPluginFindContextHandle,
          skSwldTapiHandleGeneratorPluginFindSessionHandle, findHandle_eq, hc, hcact, hs, hsact,
          hfind]
      · rw [if_neg hmem]
        have hnone : (conn.chain c).find? (· == s) = none := by
          simp only [List.find?_eq_none, beq_iff_eq]
          rintro x hx rfl
          exact hmem hx
        rw [hnone] at hfind
        apply ok_of_wp
        simp [skSwldTapiFindObjects, hcount, htotal,
          skSwldTapiHandleGeneratorPluginFindContextHandle,
          skSwldTapiHandleGeneratorPluginFindSessionHandle, findHandle_eq, hc, hcact, hs, hsact,
          hfind]

end SkSdk
