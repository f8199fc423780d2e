import SkSdk.Swld.ServerInvariant

/-!
`sk_swld_tapi_remove_session` deletes one session from one list: the chain
loses it and keeps its order, the counters go down by one, and nothing but the
session's neighbours is touched besides.
-/

namespace SkSdk
open ByteMemory FaultState DoublyLinked

namespace TApiConnectionTable

variable {conn : TApiConnectionTable} {c : CSlot} {s : SSlot}

theorem chain_remove (h : conn.Consistent) (hs : s ∈ conn.chain c) (c' : CSlot) :
    (conn.remove c s).chain c' = if c' = c then (conn.chain c).erase s else conn.chain c' := by
  rw [(h.remove hs).chain_eq]
  by_cases hc : c' = c
  · subst hc
    simp
  · simp [hc]

/-- A session that is not the removed one, nor next to it, is as before. -/
theorem stable_remove_of_ne {x : SSlot} (hx : x ≠ s) (hnext : (conn.stable s).next ≠ some x)
    (hprev : (conn.stable s).prev ≠ some x) : (conn.remove c s).stable x = conn.stable x := by
  simp [remove, hx, Links.bypass_next, Links.bypass_prev, hnext, hprev]

/-- Of a neighbour only the links change. -/
theorem stable_remove_links {x : SSlot} (hx : x ≠ s) :
    { (conn.remove c s).stable x with next := (conn.stable x).next, prev := (conn.stable x).prev } =
      conn.stable x := by
  simp [remove, hx]

theorem erase_split {l r : List SSlot} (h : conn.Consistent) (hl : conn.chain c = l ++ s :: r) :
    (conn.chain c).erase s = l ++ r := by
  have hnodup := (h.linked c).nodup
  rw [hl] at hnodup ⊢
  have hs : s ∉ l := by
    intro hm
    exact (List.disjoint_of_nodup_append hnodup) hm (List.mem_cons_self ..)
  rw [List.erase_append_right _ hs, List.erase_cons_head]

end TApiConnectionTable

/-- What the removal of session `s` from context `c` leaves of table `conn`. -/
structure Deleted (conn conn' : TApiConnectionTable) (c : CSlot) (s : SSlot) : Prop where
  chain : ∀ l r, conn.chain c = l ++ s :: r → conn'.chain c = l ++ r
  linked : Linked conn'.links (conn'.ctable c).start (conn'.chain c)
  inactive : (conn'.stable s).active = false ∧ (conn'.stable s).next = none ∧
    (conn'.stable s).prev = none ∧ (conn'.stable s).taid = Blk.zero 16
  counts : (conn'.ctable c).numConnectedSessions + 1 = (conn.ctable c).numConnectedSessions ∧
    conn'.numStableElements + 1 = conn.numStableElements
  sessions : ∀ x, x ≠ s →
    { conn'.stable x with next := (conn.stable x).next, prev := (conn.stable x).prev } =
      conn.stable x ∧
    ((conn.stable s).next ≠ some x → (conn.stable s).prev ≠ some x →
      conn'.stable x = conn.stable x)
  contexts : ∀ c', c' ≠ c → conn'.ctable c' = conn.ctable c' ∧ conn'.chain c' = conn.chain c'
  context : { conn'.ctable c with
    start := (conn.ctable c).start
    numConnectedSessions := (conn.ctable c).numConnectedSessions } = conn.ctable c
  handles : conn'.cthandles = conn.cthandles ∧ conn'.sthandles = conn.sthandles ∧
    conn'.numCtableElements = conn.numCtableElements

/-- On every table with well-formed chains the removal of a session runs to its
end, deletes the session and returns its old successor. -/
theorem remove_session_deletes {conn : TApiConnectionTable} {c : CSlot} {s : SSlot}
    (h : conn.Consistent) (hs : s ∈ conn.chain c) :
    ∃ conn', skSwldTapiRemoveSession c (some s) conn = .ok ((conn.stable s).next, conn') ∧
      conn'.Consistent ∧ Deleted conn conn' c s ∧
      ∀ l r, conn.chain c = l ++ s :: r →
        (conn.stable s).next = r.head? ∧ (conn.stable s).prev = l.getLast? := by
  have hcount : 0 < (conn.ctable c).numConnectedSessions := by
    rw [h.count c]
    exact List.length_pos_of_mem hs
  have htotal := h.activeSessions_pos hs
  have hrep := (h.remove hs).consistent
  refine ⟨conn.remove c s, skSwldTapiRemoveSession_run h hs, hrep, ?_, ?_⟩
  · refine ⟨fun l r hl => ?_, hrep.linked c, ?_, ⟨?_, ?_⟩, fun x hx => ⟨?_, ?_⟩, fun c' hc => ⟨?_, ?_⟩,
      ?_, rfl, rfl, rfl⟩
    · rw [TApiConnectionTable.chain_remove h hs, if_pos rfl, TApiConnectionTable.erase_split h hl]
    · simp [TApiConnectionTable.remove]
    · simp only [TApiConnectionTable.remove, Function.update_self]
      omega
    · simp only [TApiConnectionTable.remove]
      omega
    · exact TApiConnectionTable.stable_remove_links hx
    · exact TApiConnectionTable.stable_remove_of_ne hx
    · simp [TApiConnectionTable.remove, hc]
    · rw [TApiConnectionTable.chain_remove h hs, if_neg hc]
    · simp [TApiConnectionTable.remove]
  · intro l r hl
    have hlinked : Linked conn.links (conn.ctable c).start (l ++ s :: r) := hl ▸ h.linked c
    exact ⟨Linked.next_eq hlinked, Linked.prev_eq hlinked⟩

/-- A context with three sessions. -/
def threeSessions : List Request :=
  sampleOpenContext :: [7, 8, 9].map fun k =>
    .of .openSessionReq (⟨1, 2, skTapiOpenSession⟩, fun _ => 5, fun _ => 9) (sampleEnv k)

/-- The session between two others. -/
theorem remove_session_deletes_middle : ∃ conn conn', conn.chain 0 = [0, 1, 2] ∧
    skSwldTapiRemoveSession 0 (some 1) conn = .ok (some 2, conn') ∧ Deleted conn conn' 0 1 ∧
    conn'.chain 0 = [0, 2] := by
  obtain ⟨tr, s, hrun, hchain⟩ := exists_run sampleConfig (sampleServer_started 64)
    threeSessions (fun _ s => s.tObj.conn.chain 0 = [0, 1, 2]) (by decide +kernel)
  have hreach : Reachable sampleConfig s := ⟨tr, hrun⟩
  obtain ⟨conn', hrun', _, hdeleted, hlinks⟩ := remove_session_deletes hreach.sound.table
    (c := 0) (s := 1) (by rw [hchain]; simp)
  refine ⟨s.tObj.conn, conn', hchain, ?_, hdeleted, hdeleted.chain [0] [2] hchain⟩
  rw [hrun', (hlinks [0] [2] hchain).1]
  rfl

/-! ## Closing a context -/

namespace TApiConnectionTable

variable {conn : TApiConnectionTable} {ch : CSlot → List SSlot} {c : CSlot} {l r : List SSlot}

theorem ctable_removeAll_of_ne (conn : TApiConnectionTable) (l : List SSlot) {c' : CSlot}
    (hc : c' ≠ c) : (conn.removeAll c l).ctable c' = conn.ctable c' := by
  induction l generalizing conn with
  | nil => rfl
  | cons a l ih =>
    refine (ih (conn.remove c a)).trans ?_
    simp [remove, hc]

theorem numStableElements_removeAll (h : conn.Represents ch) (hl : ch c = l ++ r) :
    (conn.removeAll c l).numStableElements + l.length = conn.numStableElements := by
  induction l generalizing conn ch with
  | nil => rfl
  | cons a l ih =>
    have ha : a ∈ ch c := by simp [hl]
    have hrest := ih (h.remove ha) (by simp [hl])
    have hpos := h.activeSessions_pos ha
    have hone : (conn.remove c a).numStableElements = conn.numStableElements - 1 := rfl
    rw [removeAll, List.foldl_cons, ← removeAll, List.length_cons]
    omega

/-- The sessions of the other contexts are left as they are, links and all. -/
theorem stable_removeAll (h : conn.Represents ch) (hl : ch c = l ++ r) {s : SSlot}
    (hs : s ∉ ch c) : (conn.removeAll c l).stable s = conn.stable s := by
  induction l generalizing conn ch with
  | nil => rfl
  | cons a l ih =>
    have ha : a ∈ ch c := by simp [hl]
    have hne : s ≠ a := (ne_of_mem_of_not_mem ha hs).symm
    have hrest := ih (h.remove ha) (by simp [hl]) (by
      rw [Function.update_self]
      exact fun hm => hs (List.mem_of_mem_erase hm))
    refine hrest.trans (stable_remove_of_ne hne ?_ ?_)
    · exact fun hnext => hs ((h.linked c).next_mem ha hnext)
    · exact fun hprev => hs ((h.linked c).prev_mem ha hprev)

theorem handles_removeAll (conn : TApiConnectionTable) (c : CSlot) (l : List SSlot) :
    (conn.removeAll c l).cthandles = conn.cthandles ∧
      (conn.removeAll c l).sthandles = conn.sthandles ∧
      (conn.removeAll c l).numCtableElements = conn.numCtableElements := by
  induction l generalizing conn with
  | nil => exact ⟨rfl, rfl, rfl⟩
  | cons a l ih => exact ih (conn.remove c a)

end TApiConnectionTable

/-- What the closing of context `c` with all its sessions leaves of table `conn`. -/
structure ContextRemoved (conn conn' : TApiConnectionTable) (c : CSlot) : Prop where
  closed : (conn'.ctable c).active = false ∧ (conn'.ctable c).start = none ∧
    conn'.chain c = [] ∧ (conn'.ctable c).numConnectedSessions = 0
  inactive : ∀ s, (conn'.stable s).active = true ↔
    (conn.stable s).active = true ∧ s ∉ conn.chain c
  total : conn'.numStableElements + (conn.chain c).length = conn.numStableElements
  contexts : ∀ c', c' ≠ c → conn'.ctable c' = conn.ctable c' ∧ conn'.chain c' = conn.chain c'
  sessions : ∀ s, s ∉ conn.chain c → conn'.stable s = conn.stable s
  handles : conn'.cthandles = conn.cthandles ∧ conn'.sthandles = conn.sthandles ∧
    conn'.numCtableElements = conn.numCtableElements

theorem contextRemoved {conn : TApiConnectionTable} (h : conn.Consistent) (c : CSlot) :
    ((conn.removeAll c (conn.chain c)).deactivate c).Consistent ∧
      ContextRemoved conn ((conn.removeAll c (conn.chain c)).deactivate c) c := by
  have hl : conn.chain c = conn.chain c ++ [] := (List.append_nil _).symm
  have hrep := (h.removeAll hl).deactivate (c := c) (Function.update_self ..)
  refine ⟨hrep.consistent, ⟨?_, ?_, ?_, ?_⟩, fun s => ?_, ?_, fun c' hc => ⟨?_, ?_⟩, fun s hs => ?_, ?_⟩
  · simp [TApiConnectionTable.deactivate]
  · simp [TApiConnectionTable.deactivate]
  · rw [hrep.chain_eq, Function.update_self]
  · simp [TApiConnectionTable.deactivate]
  · rw [hrep.active s, h.active s]
    constructor
    · rintro ⟨c', hs⟩
      by_cases hc : c' = c
      · subst hc
        simp at hs
      · rw [Function.update_of_ne hc] at hs
        exact ⟨⟨c', hs⟩, h.notMem_of_ne hs (Ne.symm hc)⟩
    · rintro ⟨⟨c', hs⟩, hnot⟩
      have hc : c' ≠ c := by
        rintro rfl
        exact hnot hs
      exact ⟨c', by rwa [Function.update_of_ne hc]⟩
  · exact TApiConnectionTable.numStableElements_removeAll h hl
  · rw [← conn.ctable_removeAll_of_ne (conn.chain c) hc]
    simp [TApiConnectionTable.deactivate, hc]
  · rw [hrep.chain_eq, Function.update_of_ne hc]
  · exact TApiConnectionTable.stable_removeAll h hl hs
  · exact conn.handles_removeAll c (conn.chain c)

/-- On every table with well-formed chains the closing of a context runs to its
end. By force it removes exactly the context's sessions; without, it refuses a
context that has any. -/
theorem remove_context_closes {conn : TApiConnectionTable} (h : conn.Consistent) (c : CSlot)
    (force : Bool) :
    if conn.chain c ≠ [] ∧ force = false then
      skSwldTapiRemoveContext c force conn = .ok (skErrorFailed, conn)
    else ∃ conn', skSwldTapiRemoveContext c force conn = .ok (skErrorSuccess, conn') ∧
      conn'.Consistent ∧ ContextRemoved conn conn' c := by
  have hrun := skSwldTapiRemoveContext_run h c force
  split
  · next hrefused => rw [hrun, if_pos hrefused]
  · next hclosed =>
    rw [if_neg hclosed] at hrun
    exact ⟨_, hrun, contextRemoved h c⟩

/-- A context that is closed with its three sessions. -/
theorem remove_context_closes_three : ∃ conn conn', conn.chain 0 = [0, 1, 2] ∧
    skSwldTapiRemoveContext 0 true conn = .ok (skErrorSuccess, conn') ∧
    ContextRemoved conn conn' 0 := by
  obtain ⟨tr, s, hrun, hchain⟩ := exists_run sampleConfig (sampleServer_started 64)
    threeSessions (fun _ s => s.tObj.conn.chain 0 = [0, 1, 2]) (by decide +kernel)
  have hreach : Reachable sampleConfig s := ⟨tr, hrun⟩
  have hclosed := remove_context_closes hreach.sound.table 0 true
  rw [if_neg (by simp)] at hclosed
  obtain ⟨conn', hrun', -, hremoved⟩ := hclosed
  exact ⟨s.tObj.conn, conn', hchain, hrun', hremoved⟩

end SkSdk
