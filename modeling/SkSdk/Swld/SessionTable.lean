import Mathlib.Data.Fintype.Card
import SkSdk.Swld.TapiRequests

/-!
What the connection table stands for: every context owns a list of sessions.
`Represents conn ch` says that the links, flags and counters of `conn` are
those of the registry `ch`; it is the invariant of the table. The editing
functions of `tapi.c` are shown to compute `remove` and `attach`, and these to
delete a session from a list and to append one.
-/

namespace SkSdk
open ByteMemory FaultState DoublyLinked

namespace TApiConnectionTable

/-- The sessions of a context, as the chain from `start` lists them. -/
def chain (conn : TApiConnectionTable) (c : CSlot) : List SSlot :=
  walk conn.links.next skTapiMaxSessionsPerContext (conn.ctable c).start

def activeSessions (conn : TApiConnectionTable) : Finset SSlot :=
  Finset.univ.filter fun s => (conn.stable s).active = true

/-- The contexts' chains are the lists `ch`, and nothing else is active. -/
structure Represents (conn : TApiConnectionTable) (ch : CSlot → List SSlot) : Prop where
  linked : ∀ c, Linked conn.links (conn.ctable c).start (ch c)
  count : ∀ c, (conn.ctable c).numConnectedSessions = (ch c).length
  disjoint : ∀ c c' s, s ∈ ch c → s ∈ ch c' → c = c'
  active : ∀ s, (conn.stable s).active = true ↔ ∃ c, s ∈ ch c
  unlinked : ∀ s, (conn.stable s).active = false →
    (conn.stable s).next = none ∧ (conn.stable s).prev = none
  closed : ∀ c, (conn.ctable c).active = false → ch c = []
  total : conn.numStableElements = conn.activeSessions.card

/-! ## Elementary edits -/

/-- Session `s` taken out of the chain of context `c`. -/
def remove (conn : TApiConnectionTable) (c : CSlot) (s : SSlot) : TApiConnectionTable :=
  { conn with
    ctable := Function.update conn.ctable c
      { conn.ctable c with
        start := if (conn.ctable c).start = some s then (conn.stable s).next
          else (conn.ctable c).start
        numConnectedSessions := (conn.ctable c).numConnectedSessions - 1 }
    stable := fun x =>
      if x = s then
        { conn.stable s with active := false, next := none, prev := none, taid := Blk.zero 16 }
      else
        { conn.stable x with
          next := (conn.links.bypass s).next x, prev := (conn.links.bypass s).prev x }
    numStableElements := conn.numStableElements - 1 }

/-- Session `s` hung behind the last session of context `c`. -/
def attach (conn : TApiConnectionTable) (c : CSlot) (s : SSlot) (taid : SkTaid) :
    TApiConnectionTable :=
  let last := (conn.chain c).getLast?
  { conn with
    ctable := Function.update conn.ctable c
      { conn.ctable c with
        start := if (conn.ctable c).start = none then some s else (conn.ctable c).start
        numConnectedSessions := (conn.ctable c).numConnectedSessions + 1 }
    stable := fun x =>
      if x = s then { conn.stable s with active := true, next := none, prev := last, taid }
      else if last = some x then { conn.stable x with next := some s }
      else conn.stable x
    numStableElements := conn.numStableElements + 1 }

/-- Context `c` made inactive; its chain is expected to be empty. -/
def deactivate (conn : TApiConnectionTable) (c : CSlot) : TApiConnectionTable :=
  conn.updContext c fun t =>
    { t with active := false, pid := 0, start := none, numConnectedSessions := 0 }

namespace Represents

variable {conn : TApiConnectionTable} {ch : CSlot → List SSlot}

theorem length_le (h : conn.Represents ch) (c : CSlot) :
    (ch c).length ≤ skTapiMaxSessionsPerContext := by
  have hcard := (h.linked c).nodup.length_le_card
  simpa using hcard

theorem chain_eq (h : conn.Represents ch) (c : CSlot) : conn.chain c = ch c :=
  (h.linked c).walk_eq (h.length_le c)

theorem mem_active (h : conn.Represents ch) {c : CSlot} {s : SSlot} (hs : s ∈ ch c) :
    (conn.stable s).active = true := (h.active s).mpr ⟨c, hs⟩

/-- A session that is active somewhere is not on the chain of another context. -/
theorem notMem_of_ne (h : conn.Represents ch) {c c' : CSlot} {s : SSlot} (hs : s ∈ ch c)
    (hc : c' ≠ c) : s ∉ ch c' := fun hs' => hc (h.disjoint c' c s hs' hs)

theorem activeSessions_pos (h : conn.Represents ch) {c : CSlot} {s : SSlot} (hs : s ∈ ch c) :
    0 < conn.numStableElements := by
  rw [h.total]
  exact Finset.card_pos.mpr ⟨s, by simp [activeSessions, h.mem_active hs]⟩

theorem total_le (h : conn.Represents ch) :
    conn.numStableElements ≤ skTapiMaxSessionsPerContext := by
  rw [h.total]
  simpa using Finset.card_le_univ conn.activeSessions

theorem total_lt (h : conn.Represents ch) {s : SSlot} (hs : (conn.stable s).active = false) :
    conn.numStableElements < skTapiMaxSessionsPerContext := by
  rw [h.total]
  have hss : conn.activeSessions ⊂ Finset.univ :=
    Finset.filter_ssubset.mpr ⟨s, Finset.mem_univ s, by simp [hs]⟩
  simpa using Finset.card_lt_card hss

/-- The registry is not affected by anything but links, flags and counters. -/
theorem frame (h : conn.Represents ch) {conn' : TApiConnectionTable}
    (hstart : ∀ c, (conn'.ctable c).start = (conn.ctable c).start)
    (hcount : ∀ c, (conn'.ctable c).numConnectedSessions = (conn.ctable c).numConnectedSessions)
    (hsession : ∀ s, (conn'.stable s).active = (conn.stable s).active ∧
      (conn'.stable s).next = (conn.stable s).next ∧ (conn'.stable s).prev = (conn.stable s).prev)
    (htotal : conn'.numStableElements = conn.numStableElements)
    (hclosed : ∀ c, (conn'.ctable c).active = false → ch c = []) : conn'.Represents ch where
  linked c := by
    have hlinks : ∀ s ∈ ch c, conn'.links.next s = conn.links.next s ∧
        conn'.links.prev s = conn.links.prev s := fun s _ => (hsession s).2
    rw [hstart]
    exact (h.linked c).frame hlinks
  count c := (hcount c).trans (h.count c)
  disjoint := h.disjoint
  active s := by rw [(hsession s).1, h.active s]
  unlinked s hs := by
    rw [(hsession s).2.1, (hsession s).2.2]
    exact h.unlinked s ((hsession s).1 ▸ hs)
  closed := hclosed
  total := by
    have hset : conn'.activeSessions = conn.activeSessions := by
      unfold activeSessions
      congr 1
      funext s
      rw [(hsession s).1]
    rw [htotal, h.total, hset]

/-! ### Removal -/

theorem links_remove (conn : TApiConnectionTable) (c : CSlot) (s : SSlot) :
    (conn.remove c s).links = (conn.links.bypass s).clear s := by
  have hnext : ∀ x, (conn.remove c s).links.next x = ((conn.links.bypass s).clear s).next x := by
    intro x
    by_cases hx : x = s <;> simp [remove, links, hx]
  have hprev : ∀ x, (conn.remove c s).links.prev x = ((conn.links.bypass s).clear s).prev x := by
    intro x
    by_cases hx : x = s <;> simp [remove, links, hx]
  exact congrArg₂ Links.mk (funext hnext) (funext hprev)

theorem activeSessions_remove (conn : TApiConnectionTable) (c : CSlot) (s : SSlot) :
    (conn.remove c s).activeSessions = conn.activeSessions.erase s := by
  ext x
  by_cases hx : x = s <;> simp [activeSessions, remove, hx]

theorem remove (h : conn.Represents ch) {c : CSlot} {s : SSlot} (hs : s ∈ ch c) :
    (conn.remove c s).Represents (Function.update ch c ((ch c).erase s)) where
  linked c' := by
    rw [links_remove]
    by_cases hc : c' = c
    · subst hc
      simpa [TApiConnectionTable.remove] using (h.linked c').unlink hs
    · have hframe := (h.linked c).unlink_frame hs (h.linked c')
        fun x hx => h.notMem_of_ne hx (Ne.symm hc)
      simpa [TApiConnectionTable.remove, hc] using hframe
  count c' := by
    by_cases hc : c' = c
    · subst hc
      simp [TApiConnectionTable.remove, h.count c', List.length_erase_of_mem hs]
    · simp [TApiConnectionTable.remove, hc, h.count c']
  disjoint c₁ c₂ x h₁ h₂ := by
    have hsub : ∀ c', x ∈ Function.update ch c ((ch c).erase s) c' → x ∈ ch c' := by
      intro c' hx
      by_cases hc : c' = c
      · subst hc
        rw [Function.update_self] at hx
        exact List.mem_of_mem_erase hx
      · simpa [hc] using hx
    exact h.disjoint c₁ c₂ x (hsub c₁ h₁) (hsub c₂ h₂)
  active x := by
    by_cases hx : x = s
    · subst hx
      have hnot : ∀ c', x ∉ Function.update ch c ((ch c).erase x) c' := by
        intro c'
        by_cases hc : c' = c
        · subst hc
          simp [(h.linked c').nodup.mem_erase_iff]
        · simpa [hc] using h.notMem_of_ne hs hc
      simp [TApiConnectionTable.remove, hnot]
    · have hiff : ∀ c', x ∈ Function.update ch c ((ch c).erase s) c' ↔ x ∈ ch c' := by
        intro c'
        by_cases hc : c' = c
        · subst hc
          simp [List.mem_erase_of_ne hx]
        · simp [hc]
      simp [TApiConnectionTable.remove, hx, hiff, h.active x]
  unlinked x hx := by
    by_cases hxs : x = s
    · simp [TApiConnectionTable.remove, hxs]
    · have hinactive : (conn.stable x).active = false := by
        simpa [TApiConnectionTable.remove, hxs] using hx
      have hx' : x ∉ ch c := fun hm => by simp [h.mem_active hm] at hinactive
      have hframe := (h.linked c).bypass_frame hs hx'
      simpa [TApiConnectionTable.remove, hxs, hframe] using h.unlinked x hinactive
  closed c' hc' := by
    by_cases hc : c' = c
    · subst hc
      have hempty : ch c' = [] := h.closed c' (by simpa [TApiConnectionTable.remove] using hc')
      simp [hempty] at hs
    · have := h.closed c' (by simpa [TApiConnectionTable.remove, hc] using hc')
      simp [hc, this]
  total := by
    have hmem : s ∈ conn.activeSessions := by simp [activeSessions, h.mem_active hs]
    rw [activeSessions_remove, Finset.card_erase_of_mem hmem, ← h.total]
    rfl

/-! ### Attachment -/

theorem links_attach_cons (conn : TApiConnectionTable) {c : CSlot} {s t : SSlot} (taid : SkTaid)
    (ht : (conn.chain c).getLast? = some t) (hts : t ≠ s) :
    (conn.attach c s taid).links = conn.links.append t s := by
  have hnext : ∀ x, (conn.attach c s taid).links.next x = (conn.links.append t s).next x := by
    intro x
    rw [Links.append_next]
    by_cases hxs : x = s
    · subst hxs
      simp [TApiConnectionTable.attach, Ne.symm hts]
    · by_cases hxt : x = t
      · subst hxt
        simp [TApiConnectionTable.attach, ht, hxs]
      · simp [TApiConnectionTable.attach, ht, hxs, hxt, Ne.symm hxt]
  have hprev : ∀ x, (conn.attach c s taid).links.prev x = (conn.links.append t s).prev x := by
    intro x
    rw [Links.append_prev]
    by_cases hxs : x = s
    · simp [TApiConnectionTable.attach, ht, hxs]
    · by_cases hxt : x = t
      · subst hxt
        simp [TApiConnectionTable.attach, ht, hxs]
      · simp [TApiConnectionTable.attach, ht, hxs, Ne.symm hxt]
  exact congrArg₂ Links.mk (funext hnext) (funext hprev)

theorem links_attach_nil {conn : TApiConnectionTable} {c : CSlot} {s : SSlot} (taid : SkTaid)
    (hchain : conn.chain c = []) (hs : (conn.stable s).next = none ∧ (conn.stable s).prev = none) :
    (conn.attach c s taid).links = conn.links := by
  have hnext : ∀ x, (conn.attach c s taid).links.next x = conn.links.next x := by
    intro x
    by_cases hx : x = s
    · subst hx
      simp [TApiConnectionTable.attach, hs.1]
    · simp [TApiConnectionTable.attach, hchain, hx]
  have hprev : ∀ x, (conn.attach c s taid).links.prev x = conn.links.prev x := by
    intro x
    by_cases hx : x = s
    · subst hx
      simp [TApiConnectionTable.attach, hchain, hs.2]
    · simp [TApiConnectionTable.attach, hchain, hx]
  exact congrArg₂ Links.mk (funext hnext) (funext hprev)

theorem activeSessions_attach (conn : TApiConnectionTable) (c : CSlot) (s : SSlot)
    (taid : SkTaid) :
    (conn.attach c s taid).activeSessions = insert s conn.activeSessions := by
  ext x
  by_cases hx : x = s
  · simp [activeSessions, TApiConnectionTable.attach, hx]
  · by_cases hl : (conn.chain c).getLast? = some x <;>
      simp [activeSessions, TApiConnectionTable.attach, hx, hl]

/-- The chain of `c` grows at its end, every other chain is as before. -/
private theorem linked_attach (h : conn.Represents ch) {c : CSlot} {s : SSlot}
    (hs : (conn.stable s).active = false) (taid : SkTaid) (c' : CSlot) :
    Linked (conn.attach c s taid).links ((conn.attach c s taid).ctable c').start
      (Function.update ch c (ch c ++ [s]) c') := by
  have hfresh : ∀ c', s ∉ ch c' := fun c' hm => by simp [h.mem_active hm] at hs
  have hchain := h.chain_eq c
  have hstart := (h.linked c).start_eq
  cases hl : ch c with
  | nil =>
    rw [links_attach_nil taid (hchain.trans hl) (h.unlinked s hs)]
    by_cases hc : c' = c
    · subst hc
      have hnone : (conn.ctable c').start = none := by rw [hstart, hl]; rfl
      have hlinks : conn.links.prev s = none ∧ conn.links.next s = none :=
        ⟨(h.unlinked s hs).2, (h.unlinked s hs).1⟩
      simpa [TApiConnectionTable.attach, hnone, Linked, Seg] using hlinks
    · simpa [TApiConnectionTable.attach, hc] using h.linked c'
  | cons a l =>
    obtain ⟨t, ht⟩ : ∃ t, (ch c).getLast? = some t :=
      Option.isSome_iff_exists.mp (by simp [hl])
    have htmem : t ∈ ch c := List.mem_of_getLast? ht
    have hts : t ≠ s := fun he => hfresh c (he ▸ htmem)
    rw [links_attach_cons conn taid (by rw [hchain, ht]) hts, ← hl]
    by_cases hc : c' = c
    · subst hc
      have hsome : (conn.ctable c').start ≠ none := by rw [hstart, hl]; simp
      have htail : tailOf none (ch c') = some t := by
        rw [← getLast?_eq_tailOf none (by simp [hl]), ht]
      simpa [TApiConnectionTable.attach, hsome] using (h.linked c').append htail (hfresh c')
    · have hframe : ∀ x ∈ ch c', (conn.links.append t s).next x = conn.links.next x ∧
          (conn.links.append t s).prev x = conn.links.prev x := fun x hx =>
        conn.links.append_frame (fun he => h.notMem_of_ne htmem hc (he ▸ hx))
          (fun he => hfresh c' (he ▸ hx))
      simpa [TApiConnectionTable.attach, hc] using (h.linked c').frame hframe

theorem attach (h : conn.Represents ch) {c : CSlot} {s : SSlot}
    (hc : (conn.ctable c).active = true) (hs : (conn.stable s).active = false) (taid : SkTaid) :
    (conn.attach c s taid).Represents (Function.update ch c (ch c ++ [s])) where
  linked := linked_attach h hs taid
  count c' := by
    by_cases hcc : c' = c
    · subst hcc
      simp [TApiConnectionTable.attach, h.count c']
    · simp [TApiConnectionTable.attach, hcc, h.count c']
  disjoint c₁ c₂ x h₁ h₂ := by
    have hfresh : ∀ c', s ∉ ch c' := fun c' hm => by simp [h.mem_active hm] at hs
    have hcases : ∀ c', x ∈ Function.update ch c (ch c ++ [s]) c' →
        (x ∈ ch c' ∧ x ≠ s) ∨ (c' = c ∧ x = s) := by
      intro c' hx
      by_cases hcc : c' = c
      · subst hcc
        rw [Function.update_self, List.mem_append, List.mem_singleton] at hx
        rcases hx with hx | hx
        · exact Or.inl ⟨hx, fun he => hfresh c' (he ▸ hx)⟩
        · exact Or.inr ⟨rfl, hx⟩
      · rw [Function.update_of_ne hcc] at hx
        exact Or.inl ⟨hx, fun he => hfresh c' (he ▸ hx)⟩
    rcases hcases c₁ h₁ with ⟨hx₁, hne⟩ | ⟨rfl, rfl⟩
    · rcases hcases c₂ h₂ with ⟨hx₂, _⟩ | ⟨_, he⟩
      · exact h.disjoint c₁ c₂ x hx₁ hx₂
      · exact absurd he hne
    · rcases hcases c₂ h₂ with ⟨_, hne⟩ | ⟨rfl, _⟩
      · exact absurd rfl hne
      · rfl
  active x := by
    by_cases hx : x = s
    · subst hx
      have hmem : ∃ c', x ∈ Function.update ch c (ch c ++ [x]) c' := ⟨c, by simp⟩
      simp [TApiConnectionTable.attach, hmem]
    · have hiff : ∀ c', x ∈ Function.update ch c (ch c ++ [s]) c' ↔ x ∈ ch c' := by
        intro c'
        by_cases hcc : c' = c
        · subst hcc
          simp [hx]
        · simp [hcc]
      by_cases hl : (conn.chain c).getLast? = some x <;>
        simp [TApiConnectionTable.attach, hx, hl, hiff, h.active x]
  unlinked x hx := by
    have hxs : x ≠ s := fun he => by simp [TApiConnectionTable.attach, he] at hx
    by_cases hl : (conn.chain c).getLast? = some x
    · have hmem : x ∈ ch c := h.chain_eq c ▸ List.mem_of_getLast? hl
      simp [TApiConnectionTable.attach, hxs, hl, h.mem_active hmem] at hx
    · have hinactive : (conn.stable x).active = false := by
        simpa [TApiConnectionTable.attach, hxs, hl] using hx
      simpa [TApiConnectionTable.attach, hxs, hl] using h.unlinked x hinactive
  closed c' hc' := by
    by_cases hcc : c' = c
    · subst hcc
      simp [TApiConnectionTable.attach, hc] at hc'
    · have := h.closed c' (by simpa [TApiConnectionTable.attach, hcc] using hc')
      simp [hcc, this]
  total := by
    have hnew : s ∉ conn.activeSessions := by simp [activeSessions, hs]
    rw [activeSessions_attach, Finset.card_insert_of_notMem hnew, ← h.total]
    rfl

theorem deactivate (h : conn.Represents ch) {c : CSlot} (hc : ch c = []) :
    (conn.deactivate c).Represents ch := by
  have hstart : (conn.ctable c).start = none := by rw [(h.linked c).start_eq, hc]; rfl
  have hcount : (conn.ctable c).numConnectedSessions = 0 := by rw [h.count c, hc]; rfl
  refine h.frame (fun c' => ?_) (fun c' => ?_) (fun _ => ⟨rfl, rfl, rfl⟩) rfl (fun c' hc' => ?_)
  · by_cases hcc : c' = c <;> simp [TApiConnectionTable.deactivate, hcc, hstart]
  · by_cases hcc : c' = c <;> simp [TApiConnectionTable.deactivate, hcc, hcount]
  · by_cases hcc : c' = c
    · rw [hcc, hc]
    · exact h.closed c' (by simpa [TApiConnectionTable.deactivate, hcc] using hc')

end Represents

/-! ## The table as its own registry -/

/-- The table represents the registry that its own chains spell out. -/
abbrev Consistent (conn : TApiConnectionTable) : Prop := conn.Represents conn.chain

theorem Represents.consistent {conn : TApiConnectionTable} {ch : CSlot → List SSlot}
    (h : conn.Represents ch) : conn.Consistent := by
  have hchain : conn.chain = ch := funext h.chain_eq
  rw [Consistent, hchain]
  exact h

/-- What `sk_swld_tapi_find_objects` finds, or the assertion that stops it. -/
def findObjects (conn : TApiConnectionTable) (contextHandle sessionHandle : Handle) :
    Except Fault (Except SkStatus (CSlot × SSlot)) :=
  match conn.findContext contextHandle with
  | none => .ok (.error skErrorContextHandleNotFound)
  | some c =>
    if (conn.ctable c).active = false then .error .assertActive
    else match conn.findSession sessionHandle with
      | none => .ok (.error skErrorSessionHandleNotFound)
      | some s =>
        if (conn.stable s).active = false then .error .assertActive
        else if s ∈ conn.chain c then .ok (.ok (c, s))
        else .ok (.error skErrorVerifyFailed)

theorem findObjects_ok {conn : TApiConnectionTable} {contextHandle sessionHandle : Handle}
    {c : CSlot} {s : SSlot} (h : conn.findObjects contextHandle sessionHandle = .ok (.ok (c, s))) :
    conn.findContext contextHandle = some c ∧ (conn.ctable c).active = true ∧
      conn.findSession sessionHandle = some s ∧ (conn.stable s).active = true ∧
      s ∈ conn.chain c := by
  unfold findObjects at h
  cases hc : conn.findContext contextHandle with
  | none => simp [hc] at h
  | some c' =>
    simp only [hc] at h
    split at h
    · simp at h
    · rename_i hact
      cases hs : conn.findSession sessionHandle with
      | none => simp [hs] at h
      | some s' =>
        simp only [hs] at h
        split at h
        · simp at h
        · rename_i hact'
          split at h
          · rename_i hmem
            simp only [Except.ok.injEq, Prod.mk.injEq] at h
            obtain ⟨rfl, rfl⟩ := h
            exact ⟨rfl, by simpa using hact, rfl, by simpa using hact', hmem⟩
          · simp at h

theorem findObjects_error {conn : TApiConnectionTable} {contextHandle sessionHandle : Handle}
    {err : SkStatus} (h : conn.findObjects contextHandle sessionHandle = .ok (.error err)) :
    err = skErrorContextHandleNotFound ∨ err = skErrorSessionHandleNotFound ∨
      err = skErrorVerifyFailed := by
  unfold findObjects at h
  cases hc : conn.findContext contextHandle with
  | none => simp_all
  | some c' =>
    simp only [hc] at h
    split at h
    · simp at h
    · cases hs : conn.findSession sessionHandle with
      | none => simp_all
      | some s' =>
        simp only [hs] at h
        split at h
        · simp at h
        · split at h <;> simp_all

end TApiConnectionTable

end SkSdk
