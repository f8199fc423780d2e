import SkSdk.Swld.TapiRuns

/-!
The list of registered memory regions. Its nodes are allocated one by one, so
besides the links it has to be known which addresses are mapped.
-/

namespace SkSdk
open ByteMemory FaultState DoublyLinked

namespace Server

def memoryLinks (s : Server) : Links Nat := heapLinks s.heap

/-- The registered regions, as the chain from `m` lists them. -/
def memoryChain (s : Server) : List Nat := walk s.memoryLinks.next s.heapNext s.tObj.rmem.m

/-- The region list is `l`: all of its nodes are mapped, and counted. -/
structure MemoryList (s : Server) (l : List Nat) : Prop where
  linked : Linked s.memoryLinks s.tObj.rmem.m l
  mapped : ∀ a ∈ l, ∃ node, s.heap a = some node
  fresh : ∀ a, s.heapNext ≤ a → s.heap a = none
  count : s.tObj.rmem.memRegionCount = l.length

/-- A node allocated but not yet in the list. -/
def allocated (s : Server) (node : TApiRegMemory) : Server :=
  { s with
    heap := Function.update s.heap s.heapNext (some node)
    heapNext := s.heapNext + 1 }

/-- A new node hung behind the last region. -/
def appendNode (s : Server) (node : TApiRegMemory) : Server :=
  let last := s.memoryChain.getLast?
  { s with
    tObj := { s.tObj with rmem :=
      ⟨if s.tObj.rmem.m = none then some s.heapNext else s.tObj.rmem.m,
        s.tObj.rmem.memRegionCount + 1⟩ }
    heap := fun x =>
      if x = s.heapNext then some { node with next := none, prev := last }
      else if last = some x then (s.heap x).map fun n => { n with next := some s.heapNext }
      else s.heap x
    heapNext := s.heapNext + 1 }

/-- Region `a` taken out of the list; its node stays allocated. -/
def unlinkNode (s : Server) (a : Nat) : Server :=
  { s with
    tObj := { s.tObj with rmem :=
      ⟨if s.tObj.rmem.m = some a then s.memoryLinks.next a else s.tObj.rmem.m,
        s.tObj.rmem.memRegionCount - 1⟩ }
    heap := fun x => if x = a then s.heap a else (s.heap x).map fun n =>
      { n with next := (s.memoryLinks.bypass a).next x, prev := (s.memoryLinks.bypass a).prev x } }

def discardNode (s : Server) (a : Nat) : Server :=
  { s with heap := Function.update s.heap a none }

namespace MemoryList

variable {s : Server} {l : List Nat}

theorem lt_heapNext (h : s.MemoryList l) {a : Nat} (ha : a ∈ l) : a < s.heapNext := by
  by_contra hge
  obtain ⟨node, hnode⟩ := h.mapped a ha
  rw [h.fresh a (by omega)] at hnode
  exact absurd hnode (by simp)

theorem length_le (h : s.MemoryList l) : l.length ≤ s.heapNext := by
  have hsub : l.toFinset ⊆ Finset.range s.heapNext := by
    intro a ha
    exact Finset.mem_range.mpr (h.lt_heapNext (List.mem_toFinset.mp ha))
  have hcard := Finset.card_le_card hsub
  rwa [List.toFinset_card_of_nodup h.linked.nodup, Finset.card_range] at hcard

theorem memoryChain_eq (h : s.MemoryList l) : s.memoryChain = l := h.linked.walk_eq h.length_le

/-- The region list lives in the heap and in `rmem`. -/
theorem frame (h : s.MemoryList l) {s' : Server} (hheap : s'.heap = s.heap)
    (hnext : s'.heapNext = s.heapNext) (hrmem : s'.tObj.rmem = s.tObj.rmem) :
    s'.MemoryList l where
  linked := by
    rw [memoryLinks, hheap, hrmem]
    exact h.linked
  mapped := by rw [hheap]; exact h.mapped
  fresh := by rw [hheap, hnext]; exact h.fresh
  count := by rw [hrmem]; exact h.count

/-- A node that does not get into the list may come and go. -/
theorem scratch (h : s.MemoryList l) (node : TApiRegMemory) :
    ((s.allocated node).discardNode s.heapNext).MemoryList l := by
  have hheap : ((s.allocated node).discardNode s.heapNext).heap = s.heap := by
    change Function.update (Function.update s.heap s.heapNext (some node)) s.heapNext none = s.heap
    rw [Function.update_idem, ← h.fresh s.heapNext (Nat.le_refl _), Function.update_eq_self]
  refine ⟨?_, ?_, ?_, h.count⟩
  · rw [memoryLinks, hheap]
    exact h.linked
  · rw [hheap]
    exact h.mapped
  · intro a ha
    rw [hheap]
    exact h.fresh a (Nat.le_of_succ_le ha)

private theorem links_appendNode (h : s.MemoryList l) (node : TApiRegMemory) {t : Nat}
    (ht : l.getLast? = some t) :
    (s.appendNode node).memoryLinks = s.memoryLinks.append t s.heapNext := by
  have htmem : t ∈ l := List.mem_of_getLast? ht
  have htlt := h.lt_heapNext htmem
  have htne : t ≠ s.heapNext := by omega
  have hlast : s.memoryChain.getLast? = some t := by rw [h.memoryChain_eq, ht]
  obtain ⟨tail, htail⟩ := h.mapped t htmem
  have hnext : ∀ x, (s.appendNode node).memoryLinks.next x =
      (s.memoryLinks.append t s.heapNext).next x := by
    intro x
    rw [Links.append_next]
    by_cases hxt : x = t
    · subst hxt
      simp [memoryLinks, heapLinks, Server.appendNode, hlast, htne, htail]
    · by_cases hxn : x = s.heapNext
      · simp [memoryLinks, heapLinks, Server.appendNode, hxn, Ne.symm htne]
      · simp [memoryLinks, heapLinks, Server.appendNode, hlast, hxn, hxt, Ne.symm hxt]
  have hprev : ∀ x, (s.appendNode node).memoryLinks.prev x =
      (s.memoryLinks.append t s.heapNext).prev x := by
    intro x
    rw [Links.append_prev]
    by_cases hxn : x = s.heapNext
    · simp [memoryLinks, heapLinks, Server.appendNode, hlast, hxn]
    · by_cases hxt : x = t
      · subst hxt
        simp [memoryLinks, heapLinks, Server.appendNode, hlast, htne, htail]
      · simp [memoryLinks, heapLinks, Server.appendNode, hlast, hxn, Ne.symm hxt]
  exact congrArg₂ Links.mk (funext hnext) (funext hprev)

theorem appendNode (h : s.MemoryList l) (node : TApiRegMemory) :
    (s.appendNode node).MemoryList (l ++ [s.heapNext]) := by
  have hnew : s.heapNext ∉ l := fun ha => Nat.lt_irrefl _ (h.lt_heapNext ha)
  have hchain := h.memoryChain_eq
  refine ⟨?_, ?_, ?_, ?_⟩
  · cases hl : l with
    | nil =>
      have hm : s.tObj.rmem.m = none := by rw [h.linked.start_eq, hl]; rfl
      simp [Server.appendNode, Linked, Seg, hm, memoryLinks, heapLinks, hchain, hl]
    | cons b l' =>
      obtain ⟨t, ht⟩ : ∃ t, l.getLast? = some t := Option.isSome_iff_exists.mp (by simp [hl])
      have hm : s.tObj.rmem.m ≠ none := by rw [h.linked.start_eq, hl]; simp
      have htail : tailOf none l = some t := by
        rw [← getLast?_eq_tailOf none (by simp [hl]), ht]
      rw [links_appendNode h node ht, ← hl]
      simpa [Server.appendNode, hm] using h.linked.append htail hnew
  · intro a ha
    by_cases han : a = s.heapNext
    · simp [Server.appendNode, han]
    · obtain ⟨n, hn⟩ := h.mapped a (by simpa [han] using ha)
      by_cases hlast : s.memoryChain.getLast? = some a <;>
        simp [Server.appendNode, han, hlast, hn]
  · intro a ha
    have hlt : s.heapNext + 1 ≤ a := ha
    have hnone := h.fresh a (by omega)
    by_cases hlast : s.memoryChain.getLast? = some a <;>
      simp [Server.appendNode, show a ≠ s.heapNext by omega, hlast, hnone]
  · simp [Server.appendNode, h.count]

private theorem links_unlinkNode (h : s.MemoryList l) {a : Nat} (ha : a ∈ l) :
    (s.unlinkNode a).memoryLinks = s.memoryLinks.bypass a := by
  have hnext : ∀ x, (s.unlinkNode a).memoryLinks.next x = (s.memoryLinks.bypass a).next x := by
    intro x
    by_cases hx : x = a
    · subst hx
      rw [Links.bypass_next, if_neg (h.linked.prev_ne ha)]
      simp [memoryLinks, heapLinks, Server.unlinkNode]
    · cases hheap : s.heap x with
      | some n => simp [memoryLinks, heapLinks, Server.unlinkNode, hx, hheap]
      | none =>
        have hnot : s.memoryLinks.prev a ≠ some x := fun he => by
          obtain ⟨n, hn⟩ := h.mapped x (h.linked.prev_mem ha he)
          rw [hheap] at hn
          exact absurd hn (by simp)
        rw [Links.bypass_next, if_neg hnot]
        simp [memoryLinks, heapLinks, Server.unlinkNode, hx, hheap]
  have hprev : ∀ x, (s.unlinkNode a).memoryLinks.prev x = (s.memoryLinks.bypass a).prev x := by
    intro x
    by_cases hx : x = a
    · subst hx
      rw [Links.bypass_prev, if_neg (h.linked.next_ne ha)]
      simp [memoryLinks, heapLinks, Server.unlinkNode]
    · cases hheap : s.heap x with
      | some n => simp [memoryLinks, heapLinks, Server.unlinkNode, hx, hheap]
      | none =>
        have hnot : s.memoryLinks.next a ≠ some x := fun he => by
          obtain ⟨n, hn⟩ := h.mapped x (h.linked.next_mem ha he)
          rw [hheap] at hn
          exact absurd hn (by simp)
        rw [Links.bypass_prev, if_neg hnot]
        simp [memoryLinks, heapLinks, Server.unlinkNode, hx, hheap]
  exact congrArg₂ Links.mk (funext hnext) (funext hprev)

theorem unlinkNode (h : s.MemoryList l) {a : Nat} (ha : a ∈ l) :
    (s.unlinkNode a).MemoryList (l.erase a) := by
  refine ⟨?_, ?_, ?_, ?_⟩
  · rw [links_unlinkNode h ha]
    exact h.linked.bypass ha
  · intro x hx
    obtain ⟨n, hn⟩ := h.mapped x (List.mem_of_mem_erase hx)
    have hne : x ≠ a := (h.linked.nodup.mem_erase_iff.mp hx).1
    simp [Server.unlinkNode, hne, hn]
  · intro x hx
    have hnone := h.fresh x hx
    by_cases hxa : x = a
    · subst hxa
      simpa [Server.unlinkNode] using hnone
    · simp [Server.unlinkNode, hxa, hnone]
  · have hpos : 0 < l.length := List.length_pos_of_mem ha
    simp [Server.unlinkNode, h.count, List.length_erase_of_mem ha]
    omega

theorem discardNode (h : s.MemoryList l) {a : Nat} (ha : a ∉ l) :
    (s.discardNode a).MemoryList l := by
  have hne : ∀ x ∈ l, x ≠ a := fun x hx he => ha (he ▸ hx)
  refine ⟨h.linked.frame fun x hx => ?_, fun x hx => ?_, fun x hx => ?_, h.count⟩
  · simp [memoryLinks, heapLinks, Server.discardNode, hne x hx]
  · simpa [Server.discardNode, hne x hx] using h.mapped x hx
  · by_cases hxa : x = a
    · simp [Server.discardNode, hxa]
    · simpa [Server.discardNode, hxa] using h.fresh x hx

end MemoryList

end Server

/-! ## The node operations -/

@[simp] theorem wp_modifyNode (a : Nat) (f : TApiRegMemory → TApiRegMemory)
    (Q : Unit → Server → Prop) (E : Fault → Prop) (s : Server) :
    wp (modifyNode a f) Q E s ↔
      Q () { s with heap := Function.update s.heap a ((s.heap a).map f) } := Iff.rfl

@[simp] theorem wp_modifyRmem (f : TApiRegMemoryTable → TApiRegMemoryTable)
    (Q : Unit → Server → Prop) (E : Fault → Prop) (s : Server) :
    wp (modifyRmem f) Q E s ↔ Q () { s with tObj := { s.tObj with rmem := f s.tObj.rmem } } :=
  Iff.rfl

theorem mallocNode_bind_run {α : Type} (node : TApiRegMemory) (k : Nat → ServerM α) (s : Server) :
    (do let a ← mallocNode node; k a) s = k s.heapNext (s.allocated node) := rfl

variable {s : Server} {l : List Nat}

private theorem appendMemory_run (h : s.MemoryList l) (node : TApiRegMemory)
    (hnode : node.next = none ∧ node.prev = none) :
    appendMemory s.heapNext (s.allocated node) = .ok ((), s.appendNode node) := by
  have hchain := h.memoryChain_eq
  have hstart := h.linked.start_eq
  have hclear : { node with next := none, prev := none } = node := by
    obtain ⟨hn, hp⟩ := hnode
    cases node
    simp_all
  cases hl : l with
  | nil =>
    have hm : s.tObj.rmem.m = none := by rw [hstart, hl]; rfl
    have hheap : Function.update s.heap s.heapNext (some node) = (s.appendNode node).heap := by
      funext x
      by_cases hx : x = s.heapNext
      · subst hx
        simp [Server.appendNode, hchain, hl, hclear]
      · simp [Server.appendNode, hchain, hl, hx]
    apply ok_of_wp
    simp [appendMemory, Server.allocated, hm, hheap]
    simp [Server.appendNode, hm]
  | cons b l' =>
    have hm : s.tObj.rmem.m = some b := by rw [hstart, hl]; rfl
    obtain ⟨t, ht⟩ : ∃ t, l.getLast? = some t := Option.isSome_iff_exists.mp (by simp [hl])
    have htmem : t ∈ l := List.mem_of_getLast? ht
    have htlt := h.lt_heapNext htmem
    have htne : t ≠ s.heapNext := by omega
    obtain ⟨tail, htail⟩ := h.mapped t htmem
    -- the walk does not come across the new node
    have hlinked : Linked (s.allocated node).memoryLinks (some b) (b :: l') := by
      rw [← hm, ← hl]
      refine h.linked.frame fun x hx => ?_
      have hne : x ≠ s.heapNext := by have := h.lt_heapNext hx; omega
      simp [Server.memoryLinks, heapLinks, Server.allocated, hne]
    have hlast : lastFrom (heapLinks (s.allocated node).heap).next (s.heapNext + 1) b = some t := by
      have hlen := h.length_le
      rw [hl, List.length_cons] at hlen
      rw [show heapLinks (s.allocated node).heap = (s.allocated node).memoryLinks from rfl,
        Seg.lastFrom_eq hlinked (by omega), ← getLast?_eq_tailOf _ (by simp), ← hl, ht]
    have hheap : Function.update (Function.update (s.allocated node).heap t
          (some { tail with next := some s.heapNext })) s.heapNext
          (some { node with prev := some t }) = (s.appendNode node).heap := by
      funext x
      by_cases hx : x = s.heapNext
      · subst hx
        simp [Server.appendNode, hchain, ht, hnode]
      · by_cases hxt : x = t
        · subst hxt
          simp [Server.appendNode, hchain, ht, hx, htail]
        · simp [Server.appendNode, Server.allocated, hchain, ht, hx, hxt, Ne.symm hxt]
    have hmap : (s.allocated node).heap t = some tail := by
      simpa [Server.allocated, htne] using htail
    have hnew : Function.update (s.allocated node).heap t
        (some { tail with next := some s.heapNext }) s.heapNext = some node := by
      simp [Server.allocated, Ne.symm htne]
    have hm' : (s.allocated node).tObj.rmem.m = some b := hm
    have hnext : (s.allocated node).heapNext = s.heapNext + 1 := rfl
    apply ok_of_wp
    simp [appendMemory, hm', hnext, hlast, hmap, hnew, hheap]
    simp [Server.appendNode, Server.allocated, hm]

/-- The neighbours of the node point past it, everything else keeps its links. -/
private theorem heap_unlinkNode (h : s.MemoryList l) {a : Nat} (ha : a ∈ l)
    {node : TApiRegMemory} (hnode : s.heap a = some node) (x : Nat) :
    (s.unlinkNode a).heap x =
      (s.heap x).map fun n => { n with
        next := if node.prev = some x then node.next else n.next
        prev := if node.next = some x then node.prev else n.prev } := by
  have hnext : s.memoryLinks.next a = node.next := by simp [Server.memoryLinks, heapLinks, hnode]
  have hprev : s.memoryLinks.prev a = node.prev := by simp [Server.memoryLinks, heapLinks, hnode]
  by_cases hx : x = a
  · subst hx
    have hpx : node.prev ≠ some x := fun he => h.linked.prev_ne ha (hprev.trans he)
    have hnx : node.next ≠ some x := fun he => h.linked.next_ne ha (hnext.trans he)
    simp [Server.unlinkNode, hpx, hnx]
  · cases hn : s.heap x with
    | none => simp [Server.unlinkNode, hx, hn]
    | some n =>
      simp [Server.unlinkNode, hx, hn, Links.bypass_next, Links.bypass_prev, hnode,
        Server.memoryLinks, heapLinks]

private theorem unlinkMemory_run (h : s.MemoryList l) {a : Nat} (ha : a ∈ l)
    {node : TApiRegMemory} (hnode : s.heap a = some node) :
    unlinkMemory a node s = .ok ((), s.unlinkNode a) := by
  have hnext : s.memoryLinks.next a = node.next := by simp [Server.memoryLinks, heapLinks, hnode]
  have hprev : s.memoryLinks.prev a = node.prev := by simp [Server.memoryLinks, heapLinks, hnode]
  have hcount : 0 < s.tObj.rmem.memRegionCount := by
    have := List.length_pos_of_mem ha
    rw [h.count]
    omega
  -- the node has a predecessor unless it heads the list
  have hhead := h.linked.prev_eq_none ha
  rw [hprev] at hhead
  have hheap := heap_unlinkNode h ha hnode
  have hdone : ∀ r heap, r = (s.unlinkNode a).tObj.rmem → heap = (s.unlinkNode a).heap →
      ({ s with tObj := { s.tObj with rmem := r }, heap } : Server) = s.unlinkNode a := by
    rintro _ _ rfl rfl
    rfl
  apply ok_of_wp
  by_cases hm : s.tObj.rmem.m = some a
  · have hp := hhead.mpr hm
    cases hn : node.next with
    | none =>
      simp [unlinkMemory, hm, hn, hcount]
      refine hdone _ _ (by simp [Server.unlinkNode, hm, hnext, hn]) (funext fun x => ?_)
      simp [hheap, hp, hn]
    | some n =>
      simp [unlinkMemory, hm, hn, hcount]
      refine hdone _ _ (by simp [Server.unlinkNode, hm, hnext, hn]) (funext fun x => ?_)
      by_cases hx : x = n
      · subst hx
        simp [hheap, hp, hn]
      · simp [hheap, hp, hn, hx, Ne.symm hx]
  · obtain ⟨p, hp⟩ := Option.ne_none_iff_exists'.mp (mt hhead.mp hm)
    cases hn : node.next with
    | none =>
      simp [unlinkMemory, hm, hp, hn, hcount]
      refine hdone _ _ (by simp [Server.unlinkNode, hm]) (funext fun x => ?_)
      by_cases hx : x = p
      · subst hx
        simp [hheap, hp, hn]
      · simp [hheap, hp, hn, hx, Ne.symm hx]
    | some n =>
      simp [unlinkMemory, hm, hp, hn, hcount]
      refine hdone _ _ (by simp [Server.unlinkNode, hm]) (funext fun x => ?_)
      by_cases hxn : x = n
      · subst hxn
        by_cases hxp : x = p
        · subst hxp
          simp [hheap, hp, hn, Function.comp_def]
        · simp [hheap, hp, hn, hxp, Ne.symm hxp]
      · by_cases hxp : x = p
        · subst hxp
          simp [hheap, hp, hn, hxn, Ne.symm hxn]
        · simp [hheap, hp, hn, hxn, hxp, Ne.symm hxn, Ne.symm hxp]

/-! ## The requests -/

section Runs

variable (env : Env) (hdr : SkHeader)

/-- The undivided offset names a slot of the table for the first eight contexts
only, and then the wrong one. -/
theorem touchUndivided_run (c : CSlot) (s : Server) :
    touchUndivided env (c.val * skTapiContextHandleSize) s =
      if h : c.val * skTapiContextHandleSize < skTapiMaxConnectionsPerContext then
        .ok ((), s.after (s.tObj.conn.touchContext ⟨_, h⟩ (env.timer s.clk)) 1 [])
      else .error .outOfRange := by
  unfold touchUndivided slot
  rw [timer_bind_run]
  by_cases h : c.val * skTapiContextHandleSize < skTapiMaxConnectionsPerContext
  · rw [dif_pos h, dif_pos h, Server.after, List.append_nil]
    rfl
  · rw [dif_neg h, dif_neg h]
    rfl

/-- The node of a register_memory request with the identifier of its region. -/
def requestedNode (garbage : TApiRegMemory) (memorySize flag memPtr : UInt32) (id : MemoryId) :
    TApiRegMemory :=
  { garbage with next := none, prev := none, memorySize, flag, memPtr, id }

private theorem registerNode_run (h : s.MemoryList l) (garbage : TApiRegMemory)
    (memorySize flag memPtr : UInt32) :
    registerNode env hdr garbage memorySize flag memPtr s =
      let driver := env.allocateMemory memPtr memorySize flag garbage.id skTapiMemoryIdLength
        garbage.info
      let node := requestedNode garbage memorySize flag memPtr driver.2.1
      if driver.1 ≠ skErrorSuccess then
        .ok (skErrorFailedSharedMemoryReq, (s.allocated node).discardNode s.heapNext)
      else if driver.2.2 ≠ skTapiMemoryIdLength then .error .assert
      else reply .registerMemoryResp (hdr, memPtr, driver.2.1, skErrorSuccess)
        (s.appendNode node) := by
  rw [registerNode, mallocNode_bind_run]
  dsimp only
  generalize env.allocateMemory memPtr memorySize flag garbage.id skTapiMemoryIdLength
    garbage.info = driver
  -- the identifier is filled in where the driver was told to put it
  have hid : (modifyNode s.heapNext fun n => { n with id := driver.2.1 })
      (s.allocated (requestedNode garbage memorySize flag memPtr garbage.id)) =
      .ok ((), s.allocated (requestedNode garbage memorySize flag memPtr driver.2.1)) := by
    apply ok_of_wp
    simp [Server.allocated, requestedNode]
  refine (bind_of_ok hid _).trans ?_
  by_cases herr : driver.1 ≠ skErrorSuccess
  · rw [if_pos herr, if_pos herr]
    rfl
  · rw [if_neg herr, if_neg herr]
    by_cases hlen : driver.2.2 = skTapiMemoryIdLength
    · rw [if_neg (not_not.mpr hlen), require_bind_of hlen,
        bind_of_ok (appendMemory_run h (requestedNode _ _ _ _ _) ⟨rfl, rfl⟩)]
    · rw [if_pos hlen, require_bind_of_not hlen]

theorem serveRegisterMemory_run (h : s.MemoryList l) (contextHandle : Handle)
    (memorySize flag addr : UInt32) :
    serveRegisterMemory env hdr contextHandle memorySize flag addr s =
      match s.tObj.conn.findContext contextHandle with
      | none => .ok (skErrorContextHandleNotFound, s)
      | some c =>
        if hc : c.val * skTapiContextHandleSize < skTapiMaxConnectionsPerContext then
          let touched := s.after (s.tObj.conn.touchContext ⟨_, hc⟩ (env.timer s.clk)) 1 []
          match env.malloc with
          | none => .ok (skErrorNoMemory, touched)
          | some garbage =>
            let memPtr := if flag ≠ skTeecMemAllocate then addr else 0
            let driver := env.allocateMemory memPtr memorySize flag garbage.id
              skTapiMemoryIdLength garbage.info
            let node := requestedNode garbage memorySize flag memPtr driver.2.1
            if driver.1 ≠ skErrorSuccess then
              .ok (skErrorFailedSharedMemoryReq, (touched.allocated node).discardNode s.heapNext)
            else if driver.2.2 ≠ skTapiMemoryIdLength then .error .assert
            else answer .registerMemoryResp (hdr, memPtr, driver.2.1, skErrorSuccess)
              (touched.appendNode node)
        else .error .outOfRange := by
  simp only [← reply_run]
  change (match s.tObj.conn.findContext contextHandle with
    | none => _
    | some c => _ : ServerM SkStatus) s = _
  cases s.tObj.conn.findContext contextHandle with
  | none => rfl
  | some c =>
    dsimp only
    have htouch := touchUndivided_run env c s
    by_cases hc : c.val * skTapiContextHandleSize < skTapiMaxConnectionsPerContext
    · rw [dif_pos hc] at htouch ⊢
      rw [bind_of_ok htouch]
      cases env.malloc with
      | none => rfl
      | some garbage =>
        have htouched : (s.after (s.tObj.conn.touchContext ⟨_, hc⟩ (env.timer s.clk)) 1
            []).MemoryList l := h.frame rfl rfl rfl
        exact registerNode_run env hdr htouched garbage memorySize flag _
    · rw [dif_neg hc] at htouch ⊢
      exact bind_of_error htouch _

/-- The first region that carries an identifier. -/
def Server.findRegion (s : Server) (memoryId : MemoryId) : Option Nat :=
  s.memoryChain.find? fun a => (s.heap a).all fun n => n.id = memoryId

private theorem unregisterNode_run (h : s.MemoryList l) {a : Nat} (ha : a ∈ l)
    {node : TApiRegMemory} (hnode : s.heap a = some node) :
    unregisterNode env hdr a node s =
      if env.freeMemory node.memPtr node.info ≠ skErrorSuccess then
        .ok (skErrorFailedSharedMemoryReq, s.unlinkNode a)
      else reply .unregisterMemoryResp (hdr, skErrorSuccess) ((s.unlinkNode a).discardNode a) := by
  rw [unregisterNode, bind_of_ok (unlinkMemory_run h ha hnode)]
  split
  · rfl
  · rfl

theorem serveUnregisterMemory_run (h : s.MemoryList l) (contextHandle : Handle)
    (memoryId : MemoryId) :
    serveUnregisterMemory env hdr contextHandle memoryId s =
      match s.tObj.conn.findContext contextHandle with
      | none => .ok (skErrorContextHandleNotFound, s)
      | some c =>
        if hc : c.val * skTapiContextHandleSize < skTapiMaxConnectionsPerContext then
          let touched := s.after (s.tObj.conn.touchContext ⟨_, hc⟩ (env.timer s.clk)) 1 []
          match s.findRegion memoryId with
          | none => .ok (skErrorNoMemory, touched)
          | some a =>
            match s.heap a with
            | none => .error .nullDeref
            | some node =>
              if env.freeMemory node.memPtr node.info ≠ skErrorSuccess then
                .ok (skErrorFailedSharedMemoryReq, touched.unlinkNode a)
              else answer .unregisterMemoryResp (hdr, skErrorSuccess)
                ((touched.unlinkNode a).discardNode a)
        else .error .outOfRange := by
  simp only [← reply_run]
  change (match s.tObj.conn.findContext contextHandle with
    | none => _
    | some c => _ : ServerM SkStatus) s = _
  cases s.tObj.conn.findContext contextHandle with
  | none => rfl
  | some c =>
    dsimp only
    have htouch := touchUndivided_run env c s
    by_cases hc : c.val * skTapiContextHandleSize < skTapiMaxConnectionsPerContext
    · rw [dif_pos hc] at htouch ⊢
      rw [bind_of_ok htouch]
      have htouched : (s.after (s.tObj.conn.touchContext ⟨_, hc⟩ (env.timer s.clk)) 1
          []).MemoryList l := h.frame rfl rfl rfl
      -- touching the context leaves the memory list as it was
      have hfind : findFrom s.memoryLinks.next (fun a => (s.heap a).all fun n => n.id = memoryId)
          s.heapNext s.tObj.rmem.m = some (s.findRegion memoryId) := by
        rw [h.linked.findFrom_eq h.length_le, Server.findRegion, h.memoryChain_eq]
      refine (get_bind_run _ _).trans ?_
      generalize hfound : findFrom _ _ _ _ = found
      obtain rfl : found = some (s.findRegion memoryId) := hfound.symm.trans hfind
      cases hregion : s.findRegion memoryId with
      | none => rfl
      | some a =>
        have ha : a ∈ l := by
          rw [← h.memoryChain_eq]
          exact List.mem_of_find?_eq_some hregion
        obtain ⟨node, hnode⟩ := h.mapped a ha
        simp only [Server.after, hnode]
        exact unregisterNode_run env hdr htouched ha hnode
    · rw [dif_neg hc] at htouch ⊢
      exact bind_of_error htouch _

end Runs

end SkSdk
