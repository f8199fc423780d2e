import SkSdk.Swld.ServerInvariant

/-!
The list of registered memory as a registry: a region that is registered goes
to the end, and one that is unregistered is the first with its identifier.
-/

namespace SkSdk
open ByteMemory FaultState DoublyLinked

variable {cfg : Config} {req : Request} {s s' s'' : Server} {status : SkStatus}

/-- What a node records of its region. -/
def TApiRegMemory.region (n : TApiRegMemory) : TApiRegMemory :=
  { n with next := none, prev := none }

/-- The region that the node at `a` records. -/
def Server.regionAt (s : Server) (a : Nat) : Option TApiRegMemory :=
  (s.heap a).map TApiRegMemory.region

/-- `rmem.m` heads a finite list without repetition, whose links invert each
other and whose length is counted in 31 bits. -/
structure Registry (s : Server) : Prop where
  linked : Linked s.memoryLinks s.tObj.rmem.m s.memoryChain
  nodup : s.memoryChain.Nodup
  inverse : ∀ x ∈ s.memoryChain, ∀ y ∈ s.memoryChain,
    s.memoryLinks.next x = some y ↔ s.memoryLinks.prev y = some x
  mapped : ∀ x ∈ s.memoryChain, ∃ node, s.heap x = some node
  count : s.tObj.rmem.memRegionCount = s.memoryChain.length
  bounded : s.tObj.rmem.memRegionCount < 2 ^ 31

/-- A new node at the end records the region asked for; no other record changes. -/
def AppendsRegion (s s' : Server) (memorySize flag addr : UInt32) (memoryId : MemoryId) : Prop :=
  ∃ a node, a ∉ s.memoryChain ∧ s'.memoryChain = s.memoryChain ++ [a] ∧ s'.heap a = some node ∧
    node.memorySize = memorySize ∧ node.flag = flag ∧
    node.memPtr = (if flag = skTeecMemAllocate then 0 else addr) ∧ node.id = memoryId ∧
    ∀ x, x ≠ a → s'.regionAt x = s.regionAt x

/-- The first node with the identifier is gone; no other record changes. -/
def RemovesRegion (s s' : Server) (memoryId : MemoryId) : Prop :=
  ∃ before a after node, s.memoryChain = before ++ a :: after ∧
    s'.memoryChain = before ++ after ∧ s.heap a = some node ∧ node.id = memoryId ∧
    (∀ x ∈ before, ∀ n, s.heap x = some n → n.id ≠ memoryId) ∧
    ∀ x, x ≠ a → s'.regionAt x = s.regionAt x

/-- No node of the list has the identifier. -/
def NewId (s : Server) (memoryId : MemoryId) : Prop :=
  ∀ x ∈ s.memoryChain, ∀ n, s.heap x = some n → n.id ≠ memoryId

/-! ## One request -/

/-- The size, the flag and the address of a register_memory request. -/
abbrev registerSize (req : Request) : UInt32 := (req.decode .registerMemoryReq).2.2.1
abbrev registerFlag (req : Request) : UInt32 := (req.decode .registerMemoryReq).2.2.2.1
abbrev registerAddr (req : Request) : UInt32 := (req.decode .registerMemoryReq).2.2.2.2

/-- The identifier of an unregister_memory request. -/
abbrev unregisterId (req : Request) : MemoryId := (req.decode .unregisterMemoryReq).2.2

theorem Server.regionAt_appendNode (s : Server) (node : TApiRegMemory) {x : Nat}
    (hx : x ≠ s.heapNext) :
    (s.appendNode node).regionAt x = s.regionAt x := by
  by_cases hlast : s.memoryChain.getLast? = some x
  · cases hn : s.heap x <;> simp [regionAt, appendNode, hx, hlast, hn, TApiRegMemory.region]
  · simp [regionAt, appendNode, hx, hlast]

theorem Server.regionAt_unlinkNode (s : Server) (a x : Nat) :
    (s.unlinkNode a).regionAt x = s.regionAt x := by
  by_cases hx : x = a
  · simp [regionAt, unlinkNode, hx]
  · cases hn : s.heap x <;> simp [regionAt, unlinkNode, hx, hn, TApiRegMemory.region]

theorem Server.findRegion_eq_some {memoryId : MemoryId} {a : Nat}
    (h : s.findRegion memoryId = some a) :
    ∃ before after, s.memoryChain = before ++ a :: after ∧
      (∀ n, s.heap a = some n → n.id = memoryId) ∧
      ∀ x ∈ before, ∀ n, s.heap x = some n → n.id ≠ memoryId := by
  obtain ⟨ha, before, after, hl, hbefore⟩ := List.find?_eq_some_iff_append.mp h
  refine ⟨before, after, hl, fun n hn => ?_, fun x hx n hn => ?_⟩
  · simpa [hn] using ha
  · simpa [hn] using hbefore x hx

theorem appendsRegion_appendNode {l : List Nat} (h : s.MemoryList l) (garbage : TApiRegMemory)
    (memorySize flag addr : UInt32) (memoryId : MemoryId) :
    AppendsRegion s (s.appendNode (requestedNode garbage memorySize flag
      (if flag ≠ skTeecMemAllocate then addr else 0) memoryId)) memorySize flag addr memoryId := by
  have happend := h.appendNode (requestedNode garbage memorySize flag
    (if flag ≠ skTeecMemAllocate then addr else 0) memoryId)
  refine ⟨s.heapNext, _, ?_, ?_, if_pos rfl, rfl, rfl, ite_not _ _ _, rfl, fun x hx => ?_⟩
  · rw [h.memoryChain_eq]
    exact fun hmem => Nat.lt_irrefl _ (h.lt_heapNext hmem)
  · rw [happend.memoryChain_eq, h.memoryChain_eq]
  · exact s.regionAt_appendNode _ hx

theorem removesRegion_unlinkNode {l : List Nat} (h : s.MemoryList l) {memoryId : MemoryId}
    {a : Nat} (ha : s.findRegion memoryId = some a) :
    RemovesRegion s ((s.unlinkNode a).discardNode a) memoryId := by
  obtain ⟨before, after, hchain, hid, hbefore⟩ := Server.findRegion_eq_some ha
  have hl : l = before ++ a :: after := by rw [← h.memoryChain_eq, hchain]
  have hmem : a ∈ l := by simp [hl]
  have hfresh : a ∉ before := by
    have hnodup := h.linked.nodup
    rw [hl] at hnodup
    exact fun hb => (List.nodup_append.mp hnodup).2.2 a hb a (List.mem_cons_self ..) rfl
  obtain ⟨node, hnode⟩ := h.mapped a hmem
  have hunlinked := (h.unlinkNode hmem).discardNode h.linked.nodup.not_mem_erase
  refine ⟨before, a, after, node, hchain, ?_, hnode, hid node hnode, hbefore, fun x hx => ?_⟩
  · rw [hunlinked.memoryChain_eq, hl, List.erase_append_right _ hfresh, List.erase_cons_head]
  · rw [← s.regionAt_unlinkNode a x]
    simp [Server.regionAt, Server.discardNode, hx]

/-- A handler that fails is not answered. -/
theorem finished_error {c : Command} {err : SkStatus} {s₀ : Server} {l : Layout}
    {w : SkHeader × l.Fields} (h : finished c (.ok (err, s₀)) = .ok (status, s'))
    (hanswered : Answered status s' l w) : err = skErrorSuccess := by
  simp only [finished, Except.map, Except.ok.injEq, Prod.mk.injEq] at h
  have hsuccess := hanswered.success
  by_contra herr
  rw [← h.1, if_pos herr] at hsuccess
  exact c.errOf_ne hsuccess

theorem registerMemory_step (hs : s.Sound) (ha : Accepted s req .registerMemory)
    (hrun : handleRequest cfg req s = .ok (status, s')) {addr : UInt32} {memoryId : MemoryId}
    (hanswered : Answered status s' .registerMemoryResp
      (req.hdr, addr, memoryId, skErrorSuccess)) :
    AppendsRegion s s' (registerSize req) (registerFlag req) (registerAddr req) memoryId := by
  obtain ⟨l, hl⟩ := (hs.receive req).regions
  rw [handleRequest_of_accepted cfg hs ha] at hrun
  change finished .registerMemory (serveRegisterMemory req.env _ _ (registerSize req)
    (registerFlag req) (registerAddr req) _) = _ at hrun
  rw [serveRegisterMemory_run _ _ hl] at hrun
  split at hrun
  · exact absurd (finished_error hrun hanswered) (by decide)
  split at hrun
  swap
  · simp [finished, Except.map] at hrun
  rename_i hc
  have htouched : ((receive req s).after ((receive req s).tObj.conn.touchContext ⟨_, hc⟩
      (req.env.timer (receive req s).clk)) 1 []).MemoryList l := hl.frame rfl rfl rfl
  dsimp only at hrun
  split at hrun
  · exact absurd (finished_error hrun hanswered) (by decide)
  rename_i garbage _
  have happends := appendsRegion_appendNode htouched garbage (registerSize req) (registerFlag req)
    (registerAddr req)
  generalize (if registerFlag req ≠ skTeecMemAllocate then registerAddr req else 0) = memPtr
    at hrun happends
  split at hrun
  · exact absurd (finished_error hrun hanswered) (by decide)
  split at hrun
  · simp [finished, Except.map] at hrun
  -- the driver has allocated the region, and the reply carries its identifier
  obtain ⟨_, hw, _, rfl⟩ := (finished_answer_iff (c := .registerMemory)).mp ⟨hrun, hanswered⟩
  simp only [Prod.mk.injEq] at hw
  obtain ⟨_, _, rfl, _⟩ := hw
  exact happends _

theorem unregisterMemory_step (hs : s.Sound) (ha : Accepted s req .unregisterMemory)
    (hrun : handleRequest cfg req s = .ok (status, s'))
    (hanswered : Answered status s' .unregisterMemoryResp (req.hdr, skErrorSuccess)) :
    RemovesRegion s s' (unregisterId req) := by
  obtain ⟨l, hl⟩ := (hs.receive req).regions
  rw [handleRequest_of_accepted cfg hs ha] at hrun
  change finished .unregisterMemory (serveUnregisterMemory req.env _ _ (unregisterId req) _) = _
    at hrun
  rw [serveUnregisterMemory_run _ _ hl] at hrun
  split at hrun
  · exact absurd (finished_error hrun hanswered) (by decide)
  split at hrun
  swap
  · simp [finished, Except.map] at hrun
  rename_i hc
  have htouched : ((receive req s).after ((receive req s).tObj.conn.touchContext ⟨_, hc⟩
      (req.env.timer (receive req s).clk)) 1 []).MemoryList l := hl.frame rfl rfl rfl
  dsimp only at hrun
  split at hrun
  · exact absurd (finished_error hrun hanswered) (by decide)
  rename_i a hregion
  have hremoves := removesRegion_unlinkNode htouched hregion
  split at hrun
  · simp [finished, Except.map] at hrun
  split at hrun
  · exact absurd (finished_error hrun hanswered) (by decide)
  obtain ⟨_, _, _, rfl⟩ := (finished_answer_iff (c := .unregisterMemory)).mp ⟨hrun, hanswered⟩
  exact hremoves

/-! ## Whole runs -/

/-- The heap and the region table are those of `s`. -/
def SameRegions (s s' : Server) : Prop :=
  s'.heap = s.heap ∧ s'.tObj.rmem = s.tObj.rmem

private theorem sameRegions_answer {l : Layout} {w : SkHeader × l.Fields} {s₀ : Server}
    (h : answer l w s₀ = .ok (status, s')) (hs : SameRegions s s₀) : SameRegions s s' := by
  rw [answer_ok h]
  exact hs

/-- What the two commands that look a session up do with it. -/
private theorem sameRegions_found {conn : TApiConnectionTable}
    {contextHandle sessionHandle : Handle} {l : Layout} {hdr : SkHeader}
    {status : SkStatus → l.Fields} {found : CSlot → SSlot → Except Fault (SkStatus × Server)}
    {err : SkStatus}
    (hrun : (match conn.findObjects contextHandle sessionHandle with
      | .error e => Except.error e
      | .ok (.error err) =>
        if err = skErrorVerifyFailed then .ok (err, s) else answer l (hdr, status err) s
      | .ok (.ok (c, i)) => found c i) = .ok (err, s'))
    (hfound : ∀ c i, ∃ w s₀, found c i = answer l (hdr, w) s₀ ∧ SameRegions s s₀) :
    SameRegions s s' := by
  cases hfind : conn.findObjects contextHandle sessionHandle with
  | error e =>
    rw [hfind] at hrun
    cases hrun
  | ok r =>
    rw [hfind] at hrun
    rcases r with e | ⟨c, i⟩
    · dsimp only at hrun
      split at hrun
      · cases hrun
        exact ⟨rfl, rfl⟩
      · exact sameRegions_answer hrun ⟨rfl, rfl⟩
    · obtain ⟨w, s₀, hanswer, hsame⟩ := hfound c i
      exact sameRegions_answer (hanswer.symm.trans hrun) hsame

/-- Only two commands look at the regions. -/
theorem serve_sameRegions (env : Env) (h : s.Sound) {c : Command}
    {v : SkHeader × c.reqLayout.Fields} (hrun : c.serve cfg env v s = .ok (status, s'))
    (hregister : c ≠ .registerMemory) (hunregister : c ≠ .unregisterMemory) :
    SameRegions s s' := by
  cases c with
  | registerMemory => exact absurd rfl hregister
  | unregisterMemory => exact absurd rfl hunregister
  | openContext =>
    change serveOpenContext _ _ _ _ _ _ = _ at hrun
    rw [serveOpenContext_run] at hrun
    split at hrun
    · exact sameRegions_answer hrun ⟨rfl, rfl⟩
    split at hrun
    · exact sameRegions_answer hrun ⟨rfl, rfl⟩
    split at hrun
    · cases hrun
    · exact sameRegions_answer hrun ⟨rfl, rfl⟩
  | closeContext =>
    change serveCloseContext _ _ _ = _ at hrun
    rw [serveCloseContext_run _ h.table] at hrun
    split at hrun
    · exact sameRegions_answer hrun ⟨rfl, rfl⟩
    split at hrun
    · cases hrun
    split at hrun
    · cases hrun
    · exact sameRegions_answer hrun ⟨rfl, rfl⟩
  | openSession =>
    change serveOpenSession _ _ _ _ _ _ = _ at hrun
    rw [serveOpenSession_run _ _ h.table] at hrun
    split at hrun
    · exact sameRegions_answer hrun ⟨rfl, rfl⟩
    split at hrun
    · cases hrun
    split at hrun
    · exact sameRegions_answer hrun ⟨rfl, rfl⟩
    split at hrun
    · cases hrun
    · exact sameRegions_answer hrun ⟨rfl, rfl⟩
  | closeSession =>
    change serveCloseSession _ _ _ _ _ = _ at hrun
    rw [serveCloseSession_run _ _ h.table h.room h.slots] at hrun
    exact sameRegions_found hrun fun c i => ⟨_, _, rfl, rfl, rfl⟩
  | invokeCommand =>
    change serveInvokeCommand _ _ _ _ _ _ = _ at hrun
    rw [serveInvokeCommand_run _ _ h.table h.room] at hrun
    exact sameRegions_found hrun fun c i => ⟨_, _, rfl, rfl, rfl⟩
  | check =>
    change serveCheck _ _ _ _ = _ at hrun
    rw [serveCheck_run _ _ _ h.table] at hrun
    split at hrun
    · cases hrun
    · exact sameRegions_answer hrun ⟨rfl, rfl⟩

/-- A request counts at most one region in. -/
theorem serve_regionCount (env : Env) (h : s.Sound) {c : Command}
    {v : SkHeader × c.reqLayout.Fields} (hrun : c.serve cfg env v s = .ok (status, s')) :
    s'.tObj.rmem.memRegionCount ≤ s.tObj.rmem.memRegionCount + 1 := by
  have hmore : s.tObj.rmem.memRegionCount ≤ s.tObj.rmem.memRegionCount + 1 :=
    Int.le_add_one (Int.le_refl _)
  obtain ⟨l, hl⟩ := h.regions
  cases c with
  | registerMemory =>
    change serveRegisterMemory _ _ _ _ _ _ _ = _ at hrun
    rw [serveRegisterMemory_run _ _ hl] at hrun
    dsimp only at hrun
    generalize (if v.2.2.2.1 ≠ skTeecMemAllocate then v.2.2.2.2 else 0) = memPtr at hrun
    split at hrun
    · cases hrun
      exact hmore
    split at hrun
    swap
    · cases hrun
    split at hrun
    · cases hrun
      exact hmore
    split at hrun
    · cases hrun
      exact hmore
    split at hrun
    · cases hrun
    · rw [answer_ok hrun]
      exact Int.le_refl _
  | unregisterMemory =>
    change serveUnregisterMemory _ _ _ _ _ = _ at hrun
    rw [serveUnregisterMemory_run _ _ hl] at hrun
    dsimp only at hrun
    have hless : s.tObj.rmem.memRegionCount - 1 ≤ s.tObj.rmem.memRegionCount + 1 := by omega
    split at hrun
    · cases hrun
      exact hmore
    split at hrun
    swap
    · cases hrun
    split at hrun
    · cases hrun
      exact hmore
    split at hrun
    · cases hrun
    split at hrun
    · cases hrun
      exact hless
    · rw [answer_ok hrun]
      exact hless
  | _ =>
    have hsame := serve_sameRegions env h hrun (by simp) (by simp)
    rw [hsame.2]
    exact hmore

theorem handleRequest_regionCount (h : s.Sound)
    (hrun : handleRequest cfg req s = .ok (status, s')) :
    s'.tObj.rmem.memRegionCount ≤ s.tObj.rmem.memRegionCount + 1 := by
  rcases handleRequest_outcome h hrun with rfl | ⟨c, hc, _⟩
  · exact Int.le_add_one (Int.le_refl _)
  · rw [handleRequest_of_accepted cfg h hc] at hrun
    cases hserve : c.serve cfg req.env (req.decode c.reqLayout) (receive req s) with
    | error e => simp [hserve, Except.map] at hrun
    | ok r =>
      simp only [hserve, Except.map, Except.ok.injEq, Prod.mk.injEq] at hrun
      rw [← hrun.2]
      have hcount := serve_regionCount req.env (h.receive req) hserve
      exact hcount

theorem ServerRun.regionCount_le {tr : List ServerStep} (h : ServerRun cfg tr s) :
    s.tObj.rmem.memRegionCount ≤ tr.length := by
  obtain ⟨s₀, h₀, hrun⟩ := h
  have hinv := hrun.invariant_of (fun _ => True) (fun _ _ => trivial) (fun tr s =>
    s.Sound ∧ s.tObj.rmem.memRegionCount ≤ tr.length) ?_ ?_
  · exact hinv.2
  · exact ⟨h₀.sound, by simp [h₀.conn_rmem.2]⟩
  · rintro tr s req status s' ⟨hs, hcount⟩ hstep _
    have hnext := handleRequest_regionCount hs hstep
    refine ⟨handleRequest_sound hs hstep, ?_⟩
    rw [List.length_append, List.length_singleton, Nat.cast_add, Nat.cast_one]
    omega

theorem Server.Sound.registry (h : s.Sound) (hbound : s.tObj.rmem.memRegionCount < 2 ^ 31) :
    Registry s := by
  obtain ⟨l, hl⟩ := h.regions
  have hchain := hl.memoryChain_eq
  refine ⟨hchain ▸ hl.linked, hchain ▸ hl.linked.nodup, ?_, hchain ▸ hl.mapped, hchain ▸ hl.count,
    hbound⟩
  rw [hchain]
  exact fun x hx y hy => hl.linked.next_iff_prev hx hy

/-- The list of `s` with its records, as it was. -/
def RestoresRegions (s s' : Server) : Prop :=
  s'.memoryChain = s.memoryChain ∧ s'.tObj.rmem = s.tObj.rmem ∧
    ∀ x ∈ s.memoryChain, s'.heap x = s.heap x

/-- The node that an identifier removes is the one appended under it. -/
theorem removes_appended {memorySize flag addr : UInt32} {memoryId : MemoryId}
    (hnew : NewId s memoryId) (happends : AppendsRegion s s' memorySize flag addr memoryId)
    (hremoves : RemovesRegion s' s'' memoryId) :
    s''.memoryChain = s.memoryChain ∧ ∀ x ∈ s.memoryChain, s''.regionAt x = s.regionAt x := by
  obtain ⟨a, node, hfresh, hchain, hnode, _, _, _, hid, hkeeps⟩ := happends
  obtain ⟨before, b, after, node', hchain', hrest, hnode', hid', hbefore, hkeeps'⟩ := hremoves
  have hne : ∀ x ∈ s.memoryChain, x ≠ a := fun x hx he => hfresh (he ▸ hx)
  rw [hchain'] at hchain
  rcases List.eq_nil_or_concat after with rfl | ⟨after', z, rfl⟩
  · obtain ⟨rfl, hb⟩ := List.append_inj' hchain rfl
    obtain rfl := List.singleton_inj.mp hb
    refine ⟨by rw [hrest, List.append_nil], fun x hx => ?_⟩
    rw [hkeeps' x (hne x hx), hkeeps x (hne x hx)]
  · rw [List.concat_eq_append, ← List.cons_append, ← List.append_assoc] at hchain
    obtain ⟨hl, _⟩ := List.append_inj' hchain rfl
    have hmem : b ∈ s.memoryChain := by simp [← hl]
    -- the node removed was there before, under an identifier that is new
    have hregion := hkeeps b (hne b hmem)
    rw [Server.regionAt, hnode'] at hregion
    obtain ⟨n, hn, hsame⟩ := Option.map_eq_some_iff.mp hregion.symm
    have hnid : n.region.id = node'.region.id := congrArg _ hsame
    exact absurd (hnid.trans hid') (hnew b hmem n hn)

/-- The list and the records determine the nodes. -/
theorem restoresRegions_of_records (h : Registry s) (h' : Registry s')
    (hchain : s'.memoryChain = s.memoryChain)
    (hrecords : ∀ x ∈ s.memoryChain, s'.regionAt x = s.regionAt x) : RestoresRegions s s' := by
  have hlinked := h'.linked
  rw [hchain] at hlinked
  refine ⟨hchain, ?_, fun x hx => ?_⟩
  · have hm : s'.tObj.rmem.m = s.tObj.rmem.m := by rw [hlinked.start_eq, h.linked.start_eq]
    have hcount := h'.count
    rw [hchain, ← h.count] at hcount
    exact congrArg₂ TApiRegMemoryTable.mk hm hcount
  · obtain ⟨n, hn⟩ := h.mapped x hx
    obtain ⟨n', hn'⟩ := h'.mapped x (hchain ▸ hx)
    have hregion := hrecords x hx
    obtain ⟨hnext, hprev⟩ := hlinked.links_unique h.linked hx
    simp only [Server.regionAt, hn, hn', Option.map_some, Option.some.injEq] at hregion
    simp only [Server.memoryLinks, heapLinks, hn, hn', Option.bind_some] at hnext hprev
    rw [hn, hn']
    cases n
    cases n'
    simp_all [TApiRegMemory.region]

/-- The step registers a region and is answered with its address and identifier. -/
def Registers (x : ServerStep) (addr : UInt32) (memoryId : MemoryId) : Prop :=
  Accepted x.pre x.input .registerMemory ∧
    Answered x.result x.post .registerMemoryResp (x.input.hdr, addr, memoryId, skErrorSuccess)

instance (x : ServerStep) (addr : UInt32) (memoryId : MemoryId) :
    Decidable (Registers x addr memoryId) := inferInstanceAs (Decidable (_ ∧ _))

/-- The step unregisters the region with this identifier and is answered. -/
def Unregisters (x : ServerStep) (memoryId : MemoryId) : Prop :=
  Accepted x.pre x.input .unregisterMemory ∧ unregisterId x.input = memoryId ∧
    Answered x.result x.post .unregisterMemoryResp (x.input.hdr, skErrorSuccess)

instance (x : ServerStep) (memoryId : MemoryId) : Decidable (Unregisters x memoryId) :=
  inferInstanceAs (Decidable (_ ∧ _ ∧ _))

/-- Over every run the regions are a queue from which the first with an
identifier can be taken: what is registered goes to the end, and registering and
unregistering under a new identifier changes nothing. -/
theorem memory_registry {tr : List ServerStep} (hrun : ServerRun cfg tr s)
    (hlen : tr.length < 2 ^ 31) :
    Registry s ∧
    (∀ x ∈ tr, ∀ addr memoryId, Registers x addr memoryId → AppendsRegion x.pre x.post
      (registerSize x.input) (registerFlag x.input) (registerAddr x.input) memoryId) ∧
    (∀ x ∈ tr, ∀ memoryId, Unregisters x memoryId → RemovesRegion x.pre x.post memoryId) ∧
    ∀ before x y after addr memoryId, tr = before ++ x :: y :: after → NewId x.pre memoryId →
      Registers x addr memoryId → Unregisters y memoryId → RestoresRegions x.pre y.post := by
  have happends : ∀ x ∈ tr, ∀ addr memoryId, Registers x addr memoryId →
      AppendsRegion x.pre x.post (registerSize x.input) (registerFlag x.input)
        (registerAddr x.input) memoryId := by
    rintro x hx addr memoryId ⟨hacc, hanswered⟩
    obtain ⟨hpre, hstep⟩ := hrun.step_of_mem hx
    exact registerMemory_step hpre.sound hacc hstep hanswered
  have hremoves : ∀ x ∈ tr, ∀ memoryId, Unregisters x memoryId →
      RemovesRegion x.pre x.post memoryId := by
    rintro x hx memoryId ⟨hacc, rfl, hanswered⟩
    obtain ⟨hpre, hstep⟩ := hrun.step_of_mem hx
    exact unregisterMemory_step hpre.sound hacc hstep hanswered
  have hbound : ∀ {tr' : List ServerStep} {s' : Server}, ServerRun cfg tr' s' →
      tr'.length < 2 ^ 31 → Registry s' := by
    intro tr' s' hrun' hlen'
    refine Server.Sound.registry (Reachable.sound ⟨tr', hrun'⟩) ?_
    have hcount := hrun'.regionCount_le
    omega
  refine ⟨hbound hrun hlen, happends, hremoves, ?_⟩
  rintro before x y after addr memoryId rfl hnew hreg hunreg
  have hx := happends x (by simp) addr memoryId hreg
  have hy := hremoves y (by simp) memoryId hunreg
  simp only [List.length_append, List.length_cons] at hlen
  obtain ⟨s₀, h₀, hsteps⟩ := hrun
  obtain ⟨hbefore, hstepx⟩ := hsteps.split rfl
  have htr : before ++ x :: y :: after = (before ++ [x]) ++ y :: after := by simp
  obtain ⟨hbefore', hstepy⟩ := hsteps.split htr
  have hpre : Registry x.pre := hbound ⟨s₀, h₀, hbefore⟩ (by omega)
  have hpost : Registry y.post := hbound ⟨s₀, h₀, hbefore'.next hstepy⟩ (by simp; omega)
  rw [← hbefore'.eq_post] at hx
  obtain ⟨hchain, hrecords⟩ := removes_appended hnew hx hy
  exact restoresRegions_of_records hpre hpost hchain hrecords

/-- A registration in which the driver gives the identifier that `malloc` left in the node. -/
def sampleRegisterMemory (k : UInt8) : Request :=
  .of .registerMemoryReq (⟨1, 2, skTapiRegisterMemory⟩, fun _ => 5, 64, 1, 256)
    { sampleEnv 0 with malloc := some ⟨fun _ => k, 0, 0, 0, 0, none, none⟩ }

def sampleUnregisterMemory (k : UInt8) : Request :=
  .of .unregisterMemoryReq (⟨1, 2, skTapiUnregisterMemory⟩, fun _ => 5, fun _ => k) (sampleEnv 0)

/-- A region registered and unregistered behind another. -/
theorem memory_registry_restored : ∃ before x y s, ServerRun sampleConfig (before ++ [x, y]) s ∧
    x.pre.memoryChain.length = 1 ∧ NewId x.pre (fun _ => 2) ∧
    Registers x 256 (fun _ => 2) ∧ Unregisters y (fun _ => 2) ∧
    RemovesRegion y.pre y.post (fun _ => 2) ∧ RestoresRegions x.pre y.post := by
  obtain ⟨tr, s, hrun, hlen, hx, hy⟩ := exists_run sampleConfig (sampleServer_started 64)
    [sampleOpenContext, sampleRegisterMemory 1, sampleRegisterMemory 2, sampleUnregisterMemory 2]
    (fun tr _ => tr.length = 4 ∧
      (∀ x ∈ tr[2]?, Registers x 256 (fun _ => 2) ∧ x.pre.memoryChain.length = 1 ∧
        ∀ a ∈ x.pre.memoryChain, ∀ n ∈ x.pre.heap a, n.id ≠ fun _ => 2) ∧
      ∀ y ∈ tr[3]?, Unregisters y (fun _ => 2)) (by decide +kernel)
  obtain ⟨v, tr, rfl⟩ := List.exists_cons_of_length_eq_add_one hlen
  obtain ⟨w, x, y, rfl⟩ := List.length_eq_three.mp (Nat.succ.inj hlen)
  obtain ⟨hreg, hone, hnew⟩ := hx x rfl
  have hunreg := hy y rfl
  obtain ⟨_, _, hremoves, hrestores⟩ := memory_registry hrun (by simp)
  exact ⟨[v, w], x, y, s, hrun, hone, hnew, hreg, hunreg, hremoves y (by simp) _ hunreg,
    hrestores [v, w] x y [] _ _ rfl hnew hreg hunreg⟩

end SkSdk
