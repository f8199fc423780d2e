import SkSdk.Swld.MemoryRegistry

/-!
What a memory request does besides registering and unregistering a region: the
context it marks as used, and the registry after a request that has failed.
-/

namespace SkSdk
open ByteMemory FaultState DoublyLinked

variable {cfg : Config} {req : Request} {s s' : Server} {status : SkStatus}

/-- The context handle that a memory request presents. -/
abbrev registerHandle (req : Request) : Handle := (req.decode .registerMemoryReq).2.1
abbrev unregisterHandle (req : Request) : Handle := (req.decode .unregisterMemoryReq).2.1

/-- The address that a register_memory request gives to the driver. -/
def registerPtr (req : Request) : UInt32 :=
  if registerFlag req ≠ skTeecMemAllocate then registerAddr req else 0

/-- What the driver makes of the region asked for, given a fresh node. -/
def registerDriver (req : Request) (garbage : TApiRegMemory) : SkStatus × MemoryId × Nat :=
  req.env.allocateMemory (registerPtr req) (registerSize req) (registerFlag req) garbage.id
    skTapiMemoryIdLength garbage.info

/-- The request has marked context `c` as used. -/
def touchedServer (req : Request) (s : Server) (c : CSlot) : Server :=
  (receive req s).after (s.tObj.conn.touchContext c (req.env.timer 0)) 1 []

/-- A register_memory request after the look-up. -/
def registerOutcome (req : Request) (s : Server) : Except Fault (SkStatus × Server) :=
  match req.env.malloc with
  | none => .ok (skErrorNoMemory, s)
  | some garbage =>
    let driver := registerDriver req garbage
    let node := requestedNode garbage (registerSize req) (registerFlag req) (registerPtr req)
      driver.2.1
    if driver.1 ≠ skErrorSuccess then
      .ok (skErrorFailedSharedMemoryReq, (s.allocated node).discardNode s.heapNext)
    else if driver.2.2 ≠ skTapiMemoryIdLength then .error .assert
    else answer .registerMemoryResp (req.hdr, registerPtr req, driver.2.1, skErrorSuccess)
      (s.appendNode node)

/-- An unregister_memory request after the look-up. -/
def unregisterOutcome (req : Request) (s : Server) : Except Fault (SkStatus × Server) :=
  match s.findRegion (unregisterId req) with
  | none => .ok (skErrorNoMemory, s)
  | some a =>
    match s.heap a with
    | none => .error .nullDeref
    | some node =>
      if req.env.freeMemory node.memPtr node.info ≠ skErrorSuccess then
        .ok (skErrorFailedSharedMemoryReq, s.unlinkNode a)
      else answer .unregisterMemoryResp (req.hdr, skErrorSuccess) ((s.unlinkNode a).discardNode a)

/-- The look-up of a memory request, before what is particular to it. -/
def lookedUp (req : Request) (s : Server) (handle : Handle)
    (outcome : Server → Except Fault (SkStatus × Server)) : Except Fault (SkStatus × Server) :=
  match s.tObj.conn.findContext handle with
  | none => .ok (skErrorContextHandleNotFound, receive req s)
  | some c =>
    if hc : c.val * skTapiContextHandleSize < skTapiMaxConnectionsPerContext then
      outcome (touchedServer req s ⟨_, hc⟩)
    else .error .outOfRange

theorem registerMemory_request (cfg : Config) (hs : s.Sound) (ha : Accepted s req .registerMemory) :
    handleRequest cfg req s =
      finished .registerMemory (lookedUp req s (registerHandle req) (registerOutcome req)) := by
  obtain ⟨l, hl⟩ := (hs.receive req).regions
  rw [handleRequest_of_accepted cfg hs ha]
  change finished .registerMemory (serveRegisterMemory req.env (req.decode .registerMemoryReq).1
    (registerHandle req) (registerSize req) (registerFlag req) (registerAddr req) _) = _
  rw [req.decode_hdr, serveRegisterMemory_run _ _ hl]
  rfl

theorem unregisterMemory_request (cfg : Config) (hs : s.Sound)
    (ha : Accepted s req .unregisterMemory) :
    handleRequest cfg req s =
      finished .unregisterMemory (lookedUp req s (unregisterHandle req) (unregisterOutcome req)) := by
  obtain ⟨l, hl⟩ := (hs.receive req).regions
  rw [handleRequest_of_accepted cfg hs ha]
  change finished .unregisterMemory (serveUnregisterMemory req.env
    (req.decode .unregisterMemoryReq).1 (unregisterHandle req) (unregisterId req) _) = _
  rw [req.decode_hdr, serveUnregisterMemory_run _ _ hl]
  rfl

/-- The node was filled in, but the driver's identifier is not of the length asserted. -/
def IdLengthAsserted (s : Server) (req : Request) : Prop :=
  Accepted s req .registerMemory ∧ ∃ garbage, req.env.malloc = some garbage ∧
    (registerDriver req garbage).1 = skErrorSuccess ∧
    (registerDriver req garbage).2.2 ≠ skTapiMemoryIdLength

/-- A register_memory request that has passed the look-up keeps the connection
table, and can be stopped only by the assertion on the identifier's length. -/
theorem registerOutcome_cases (ha : Accepted s' req .registerMemory) (s : Server) :
    (¬ IdLengthAsserted s' req ∧
      ∃ err s₁, registerOutcome req s = .ok (err, s₁) ∧ s₁.tObj.conn = s.tObj.conn) ∨
    (IdLengthAsserted s' req ∧ registerOutcome req s = .error .assert) := by
  unfold registerOutcome
  cases hmalloc : req.env.malloc with
  | none =>
    refine Or.inl ⟨fun h => ?_, _, _, rfl, rfl⟩
    obtain ⟨-, garbage, hgarbage, -⟩ := h
    simp [hmalloc] at hgarbage
  | some garbage =>
    dsimp only
    split
    · next hfailed =>
      refine Or.inl ⟨fun h => ?_, _, _, rfl, rfl⟩
      obtain ⟨-, garbage', hgarbage, hdriver, -⟩ := h
      obtain rfl := Option.some.inj (hmalloc.symm.trans hgarbage)
      exact hfailed hdriver
    · next hdriver =>
      split
      · next hlen => exact Or.inr ⟨⟨ha, garbage, hmalloc, not_not.mp hdriver, hlen⟩, rfl⟩
      · next hlen =>
        refine Or.inl ⟨fun h => ?_, _, _, rfl, rfl⟩
        obtain ⟨-, garbage', hgarbage, -, hlen'⟩ := h
        obtain rfl := Option.some.inj (hmalloc.symm.trans hgarbage)
        exact hlen hlen'

theorem unregisterOutcome_cases {l : List Nat} (h : s.MemoryList l) :
    ∃ err s₁, unregisterOutcome req s = .ok (err, s₁) ∧ s₁.tObj.conn = s.tObj.conn := by
  unfold unregisterOutcome
  cases hregion : s.findRegion (unregisterId req) with
  | none => exact ⟨_, _, rfl, rfl⟩
  | some a =>
    have ha : a ∈ l := by
      rw [← h.memoryChain_eq]
      exact List.mem_of_find?_eq_some hregion
    obtain ⟨node, hnode⟩ := h.mapped a ha
    simp only [hnode]
    split
    · exact ⟨_, _, rfl, rfl⟩
    · exact ⟨_, _, rfl, rfl⟩

/-! ## The context marked as used -/

/-- A request that presents `handle` to register or to unregister memory. -/
inductive MemoryRequest (s : Server) (req : Request) : Handle → Prop
  | register (h : Accepted s req .registerMemory) : MemoryRequest s req (registerHandle req)
  | unregister (h : Accepted s req .unregisterMemory) : MemoryRequest s req (unregisterHandle req)

/-- Of table `conn` only the access time of context `i` has been set, and no
table was indexed out of its range. A request that an assertion stops leaves no table. -/
def TouchesOnly (r : Except Fault (SkStatus × Server)) (conn : TApiConnectionTable) (i : CSlot)
    (now : UInt32) : Prop :=
  match r with
  | .ok (_, s') => s'.tObj.conn = conn.touchContext i now
  | .error e => e ≠ .outOfRange

/-- The look-up finds slot `j`, and sixteen times `j` is a slot that may stand for `i`. -/
def OffsetFits (s : Server) (req : Request) (handle : Handle) (i : CSlot) : Prop :=
  let conn := s.tObj.conn
  let now := req.env.timer 0
  ∃ j k : CSlot, conn.findContext handle = some j ∧ k.val = j.val * skTapiContextHandleSize ∧
    (k = i ∨ ((conn.ctable k).timeAccess = now ∧ (conn.ctable i).timeAccess = now) ∨
      IdLengthAsserted s req)

theorem touchContext_eq_iff (conn : TApiConnectionTable) (k i : CSlot) (now : UInt32) :
    conn.touchContext k now = conn.touchContext i now ↔
      k = i ∨ ((conn.ctable k).timeAccess = now ∧ (conn.ctable i).timeAccess = now) := by
  constructor
  · intro heq
    by_cases hki : k = i
    · exact Or.inl hki
    have hctable := congrArg TApiConnectionTable.ctable heq
    have hk := congrArg TApiContextTable.timeAccess (congrFun hctable k)
    have hi := congrArg TApiContextTable.timeAccess (congrFun hctable i)
    simp only [TApiConnectionTable.touchContext, TApiConnectionTable.updContext,
      Function.update_self, Function.update_of_ne hki, Function.update_of_ne (Ne.symm hki)] at hk hi
    exact Or.inr ⟨hk.symm, hi⟩
  · rintro (rfl | ⟨hk, hi⟩)
    · rfl
    · have hkeeps : ∀ c, (conn.ctable c).timeAccess = now → conn.touchContext c now = conn := by
        rintro c rfl
        exact congrArg (fun t => { conn with ctable := t }) (Function.update_eq_self c conn.ctable)
      rw [hkeeps k hk, hkeeps i hi]

/-- What follows the look-up decides nothing but whether the assertion stops the request. -/
private theorem lookedUp_touches_iff {c : Command} {handle : Handle} {i : CSlot}
    (hi : handleAt s.tObj.conn.cthandles i = handle)
    {outcome : Server → Except Fault (SkStatus × Server)}
    (houtcome : ∀ k, (¬ IdLengthAsserted s req ∧ ∃ err s₁, outcome (touchedServer req s k) =
        .ok (err, s₁) ∧ s₁.tObj.conn = s.tObj.conn.touchContext k (req.env.timer 0)) ∨
      (IdLengthAsserted s req ∧ outcome (touchedServer req s k) = .error .assert)) :
    TouchesOnly (finished c (lookedUp req s handle outcome)) s.tObj.conn i (req.env.timer 0) ↔
      OffsetFits s req handle i := by
  unfold lookedUp OffsetFits
  cases hfind : s.tObj.conn.findContext handle with
  | none => exact absurd hi (lookup_eq_none.mp hfind i)
  | some j =>
    dsimp only
    split
    · next hj =>
      constructor
      · intro htouches
        refine ⟨j, ⟨_, hj⟩, hfind, rfl, ?_⟩
        rcases houtcome ⟨_, hj⟩ with ⟨-, err, s₁, hrun, hconn⟩ | ⟨hasserted, -⟩
        · rw [hrun] at htouches
          have heq := (touchContext_eq_iff _ _ _ _).mp (hconn.symm.trans htouches)
          exact heq.imp_right Or.inl
        · exact Or.inr (Or.inr hasserted)
      · rintro ⟨j', k, hj', hk, hfits⟩
        obtain rfl := Option.some.inj (hfind.symm.trans hj')
        obtain rfl : k = ⟨_, hj⟩ := Fin.ext hk
        rcases houtcome ⟨_, hj⟩ with ⟨hnot, err, s₁, hrun, hconn⟩ | ⟨-, hrun⟩
        · rw [hrun]
          refine hconn.trans ((touchContext_eq_iff _ _ _ _).mpr ?_)
          rcases hfits with heq | hsame | hasserted
          · exact Or.inl heq
          · exact Or.inr hsame
          · exact absurd hasserted hnot
        · rw [hrun]
          simp [finished, Except.map, TouchesOnly]
    · next hj =>
      refine iff_of_false (fun htouches => htouches rfl) ?_
      rintro ⟨j', k, hj', hk, -⟩
      obtain rfl := Option.some.inj (hfind.symm.trans hj')
      exact hj (hk ▸ k.isLt)

/-- A memory request under the handle of context slot `i` leaves the rest of the
table alone exactly if the look-up's byte offset, taken for a slot number, comes
out at `i` (with handles that differ only slot 0 does), or no difference shows. -/
theorem memory_request_touches_iff (h : Reachable cfg s) {handle : Handle}
    (hreq : MemoryRequest s req handle) {i : CSlot}
    (hi : handleAt s.tObj.conn.cthandles i = handle) :
    TouchesOnly (handleRequest cfg req s) s.tObj.conn i (req.env.timer 0) ↔
      OffsetFits s req handle i := by
  cases hreq with
  | register ha =>
    rw [registerMemory_request cfg h.sound ha]
    exact lookedUp_touches_iff hi fun k => registerOutcome_cases ha (touchedServer req s k)
  | unregister ha =>
    obtain ⟨l, hl⟩ := (h.sound.receive req).regions
    rw [unregisterMemory_request cfg h.sound ha]
    refine lookedUp_touches_iff hi fun k => Or.inl ⟨fun hasserted => ?_, ?_⟩
    · exact absurd (hasserted.1.command.symm.trans ha.command) (by simp)
    · have htouched : (touchedServer req s k).MemoryList l := hl.frame rfl rfl rfl
      exact unregisterOutcome_cases htouched

/-- A first context is the one whose access time is set. -/
theorem memory_request_touches_first : ∃ s,
    (s.tObj.conn.ctable 0).active = true ∧
    TouchesOnly (handleRequest sampleConfig (sampleRegisterMemory 0) s) s.tObj.conn 0
      ((sampleRegisterMemory 0).env.timer 0) := by
  obtain ⟨tr, s, hrun, ha, hactive, hhandle, hfind⟩ := exists_run sampleConfig
    (sampleServer_started 64) [sampleOpenContext]
    (fun _ s => Accepted s (sampleRegisterMemory 0) .registerMemory ∧
      (s.tObj.conn.ctable 0).active = true ∧
      handleAt s.tObj.conn.cthandles (0 : CSlot) = registerHandle (sampleRegisterMemory 0) ∧
      s.tObj.conn.findContext (registerHandle (sampleRegisterMemory 0)) = some 0)
    (by decide +kernel)
  exact ⟨s, hactive, (memory_request_touches_iff ⟨tr, hrun⟩ (.register ha) hhandle).mpr
    ⟨0, 0, hfind, rfl, Or.inl rfl⟩⟩

/-- The request of the second context opened, at time 8. -/
def sampleRegisterSecond : Request :=
  .of .registerMemoryReq (⟨1, 2, skTapiRegisterMemory⟩, fun _ => 6, 64, 1, 256)
    { sampleEnv 0 with timer := fun _ => 8 }

/-- With a second context, it is context 16 whose access time is set. -/
theorem memory_request_touches_other : ∃ s, Reachable sampleConfig s ∧
    MemoryRequest s sampleRegisterSecond (registerHandle sampleRegisterSecond) ∧
    s.tObj.conn.findContext (registerHandle sampleRegisterSecond) = some 1 ∧
    (s.tObj.conn.ctable 1).active = true ∧
    ¬ TouchesOnly (handleRequest sampleConfig sampleRegisterSecond s) s.tObj.conn 1
      (sampleRegisterSecond.env.timer 0) := by
  obtain ⟨tr, s, hrun, ha, hactive, hfind, hleft⟩ := exists_run sampleConfig
    (sampleServer_started 64)
    [sampleOpenContext, .of .openContextReq (⟨1, 2, skTapiOpenContext⟩, 1) (sampleEnv 6)]
    (fun _ s => Accepted s sampleRegisterSecond .registerMemory ∧
      (s.tObj.conn.ctable 1).active = true ∧
      s.tObj.conn.findContext (registerHandle sampleRegisterSecond) = some 1 ∧
      (handleRequest sampleConfig sampleRegisterSecond s).toOption.any (fun r =>
        (r.2.tObj.conn.ctable 1).timeAccess ≠ sampleRegisterSecond.env.timer 0) = true)
    (by decide +kernel)
  refine ⟨s, ⟨tr, hrun⟩, .register ha, hfind, hactive, fun htouches => ?_⟩
  cases hstep : handleRequest sampleConfig sampleRegisterSecond s with
  | error e => simp [hstep, Except.toOption] at hleft
  | ok r =>
    rw [hstep] at htouches hleft
    have htime : (r.2.tObj.conn.ctable 1).timeAccess = sampleRegisterSecond.env.timer 0 := by
      rw [show r.2.tObj.conn = _ from htouches]
      simp [TApiConnectionTable.touchContext]
    simp [Except.toOption, htime] at hleft

/-! ## Requests that fail -/

/-- The look-up, the allocation or the driver fails a memory request. -/
inductive MemoryRequestFails (s : Server) (req : Request) : Prop
  | registerContext (ha : Accepted s req .registerMemory)
      (h : s.tObj.conn.findContext (registerHandle req) = none)
  | registerAllocation (ha : Accepted s req .registerMemory) (h : req.env.malloc = none)
  | registerDriver (ha : Accepted s req .registerMemory) (garbage : TApiRegMemory)
      (hm : req.env.malloc = some garbage) (h : (registerDriver req garbage).1 ≠ skErrorSuccess)
  | unregisterContext (ha : Accepted s req .unregisterMemory)
      (h : s.tObj.conn.findContext (unregisterHandle req) = none)
  | unregisterRegion (ha : Accepted s req .unregisterMemory)
      (h : s.findRegion (unregisterId req) = none)
  | unregisterDriver (ha : Accepted s req .unregisterMemory) (a : Nat) (node : TApiRegMemory)
      (hr : s.findRegion (unregisterId req) = some a) (hn : s.heap a = some node)
      (h : req.env.freeMemory node.memPtr node.info ≠ skErrorSuccess)

/-- A memory request that fails is not answered and leaves the registry as it was. -/
def FailsIntact (cfg : Config) (s : Server) (req : Request) : Prop :=
  MemoryRequestFails s req → ∀ status s', handleRequest cfg req s = .ok (status, s') →
    status ≠ skErrorSuccess ∧ RestoresRegions s s'

/-- An unregister_memory request has found its region, and the driver does not free it. -/
def FreeRefused (s : Server) (req : Request) : Prop :=
  Accepted s req .unregisterMemory ∧
  (∃ c, s.tObj.conn.findContext (unregisterHandle req) = some c ∧
    c.val * skTapiContextHandleSize < skTapiMaxConnectionsPerContext) ∧
  ∃ a node, s.findRegion (unregisterId req) = some a ∧ s.heap a = some node ∧
    req.env.freeMemory node.memPtr node.info ≠ skErrorSuccess

theorem restoresRegions_scratch {l : List Nat} (h : s.MemoryList l) (node : TApiRegMemory) :
    RestoresRegions s ((s.allocated node).discardNode s.heapNext) := by
  have hchain := h.memoryChain_eq
  refine ⟨(h.scratch node).memoryChain_eq.trans hchain.symm, rfl, fun x hx => ?_⟩
  have hne : x ≠ s.heapNext := Nat.ne_of_lt (h.lt_heapNext (hchain ▸ hx))
  simp [Server.allocated, Server.discardNode, hne]

/-- The request fails before or after the look-up, with the registry as it was. -/
private theorem lookedUp_fails {c : Command} {handle : Handle}
    {outcome : Server → Except Fault (SkStatus × Server)}
    (hfails : s.tObj.conn.findContext handle = none ∨ ∀ k, ∃ err s₁,
      outcome (touchedServer req s k) = .ok (err, s₁) ∧ err ≠ skErrorSuccess ∧
        RestoresRegions s s₁)
    (hrun : finished c (lookedUp req s handle outcome) = .ok (status, s')) :
    status ≠ skErrorSuccess ∧ RestoresRegions s s' := by
  have hfailed : ∃ err, lookedUp req s handle outcome = .ok (err, s') ∧ err ≠ skErrorSuccess ∧
      RestoresRegions s s' := by
    cases hlooked : lookedUp req s handle outcome with
    | error e => simp [hlooked, finished, Except.map] at hrun
    | ok r =>
      simp only [hlooked, finished, Except.map, Except.ok.injEq, Prod.mk.injEq] at hrun
      obtain ⟨-, rfl⟩ := hrun
      unfold lookedUp at hlooked
      split at hlooked
      · obtain rfl := Except.ok.inj hlooked
        exact ⟨_, rfl, by decide, rfl, rfl, fun _ _ => rfl⟩
      · next c hfind =>
        rcases hfails with hnone | hfails
        · exact absurd (hfind.symm.trans hnone) (by simp)
        split at hlooked
        · next hc =>
          obtain ⟨err, s₁, hout, herr, hrestores⟩ := hfails ⟨_, hc⟩
          obtain rfl := Except.ok.inj (hout.symm.trans hlooked)
          exact ⟨err, rfl, herr, hrestores⟩
        · cases hlooked
  obtain ⟨err, hlooked, herr, hrestores⟩ := hfailed
  simp only [hlooked, finished, Except.map, if_pos herr, Except.ok.injEq, Prod.mk.injEq] at hrun
  exact ⟨hrun.1 ▸ c.errOf_ne, hrestores⟩

/-- A failed register_memory request frees the node it had allocated. -/
theorem registerOutcome_fails {l : List Nat} (h : (receive req s).MemoryList l)
    (hfails : req.env.malloc = none ∨ ∃ garbage, req.env.malloc = some garbage ∧
      (registerDriver req garbage).1 ≠ skErrorSuccess) (k : CSlot) :
    ∃ err s₁, registerOutcome req (touchedServer req s k) = .ok (err, s₁) ∧
      err ≠ skErrorSuccess ∧ RestoresRegions s s₁ := by
  have htouched : (touchedServer req s k).MemoryList l := h.frame rfl rfl rfl
  unfold registerOutcome
  rcases hfails with hmalloc | ⟨garbage, hmalloc, hdriver⟩
  · rw [hmalloc]
    exact ⟨_, _, rfl, by decide, rfl, rfl, fun _ _ => rfl⟩
  · rw [hmalloc]
    dsimp only
    rw [if_pos hdriver]
    exact ⟨_, _, rfl, by decide, restoresRegions_scratch htouched _⟩

/-- A failed memory request leaves the registry as it was, unless it is the driver
that fails to free a region: that region has been taken out of the registry by then. -/
theorem failed_memory_request_intact_iff (h : Reachable cfg s) :
    FailsIntact cfg s req ↔ ¬ FreeRefused s req := by
  obtain ⟨l, hl⟩ := (h.sound.receive req).regions
  constructor
  · rintro hintact ⟨ha, ⟨c, hfind, hc⟩, a, node, hregion, hnode, hfree⟩
    have hrun := unregisterMemory_request cfg h.sound ha
    have hout : unregisterOutcome req (touchedServer req s ⟨_, hc⟩) =
        .ok (skErrorFailedSharedMemoryReq, (touchedServer req s ⟨_, hc⟩).unlinkNode a) := by
      unfold unregisterOutcome
      rw [show (touchedServer req s ⟨_, hc⟩).findRegion (unregisterId req) = some a from hregion]
      dsimp only
      rw [show (touchedServer req s ⟨_, hc⟩).heap a = some node from hnode]
      exact if_pos hfree
    rw [lookedUp, hfind] at hrun
    dsimp only at hrun
    rw [dif_pos hc, hout] at hrun
    obtain ⟨-, -, hrmem, -⟩ := hintact (.unregisterDriver ha a node hregion hnode hfree) _ _ hrun
    have hcount := congrArg TApiRegMemoryTable.memRegionCount hrmem
    change s.tObj.rmem.memRegionCount - 1 = s.tObj.rmem.memRegionCount at hcount
    omega
  · intro hfreed hfails status s' hrun
    cases hfails with
    | registerContext ha hnone =>
      rw [registerMemory_request cfg h.sound ha] at hrun
      exact lookedUp_fails (Or.inl hnone) hrun
    | registerAllocation ha hmalloc =>
      rw [registerMemory_request cfg h.sound ha] at hrun
      exact lookedUp_fails (Or.inr (registerOutcome_fails hl (Or.inl hmalloc))) hrun
    | registerDriver ha garbage hmalloc hdriver =>
      rw [registerMemory_request cfg h.sound ha] at hrun
      exact lookedUp_fails
        (Or.inr (registerOutcome_fails hl (Or.inr ⟨garbage, hmalloc, hdriver⟩))) hrun
    | unregisterContext ha hnone =>
      rw [unregisterMemory_request cfg h.sound ha] at hrun
      exact lookedUp_fails (Or.inl hnone) hrun
    | unregisterRegion ha hnone =>
      rw [unregisterMemory_request cfg h.sound ha] at hrun
      refine lookedUp_fails (Or.inr fun k => ⟨skErrorNoMemory, touchedServer req s k, ?_, by decide,
        rfl, rfl, fun _ _ => rfl⟩) hrun
      unfold unregisterOutcome
      rw [show (touchedServer req s k).findRegion (unregisterId req) = none from hnone]
    | unregisterDriver ha a node hregion hnode hfree =>
      rw [unregisterMemory_request cfg h.sound ha] at hrun
      cases hfind : s.tObj.conn.findContext (unregisterHandle req) with
      | none => exact lookedUp_fails (Or.inl hfind) hrun
      | some c =>
        -- only a slot out of range keeps the driver from being asked
        have hc : ¬ c.val * skTapiContextHandleSize < skTapiMaxConnectionsPerContext :=
          fun hc => hfreed ⟨ha, ⟨c, hfind, hc⟩, a, node, hregion, hnode, hfree⟩
        simp only [lookedUp, hfind, dif_neg hc] at hrun
        cases hrun

/-- A driver that frees nothing. -/
def sampleUnregisterRefused : Request :=
  .of .unregisterMemoryReq (⟨1, 2, skTapiUnregisterMemory⟩, fun _ => 5, Blk.zero _)
    { sampleEnv 0 with freeMemory := fun _ _ => skErrorFailed }

/-- A region is asked for that was never registered. -/
theorem failed_memory_request_intact_unknown : ∃ s, s.memoryChain ≠ [] ∧
    MemoryRequestFails s (sampleUnregisterMemory 0) ∧
    FailsIntact sampleConfig s (sampleUnregisterMemory 0) := by
  obtain ⟨tr, s, hrun, ha, hregion, hchain⟩ := exists_run sampleConfig (sampleServer_started 64)
    [sampleOpenContext, .of .registerMemoryReq
      (⟨1, 2, skTapiRegisterMemory⟩, fun _ => 5, 64, 1, 256)
      { sampleEnv 0 with allocateMemory := fun _ _ _ _ len _ =>
          (skErrorSuccess, fun _ => 3, len) }]
    (fun _ s => Accepted s (sampleUnregisterMemory 0) .unregisterMemory ∧
      s.findRegion (unregisterId (sampleUnregisterMemory 0)) = none ∧ s.memoryChain ≠ [])
    (by decide +kernel)
  refine ⟨s, hchain, .unregisterRegion ha hregion,
    (failed_memory_request_intact_iff ⟨tr, hrun⟩).mpr ?_⟩
  rintro ⟨-, -, a, node, hsome, -⟩
  exact absurd (hregion.symm.trans hsome) (by simp)

/-- The region that the driver would not free has left the registry. -/
theorem failed_memory_request_unlinked : ∃ s, Reachable sampleConfig s ∧
    MemoryRequestFails s sampleUnregisterRefused ∧
    ¬ FailsIntact sampleConfig s sampleUnregisterRefused := by
  obtain ⟨tr, s, hrun, ha, ⟨a, hregion, node, hnode, hfree⟩, hleft⟩ := exists_run sampleConfig
    (sampleServer_started 64) [sampleOpenContext, sampleRegisterMemory 0]
    (fun _ s => Accepted s sampleUnregisterRefused .unregisterMemory ∧
      (∃ a ∈ s.findRegion (unregisterId sampleUnregisterRefused), ∃ node ∈ s.heap a,
        sampleUnregisterRefused.env.freeMemory node.memPtr node.info ≠ skErrorSuccess) ∧
      (handleRequest sampleConfig sampleUnregisterRefused s).toOption.any (fun r =>
        r.2.tObj.rmem.memRegionCount ≠ s.tObj.rmem.memRegionCount) = true)
    (by decide +kernel)
  have hfails : MemoryRequestFails s sampleUnregisterRefused :=
    .unregisterDriver ha a node hregion hnode hfree
  refine ⟨s, ⟨tr, hrun⟩, hfails, fun hintact => ?_⟩
  cases hstep : handleRequest sampleConfig sampleUnregisterRefused s with
  | error e => simp [hstep, Except.toOption] at hleft
  | ok r =>
    obtain ⟨-, -, hrmem, -⟩ := hintact hfails r.1 r.2 hstep
    simp [hstep, Except.toOption, hrmem] at hleft

end SkSdk
