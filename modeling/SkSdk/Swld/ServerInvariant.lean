import SkSdk.Swld.TapiProcess

/-!
The invariant of the server over whole runs: `Server.Sound` holds after
`sk_swld_tapi_init`, and every request that completes keeps it.
-/

namespace SkSdk
open ByteMemory FaultState DoublyLinked

theorem TApiConnectionTable.init_represents : init.Represents fun _ => [] where
  linked _ := rfl
  count _ := rfl
  disjoint _ _ _ h := absurd h (List.not_mem_nil)
  active _ := by simp [init]
  unlinked _ _ := ⟨rfl, rfl⟩
  closed _ _ := rfl
  total := by simp [init, activeSessions]

variable {cfg : Config} {req : Request} {s s' : Server} {status : SkStatus}

theorem Started.conn_rmem (h : Started s) :
    s.tObj.conn = TApiConnectionTable.init ∧ s.tObj.rmem = ⟨none, 0⟩ := by
  obtain ⟨⟨env, contextId, smId, maxRecv, maxSend, hinit⟩, _⟩ := h
  have hmemory : skErrorNoMemory ≠ skErrorSuccess := by decide
  have hcomm : skErrorOpenComm ≠ skErrorSuccess := by decide
  unfold skSwldTapiInit at hinit
  split at hinit
  · exact absurd (congrArg Prod.fst hinit) hmemory
  · split at hinit
    · exact absurd (congrArg Prod.fst hinit) hmemory
    · split at hinit
      · exact absurd (congrArg Prod.fst hinit) hcomm
      · simp only [Prod.mk.injEq, true_and] at hinit
        rw [← hinit]
        exact ⟨rfl, rfl⟩

theorem Started.conn (h : Started s) : s.tObj.conn = TApiConnectionTable.init := h.conn_rmem.1

theorem Started.sound (h : Started s) : s.Sound := by
  have hrmem := h.conn_rmem.2
  refine ⟨?_, ?_, ?_, [], ?_, by simp, fun a _ => by rw [h.2.1], ?_⟩
  · rw [h.conn]
    exact TApiConnectionTable.init_represents.consistent
  · rw [h.conn]
    exact Nat.zero_le _
  · intro i
    rw [h.conn]
    rfl
  · rw [hrmem]
    rfl
  · rw [hrmem]
    rfl

theorem Server.Sound.receive (h : s.Sound) (req : Request) : (receive req s).Sound where
  table := h.table
  room := h.room
  slots := h.slots
  regions := h.regions.imp fun _ hl => hl.frame rfl rfl rfl

/-- A request counts at most one context in, and only while there is room. -/
private theorem Effect.counts {c : Command} {v : SkHeader × c.reqLayout.Fields}
    {ops : List TableOp} {evs : List Event} {env : Env} (h : Effect cfg env s c v ops evs) :
    (∀ op ∈ ops, ∀ conn, (op.apply conn).numCtableElements ≤ conn.numCtableElements) ∨
      s.tObj.conn.numCtableElements < skTapiMaxConnectionsPerContext ∧
        ∃ c handle pid, ops = [.openContext c handle pid] := by
  cases h with
  | refuse _ _ => exact Or.inl (by simp)
  | openContext _ _ hlt => exact Or.inr ⟨hlt, _, _, _, rfl⟩
  | check _ hexpires _ =>
    refine Or.inl fun op hop conn => ?_
    have hexp := hexpires op hop
    cases op with
    | expireSession c s => exact Nat.le_refl _
    | expireContext c => exact Nat.le_refl _
    | _ => exact hexp.elim
  | _ =>
    refine Or.inl fun op hop conn => ?_
    simp only [List.mem_cons, List.not_mem_nil, or_false] at hop
    rw [TableOp.numCtableElements_apply]
    split <;> simp_all

theorem Served.sound {c : Command} {v : SkHeader × c.reqLayout.Fields} (h : s.Sound)
    {env : Env} (hserved : Served cfg env s c v s') : s'.Sound := by
  obtain ⟨ops, evs, heffect, hops, _⟩ := hserved.effect
  refine ⟨hops.consistent h.table, ?_, ?_, hserved.regions⟩
  · rcases heffect.counts with hle | ⟨hlt, c, handle, pid, rfl⟩
    · refine hops.preserves h.table (·.numCtableElements ≤ skTapiMaxConnectionsPerContext) h.room ?_
      intro op hop conn _ _ hroom
      exact Nat.le_trans (hle op hop conn) hroom
    · rw [hops.of_single.2]
      exact hlt
  · refine hops.preserves h.table (fun conn => ∀ i, (conn.stable i).idx = i) h.slots ?_
    intro op _ conn _ _ hidx i
    rw [TableOp.idx_apply, hidx]

/-- A completed request was refused before it was served, or has been served. -/
theorem handleRequest_outcome (h : s.Sound) (hrun : handleRequest cfg req s = .ok (status, s')) :
    s' = receive req s ∨ ∃ c, Accepted s req c ∧
      Served cfg req.env (receive req s) c (req.decode c.reqLayout) s' := by
  by_cases hfits : req.bytes.length ≤ s.tObj.maxMrecvSize
  · by_cases hacc : ∃ c, Accepted s req c
    · obtain ⟨c, hc⟩ := hacc
      rw [handleRequest_of_accepted cfg h hc] at hrun
      cases hserve : c.serve cfg req.env (req.decode c.reqLayout) (receive req s) with
      | error e => simp [hserve, Except.map] at hrun
      | ok r =>
        simp only [hserve, Except.map, Except.ok.injEq, Prod.mk.injEq] at hrun
        rw [← hrun.2]
        exact Or.inr ⟨c, hc, serve_served req.env (h.receive req) hserve⟩
    · obtain ⟨st, _, hrefused⟩ :=
        handleRequest_of_refused cfg h hfits fun c hc => hacc ⟨c, hc⟩
      rw [hrefused] at hrun
      simp only [Except.ok.injEq, Prod.mk.injEq] at hrun
      exact Or.inl hrun.2.symm
  · rw [handleRequest_of_overrun cfg (Nat.lt_of_not_le hfits)] at hrun
    simp at hrun

/-- No request changes what the server was started with. -/
theorem handleRequest_object (h : s.Sound)
    (hrun : handleRequest cfg req s = .ok (status, s')) :
    s'.tObj.contextId = s.tObj.contextId ∧ s'.tObj.maxMsendSize = s.tObj.maxMsendSize := by
  rcases handleRequest_outcome h hrun with rfl | ⟨c, _, hserved⟩
  · exact ⟨rfl, rfl⟩
  · exact ⟨hserved.object.1, hserved.object.2.2.1⟩

theorem handleRequest_sound (h : s.Sound) (hrun : handleRequest cfg req s = .ok (status, s')) :
    s'.Sound := by
  rcases handleRequest_outcome h hrun with rfl | ⟨c, _, hserved⟩
  · exact h.receive req
  · exact hserved.sound (h.receive req)

theorem Reachable.sound (h : Reachable cfg s) : s.Sound := by
  obtain ⟨tr, s₀, hstart, hrun⟩ := h
  exact hrun.invariant Server.Sound hstart.sound fun _ _ hs =>
    wp_of_returns fun _ _ hstep => handleRequest_sound hs hstep

/-- A step of a run starts from a reachable state. -/
theorem ServerRun.step_of_mem {tr : List ServerStep} {x : ServerStep} (h : ServerRun cfg tr s)
    (hx : x ∈ tr) :
    Reachable cfg x.pre ∧ handleRequest cfg x.input x.pre = .ok (x.result, x.post) := by
  obtain ⟨s₀, h₀, hrun⟩ := h
  obtain ⟨before, after, htr⟩ := List.append_of_mem hx
  obtain ⟨hbefore, hstep⟩ := hrun.split htr
  exact ⟨⟨before, s₀, h₀, hbefore⟩, hstep⟩

/-! ## Sample surroundings -/

/-- The request that a client encodes with layout `l`. -/
def Request.of (l : Layout) (v : SkHeader × l.Fields) (env : Env) : Request where
  bytes := l.format.enc v
  op := ⟨0, fun _ => ⟨0, 0, 0, Blk.zero 16⟩⟩
  env

/-- Surroundings in which every call succeeds and the clock stands still; `k`
fills the key stream. -/
def sampleEnv (k : UInt8) : Env where
  reqMsg := SkMsg.zero
  respMsg := SkMsg.zero
  timer _ := 0
  timerDiff t now := (now - t).toInt32
  keystream _ := k
  malloc := some ⟨Blk.zero 16, 0, 0, 0, 0, none, none⟩
  tappLoad _ _ := (skErrorSuccess, ⟨some 1⟩)
  tappInit _ := skErrorSuccess
  tappPull _ _ _ := skErrorSuccess
  tappClose _ := skErrorSuccess
  tappUnload _ := (skErrorSuccess, ⟨none⟩)
  allocateMemory _ _ _ id len _ := (skErrorSuccess, id, len)
  freeMemory _ _ := skErrorSuccess

def sampleConfig : Config := ⟨4294967295, 4294967295⟩

def sampleInit : InitEnv where
  tObj := ⟨0, 0, Mem.ofList [], 0, 0, Mem.ofList [], 0, 0, ⟨0, fun _ => ⟨0, 0, 0, Blk.zero 16⟩⟩,
    ⟨none, 0⟩, TApiConnectionTable.init⟩
  msend := some (Mem.ofList [])
  mrecv := some (Mem.ofList [])
  plugin := skErrorSuccess

/-- The server for context identifier 1 and `sm_id` 2, with buffers of `size` bytes. -/
def sampleServer (size : Nat) : Server where
  tObj := (skSwldTapiInit sampleInit 1 2 size size).2
  heap _ := none
  heapNext := 0
  clk := 0
  events := []

theorem sampleServer_started (size : Nat) : Started (sampleServer size) :=
  ⟨⟨sampleInit, 1, 2, size, size, rfl⟩, rfl, rfl⟩

def sampleOpenContext : Request :=
  .of .openContextReq (⟨1, 2, skTapiOpenContext⟩, 1) (sampleEnv 5)

def sampleOpenSession : Request :=
  .of .openSessionReq (⟨1, 2, skTapiOpenSession⟩, fun _ => 5, fun _ => 9) (sampleEnv 7)

def sampleInvokeCommand : Request :=
  .of .invokeCommandReq (⟨1, 2, skTapiInvokeCommand⟩, fun _ => 5, fun _ => 7, 3) (sampleEnv 0)

def sampleCloseContext : Request :=
  .of .closeContextReq (⟨1, 2, skTapiCloseContext⟩, fun _ => 5) (sampleEnv 0)

/-- An executed list of requests that ends as `P` says is a run that does. -/
theorem exists_run (cfg : Config) {s₀ : Server} (h₀ : Started s₀) (reqs : List Request)
    (P : List ServerStep → Server → Prop) [∀ tr s, Decidable (P tr s)]
    (h : (execute (handleRequest cfg) reqs s₀).any (fun r => P r.1 r.2) = true) :
    ∃ tr s, ServerRun cfg tr s ∧ P tr s := by
  obtain ⟨tr, s, hrun, -, hP⟩ := exists_run_of_execute (handleRequest cfg) s₀ reqs P h
  exact ⟨tr, s, ⟨s₀, h₀, hrun⟩, hP⟩

/-! ## The session table -/

/-- In every reachable state the chains of the contexts partition the active
sessions into lists whose two link fields invert each other, and the counters
count them. -/
theorem session_table_invariant (h : Reachable cfg s) :
    let conn := s.tObj.conn
    (∀ c, Linked conn.links (conn.ctable c).start (conn.chain c) ∧ (conn.chain c).Nodup ∧
      (∀ x ∈ conn.chain c, ∀ y ∈ conn.chain c,
        (conn.stable x).next = some y ↔ (conn.stable y).prev = some x) ∧
      (∀ x ∈ conn.chain c, (conn.stable x).active = true) ∧
      (conn.chain c).length = (conn.ctable c).numConnectedSessions) ∧
    (∀ c c' x, x ∈ conn.chain c → x ∈ conn.chain c' → c = c') ∧
    (∀ x, (conn.stable x).active = true → ∃! c, x ∈ conn.chain c) ∧
    (∀ x, (conn.stable x).active = false →
      (conn.stable x).next = none ∧ (conn.stable x).prev = none) ∧
    (∀ c, (conn.ctable c).active = false → conn.chain c = [] ∧ (conn.ctable c).start = none ∧
      (conn.ctable c).numConnectedSessions = 0) ∧
    conn.numStableElements = conn.activeSessions.card ∧
    conn.numStableElements ≤ skTapiMaxSessionsPerContext := by
  have htable := h.sound.table
  dsimp only
  generalize s.tObj.conn = conn at htable
  refine ⟨fun c => ⟨htable.linked c, (htable.linked c).nodup, ?_, ?_, (htable.count c).symm⟩,
    htable.disjoint, ?_, htable.unlinked, ?_, htable.total, htable.total_le⟩
  · intro x hx y hy
    exact (htable.linked c).next_iff_prev hx hy
  · intro x hx
    exact htable.mem_active hx
  · intro x hx
    obtain ⟨c, hc⟩ := (htable.active x).mp hx
    exact ⟨c, hc, fun c' hc' => htable.disjoint c' c x hc' hc⟩
  · intro c hc
    have hempty := htable.closed c hc
    exact ⟨hempty, by rw [(htable.linked c).start_eq, hempty]; rfl,
      by rw [htable.count c, hempty]; rfl⟩

/-- After one open_context and one open_session request. -/
theorem session_table_invariant_opened :
    ∃ s, Reachable sampleConfig s ∧ s.tObj.conn.activeSessions.card = 1 ∧
      ∃! c, 0 ∈ s.tObj.conn.chain c := by
  obtain ⟨tr, s, hrun, hcount, hactive⟩ := exists_run sampleConfig
    (sampleServer_started 64) [sampleOpenContext, sampleOpenSession]
    (fun _ s => s.tObj.conn.numStableElements = 1 ∧ (s.tObj.conn.stable 0).active = true)
    (by decide +kernel)
  have hinv := session_table_invariant ⟨tr, hrun⟩
  exact ⟨s, ⟨tr, hrun⟩, hinv.2.2.2.2.2.1 ▸ hcount, hinv.2.2.1 0 hactive⟩

end SkSdk
