import SkSdk.Swld.TapiDispatch
import SkSdk.Swld.TappObjectRuns

/-!
Which requests are answered. A request that is not ends the loop of
`sk_swld_tapi_dispatch`, by a fault of the handler or of the TApp interface, or by
a status other than success.
-/

namespace SkSdk
open ByteMemory FaultState DoublyLinked

/-! ## The handlers -/

/-- What a request that names a session meets on the way to its reply: no
inactive object, and no session of another context. -/
def TApiConnectionTable.Resolves (conn : TApiConnectionTable)
    (contextHandle sessionHandle : Handle) : Prop :=
  ∀ c, conn.findContext contextHandle = some c → (conn.ctable c).active = true ∧
    ∀ i, conn.findSession sessionHandle = some i →
      (conn.stable i).active = true ∧ i ∈ conn.chain c

/-- The condition under which the handler of command `c` comes to its reply, if the
calls that it makes come back. -/
def Command.Answers (cfg : Config) (env : Env) (s : Server) :
    (c : Command) → SkHeader × c.reqLayout.Fields → Prop
  | openContext, (_, contextId) =>
    contextId = s.tObj.contextId →
      s.tObj.conn.numCtableElements < skTapiMaxConnectionsPerContext →
      ∃ i, (s.tObj.conn.ctable i).active = false
  | closeContext, (_, contextHandle) =>
    ∀ c, s.tObj.conn.findContext contextHandle = some c →
      (s.tObj.conn.ctable c).active = true ∧ 0 < s.tObj.conn.numCtableElements
  | openSession, (_, contextHandle, _) =>
    ∀ c, s.tObj.conn.findContext contextHandle = some c → (s.tObj.conn.ctable c).active = true ∧
      ((s.tObj.conn.ctable c).numConnectedSessions < skTapiMaxSessionsPerContext →
        ∃ i, (s.tObj.conn.stable i).active = false)
  | closeSession, (_, contextHandle, sessionHandle)
  | invokeCommand, (_, contextHandle, sessionHandle, _) =>
    s.tObj.conn.Resolves contextHandle sessionHandle
  | registerMemory, (_, contextHandle, memorySize, flag, addr) =>
    ∃ c garbage, s.tObj.conn.findContext contextHandle = some c ∧
      c.val * skTapiContextHandleSize < skTapiMaxConnectionsPerContext ∧
      env.malloc = some garbage ∧
      let driver := env.allocateMemory (if flag ≠ skTeecMemAllocate then addr else 0) memorySize
        flag garbage.id skTapiMemoryIdLength garbage.info
      driver.1 = skErrorSuccess ∧ driver.2.2 = skTapiMemoryIdLength
  | unregisterMemory, (_, contextHandle, memoryId) =>
    ∃ c a node, s.tObj.conn.findContext contextHandle = some c ∧
      c.val * skTapiContextHandleSize < skTapiMaxConnectionsPerContext ∧
      s.findRegion memoryId = some a ∧ s.heap a = some node ∧
      env.freeMemory node.memPtr node.info = skErrorSuccess
  | check, _ => SweepSafe cfg env s.tObj.conn s.clk

/-- A handler's result `r` is a reply if `p` holds, and otherwise a failure. -/
inductive Outcome (l : Layout) (hdr : SkHeader) (n : Nat) (p : Prop) :
    Except Fault (SkStatus × Server) → Prop
  | replies {s : Server} {w : l.Fields} : p → s.tObj.maxMsendSize = n →
      Outcome l hdr n p (answer l (hdr, w) s)
  | faults {e : Fault} : ¬p → Outcome l hdr n p (.error e)
  | fails {err : SkStatus} {s : Server} : ¬p → err ≠ skErrorSuccess →
      Outcome l hdr n p (.ok (err, s))

variable {cfg : Config} {env : Env} {s s' : Server} {req : Request}

theorem firstFree_none_iff {n : Nat} {active : Fin n → Bool} :
    firstFree active = none ↔ ¬∃ i, active i = false := by
  rw [firstFree_eq_none]
  simp

/-- The lookup and the condition on it. -/
private theorem findObjects_outcome {conn : TApiConnectionTable}
    {contextHandle sessionHandle : Handle} {l : Layout} {hdr : SkHeader} {n : Nat}
    {status : SkStatus → l.Fields} {s : Server}
    {found : CSlot → SSlot → Except Fault (SkStatus × Server)} (hn : s.tObj.maxMsendSize = n)
    (hfound : ∀ c i, ∃ w s', s'.tObj.maxMsendSize = n ∧ found c i = answer l (hdr, w) s') :
    Outcome l hdr n (conn.Resolves contextHandle sessionHandle)
      (match conn.findObjects contextHandle sessionHandle with
      | .error e => .error e
      | .ok (.error err) =>
        if err = skErrorVerifyFailed then .ok (err, s) else answer l (hdr, status err) s
      | .ok (.ok (c, i)) => found c i) := by
  unfold TApiConnectionTable.findObjects TApiConnectionTable.Resolves
  cases hc : conn.findContext contextHandle with
  | none => exact .replies (by simp) hn
  | some c =>
    dsimp only
    by_cases hact : (conn.ctable c).active = false
    · rw [if_pos hact]
      exact .faults (by simp [hact])
    rw [if_neg hact]
    rw [Bool.not_eq_false] at hact
    cases hi : conn.findSession sessionHandle with
    | none => exact .replies (by simp [hact]) hn
    | some i =>
      dsimp only
      by_cases hsact : (conn.stable i).active = false
      · rw [if_pos hsact]
        exact .faults (by simp [hsact])
      rw [if_neg hsact]
      rw [Bool.not_eq_false] at hsact
      by_cases hmem : i ∈ conn.chain c
      · rw [if_pos hmem]
        obtain ⟨w, s', hs', hw⟩ := hfound c i
        dsimp only
        rw [hw]
        exact .replies (by simp [hact, hsact, hmem]) hs'
      · rw [if_neg hmem]
        exact .fails (by simp [hmem]) (by decide)

/-- Command `c` comes to its reply exactly under its condition. -/
def Command.HasOutcome (cfg : Config) (env : Env) (s : Server) (c : Command) : Prop :=
  ∀ v : SkHeader × c.reqLayout.Fields,
    Outcome c.respLayout v.1 s.tObj.maxMsendSize (c.Answers cfg env s v) (c.serve cfg env v s)

theorem openContext_outcome (cfg : Config) (env : Env) :
    Command.HasOutcome cfg env s .openContext := by
  intro v
  change Outcome _ _ _ (_ → _ → _) (serveOpenContext _ _ _ _ _ _)
  rw [serveOpenContext_run]
  split
  · rename_i hid
    exact .replies (fun he => absurd he hid) rfl
  split
  · rename_i hroom
    exact .replies (fun _ hlt => absurd hlt (Nat.not_lt.mpr hroom)) rfl
  rename_i hid hroom
  rw [not_not] at hid
  split
  · rename_i hfree
    rw [firstFree_none_iff] at hfree
    exact .faults fun hp => hfree (hp hid (Nat.lt_of_not_le hroom))
  · rename_i i hfree
    exact .replies (fun _ _ => ⟨i, firstFree_some hfree⟩) rfl

theorem closeContext_outcome (cfg : Config) (env : Env) (h : s.Sound) :
    Command.HasOutcome cfg env s .closeContext := by
  intro v
  change Outcome _ _ _ (∀ c, _) (serveCloseContext _ _ _)
  rw [serveCloseContext_run _ h.table]
  cases s.tObj.conn.findContext v.2 with
  | none => exact .replies (by simp) rfl
  | some c =>
    dsimp only
    split
    · rename_i hact
      exact .faults (by simp [hact])
    split
    · rename_i hcount
      exact .faults (by simp [hcount])
    rename_i hact hcount
    rw [Bool.not_eq_false] at hact
    exact .replies (by simpa using ⟨hact, Nat.pos_of_ne_zero hcount⟩) rfl

theorem openSession_outcome (cfg : Config) (env : Env) (h : s.Sound) :
    Command.HasOutcome cfg env s .openSession := by
  intro v
  change Outcome _ _ _ (∀ c, _) (serveOpenSession _ _ _ _ _ _)
  rw [serveOpenSession_run _ _ h.table]
  cases s.tObj.conn.findContext v.2.1 with
  | none => exact .replies (by simp) rfl
  | some c =>
    dsimp only
    split
    · rename_i hact
      exact .faults (by simp [hact])
    rename_i hact
    rw [Bool.not_eq_false] at hact
    split
    · rename_i hroom
      refine .replies ?_ rfl
      rintro c' hc'
      cases hc'
      exact ⟨hact, fun hlt => absurd hlt (Nat.not_lt.mpr hroom)⟩
    rename_i hroom
    split
    · rename_i hfree
      rw [firstFree_none_iff] at hfree
      exact .faults fun hp => hfree ((hp c rfl).2 (Nat.lt_of_not_le hroom))
    · rename_i i hfree
      refine .replies ?_ rfl
      rintro c' hc'
      cases hc'
      exact ⟨hact, fun _ => ⟨i, firstFree_some hfree⟩⟩

theorem closeSession_outcome (cfg : Config) (env : Env) (h : s.Sound) :
    Command.HasOutcome cfg env s .closeSession := by
  intro v
  change Outcome _ _ _ (s.tObj.conn.Resolves _ _) (serveCloseSession _ _ _ _ _)
  rw [serveCloseSession_run _ _ h.table h.room h.slots]
  refine findObjects_outcome (s := s) rfl fun c i => ⟨_, _, ?_, rfl⟩
  rfl

theorem invokeCommand_outcome (cfg : Config) (env : Env) (h : s.Sound) :
    Command.HasOutcome cfg env s .invokeCommand := by
  intro v
  change Outcome _ _ _ (s.tObj.conn.Resolves _ _) (serveInvokeCommand _ _ _ _ _ _)
  rw [serveInvokeCommand_run _ _ h.table h.room]
  refine findObjects_outcome (s := s) rfl fun c i => ⟨_, _, ?_, rfl⟩
  rfl

theorem registerMemory_outcome (cfg : Config) (env : Env) (h : s.Sound) :
    Command.HasOutcome cfg env s .registerMemory := by
  obtain ⟨l, hl⟩ := h.regions
  intro v
  change Outcome _ _ _ (∃ c garbage, _) (serveRegisterMemory _ _ _ _ _ _ _)
  rw [serveRegisterMemory_run _ _ hl]
  generalize (if v.2.2.2.1 ≠ skTeecMemAllocate then v.2.2.2.2 else 0) = memPtr
  cases s.tObj.conn.findContext v.2.1 with
  | none => exact .fails (by simp) (by decide)
  | some c =>
    dsimp only
    by_cases hc : c.val * skTapiContextHandleSize < skTapiMaxConnectionsPerContext
    · rw [dif_pos hc]
      cases hmalloc : env.malloc with
      | none => exact .fails (by simp) (by decide)
      | some garbage =>
        dsimp only
        split
        · rename_i hdriver
          refine .fails ?_ (by decide)
          rintro ⟨_, garbage', _, _, hg, hsuccess, _⟩
          cases hg
          exact hdriver hsuccess
        split
        · rename_i hlen
          refine .faults ?_
          rintro ⟨_, garbage', _, _, hg, _, hlen'⟩
          cases hg
          exact hlen hlen'
        rename_i hdriver hlen
        rw [not_not] at hdriver hlen
        exact .replies ⟨c, garbage, rfl, hc, rfl, hdriver, hlen⟩ rfl
    · rw [dif_neg hc]
      refine .faults ?_
      rintro ⟨c', garbage, hc', hlt, _⟩
      cases hc'
      exact hc hlt

theorem unregisterMemory_outcome (cfg : Config) (env : Env) (h : s.Sound) :
    Command.HasOutcome cfg env s .unregisterMemory := by
  obtain ⟨l, hl⟩ := h.regions
  intro v
  change Outcome _ _ _ (∃ c a node, _) (serveUnregisterMemory _ _ _ _ _)
  rw [serveUnregisterMemory_run _ _ hl]
  cases s.tObj.conn.findContext v.2.1 with
  | none => exact .fails (by simp) (by decide)
  | some c =>
    dsimp only
    by_cases hc : c.val * skTapiContextHandleSize < skTapiMaxConnectionsPerContext
    · rw [dif_pos hc]
      cases s.findRegion v.2.2 with
      | none => exact .fails (by simp) (by decide)
      | some a =>
        dsimp only
        cases hnode : s.heap a with
        | none => exact .faults (by simp [hnode])
        | some node =>
          dsimp only
          split
          · rename_i hfree
            exact .fails (by simp [hnode, hfree]) (by decide)
          rename_i hfree
          rw [not_not] at hfree
          exact .replies ⟨c, a, node, rfl, hc, rfl, hnode, hfree⟩ rfl
    · rw [dif_neg hc]
      refine .faults ?_
      rintro ⟨c', a, node, hc', hlt, _⟩
      cases hc'
      exact hc hlt

theorem check_outcome (cfg : Config) (env : Env) (h : s.Sound) :
    Command.HasOutcome cfg env s .check := by
  intro v
  change Outcome _ _ _ (SweepSafe _ _ _ _) (serveCheck _ _ _ _)
  rw [serveCheck_run _ _ _ h.table]
  cases hsweep : sweepContexts cfg env (List.finRange skTapiMaxConnectionsPerContext)
      s.tObj.conn s.clk with
  | none =>
    exact .faults ((sweepContexts_eq_none cfg env h.table (List.nodup_finRange _)).mp hsweep)
  | some p =>
    refine .replies ?_ rfl
    by_contra hunsafe
    rw [(sweepContexts_eq_none cfg env h.table (List.nodup_finRange _)).mpr hunsafe] at hsweep
    simp at hsweep

theorem serve_outcome (cfg : Config) (env : Env) (h : s.Sound) (c : Command) :
    c.HasOutcome cfg env s := by
  cases c with
  | openContext => exact openContext_outcome cfg env
  | closeContext => exact closeContext_outcome cfg env h
  | openSession => exact openSession_outcome cfg env h
  | closeSession => exact closeSession_outcome cfg env h
  | invokeCommand => exact invokeCommand_outcome cfg env h
  | registerMemory => exact registerMemory_outcome cfg env h
  | unregisterMemory => exact unregisterMemory_outcome cfg env h
  | check => exact check_outcome cfg env h

/-- The process answers `req` exactly if the reply fits and the handler comes to it. -/
theorem handleRequest_answers_iff (cfg : Config) (h : s.Sound) {c : Command}
    (ha : Accepted s req c) :
    (∃ s' w, handleRequest cfg req s = .ok (skErrorSuccess, s') ∧
        Answered skErrorSuccess s' c.respLayout (req.hdr, w)) ↔
      c.respLayout.wireLength ≤ s.tObj.maxMsendSize ∧
        c.Answers cfg req.env (receive req s) (req.decode c.reqLayout) := by
  have hrun := handleRequest_of_accepted cfg h ha
  have hout := serve_outcome cfg req.env (h.receive req) c (req.decode c.reqLayout)
  have hhdr := req.decode_hdr c.reqLayout
  rw [hhdr] at hout
  generalize hserve : c.serve cfg req.env (req.decode c.reqLayout) (receive req s) = r at hout hrun
  cases hout with
  | faults hp =>
    refine ⟨?_, fun hcond => absurd hcond.2 hp⟩
    rintro ⟨s', w, hrun', _⟩
    rw [hrun] at hrun'
    simp [Except.map] at hrun'
  | fails hp herr =>
    refine ⟨?_, fun hcond => absurd hcond.2 hp⟩
    rintro ⟨s', w, hrun', _⟩
    rw [hrun] at hrun'
    simp [Except.map, herr, c.errOf_ne] at hrun'
  | @replies s₀ w hp hn =>
    rw [answer] at hrun
    constructor
    · rintro ⟨s', w', hrun', hanswered⟩
      rw [hrun] at hrun'
      simp only [Except.map, Except.ok.injEq, Prod.mk.injEq] at hrun'
      rw [← hrun'.1, ← hrun'.2, answered_iff _ _ _ c.errOf_ne, hn] at hanswered
      exact ⟨hanswered.1, hp⟩
    · rintro ⟨hfit, _⟩
      have hfit₀ : c.respLayout.wireLength ≤ s₀.tObj.maxMsendSize := hn ▸ hfit
      have hanswered := (answered_iff (req.hdr, w) (req.hdr, w) s₀ c.errOf_ne).mpr ⟨hfit₀, rfl⟩
      rw [if_pos hfit₀, if_neg (not_not.mpr rfl)] at hanswered
      refine ⟨_, w, ?_, hanswered⟩
      rw [hrun, if_pos hfit₀]
      rfl

/-! ## The server and its TApps -/

/-- One pass of the dispatch loop, in which `x` is received. -/
def machineDispatchOnce (cfg : Config) (x : TappRequest) (e : Exchange) :
    Prog Machine MachineFault (SkStatus × List Sent) :=
  withCalls x (dispatchOnce cfg { e with request := x.served })

/-- The process answers `x` with one reply of command `c`, and the loop sends that
reply and goes on. -/
def ServedOn (cfg : Config) (m : Machine) (x : TappRequest) (c : Command) : Prop :=
  ∃ m' w, machineStep cfg x m = .ok (skErrorSuccess, m') ∧
    Answered skErrorSuccess m'.server c.respLayout (x.request.hdr, w) ∧
    ∀ e : Exchange, e.recv = 0 → e.send = 0 →
      machineDispatchOnce cfg x e m = .ok ((skErrorSuccess, [m'.server.outgoing]), m')

/-- The TApp interface comes back from what it is called for: the session that is
driven has an object, and the code that is loaded is read into its block. -/
def InterfaceReturns (x : TappRequest) (m : Machine) : Prop :=
  (∀ i, Drives x.served m.server i → (m.server.tapp i).archObj ≠ none) ∧ ¬ Overruns x m.server

section Machine

variable {x : TappRequest} {m : Machine} {tr : List MachineStep}

theorem withCalls_eq_ok {α : Type} {run : ServerM α} {a : α} {server : Server} {heap : TappHeap}
    (hrun : run m.server = .ok (a, server))
    (hcalls : x.calls server.events m.heap = .ok ((), heap)) :
    withCalls x run m = .ok (a, ⟨server, heap⟩) := by
  simp only [withCalls, hrun, hcalls]

/-- With the interface back, the calls of a completed request go through. -/
theorem calls_of_returns (hm : m.Sound) (hfresh : FreshBlocks x.tapps.loader m.heap)
    (hreturns : InterfaceReturns x m) {status : SkStatus} {server : Server}
    (hserver : handleRequest cfg x.served m.server = .ok (status, server)) :
    ∃ heap, x.calls server.events m.heap = .ok ((), heap) := by
  rcases calls_served hm hfresh hserver with
    ⟨i, hdrives, hnull, _⟩ | ⟨hover, _⟩ | ⟨heap, hcalls, _⟩
  · exact absurd hnull (hreturns.1 i hdrives)
  · exact absurd hover hreturns.2
  · exact ⟨heap, hcalls⟩

/-- A request that completes had the interface return. -/
theorem returns_of_machineStep (hm : m.Sound) {r : SkStatus × Machine}
    (hstep : machineStep cfg x m = .ok r) : InterfaceReturns x m := by
  refine ⟨fun i hdrives hnull => ?_, fun hover => ?_⟩
  · cases hstep.symm.trans (machineStep_of_drives cfg hm hdrives hnull)
  · cases hstep.symm.trans (machineStep_of_overruns cfg hm hover)

/-- A request is answered exactly if its reply fits, its handler comes to it and the
TApp interface returns. -/
theorem request_answered_iff (hrun : MachineRun cfg tr m)
    (hfresh : FreshBlocks x.tapps.loader m.heap) {c : Command}
    (ha : Accepted m.server x.served c) :
    ServedOn cfg m x c ↔
      c.respLayout.wireLength ≤ m.server.tObj.maxMsendSize ∧
        c.Answers cfg x.served.env (receive x.served m.server) (x.served.decode c.reqLayout) ∧
        InterfaceReturns x m := by
  have hm := hrun.sound.1
  have hanswers := handleRequest_answers_iff cfg hm.server ha
  constructor
  · rintro ⟨m', w, hstep, hanswered, _⟩
    have hserver := (machineStep_served hm hfresh hstep).1
    obtain ⟨hfit, hreply⟩ := hanswers.mp ⟨m'.server, w, hserver, hanswered⟩
    exact ⟨hfit, hreply, returns_of_machineStep hm hstep⟩
  · rintro ⟨hfit, hreply, hreturns⟩
    obtain ⟨server, w, hserver, hanswered⟩ := hanswers.mpr ⟨hfit, hreply⟩
    obtain ⟨heap, hcalls⟩ := calls_of_returns hm hfresh hreturns hserver
    refine ⟨⟨server, heap⟩, w, withCalls_eq_ok hserver hcalls, hanswered, fun e hrecv hsend => ?_⟩
    have hfits : server.tObj.msendSize ≤ server.tObj.maxMsendSize := by
      rw [hanswered.size, (handleRequest_object hm.server hserver).2]
      exact hfit
    have hpass :=
      dispatchOnce_of_processed (e := { e with request := x.served }) hrecv hserver hfits
    rw [if_neg (not_not.mpr hsend)] at hpass
    exact withCalls_eq_ok hpass hcalls

end Machine

/-- A command for a session with an object is answered. -/
theorem request_answered_invoke : ∃ tr m, MachineRun sampleConfig tr m ∧
    (m.server.tapp 0).archObj = some 4096 ∧
    ServedOn sampleConfig m (.at 20480 sampleInvokeCommand) .invokeCommand := by
  let req : Request := (TappRequest.at 20480 sampleInvokeCommand).served
  obtain ⟨tr, m, hrun, hobj, hfree, ha, hfit, hfind, hact, hfind', hact', hmem⟩ :=
    exists_machineRun sampleConfig [(4096, sampleOpenContext), (4096, sampleOpenSession)]
      (fun _ m => (m.server.tapp 0).archObj = some 4096 ∧ pagesFree 20480 m.heap = true ∧
        Accepted m.server req .invokeCommand ∧
        Layout.invokeCommandResp.wireLength ≤ m.server.tObj.maxMsendSize ∧
        m.server.tObj.conn.findContext (invokeCommandMembers req).1 = some 0 ∧
        (m.server.tObj.conn.ctable 0).active = true ∧
        m.server.tObj.conn.findSession (invokeCommandMembers req).2.1 = some 0 ∧
        (m.server.tObj.conn.stable 0).active = true ∧ 0 ∈ m.server.tObj.conn.chain 0)
      (by decide +kernel)
  have hresolves : m.server.tObj.conn.Resolves (invokeCommandMembers req).1
      (invokeCommandMembers req).2.1 := by
    intro c hc
    obtain rfl : 0 = c := Option.some.inj (hfind.symm.trans hc)
    refine ⟨hact, fun i hi => ?_⟩
    obtain rfl : 0 = i := Option.some.inj (hfind'.symm.trans hi)
    exact ⟨hact', hmem⟩
  refine ⟨tr, m, hrun, hobj, (request_answered_iff hrun (freshBlocks_sampleLoader hfree) ha).mpr
    ⟨hfit, hresolves, ?_, ?_⟩⟩
  · rintro i (⟨hclose, _⟩ | ⟨_, c, hobjects⟩) hnull
    · cases ha.unique hclose
    · obtain rfl : 0 = i :=
        Option.some.inj (hfind'.symm.trans (TApiConnectionTable.findObjects_ok hobjects).2.2.1)
      cases hobj.symm.trans hnull
  · rintro ⟨_, _, ⟨hopen, _⟩, _⟩
    cases ha.unique hopen

/-- On a fresh server a memory registration for a context that does not exist
ends the loop without a reply. -/
theorem request_answered_false : ∃ tr m x c, MachineRun sampleConfig tr m ∧
    FreshBlocks x.tapps.loader m.heap ∧ Accepted m.server x.served c ∧
    ¬ServedOn sampleConfig m x c := by
  let req : Request := .of .registerMemoryReq
    (⟨1, 2, skTapiRegisterMemory⟩, fun _ => 5, 4096, skTeecMemAllocate, 0) (sampleEnv 0)
  refine ⟨[], sampleMachine, .at 4096 req, .registerMemory,
    ⟨sampleMachine, sampleServer_started 64, rfl, .start, by simp⟩,
    freshBlocks_sampleLoader (by decide), by decide +kernel, ?_⟩
  rintro ⟨m', w, hrun, _⟩
  have hstatus : (machineStep sampleConfig (.at 4096 req) sampleMachine).toOption.map Prod.fst =
      some skErrorSuccess := by
    rw [hrun]
    rfl
  exact absurd hstatus (by decide +kernel)

end SkSdk
