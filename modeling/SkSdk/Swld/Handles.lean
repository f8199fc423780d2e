import SkSdk.Swld.ServerInvariant

/-!
What handles resolve to. The lookups scan the two handle tables and do not look
at the active flags, so a handle that was never issued or is long closed can
resolve to the slot whose bytes happen to match.
-/

namespace SkSdk
open ByteMemory FaultState DoublyLinked

/-- Wherever `handle` stands in the slot of an inactive object, it also stands
in a lower slot of an active one. -/
def Live {n : Nat} (table : Mem) (active : Fin n → Bool) (handle : Handle) : Prop :=
  ∀ j, active j = false → handleAt table j = handle →
    ∃ i < j, active i = true ∧ handleAt table i = handle

abbrev TApiConnectionTable.LiveContext (conn : TApiConnectionTable) (handle : Handle) : Prop :=
  Live conn.cthandles (fun i : CSlot => (conn.ctable i).active) handle

abbrev TApiConnectionTable.LiveSession (conn : TApiConnectionTable) (handle : Handle) : Prop :=
  Live conn.sthandles (fun i : SSlot => (conn.stable i).active) handle

theorem live_iff {n : Nat} {table : Mem} {active : Fin n → Bool} {handle : Handle} :
    Live table active handle ↔ ∀ i, lookup table handle = some i → active i = true := by
  constructor
  · intro h i hi
    obtain ⟨hat, hfirst⟩ := lookup_eq_some.mp hi
    by_contra hne
    obtain ⟨j, hj, _, hjat⟩ := h i (by simpa using hne) hat
    exact hfirst j hj hjat
  · intro h j hj hjat
    cases hfind : (lookup table handle : Option (Fin n)) with
    | none => exact absurd hjat (lookup_eq_none.mp hfind j)
    | some i =>
      have hi := h i hfind
      obtain ⟨hat, hfirst⟩ := lookup_eq_some.mp hfind
      rcases lt_trichotomy i j with hlt | rfl | hgt
      · exact ⟨i, hlt, hi, hat⟩
      · exact absurd (hi.symm.trans hj) (by decide)
      · exact absurd hjat (hfirst j hgt)

theorem liveContext_iff {conn : TApiConnectionTable} {handle : Handle} :
    conn.LiveContext handle ↔ ∀ i, conn.findContext handle = some i → (conn.ctable i).active = true :=
  live_iff

theorem liveSession_iff {conn : TApiConnectionTable} {handle : Handle} :
    conn.LiveSession handle ↔ ∀ i, conn.findSession handle = some i → (conn.stable i).active = true :=
  live_iff

/-- The handles of a decoded request that its handler resolves are live. A
session handle is looked up only when the context handle is found. -/
def Command.PresentsLive (conn : TApiConnectionTable) :
    (c : Command) → SkHeader × c.reqLayout.Fields → Prop
  | closeContext, (_, contextHandle) => conn.LiveContext contextHandle
  | openSession, (_, contextHandle, _) => conn.LiveContext contextHandle
  | closeSession, (_, contextHandle, sessionHandle)
  | invokeCommand, (_, contextHandle, sessionHandle, _) =>
    conn.LiveContext contextHandle ∧
      (conn.findContext contextHandle ≠ none → conn.LiveSession sessionHandle)
  | openContext, _ | registerMemory, _ | unregisterMemory, _ | check, _ => True

variable {cfg : Config} {env : Env} {s : Server}

private theorem findObjects_error_iff {conn : TApiConnectionTable}
    {contextHandle sessionHandle : Handle} :
    conn.findObjects contextHandle sessionHandle = .error .assertActive ↔
      ¬(conn.LiveContext contextHandle ∧
        (conn.findContext contextHandle ≠ none → conn.LiveSession sessionHandle)) := by
  rw [liveContext_iff, liveSession_iff]
  unfold TApiConnectionTable.findObjects
  cases hc : conn.findContext contextHandle with
  | none => simp
  | some c =>
    by_cases hact : (conn.ctable c).active = false
    · simp [hact]
    · cases hs : conn.findSession sessionHandle with
      | none => simp_all
      | some i =>
        by_cases hsact : (conn.stable i).active = false
        · simp_all
        · by_cases hmem : i ∈ conn.chain c <;> simp_all

section Handlers
variable {hdr : SkHeader}

private theorem serveOpenContext_no_assertActive (stale : Handle) (pid : Int32)
    (contextId : UInt32) :
    serveOpenContext env hdr stale pid contextId s ≠ .error .assertActive := by
  rw [serveOpenContext_run]
  split
  · simp [answer]
  · split
    · simp [answer]
    · split <;> simp [answer]

private theorem serveCloseContext_assertActive_iff (h : s.tObj.conn.Consistent)
    (contextHandle : Handle) :
    serveCloseContext hdr contextHandle s = .error .assertActive ↔
      ¬s.tObj.conn.LiveContext contextHandle := by
  rw [serveCloseContext_run _ h, liveContext_iff]
  cases s.tObj.conn.findContext contextHandle with
  | none => simp [answer]
  | some c =>
    by_cases hact : (s.tObj.conn.ctable c).active = false
    · simp [hact]
    · by_cases hcount : s.tObj.conn.numCtableElements = 0 <;> simp_all [answer]

private theorem serveOpenSession_assertActive_iff (h : s.tObj.conn.Consistent)
    (stale contextHandle : Handle) (taid : SkTaid) :
    serveOpenSession env hdr stale contextHandle taid s = .error .assertActive ↔
      ¬s.tObj.conn.LiveContext contextHandle := by
  rw [serveOpenSession_run _ _ h, liveContext_iff]
  cases s.tObj.conn.findContext contextHandle with
  | none => simp [answer]
  | some c =>
    by_cases hact : (s.tObj.conn.ctable c).active = false
    · simp [hact]
    · dsimp only
      rw [if_neg hact]
      split
      · simp_all [answer]
      · split <;> simp_all [answer]

private theorem serveCloseSession_assertActive_iff (h : s.Sound)
    (contextHandle sessionHandle : Handle) :
    serveCloseSession env hdr contextHandle sessionHandle s = .error .assertActive ↔
      s.tObj.conn.findObjects contextHandle sessionHandle = .error .assertActive := by
  rw [serveCloseSession_run _ _ h.table h.room h.slots]
  cases s.tObj.conn.findObjects contextHandle sessionHandle with
  | error e => simp
  | ok r =>
    rcases r with err | p
    · by_cases herr : err = skErrorVerifyFailed <;> simp [herr, answer]
    · simp [answer]

private theorem serveInvokeCommand_assertActive_iff (h : s.Sound)
    (contextHandle sessionHandle : Handle) (cmd : UInt32) :
    serveInvokeCommand env hdr contextHandle sessionHandle cmd s = .error .assertActive ↔
      s.tObj.conn.findObjects contextHandle sessionHandle = .error .assertActive := by
  rw [serveInvokeCommand_run _ _ h.table h.room]
  cases s.tObj.conn.findObjects contextHandle sessionHandle with
  | error e => simp
  | ok r =>
    rcases r with err | p
    · by_cases herr : err = skErrorVerifyFailed <;> simp [herr, answer]
    · simp [answer]

private theorem serveRegisterMemory_no_assertActive {l : List Nat} (h : s.MemoryList l)
    (contextHandle : Handle) (memorySize flag addr : UInt32) :
    serveRegisterMemory env hdr contextHandle memorySize flag addr s ≠ .error .assertActive := by
  rw [serveRegisterMemory_run _ _ h]
  split
  · simp
  · split
    · split
      · simp
      · generalize (if flag ≠ skTeecMemAllocate then addr else 0) = memPtr
        dsimp only
        split
        · simp
        · split <;> simp [answer]
    · simp

private theorem serveUnregisterMemory_no_assertActive {l : List Nat} (h : s.MemoryList l)
    (contextHandle : Handle) (memoryId : MemoryId) :
    serveUnregisterMemory env hdr contextHandle memoryId s ≠ .error .assertActive := by
  rw [serveUnregisterMemory_run _ _ h]
  split
  · simp
  · split
    · split
      · simp
      · split
        · simp
        · split <;> simp [answer]
    · simp

private theorem serveCheck_no_assertActive (h : s.tObj.conn.Consistent) :
    serveCheck env hdr cfg s ≠ .error .assertActive := by
  rw [serveCheck_run _ _ _ h]
  split <;> simp [answer]

end Handlers

/-- A served command fails an activity assertion exactly on a handle that is not live. -/
private theorem serve_assertActive_iff (cfg : Config) (env : Env) (h : s.Sound) (c : Command)
    (v : SkHeader × c.reqLayout.Fields) :
    c.serve cfg env v s = .error .assertActive ↔ ¬c.PresentsLive s.tObj.conn v := by
  obtain ⟨l, hl⟩ := h.regions
  cases c with
  | openContext => exact iff_of_false (serveOpenContext_no_assertActive _ _ _) (not_not.mpr trivial)
  | closeContext => exact serveCloseContext_assertActive_iff h.table _
  | openSession => exact serveOpenSession_assertActive_iff h.table _ _ _
  | closeSession => exact (serveCloseSession_assertActive_iff h _ _).trans findObjects_error_iff
  | invokeCommand => exact (serveInvokeCommand_assertActive_iff h _ _ _).trans findObjects_error_iff
  | registerMemory =>
    exact iff_of_false (serveRegisterMemory_no_assertActive hl _ _ _ _) (not_not.mpr trivial)
  | unregisterMemory =>
    exact iff_of_false (serveUnregisterMemory_no_assertActive hl _ _) (not_not.mpr trivial)
  | check => exact iff_of_false (serveCheck_no_assertActive h.table) (not_not.mpr trivial)

private theorem find_live_iff {n : Nat} {table : Mem} {active : Fin n → Bool} {handle : Handle} :
    (∀ off, findHandle n table handle = some off → ∃ i : Fin n, off / 16 = i ∧ active i = true) ↔
      Live table active handle := by
  rw [live_iff, findHandle_eq]
  cases (lookup table handle : Option (Fin n)) with
  | none => simp
  | some i => simp [Fin.val_inj]

/-- Which handles resolve to live objects only, and which requests cannot fail
an activity assertion, in every reachable state. -/
theorem handle_resolves_live_iff (h : Reachable cfg s) :
    (∀ handle,
      ((∀ off, skSwldTapiHandleGeneratorPluginFindContextHandle skTapiMaxConnectionsPerContext
          s.tObj.conn.cthandles handle = some off →
          ∃ i : CSlot, off / skTapiContextHandleSize = i ∧ (s.tObj.conn.ctable i).active = true) ↔
        s.tObj.conn.LiveContext handle) ∧
      ((∀ off, skSwldTapiHandleGeneratorPluginFindSessionHandle skTapiMaxSessionsPerContext
          s.tObj.conn.sthandles handle = some off →
          ∃ i : SSlot, off / skTapiSessionHandleSize = i ∧ (s.tObj.conn.stable i).active = true) ↔
        s.tObj.conn.LiveSession handle)) ∧
    ∀ req, handleRequest cfg req s ≠ .error .assertActive ↔
      ∀ c, Accepted s req c → c.PresentsLive s.tObj.conn (req.decode c.reqLayout) := by
  refine ⟨fun handle => ⟨find_live_iff, find_live_iff⟩, fun req => ?_⟩
  have hsound := h.sound
  by_cases hfits : req.bytes.length ≤ s.tObj.maxMrecvSize
  · by_cases hacc : ∃ c, Accepted s req c
    · obtain ⟨c, hc⟩ := hacc
      have hiff := serve_assertActive_iff cfg req.env (hsound.receive req) c
        (req.decode c.reqLayout)
      have hmap : handleRequest cfg req s = .error .assertActive ↔
          c.serve cfg req.env (req.decode c.reqLayout) (receive req s) = .error .assertActive := by
        rw [handleRequest_of_accepted cfg hsound hc]
        cases c.serve cfg req.env (req.decode c.reqLayout) (receive req s) <;> simp [Except.map]
      rw [ne_eq, hmap, hiff, not_not]
      refine ⟨fun hlive c' hc' => ?_, fun hlive => hlive c hc⟩
      obtain rfl := hc.unique hc'
      exact hlive
    · obtain ⟨status, _, hrun⟩ :=
        handleRequest_of_refused cfg hsound hfits fun c hc => hacc ⟨c, hc⟩
      rw [hrun]
      exact ⟨fun _ c hc => absurd ⟨c, hc⟩ hacc, fun _ => by simp⟩
  · rw [handleRequest_of_overrun cfg (Nat.lt_of_not_le hfits)]
    exact ⟨fun _ c hc => absurd hc.fits hfits, fun _ => by simp⟩

/-- The handle of the second context that was opened resolves to it, and closing
that context fails no activity assertion. -/
theorem handle_resolves_live_opened : ∃ s, Reachable sampleConfig s ∧
    skSwldTapiHandleGeneratorPluginFindContextHandle skTapiMaxConnectionsPerContext
      s.tObj.conn.cthandles (fun _ => 6) = some 16 ∧
    (∃ i : CSlot, 16 / skTapiContextHandleSize = i ∧ (s.tObj.conn.ctable i).active = true) ∧
    ∃ req, Accepted s req .closeContext ∧ (req.decode .closeContextReq).2 = (fun _ => 6) ∧
      handleRequest sampleConfig req s ≠ .error .assertActive := by
  let req : Request := .of .closeContextReq (⟨1, 2, skTapiCloseContext⟩, fun _ => 6) (sampleEnv 0)
  obtain ⟨tr, s, hrun, hfind, hact, hslots, hacc, hdec⟩ :=
    exists_run sampleConfig (sampleServer_started 64)
      [sampleOpenContext, .of .openContextReq (⟨1, 2, skTapiOpenContext⟩, 1) (sampleEnv 6)]
      (fun _ s => skSwldTapiHandleGeneratorPluginFindContextHandle skTapiMaxConnectionsPerContext
          s.tObj.conn.cthandles (fun _ => 6) = some 16 ∧
        (s.tObj.conn.ctable 1).active = true ∧
        (∀ j : CSlot, handleAt s.tObj.conn.cthandles j = (fun _ => 6) → j = 1) ∧
        Accepted s req .closeContext ∧ (req.decode .closeContextReq).2 = (fun _ => 6))
      (by decide +kernel)
  have hlive : s.tObj.conn.LiveContext fun _ => 6 := by
    intro j hj hhandle
    rw [hslots j hhandle] at hj
    cases hact.symm.trans hj
  obtain ⟨hresolves, hasserts⟩ := handle_resolves_live_iff (s := s) ⟨tr, hrun⟩
  refine ⟨s, ⟨tr, hrun⟩, hfind, (hresolves _).1.mpr hlive 16 hfind, req, hacc, hdec, ?_⟩
  refine (hasserts req).mpr fun c hc => ?_
  obtain rfl := hacc.unique hc
  change s.tObj.conn.LiveContext (req.decode .closeContextReq).2
  rwa [hdec]

/-- Before any request, the all-zero handle resolves to the inactive context of
slot 0, and closing that context fails the assertion. -/
theorem handle_resolves_live_false : ∃ s handle, Reachable sampleConfig s ∧
    (∃ off, skSwldTapiHandleGeneratorPluginFindContextHandle skTapiMaxConnectionsPerContext
      s.tObj.conn.cthandles handle = some off ∧
      ∀ i : CSlot, off / skTapiContextHandleSize = i → (s.tObj.conn.ctable i).active = false) ∧
    ∃ req, handleRequest sampleConfig req s = .error .assertActive := by
  refine ⟨sampleServer 64, Blk.zero 16, ⟨[], _, sampleServer_started 64, .start⟩,
    ⟨0, by decide +kernel, fun i _ => rfl⟩,
    .of .closeContextReq (⟨1, 2, skTapiCloseContext⟩, Blk.zero 16) (sampleEnv 0), rfl⟩

end SkSdk
