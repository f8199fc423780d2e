import SkSdk.Swld.ServerInvariant

/-!
The context counter. Opening and closing keep it equal to the number of active
contexts; a close_context request for a context that has sessions and the
expiry of a context do not.
-/

namespace SkSdk
open ByteMemory FaultState DoublyLinked

namespace TApiConnectionTable

def activeContexts (conn : TApiConnectionTable) : Finset CSlot :=
  Finset.univ.filter fun c => (conn.ctable c).active = true

/-- The counter counts the active contexts. -/
def Accounted (conn : TApiConnectionTable) : Prop :=
  conn.numCtableElements = conn.activeContexts.card

instance (conn : TApiConnectionTable) : Decidable conn.Accounted :=
  inferInstanceAs (Decidable (_ = _))

end TApiConnectionTable

/-- The operations that keep counter and flags together. -/
def TableOp.Accounts : TableOp → Prop
  | .countOut | .expireContext _ => False
  | _ => True

theorem TableOp.accounted_apply {conn : TApiConnectionTable} {op : TableOp}
    (hop : op.Enabled conn) (hacc : op.Accounts) (h : conn.Accounted) :
    (op.apply conn).Accounted := by
  have hactive := active_apply conn op
  have hcount := numCtableElements_apply conn op
  unfold TApiConnectionTable.Accounted at h ⊢
  rw [hcount, h]
  cases op with
  | openContext c handle pid =>
    have hc : (conn.ctable c).active = false := hop
    have hnew : c ∉ conn.activeContexts := by simp [TApiConnectionTable.activeContexts, hc]
    have hset : (apply conn (openContext c handle pid)).activeContexts =
        insert c conn.activeContexts := by
      ext x
      simp [TApiConnectionTable.activeContexts, hactive]
    rw [hset, Finset.card_insert_of_notMem hnew]
  | closeContext c =>
    have hmem : c ∈ conn.activeContexts := by simp [TApiConnectionTable.activeContexts, hop.1]
    have hset : (apply conn (closeContext c)).activeContexts = conn.activeContexts.erase c := by
      ext x
      simp [TApiConnectionTable.activeContexts, hactive]
    rw [hset, Finset.card_erase_of_mem hmem]
  | countOut => exact hacc.elim
  | expireContext c => exact hacc.elim
  | _ =>
    refine (congrArg Finset.card (Finset.ext fun x => ?_) : conn.activeContexts.card = _)
    simp [TApiConnectionTable.activeContexts, hactive]

variable {cfg : Config} {req : Request} {s s' : Server} {status : SkStatus}

/-- A context that the step is to close has no sessions, and the reply fits. -/
def ClosesEmpty (x : ServerStep) : Prop :=
  Accepted x.pre x.input .closeContext →
    ∀ c, x.pre.tObj.conn.findContext (x.input.decode .closeContextReq).2 = some c →
      x.pre.tObj.conn.chain c = [] ∧
        Layout.closeContextResp.wireLength ≤ x.pre.tObj.maxMsendSize

instance (x : ServerStep) : Decidable (ClosesEmpty x) :=
  inferInstanceAs (Decidable (_ → ∀ _ : CSlot, _))

/-- The step closes no context that has sessions, and lets no context expire. -/
structure Orderly (cfg : Config) (x : ServerStep) : Prop where
  closes : ClosesEmpty x
  keeps : Accepted x.pre x.input .check → KeepsContexts cfg x.input.env x.pre.tObj.conn 0

/-- The context that a close_context request names was active and is not any more. -/
def ClosesContext (x : ServerStep) : Prop :=
  ∃ c, x.pre.tObj.conn.findContext (x.input.decode .closeContextReq).2 = some c ∧
    (x.pre.tObj.conn.ctable c).active = true ∧ (x.post.tObj.conn.ctable c).active = false

instance (x : ServerStep) : Decidable (ClosesContext x) :=
  inferInstanceAs (Decidable (∃ _ : CSlot, _))

private theorem accounts_of_orderly {x : ServerStep} (hord : Orderly cfg x) {c : Command}
    (hacc : Accepted x.pre x.input c) {ops : List TableOp} {evs : List Event}
    (h : Effect cfg x.input.env (receive x.input x.pre) c (x.input.decode c.reqLayout) ops evs) :
    ∀ op ∈ ops, op.Accounts := by
  generalize hv : x.input.decode c.reqLayout = v at h
  cases h with
  | countOut hfind _ hchain _ =>
    have hempty := (hord.closes hacc _ (by rw [hv]; exact hfind)).1
    exact absurd hempty hchain
  | check v hexpires hkeeps =>
    intro op hop
    have hexp := hexpires op hop
    cases op with
    | expireContext c => exact absurd hop (hkeeps (hord.keeps hacc) c)
    | expireSession c i => trivial
    | _ => exact hexp.elim
  | _ => simp [TableOp.Accounts]

/-- An orderly step keeps the counter right. -/
theorem accounted_step (hs : s.Sound) (hacc : s.tObj.conn.Accounted)
    (hrun : handleRequest cfg req s = .ok (status, s')) (hord : Orderly cfg ⟨req, s, status, s'⟩) :
    s'.tObj.conn.Accounted := by
  rcases handleRequest_outcome hs hrun with rfl | ⟨c, hc, hserved⟩
  · exact hacc
  · obtain ⟨ops, evs, heffect, hops, _⟩ := hserved.effect
    have haccounts := accounts_of_orderly hord hc heffect
    refine hops.preserves hs.table TApiConnectionTable.Accounted hacc ?_
    intro op hop conn _ henabled h
    exact TableOp.accounted_apply henabled (haccounts op hop) h

/-- A close_context request for a context without sessions reports what it does. -/
theorem closeContext_step (hs : s.Sound) (hacc : Accepted s req .closeContext)
    (hrun : handleRequest cfg req s = .ok (status, s')) (hord : Orderly cfg ⟨req, s, status, s'⟩) :
    Answered status s' .closeContextResp (req.hdr, skErrorSuccess) ↔
      ClosesContext ⟨req, s, status, s'⟩ := by
  have hhdr := req.decode_hdr .closeContextReq
  have hcloses := hord.closes hacc
  rw [handleRequest_of_accepted cfg hs hacc] at hrun
  unfold ClosesContext
  dsimp only at hcloses ⊢
  generalize req.decode .closeContextReq = v at *
  obtain ⟨hdr, contextHandle⟩ := v
  change (serveCloseContext hdr contextHandle (receive req s)).map _ = _ at hrun
  rw [serveCloseContext_run hdr (hs.receive req).table, receive_conn] at hrun
  subst hhdr
  cases hfind : s.tObj.conn.findContext contextHandle with
  | none =>
    simp only [hfind, answer, Except.map, Except.ok.injEq, Prod.mk.injEq] at hrun
    rw [← hrun.1, ← hrun.2, answered_iff _ _ _ (Command.errOf_ne _)]
    simp [skErrorContextHandleNotFound, skErrorSuccess]
  | some c =>
    obtain ⟨hchain, hfit⟩ := hcloses c hfind
    simp only [hfind] at hrun
    split at hrun
    · simp [Except.map] at hrun
    rename_i hactive
    split at hrun
    · simp [Except.map] at hrun
    simp only [answer, Except.map, Except.ok.injEq, Prod.mk.injEq] at hrun
    rw [← hrun.1, ← hrun.2, answered_iff _ _ _ (Command.errOf_ne _)]
    refine ⟨fun _ => ⟨c, rfl, by simpa using hactive, ?_⟩, fun _ => ⟨hfit, rfl⟩⟩
    simp [TApiConnectionTable.deactivate, TApiConnectionTable.countOut]

/-- In a run of orderly steps the counter counts the active contexts, and a
close_context request is answered with success exactly if it closes its context. -/
theorem context_accounting {tr : List ServerStep} (hrun : ServerRun cfg tr s)
    (hord : ∀ x ∈ tr, Orderly cfg x) :
    s.tObj.conn.Accounted ∧ ∀ x ∈ tr, Accepted x.pre x.input .closeContext →
      (Answered x.result x.post .closeContextResp (x.input.hdr, skErrorSuccess) ↔
        ClosesContext x) := by
  obtain ⟨s₀, h₀, hrun⟩ := hrun
  have hinv := hrun.invariant_of (Orderly cfg) hord (fun tr s =>
    s.Sound ∧ s.tObj.conn.Accounted ∧ ∀ x ∈ tr, Accepted x.pre x.input .closeContext →
      (Answered x.result x.post .closeContextResp (x.input.hdr, skErrorSuccess) ↔
        ClosesContext x)) ?_ ?_
  · exact hinv.2
  · refine ⟨h₀.sound, ?_, by simp⟩
    simp [h₀.conn, TApiConnectionTable.Accounted, TApiConnectionTable.activeContexts,
      TApiConnectionTable.init]
  · rintro tr s req status s' ⟨hs, hacc, hclosed⟩ hstep hx
    refine ⟨handleRequest_sound hs hstep, accounted_step hs hacc hstep hx, fun x hmem => ?_⟩
    rcases List.mem_append.mp hmem with hmem | hmem
    · exact hclosed x hmem
    · rw [List.mem_singleton] at hmem
      subst hmem
      exact fun haccepted => closeContext_step hs haccepted hstep hx

/-- A context opened and closed. -/
theorem context_accounting_closed : ∃ tr s, ServerRun sampleConfig tr s ∧
    s.tObj.conn.Accounted ∧ ∃ x ∈ tr, ClosesContext x ∧
      Answered x.result x.post .closeContextResp (x.input.hdr, skErrorSuccess) := by
  obtain ⟨tr, s, hrun, hempty, hcheck, x, hmem, hacc, hcloses⟩ := exists_run sampleConfig
    (sampleServer_started 64) [sampleOpenContext, sampleCloseContext]
    (fun tr _ => (∀ x ∈ tr, ClosesEmpty x) ∧ (∀ x ∈ tr, ¬Accepted x.pre x.input .check) ∧
      ∃ x ∈ tr, Accepted x.pre x.input .closeContext ∧ ClosesContext x) (by decide +kernel)
  obtain ⟨haccounted, hanswered⟩ := context_accounting hrun fun y hy =>
    ⟨hempty y hy, fun h => absurd h (hcheck y hy)⟩
  exact ⟨tr, s, hrun, haccounted, x, hmem, hcloses, (hanswered x hmem hacc).mpr hcloses⟩

/-- A context that has a session is counted out and reported closed, and stays active. -/
theorem context_accounting_false : ∃ tr s, ServerRun sampleConfig tr s ∧
    ¬s.tObj.conn.Accounted ∧ ∃ x ∈ tr, Accepted x.pre x.input .closeContext ∧
      Answered x.result x.post .closeContextResp (x.input.hdr, skErrorSuccess) ∧
      ¬ClosesContext x :=
  exists_run sampleConfig (sampleServer_started 64)
    [sampleOpenContext, sampleOpenSession, sampleCloseContext]
    (fun tr s => ¬s.tObj.conn.Accounted ∧ ∃ x ∈ tr, Accepted x.pre x.input .closeContext ∧
      Answered x.result x.post .closeContextResp (x.input.hdr, skErrorSuccess) ∧
      ¬ClosesContext x) (by decide +kernel)

end SkSdk
