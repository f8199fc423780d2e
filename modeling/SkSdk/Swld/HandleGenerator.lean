import Mathlib.Data.Finset.Powerset
import SkSdk.Library.Accumulation
import SkSdk.Swld.MyRc4Prng
import SkSdk.Swld.StoreRefinement

/-!
The server together with its handle generator, `my_tapi_handle_generator_plugin.c`.
The generator works on the handle table in place, so what a slot holds is not one
piece of the key stream but the sum of all pieces drawn for it.
-/

namespace SkSdk
open ByteMemory FaultState Accumulation

/-- Handles under exclusive or. -/
def HandleSum : Type := Handle

instance : Add HandleSum := ⟨fun a b => Blk.xor a b⟩
instance : Zero HandleSum := ⟨Blk.zero 16⟩
instance : Neg HandleSum := ⟨fun a => a⟩

instance : AddCommGroup HandleSum where
  add_assoc a b c := funext fun i => UInt8.xor_assoc (a i) (b i) (c i)
  zero_add a := funext fun i => UInt8.zero_xor
  add_zero a := funext fun i => UInt8.xor_zero
  nsmul := nsmulRec
  zsmul := zsmulRec
  neg_add_cancel a := funext fun i => UInt8.xor_self
  add_comm a b := funext fun i => UInt8.xor_comm (a i) (b i)

local instance byteSymbols : NeZero 256 := ⟨by decide⟩

theorem HandleSum.add_self (a : HandleSum) : a + a = 0 := neg_add_cancel a

abbrev skErrorPrngInitFailed : SkStatus := -19
abbrev skErrorPrngReadFailed : SkStatus := -20

/-! ## The plugin -/

/-- `sk_swld_tapi_handle_generator_plugin_init`: the allocated object, if any, and the
`entropy_len` bytes of entropy. -/
def skSwldTapiHandleGeneratorPluginInit (inst : Option Rc4PrngState) (entropy : Chunk) :
    Except Fault (SkStatus × Option Rc4PrngState) :=
  match inst with
  | none => return (skErrorNoMemory, none)
  | some prng => do
    let (err, prng) ← myRc4PrngInit prng
    if err ≠ myRc4ErrSuccess then return (skErrorPrngInitFailed, none)
    let (err, prng) ← myRc4PrngSeed entropy.bytes entropy.len prng
    if err ≠ myRc4ErrSuccess then return (skErrorPrngInitFailed, none)
    let (err, prng) ← myRc4PrngReady prng
    if err ≠ myRc4ErrSuccess then return (skErrorPrngInitFailed, none)
    return (err, some prng)

/-- Both generating functions of the plugin, on the generator's own state. -/
def pluginGenerateHandle (handle : Handle) : Rc4M (SkStatus × Handle) := do
  let (n, out) ← myRc4PrngRead (List.ofFn handle) 16
  return (if n.toInt32 ≠ 16 then skErrorPrngReadFailed else n.toInt32, Blk.ofList 16 out)

theorem Stands.unique {prng prng' : Rc4PrngState} {st : Rc4.State 256} (h : Stands prng st)
    (h' : Stands prng' st) : prng = prng' := by
  cases prng
  cases prng'
  exact Rc4PrngState.mk.injEq .. |>.mpr
    ⟨h.x.trans h'.x.symm, h.y.trans h'.y.symm, h.buf.trans h'.buf.symm⟩

/-- Sixteen bytes of the key stream from `st` on. -/
def blockFrom (st : Rc4.State 256) : Handle :=
  Blk.ofList 16 ((Rc4.keystream 16 st).map UInt8.ofFin)

theorem ofList_zipWith {n : Nat} (block : Blk n) {out : List (Fin 256)} (hlen : out.length = n) :
    Blk.ofList n (List.zipWith (· ^^^ UInt8.ofFin ·) (List.ofFn block) out) =
      Blk.xor block (Blk.ofList n (out.map UInt8.ofFin)) := by
  funext i
  have hi : i.val < out.length := hlen ▸ i.isLt
  simp [Blk.ofList, Blk.xor, List.getD_eq_getElem?_getD, hi]

theorem pluginGenerateHandle_run {prng : Rc4PrngState} {st : Rc4.State 256} (h : Stands prng st)
    (handle : Handle) :
    ∃ prng', pluginGenerateHandle handle prng = .ok ((16, Blk.xor handle (blockFrom st)), prng') ∧
      Stands prng' (Rc4.State.next^[16] st) := by
  have hlen : (List.ofFn handle).length = 16 := List.length_ofFn
  obtain ⟨prng', hread, hstands⟩ := myRc4PrngRead_run h ⟨List.ofFn handle, by rw [hlen]; decide⟩
  rw [Chunk.len] at hread
  dsimp only at hread hstands
  rw [hlen] at hread hstands
  have hout : Blk.ofList 16 (xorKeystream (List.ofFn handle) st) =
      Blk.xor handle (blockFrom st) := by
    rw [xorKeystream, hlen]
    exact ofList_zipWith handle (Rc4.length_keystream 16 st)
  rw [← hout]
  exact ⟨prng', bind_of_ok hread _, hstands⟩

/-- The key that the entropy makes. -/
def entropyKey (entropy : Chunk) : List (Fin 256) := rc4Key (entropy.bytes.take 256)

theorem skSwldTapiHandleGeneratorPluginInit_run (inst : Rc4PrngState) {entropy : Chunk}
    (hpos : 0 < entropy.bytes.length) :
    ∃ prng, skSwldTapiHandleGeneratorPluginInit (some inst) entropy =
        .ok (skErrorSuccess, some prng) ∧
      Stands prng (Rc4.State.init (entropyKey entropy)) := by
  have hempty : Collected { inst with x := 0 } [] := ⟨Nat.zero_le _, rfl, by simp⟩
  obtain ⟨seeded, hseed, hcollected⟩ := myRc4PrngSeed_run hempty entropy
  rw [List.nil_append] at hcollected
  obtain ⟨prng, hready, hstands⟩ := myRc4PrngReady_run hcollected (by simpa using hpos)
  refine ⟨prng, ?_, hstands⟩
  have hinit : myRc4PrngInit inst = .ok (myRc4ErrSuccess, { inst with x := 0 }) := rfl
  rw [skSwldTapiHandleGeneratorPluginInit, hinit]
  dsimp only [bind, Except.bind]
  rw [if_neg (by decide), hseed]
  dsimp only
  rw [if_neg (by decide), hready]
  rfl

/-! ## What the requests do to the handles -/

/-- A slot of one of the two handle tables. -/
abbrev HandleSlot := CSlot ⊕ SSlot

def TApiConnectionTable.handleOf (conn : TApiConnectionTable) : HandleSlot → Handle
  | .inl c => handleAt conn.cthandles c
  | .inr i => handleAt conn.sthandles i

/-- The handles generated during the request. -/
def Server.generated (s : Server) : List Handle := s.events.filterMap Event.generated

/-- The slot that a request of this kind opens an object in: the lowest free one. -/
def Command.freeSlot (conn : TApiConnectionTable) : Command → Option HandleSlot
  | openContext => (firstFree fun c => (conn.ctable c).active).map .inl
  | openSession => (firstFree fun i => (conn.stable i).active).map .inr
  | _ => none

/-- The slot for which the request drew from the key stream, if it did. -/
def drawnFor (y : ServerStep) : Option HandleSlot :=
  if y.post.generated = [] then none
  else (Command.ofCmd y.input.hdr.cmd).bind (·.freeSlot y.pre.tObj.conn)

/-- The handle tables before and after a request that drew for the given slot. -/
inductive Draws (block : Handle) (conn conn' : TApiConnectionTable) :
    List Handle → Option HandleSlot → Prop
  | none : (∀ x, conn'.handleOf x = conn.handleOf x) → Draws block conn conn' [] none
  | some {x : HandleSlot} : conn'.handleOf x = Blk.xor (conn.handleOf x) block →
      (∀ x', x' ≠ x → conn'.handleOf x' = conn.handleOf x') →
      Draws block conn conn' [conn'.handleOf x] (some x)

section Requests

variable {cfg : Config} {req : Request} {s s' : Server} {status : SkStatus}

theorem draws_none {conn conn' : TApiConnectionTable} {block : Handle}
    (hc : conn'.cthandles = conn.cthandles) (hs : conn'.sthandles = conn.sthandles) :
    Draws block conn conn' [] none := by
  refine .none fun x => ?_
  cases x with
  | inl c => exact congrArg (handleAt · c) hc
  | inr i => exact congrArg (handleAt · i) hs

theorem draws_opened {conn conn' : TApiConnectionTable} {block handle : Handle} {x : HandleSlot}
    (hself : conn'.handleOf x = handle) (hhandle : handle = Blk.xor (conn.handleOf x) block)
    (hother : ∀ x', x' ≠ x → conn'.handleOf x' = conn.handleOf x') :
    Draws block conn conn' [handle] (some x) := by
  subst hself
  exact .some hhandle hother

theorem RequestOutcome.draws {c : Command} {conn : TApiConnectionTable} {evs : List Event}
    {reply : Option c.respLayout.Fields} (ht : s.tObj.conn.Consistent)
    (houtcome : RequestOutcome cfg req s c conn evs reply) :
    Draws req.env.keystream s.tObj.conn conn (evs.filterMap Event.generated)
      (if evs.filterMap Event.generated = [] then none else c.freeSlot s.tObj.conn) := by
  cases houtcome with
  | @contextOpened c hid hroom hfree =>
    rw [Command.freeSlot, hfree]
    refine draws_opened (handleAt_setHandleAt _ _ _) rfl fun x' hx' => ?_
    cases x' with
    | inl c' => exact handleAt_setHandleAt_of_ne (fun he => hx' (by rw [Fin.ext he])) _ _
    | inr i' => rfl
  | @sessionOpened c i hfind hc hfree =>
    have hevents : (Event.generate (nextSessionHandle req s i) ::
        loadEvents (openSessionTaid req) (loadResult req s i)).filterMap Event.generated =
        [nextSessionHandle req s i] := by
      unfold loadEvents
      split <;> rfl
    rw [hevents, if_neg (List.cons_ne_nil _ _), Command.freeSlot, hfree]
    refine draws_opened (handleAt_setHandleAt _ _ _) rfl fun x' hx' => ?_
    cases x' with
    | inl c' => rfl
    | inr i' => exact handleAt_setHandleAt_of_ne (fun he => hx' (by rw [Fin.ext he])) _ _
  | swept hsweep =>
    obtain ⟨ops, hops, hexpires, _⟩ :=
      sweepContexts_performs cfg req.env ht (List.nodup_finRange _) hsweep
    have hhandles : conn.cthandles = s.tObj.conn.cthandles ∧
        conn.sthandles = s.tObj.conn.sthandles := by
      refine hops.preserves ht (fun x => x.cthandles = s.tObj.conn.cthandles ∧
        x.sthandles = s.tObj.conn.sthandles) ⟨rfl, rfl⟩ ?_
      intro op hop x _ _ hx
      have hexp := hexpires op hop
      cases op with
      | expireSession | expireContext => exact hx
      | _ => exact hexp.elim
    exact draws_none hhandles.1 hhandles.2
  | _ => exact draws_none rfl rfl

/-- A completed request draws for the slot of the object it opens, or not at all. -/
theorem handleRequest_draws (h : s.Sound) (hrun : handleRequest cfg req s = .ok (status, s')) :
    Draws req.env.keystream s.tObj.conn s'.tObj.conn s'.generated
      (drawnFor ⟨req, s, status, s'⟩) := by
  rcases handleRequest_handled h hrun with ⟨_, _, rfl⟩ | ⟨c, reply, hc⟩
  · exact draws_none rfl rfl
  · have hdraws := hc.outcome.draws h.table
    rw [drawnFor]
    dsimp only
    rw [hc.accepted.command]
    exact hdraws

end Requests

/-! ## The server and its generator -/

structure GeneratingServer where
  server : Server
  prng : Rc4PrngState

def Request.withKeystream (req : Request) (block : Handle) : Request :=
  { req with env := { req.env with keystream := block } }

/-- What the generator makes of a handle of zeros, which is the key stream itself. -/
def Rc4PrngState.block (prng : Rc4PrngState) : Except Fault (Handle × Rc4PrngState) :=
  (pluginGenerateHandle (Blk.zero 16) prng).map fun r => (r.1.2, r.2)

/-- A request with the key stream of the generator, which moves on if the request
generates a handle; no request generates two. -/
def handleGenerating (cfg : Config) (req : Request) : Prog GeneratingServer Fault SkStatus :=
  fun g => do
    let (block, prng) ← g.prng.block
    let (status, server) ← handleRequest cfg (req.withKeystream block) g.server
    return (status, ⟨server, if server.generated = [] then g.prng else prng⟩)

abbrev GeneratingStep := Step Request GeneratingServer SkStatus

/-- The request with the key stream that it met. -/
def GeneratingStep.keyed (y : GeneratingStep) : Request :=
  y.input.withKeystream (match y.pre.prng.block with
    | .ok (block, _) => block
    | .error _ => Blk.zero 16)

/-- The step as one of the server. -/
def GeneratingStep.serverStep (y : GeneratingStep) : ServerStep :=
  ⟨y.keyed, y.pre.server, y.result, y.post.server⟩

def GeneratingRun (cfg : Config) (entropy : Chunk) (tr : List GeneratingStep)
    (g : GeneratingServer) : Prop :=
  ∃ g₀ inst, Started g₀.server ∧
    skSwldTapiHandleGeneratorPluginInit (some inst) entropy = .ok (skErrorSuccess, some g₀.prng) ∧
    Run (handleGenerating cfg) g₀ tr g

/-- The slots drawn for, in the order of the draws. -/
def drawsOf (tr : List GeneratingStep) : List HandleSlot :=
  tr.filterMap fun y => drawnFor y.serverStep

/-- The piece of the key stream that draw `k` gets. -/
def keystreamBlock (entropy : Chunk) (k : Nat) : HandleSum :=
  blockFrom (Rc4.State.next^[16 * k] (Rc4.State.init (entropyKey entropy)))

section Runs

variable {cfg : Config} {entropy : Chunk} {tr : List GeneratingStep} {g : GeneratingServer}

theorem xor_zero_left (block : Handle) : Blk.xor (Blk.zero 16) block = block :=
  funext fun _ => UInt8.zero_xor

theorem block_run {prng : Rc4PrngState} {st : Rc4.State 256} (h : Stands prng st) :
    ∃ prng', prng.block = .ok (blockFrom st, prng') ∧ Stands prng' (Rc4.State.next^[16] st) := by
  obtain ⟨prng', hrun, hstands⟩ := pluginGenerateHandle_run h (Blk.zero 16)
  rw [xor_zero_left] at hrun
  exact ⟨prng', by rw [Rc4PrngState.block, hrun]; rfl, hstands⟩

theorem handleGenerating_ok {y : GeneratingStep}
    (h : handleGenerating cfg y.input y.pre = .ok (y.result, y.post)) :
    ∃ block prng, y.pre.prng.block = .ok (block, prng) ∧
      y.keyed = y.input.withKeystream block ∧
      handleRequest cfg y.keyed y.pre.server = .ok (y.result, y.post.server) ∧
      y.post.prng = if y.post.server.generated = [] then y.pre.prng else prng := by
  unfold handleGenerating at h
  cases hblock : y.pre.prng.block with
  | error fault =>
    rw [hblock] at h
    cases h
  | ok r =>
    obtain ⟨block, prng⟩ := r
    have hkeyed : y.keyed = y.input.withKeystream block := by rw [GeneratingStep.keyed, hblock]
    rw [hblock] at h
    dsimp only [bind, Except.bind] at h
    rw [← hkeyed] at h
    cases hrun : handleRequest cfg y.keyed y.pre.server with
    | error fault =>
      rw [hrun] at h
      cases h
    | ok r =>
      obtain ⟨status, server⟩ := r
      rw [hrun] at h
      have heq := Except.ok.inj h
      rw [Prod.mk.injEq] at heq
      obtain ⟨rfl, hpost⟩ := heq
      rw [← hpost]
      exact ⟨block, prng, rfl, hkeyed, rfl, rfl⟩

/-- The server's part of a run is a run of the server. -/
theorem GeneratingRun.serverRun (h : GeneratingRun cfg entropy tr g) :
    ServerRun cfg (tr.map GeneratingStep.serverStep) g.server := by
  obtain ⟨g₀, _, h₀, _, hrun⟩ := h
  refine ⟨g₀.server, h₀, hrun.project GeneratingServer.server GeneratingStep.serverStep
    (fun _ => rfl) (fun _ => rfl) fun y hy => ?_⟩
  obtain ⟨_, _, _, _, hrequest, _⟩ := handleGenerating_ok hy
  exact hrequest

/-- The key stream left, and what the slots hold, after the given draws. -/
structure Generated (entropy : Chunk) (draws : List HandleSlot) (g : GeneratingServer) : Prop where
  sound : g.server.Sound
  stands : Stands g.prng
    (Rc4.State.next^[16 * draws.length] (Rc4.State.init (entropyKey entropy)))
  handles : ∀ x, g.server.tObj.conn.handleOf x = held (keystreamBlock entropy) draws x

theorem Generated.step {draws : List HandleSlot} {y : GeneratingStep}
    (h : Generated entropy draws y.pre)
    (hstep : handleGenerating cfg y.input y.pre = .ok (y.result, y.post)) :
    Generated entropy (draws ++ (drawnFor y.serverStep).toList) y.post := by
  obtain ⟨block, prng, hblock, hkeyed, hrequest, hprng⟩ := handleGenerating_ok hstep
  obtain ⟨prng', hblock', hstands⟩ := block_run h.stands
  obtain ⟨rfl, rfl⟩ := Prod.mk.inj (Except.ok.inj (hblock.symm.trans hblock'))
  have hdraws := handleRequest_draws h.sound hrequest
  have hsound := handleRequest_sound h.sound hrequest
  have hstream : y.keyed.env.keystream = keystreamBlock entropy draws.length := by rw [hkeyed]; rfl
  rw [hstream] at hdraws
  change Draws _ _ _ _ (drawnFor y.serverStep) at hdraws
  generalize drawnFor y.serverStep = drawn at hdraws ⊢
  generalize hgenerated : y.post.server.generated = handles at hdraws hprng
  cases hdraws with
  | none hsame =>
    rw [Option.toList_none, List.append_nil]
    exact ⟨hsound, hprng ▸ h.stands, fun x => (hsame x).trans (h.handles x)⟩
  | @some x hself hother =>
    rw [if_neg (List.cons_ne_nil _ _)] at hprng
    refine ⟨hsound, ?_, fun x' => ?_⟩
    · rw [Option.toList_some, List.length_append, List.length_singleton, Nat.mul_succ, Nat.add_comm,
        Function.iterate_add_apply, hprng]
      exact hstands
    · by_cases hx : x' = x
      · subst hx
        rw [hself, h.handles, Option.toList_some, held_concat_self]
        rfl
      · rw [hother x' hx, h.handles, Option.toList_some, held_concat_of_ne _ _ hx]

theorem GeneratingRun.generated (h : GeneratingRun cfg entropy tr g)
    (hpos : 0 < entropy.bytes.length) : Generated entropy (drawsOf tr) g := by
  obtain ⟨g₀, inst, h₀, hinit, hrun⟩ := h
  obtain ⟨prng, hinit', hstands⟩ := skSwldTapiHandleGeneratorPluginInit_run inst hpos
  obtain rfl : g₀.prng = prng := by
    rw [hinit] at hinit'
    exact Option.some.inj (Prod.mk.inj (Except.ok.inj hinit')).2
  refine hrun.invariant_of (fun _ => True) (fun _ _ => trivial)
    (fun tr g => Generated entropy (drawsOf tr) g) ⟨h₀.sound, hstands, fun x => ?_⟩ ?_
  · rw [h₀.conn]
    cases x <;> rfl
  · intro tr g req status g' hgenerated hstep _
    have hnext := Generated.step (y := ⟨req, g, status, g'⟩) hgenerated hstep
    rwa [drawsOf, List.filterMap_append]

/-- A step of a run, after the steps before it. -/
theorem GeneratingRun.step_of_mem (h : GeneratingRun cfg entropy tr g) {y : GeneratingStep}
    (hy : y ∈ tr) :
    ∃ before after, tr = before ++ y :: after ∧ GeneratingRun cfg entropy before y.pre ∧
      handleGenerating cfg y.input y.pre = .ok (y.result, y.post) := by
  obtain ⟨g₀, inst, h₀, hinit, hrun⟩ := h
  obtain ⟨before, after, htr⟩ := List.append_of_mem hy
  obtain ⟨hbefore, hstep⟩ := hrun.split htr
  exact ⟨before, after, htr, ⟨g₀, inst, h₀, hinit, hbefore⟩, hstep⟩

/-- The handles of the tables are what the plugin makes of the bytes in their slots. -/
theorem generated_by_plugin (h : GeneratingRun cfg entropy tr g) (hpos : 0 < entropy.bytes.length)
    {y : GeneratingStep} (hy : y ∈ tr) {x : HandleSlot} (hx : drawnFor y.serverStep = some x) :
    pluginGenerateHandle (y.pre.server.tObj.conn.handleOf x) y.pre.prng =
      .ok ((16, y.post.server.tObj.conn.handleOf x), y.post.prng) := by
  obtain ⟨before, after, rfl, hbefore, hstep⟩ := h.step_of_mem hy
  have hgenerated := hbefore.generated hpos
  have hnext := hgenerated.step hstep
  obtain ⟨prng, hrun, hstands⟩ :=
    pluginGenerateHandle_run hgenerated.stands (y.pre.server.tObj.conn.handleOf x)
  rw [hx, Option.toList_some] at hnext
  have hhandle := hnext.handles x
  rw [held_concat_self, ← hgenerated.handles x] at hhandle
  have hlast := hnext.stands
  rw [List.length_append, List.length_singleton, Nat.mul_succ, Nat.add_comm,
    Function.iterate_add_apply] at hlast
  rw [hrun, hstands.unique hlast, hhandle]
  rfl

/-- Over every run of the server with its generator, a slot of the handle tables
holds the exclusive or of those pieces of the key stream that were drawn for it,
each piece being drawn for one slot. -/
theorem handles_of_keystream (h : GeneratingRun cfg entropy tr g)
    (hpos : 0 < entropy.bytes.length) (x : HandleSlot) :
    g.server.tObj.conn.handleOf x = held (keystreamBlock entropy) (drawsOf tr) x :=
  (h.generated hpos).handles x

/-- As long as no choice of the pieces drawn cancels out, no handle that is
generated is in a table. -/
theorem GeneratingRun.fresh (h : GeneratingRun cfg entropy tr g) (hpos : 0 < entropy.bytes.length)
    (hind : Independent (keystreamBlock entropy) (drawsOf tr).length) {y : GeneratingStep}
    (hy : y ∈ tr) {handle : Handle} (hhandle : handle ∈ y.post.server.generated)
    (x' : HandleSlot) : y.pre.server.tObj.conn.handleOf x' ≠ handle := by
  obtain ⟨before, after, rfl, hbefore, hstep⟩ := h.step_of_mem hy
  have hgenerated := hbefore.generated hpos
  have hnext := hgenerated.step hstep
  obtain ⟨_, _, _, _, hrequest, _⟩ := handleGenerating_ok hstep
  have hdraws := handleRequest_draws hgenerated.sound hrequest
  change Draws _ _ _ _ (drawnFor y.serverStep) at hdraws
  rw [drawsOf, List.filterMap_append, List.filterMap_cons] at hind
  generalize drawnFor y.serverStep = drawn at hdraws hind hnext
  generalize y.post.server.generated = handles at hdraws hhandle
  cases hdraws with
  | none => cases hhandle
  | @some x hself hother =>
    have hroom : (drawsOf before).length + 1 ≤
        (drawsOf before ++ x :: after.filterMap fun y => drawnFor y.serverStep).length := by
      rw [List.length_append, List.length_cons]
      omega
    rw [List.mem_singleton.mp hhandle, hgenerated.handles x', hnext.handles x]
    exact (hind.mono hroom).fresh HandleSum.add_self x x'

theorem GeneratingRun.fair (h : GeneratingRun cfg entropy tr g) (hpos : 0 < entropy.bytes.length)
    (hind : Independent (keystreamBlock entropy) (drawsOf tr).length)
    (hfits : ∀ y ∈ tr, ∀ c : Command,
      c.respLayout.wireLength ≤ y.pre.server.tObj.maxMsendSize) :
    ∀ y ∈ tr.map GeneratingStep.serverStep, Fair y :=
  List.forall_mem_map.mpr fun y hy => ⟨fun _ hhandle =>
    ⟨fun c => h.fresh hpos hind hy hhandle (.inl c),
      fun i => h.fresh hpos hind hy hhandle (.inr i)⟩, hfits y hy⟩

/-- As long as no choice of the pieces drawn from the key stream cancels out, no
handle that is generated is in a table, and the server with its generator refines
the store of contexts and sessions. -/
theorem generating_server_refines_store (h : GeneratingRun cfg entropy tr g)
    (hpos : 0 < entropy.bytes.length)
    (hind : Independent (keystreamBlock entropy) (drawsOf tr).length)
    (hfits : ∀ y ∈ tr, ∀ c : Command,
      c.respLayout.wireLength ≤ y.pre.server.tObj.maxMsendSize) :
    (∀ y ∈ tr, ∀ handle ∈ y.post.server.generated, ∀ x : HandleSlot,
      y.pre.server.tObj.conn.handleOf x ≠ handle) ∧
    SessionStore.StorePath g.server.tObj.contextId
      ((tr.map GeneratingStep.serverStep).map observe) g.server.tObj.conn.store :=
  ⟨fun _ hy _ hhandle => h.fresh hpos hind hy hhandle,
    (h.serverRun.simulates (h.fair hpos hind hfits)).2⟩

end Runs

/-! ## A run with two contexts -/

/-- A server whose generator has been initialised. -/
def GeneratingServer.start (server : Server) (inst : Rc4PrngState) (entropy : Chunk) :
    GeneratingServer where
  server
  prng := match skSwldTapiHandleGeneratorPluginInit (some inst) entropy with
    | .ok (_, some prng) => prng
    | _ => inst

/-- A run of the server with its generator over a list of requests. -/
theorem exists_generatingRun (inst : Rc4PrngState) {entropy : Chunk}
    (hpos : 0 < entropy.bytes.length) (reqs : List Request)
    (P : List GeneratingStep → GeneratingServer → Prop) [∀ tr g, Decidable (P tr g)]
    (h : (execute (handleGenerating sampleConfig) reqs (.start (sampleServer 64) inst entropy)).any
      (fun r => P r.1 r.2) = true) :
    ∃ tr g, GeneratingRun sampleConfig entropy tr g ∧ P tr g := by
  obtain ⟨tr, g, hrun, _, hP⟩ := exists_run_of_execute (handleGenerating sampleConfig)
    (.start (sampleServer 64) inst entropy) reqs P h
  obtain ⟨prng, hinit, _⟩ := skSwldTapiHandleGeneratorPluginInit_run inst hpos
  refine ⟨tr, g, ⟨_, inst, sampleServer_started 64, ?_, hrun⟩, hP⟩
  rw [GeneratingServer.start, hinit]

def sampleEntropy : Chunk := ⟨List.replicate 16 7, by decide⟩

theorem handles_of_keystream_two : ∃ tr g, GeneratingRun sampleConfig sampleEntropy tr g ∧
    drawsOf tr = [.inl 0, .inl 1] ∧ g.server.tObj.conn.handleOf (.inl 1) =
      held (keystreamBlock sampleEntropy) (drawsOf tr) (.inl 1) := by
  obtain ⟨tr, g, hrun, hdraws⟩ := exists_generatingRun ⟨0, 0, Blk.zero 256⟩
    (show 0 < sampleEntropy.bytes.length by decide) [sampleOpenContext, sampleOpenContext]
    (fun tr _ => drawsOf tr = [.inl 0, .inl 1]) (by decide +kernel)
  exact ⟨tr, g, hrun, hdraws, handles_of_keystream hrun (by decide) (.inl 1)⟩

/-- The first two pieces of the key stream differ from each other and from zero. -/
theorem independent_two {entropy : Chunk} (h0 : keystreamBlock entropy 0 ≠ 0)
    (h1 : keystreamBlock entropy 1 ≠ 0)
    (hne : keystreamBlock entropy 0 ≠ keystreamBlock entropy 1) :
    Independent (keystreamBlock entropy) 2 := by
  intro S hS hsum
  have hmem : S ∈ ({∅, {0}, {1}, {0, 1}} : Finset (Finset Nat)) := by
    have hpowerset : (Finset.range 2).powerset = {∅, {0}, {1}, {0, 1}} := by decide
    exact hpowerset ▸ Finset.mem_powerset.mpr hS
  simp only [Finset.mem_insert, Finset.mem_singleton] at hmem
  rcases hmem with rfl | rfl | rfl | rfl
  · rfl
  · rw [Finset.sum_singleton] at hsum
    exact absurd hsum h0
  · rw [Finset.sum_singleton] at hsum
    exact absurd hsum h1
  · rw [Finset.sum_pair (by decide)] at hsum
    exact absurd (eq_neg_of_add_eq_zero_left hsum) hne

theorem generating_server_refines_store_two : ∃ tr g,
    GeneratingRun sampleConfig sampleEntropy tr g ∧ (drawsOf tr).length = 2 ∧
      (∀ y ∈ tr, ∀ handle ∈ y.post.server.generated, ∀ x : HandleSlot,
        y.pre.server.tObj.conn.handleOf x ≠ handle) ∧
      SessionStore.StorePath g.server.tObj.contextId
        ((tr.map GeneratingStep.serverStep).map observe) g.server.tObj.conn.store := by
  obtain ⟨tr, g, hrun, hdraws, h0, h1, hne, hfits⟩ := exists_generatingRun ⟨0, 0, Blk.zero 256⟩
    (show 0 < sampleEntropy.bytes.length by decide) [sampleOpenContext, sampleOpenContext]
    (fun tr g => drawsOf tr = [.inl 0, .inl 1] ∧
      g.server.tObj.conn.handleOf (.inl 0) ≠ Blk.zero 16 ∧
      g.server.tObj.conn.handleOf (.inl 1) ≠ Blk.zero 16 ∧
      g.server.tObj.conn.handleOf (.inl 0) ≠ g.server.tObj.conn.handleOf (.inl 1) ∧
      tr.all (fun y => ∀ c ∈ Command.all,
        c.respLayout.wireLength ≤ y.pre.server.tObj.maxMsendSize) = true) (by decide +kernel)
  have hgenerated := hrun.generated (by decide)
  rw [hdraws] at hgenerated
  have hheld : ∀ x : HandleSlot, held (keystreamBlock sampleEntropy) [.inl 0, .inl 1] x =
      held (keystreamBlock sampleEntropy) (([] ++ [.inl 0]) ++ [.inl 1]) x := fun _ => rfl
  rw [hgenerated.handles, hheld, held_concat_of_ne _ _ (by decide), held_concat_self, held_nil,
    zero_add] at h0 hne
  rw [hgenerated.handles, hheld, held_concat_self, held_concat_of_ne _ _ (by decide), held_nil,
    zero_add] at h1 hne
  have hind := independent_two h0 h1 hne
  refine ⟨tr, g, hrun, by rw [hdraws]; rfl, ?_⟩
  refine generating_server_refines_store hrun (by decide) (by rw [hdraws]; exact hind) ?_
  intro y hy c
  have hall := of_decide_eq_true (List.all_eq_true.mp hfits y hy)
  exact hall c (by cases c <;> decide)

end SkSdk
