import SkSdk.Platform.TappObjects
import SkSdk.Swld.TappCalls

/-!
The server together with the heap of its TApp loader, over whole runs. Each
session slot owns the object behind its `arch_obj`: what this excludes, what it
does not, and what is lost when a session expires.
-/

namespace SkSdk
open ByteMemory FaultState DoublyLinked Ownership

/-! ## The machine -/

/-- What `tapp_load` meets: the TOC file if it opens, the prior bytes of two
locals, and the surroundings of the loader. -/
structure TappEnv where
  toc : Option (List UInt8)
  buffer : Mem
  entry : TappTocEntry
  loader : LoaderEnv

namespace TappEnv

variable (te : TappEnv)

def platformLoad (entry : TappTocEntry) (_ : SkSwldTappInstance) : SkStatus × SkSwldTappInstance :=
  let load := skSwldPlatformTappLoad te.loader entry TappsInfoData.zero
  (load.err, load.tapp)

def tappLoad (taid : SkTaid) (tapp : SkSwldTappInstance) : SkStatus × SkSwldTappInstance :=
  let run := tappLoadCalls te.platformLoad te.toc te.buffer te.entry taid tapp
  (run.1, run.2.tapp)

/-- The entry with which the loader is called, if it is called. -/
def selected (taid : SkTaid) : Option TappTocEntry :=
  (tappLoadCalls te.platformLoad te.toc te.buffer te.entry taid ⟨none⟩).2.calls.findSome?
    TappCall.loaded

/-- The entry is the first in the TOC file for this TAID. -/
def Holds (taid : SkTaid) (entry : TappTocEntry) : Prop :=
  ∃ file k, te.toc = some file ∧ Names file taid k ∧ (∀ j < k, ¬ Names file taid j) ∧
    entry = entryOfBytes (file.drop (entryPos k))

end TappEnv

/-- A request and the surroundings of the TApp interface. The functions of the
TApps themselves are those of `request.env`. -/
structure TappRequest where
  request : Request
  tapps : TappEnv

namespace TappRequest

/-- The request with the interface that the handlers meet. -/
def served (x : TappRequest) : Request :=
  { x.request with env := { x.request.env with
      tappLoad := x.tapps.tappLoad, tappUnload := fun _ => (skErrorSuccess, ⟨none⟩) } }

/-- What a call of a handler does to the heap. -/
def call (x : TappRequest) : Event → TappM Unit
  | .generate _ => return ()
  | .load taid _ _ => match x.tapps.selected taid with
    | none => return ()
    | some entry => do let _ ← skSwldPlatformTappLoadBlocks x.tapps.loader entry
  | .init tapp => do let _ ← skSwldPlatformTappInit (x.request.env.tappInit tapp) tapp
  | .pull tapp cmd op => do
    let _ ← skSwldPlatformTappPull (fun _ cmd op => x.request.env.tappPull tapp cmd op) tapp cmd op
  | .close tapp => do let _ ← skSwldPlatformTappClose (x.request.env.tappClose tapp) tapp
  | .unload tapp => do let _ ← tappUnload tapp

def calls (x : TappRequest) : List Event → TappM Unit
  | [] => return ()
  | e :: es => do x.call e; x.calls es

end TappRequest

structure Machine where
  server : Server
  heap : TappHeap

inductive MachineFault
  | server (fault : Fault)
  | tapp (fault : TappFault)
  deriving DecidableEq

/-- A program of the server with what its calls do to the heap. The calls come in
the order in which the handler makes them; in the states of a run no handler
faults after its first call. -/
def withCalls {α : Type} (x : TappRequest) (run : ServerM α) :
    Prog Machine MachineFault α := fun m =>
  match run m.server with
  | .error fault => .error (.server fault)
  | .ok (a, server) =>
    match x.calls server.events m.heap with
    | .error fault => .error (.tapp fault)
    | .ok (_, heap) => .ok (a, ⟨server, heap⟩)

/-- One request. -/
def machineStep (cfg : Config) (x : TappRequest) : Prog Machine MachineFault SkStatus :=
  withCalls x (handleRequest cfg x.served)

abbrev MachineStep := Step TappRequest Machine SkStatus

/-- The runs from a started server and an empty heap with an allocator that gives
out no live block. -/
def MachineRun (cfg : Config) (tr : List MachineStep) (m : Machine) : Prop :=
  ∃ m₀ : Machine, Started m₀.server ∧ (m₀.heap = fun _ => none) ∧ Run (machineStep cfg) m₀ tr m ∧
    ∀ x ∈ tr, FreshBlocks x.input.tapps.loader x.pre.heap

variable {cfg : Config} {x : TappRequest} {m m' : Machine} {tr : List MachineStep}
  {status : SkStatus}

/-! ## Loading -/

/-- The loader is not reached and the instance stays, or the loader decides. -/
theorem TappEnv.tappLoad_cases (te : TappEnv) (taid : SkTaid) (tapp : SkSwldTappInstance) :
    (te.selected taid = none ∧ (te.tappLoad taid tapp).1 ≠ skErrorSuccess ∧
        (te.tappLoad taid tapp).2 = tapp) ∨
      ∃ entry, te.selected taid = some entry ∧
        let load := skSwldPlatformTappLoad te.loader entry TappsInfoData.zero
        te.tappLoad taid tapp = (statusOfLoad load.err, load.tapp) := by
  unfold selected tappLoad
  cases htoc : te.toc with
  | none => exact .inl ⟨rfl, (by decide : skErrorOpenFailed ≠ skErrorSuccess), rfl⟩
  | some file =>
    have hselected : ∀ t, Selected te.platformLoad file taid
        ⟨.ofBytes file, te.buffer, te.entry, t, [.storageOpen true]⟩
        (tappLoadBody te.platformLoad taid
          ⟨.ofBytes file, te.buffer, te.entry, t, [.storageOpen true]⟩) := fun t =>
      tappLoadBody_selected te.platformLoad taid rfl
    unfold tappLoadCalls
    dsimp only
    have hnull := hselected ⟨none⟩
    have htapp := hselected tapp
    generalize tappLoadBody te.platformLoad taid
      ⟨.ofBytes file, te.buffer, te.entry, ⟨none⟩, [.storageOpen true]⟩ = r₀ at hnull ⊢
    generalize tappLoadBody te.platformLoad taid
      ⟨.ofBytes file, te.buffer, te.entry, tapp, [.storageOpen true]⟩ = r at htapp ⊢
    cases hnull with
    | refused err s' hnone _ hcalls _ =>
      cases htapp with
      | loaded k _ hnames => exact absurd hnames (hnone k)
      | refused err' s'' _ herr _ htapp' =>
        refine .inl ⟨by simp [hcalls], ?_, htapp'⟩
        rintro rfl
        exact absurd herr (by decide)
    | loaded k s' hnames hleast hcalls _ =>
      cases htapp with
      | refused _ _ hnone => exact absurd hnames (hnone k)
      | loaded k' s'' hnames' hleast' _ htapp' =>
        obtain rfl := hnames'.least_unique hleast' hnames hleast
        exact .inr ⟨entryOfBytes (file.drop (entryPos k')), by rw [hcalls]; rfl,
          Prod.ext rfl htapp'⟩

theorem statusOfLoad_success {err : SkStatus} :
    statusOfLoad err = skErrorSuccess ↔ err = skErrorSuccess := by
  unfold statusOfLoad
  by_cases h : err = skErrorSuccess
  · simp [h]
  · simp [h, skErrorLoadFailed, skErrorSuccess]

/-- Which entry is loaded, in terms of the TOC file alone. -/
theorem TappEnv.selected_iff (te : TappEnv) (taid : SkTaid) (entry : TappTocEntry) :
    te.selected taid = some entry ↔ te.Holds taid entry := by
  unfold selected Holds
  cases htoc : te.toc with
  | none => simp [tappLoadCalls]
  | some file =>
    have hbody : Selected te.platformLoad file taid
        ⟨.ofBytes file, te.buffer, te.entry, ⟨none⟩, [.storageOpen true]⟩
        (tappLoadBody te.platformLoad taid
          ⟨.ofBytes file, te.buffer, te.entry, ⟨none⟩, [.storageOpen true]⟩) :=
      tappLoadBody_selected te.platformLoad taid rfl
    unfold tappLoadCalls
    dsimp only
    generalize tappLoadBody te.platformLoad taid
      ⟨.ofBytes file, te.buffer, te.entry, ⟨none⟩, [.storageOpen true]⟩ = r at hbody ⊢
    cases hbody with
    | refused err s' hnone _ hcalls _ =>
      refine iff_of_false (by simp [hcalls, List.findSome?]) ?_
      rintro ⟨_, k, hfile, hnames, _⟩
      cases hfile
      exact hnone k hnames
    | loaded k s' hnames hleast hcalls _ =>
      have hloaded : (s'.calls ++ [TappCall.storageClose]).findSome? TappCall.loaded =
          some (entryOfBytes (file.drop (entryPos k))) := by
        rw [hcalls]
        rfl
      rw [hloaded, Option.some.injEq]
      constructor
      · rintro rfl
        exact ⟨file, k, rfl, hnames, hleast, rfl⟩
      · rintro ⟨_, k', hfile, hnames', hleast', rfl⟩
        cases hfile
        obtain rfl := hnames'.least_unique hleast' hnames hleast
        rfl

/-! ## One request -/

/-- The session that the request opens is loaded from an entry whose code runs past
its block. -/
def Overruns (x : TappRequest) (s : Server) : Prop :=
  ∃ i entry, OpensSlot x.served s i ∧ x.tapps.Holds (openSessionTaid x.served) entry ∧
    CodeOverruns x.tapps.loader entry

/-- What holds of the machine between requests. -/
structure Machine.Sound (m : Machine) : Prop where
  server : m.server.Sound
  loaded : ∀ i, Loaded m.heap (m.server.tapp i)

/-- Who owns which blocks. -/
def Machine.holdings (m : Machine) : Holdings SSlot Nat :=
  ⟨{a | m.heap a ≠ none}, fun i => footprint m.heap (m.server.tapp i)⟩

/-- The blocks that a request takes or gives back, and the slot it does so for. -/
inductive MachineServed (x : TappRequest) (m m' : Machine) : Prop
  | kept : (∀ i, m'.server.tapp i = m.server.tapp i) → m'.heap = m.heap →
      (∀ i, m'.server.sessionActive i = true → m.server.sessionActive i = true) →
      (∀ i, m.server.sessionActive i = true → m'.server.sessionActive i = false →
        Accepted m.server x.served .check) → MachineServed x m m'
  /-- A session whose TApp is not searched for, or not found. -/
  | openedEmpty {i : SSlot} : m.server.sessionActive i = false →
      (∀ j, m'.server.sessionActive j = if j = i then true else m.server.sessionActive j) →
      x.tapps.selected (openSessionTaid x.served) = none →
      (∀ j, m'.server.tapp j = m.server.tapp j) → m'.heap = m.heap → MachineServed x m m'
  | opened {i : SSlot} {entry : TappTocEntry} : m.server.sessionActive i = false →
      (∀ j, m'.server.sessionActive j = if j = i then true else m.server.sessionActive j) →
      x.tapps.selected (openSessionTaid x.served) = some entry →
      m'.server.tapp i = (skSwldPlatformTappLoad x.tapps.loader entry TappsInfoData.zero).tapp →
      (∀ j, j ≠ i → m'.server.tapp j = m.server.tapp j) →
      Loaded m'.heap (m'.server.tapp i) →
      (∀ a ∈ footprint m'.heap (m'.server.tapp i), m.heap a = none) →
      (∀ a, a ∉ footprint m'.heap (m'.server.tapp i) → m'.heap a = m.heap a) →
      (∀ p, (m'.server.tapp i).archObj = some p → ∃ obj,
        (skSwldPlatformTappLoad x.tapps.loader entry TappsInfoData.zero).obj = some obj ∧
          m'.heap p = some (.object obj)) → MachineServed x m m'
  | closed {i : SSlot} : m.server.sessionActive i = true →
      (∀ j, m'.server.sessionActive j = if j = i then false else m.server.sessionActive j) →
      m'.server.tapp i = ⟨none⟩ → (∀ j, j ≠ i → m'.server.tapp j = m.server.tapp j) →
      (∀ a ∈ footprint m.heap (m.server.tapp i), m'.heap a = none) →
      (∀ a, a ∉ footprint m.heap (m.server.tapp i) → m'.heap a = m.heap a) → MachineServed x m m'

theorem calls_generate {evs : List Event} (h : ∀ e ∈ evs, ∃ handle, e = .generate handle)
    (heap : TappHeap) : x.calls evs heap = .ok ((), heap) := by
  induction evs with
  | nil => rfl
  | cons e es ih =>
    obtain ⟨handle, rfl⟩ := h e (List.mem_cons_self ..)
    exact ih fun e he => h e (List.mem_cons_of_mem _ he)

theorem calls_pull {heap : TappHeap} {tapp : SkSwldTappInstance} (cmd : UInt32) (op : SkOperation)
    (h : Loaded heap tapp) : x.calls [.pull tapp cmd op] heap =
      if tapp.archObj = none then .error .nullDeref else .ok ((), heap) := by
  cases hp : tapp.archObj with
  | none =>
    rw [if_pos rfl]
    exact bind_of_error (bind_of_error (callTapp_null _ hp) _) _
  | some p =>
    obtain ⟨err, hrun⟩ := callTapp_loaded
      (fun obj => (fun _ cmd op => x.request.env.tappPull tapp cmd op) obj.info.taid cmd op) h hp
    rw [if_neg (by simp)]
    exact bind_of_ok (bind_of_ok hrun _) _

theorem calls_close {heap : TappHeap} {tapp : SkSwldTappInstance} (h : Loaded heap tapp) :
    (tapp.archObj = none ∧ x.calls [.close tapp, .unload tapp] heap = .error .nullDeref) ∨
      (tapp.archObj ≠ none ∧ ∃ heap', x.calls [.close tapp, .unload tapp] heap = .ok ((), heap') ∧
        (∀ a ∈ footprint heap tapp, heap' a = none) ∧
        ∀ a, a ∉ footprint heap tapp → heap' a = heap a) := by
  cases hp : tapp.archObj with
  | none => exact .inl ⟨rfl, bind_of_error (bind_of_error (callTapp_null _ hp) _) _⟩
  | some p =>
    obtain ⟨err, hclose⟩ := callTapp_loaded (fun _ => x.request.env.tappClose tapp) h hp
    obtain ⟨heap', hunload, hfreed, hkept⟩ := tappUnload_run h
    refine .inr ⟨by simp, heap', ?_, hfreed, hkept⟩
    have hclosed : x.call (.close tapp) heap = .ok ((), heap) := bind_of_ok hclose _
    have hunloaded : x.call (.unload tapp) heap = .ok ((), heap') := bind_of_ok hunload _
    exact (bind_of_ok hclosed _).trans (bind_of_ok hunloaded _)

/-- The calls of an opening: a load, and the first call of a TApp that was loaded. -/
theorem calls_load {heap : TappHeap} (hfresh : FreshBlocks x.tapps.loader heap) (handle : Handle)
    (taid : SkTaid) (tapp : SkSwldTappInstance)
    (hfits : ∀ entry, x.tapps.selected taid = some entry →
      (skSwldPlatformTappLoad x.tapps.loader entry TappsInfoData.zero).Fits) :
    let loaded := x.tapps.tappLoad taid tapp
    let evs := .generate handle :: loadEvents taid loaded
    (x.tapps.selected taid = none ∧ loaded.2 = tapp ∧ x.calls evs heap = .ok ((), heap)) ∨
      ∃ entry heap', x.tapps.selected taid = some entry ∧
        let load := skSwldPlatformTappLoad x.tapps.loader entry TappsInfoData.zero
        loaded.2 = load.tapp ∧ x.calls evs heap = .ok ((), heap') ∧ Loaded heap' load.tapp ∧
        (∀ a ∈ footprint heap' load.tapp, heap a = none) ∧
        (∀ a, a ∉ footprint heap' load.tapp → heap' a = heap a) ∧
        ∀ p, load.tapp.archObj = some p →
          ∃ obj, load.obj = some obj ∧ heap' p = some (.object obj) := by
  intro loaded evs
  rcases x.tapps.tappLoad_cases taid tapp with ⟨hselected, herr, htapp⟩ | ⟨entry, hselected, hload⟩
  · refine .inl ⟨hselected, htapp, ?_⟩
    have hevs : evs = [.generate handle, .load taid loaded.1 loaded.2] := by
      simp only [evs, loadEvents, if_neg herr, loaded]
    have hcall : x.call (.load taid loaded.1 loaded.2) heap = .ok ((), heap) := by
      rw [TappRequest.call, hselected]
      rfl
    rw [hevs]
    exact bind_of_ok hcall _
  · obtain ⟨heap', hblocks, hloaded, hfree, hkept, hsuccess, hobj⟩ :=
      tappLoadBlocks_run entry hfresh (hfits entry hselected)
    refine .inr ⟨entry, heap', hselected, congrArg Prod.snd hload, ?_, hloaded, hfree, hkept, hobj⟩
    have hcall : x.call (.load taid loaded.1 loaded.2) heap = .ok ((), heap') := by
      rw [TappRequest.call, hselected]
      exact bind_of_ok hblocks _
    have hcalls : x.calls evs heap =
        x.calls (if loaded.1 = skErrorSuccess then [.init loaded.2] else []) heap' :=
      bind_of_ok hcall fun _ => x.calls _
    rw [hcalls]
    by_cases herr : loaded.1 = skErrorSuccess
    · have herr' : statusOfLoad (skSwldPlatformTappLoad x.tapps.loader entry
          TappsInfoData.zero).err = skErrorSuccess := (congrArg Prod.fst hload).symm.trans herr
      obtain ⟨p, hp⟩ := Option.ne_none_iff_exists'.mp (hsuccess.mp (statusOfLoad_success.mp herr'))
      have hloaded' : loaded.2 = (skSwldPlatformTappLoad x.tapps.loader entry
          TappsInfoData.zero).tapp := congrArg Prod.snd hload
      obtain ⟨err, hinit⟩ := callTapp_loaded (fun _ => x.request.env.tappInit loaded.2)
        (hloaded' ▸ hloaded) (hloaded' ▸ hp)
      rw [if_pos herr]
      exact bind_of_ok (bind_of_ok hinit _) _
    · rw [if_neg herr]
      rfl

/-- The calls of an opening whose load runs past its block. -/
theorem calls_load_overrun {taid : SkTaid} {entry : TappTocEntry}
    (hselected : x.tapps.selected taid = some entry)
    (h : ¬ (skSwldPlatformTappLoad x.tapps.loader entry TappsInfoData.zero).Fits)
    (heap : TappHeap) (handle : Handle) (loaded : SkStatus × SkSwldTappInstance) :
    x.calls (.generate handle :: loadEvents taid loaded) heap = .error .overrun := by
  have hcall : x.call (.load taid loaded.1 loaded.2) heap = .error .overrun := by
    rw [TappRequest.call, hselected]
    exact bind_of_error (tappLoadBlocks_overrun heap h) _
  exact bind_of_error hcall fun _ => x.calls _

/-- The opened session is loaded without overrun, or the calls end in one. -/
theorem calls_opened {i : SSlot} (ho : OpensSlot x.served m.server i) (heap : TappHeap)
    (handle : Handle) (loaded : SkStatus × SkSwldTappInstance) :
    (Overruns x m.server ∧
        x.calls (.generate handle :: loadEvents (openSessionTaid x.served) loaded) heap =
          .error .overrun) ∨
      ¬ Overruns x m.server ∧
        ∀ entry, x.tapps.selected (openSessionTaid x.served) = some entry →
          (skSwldPlatformTappLoad x.tapps.loader entry TappsInfoData.zero).Fits := by
  by_cases hover : Overruns x m.server
  · obtain ⟨_, entry, _, hholds, hbad⟩ := id hover
    refine .inl ⟨hover, calls_load_overrun ((x.tapps.selected_iff _ _).mpr hholds) ?_ _ _ _⟩
    exact fun hfits => (fits_iff _ _ _).mp hfits hbad
  · refine .inr ⟨hover, fun entry hselected => (fits_iff _ _ _).mpr fun hbad => ?_⟩
    exact hover ⟨i, entry, ho, (x.tapps.selected_iff _ _).mp hselected, hbad⟩

/-- With no live block given out, the calls of a completed request fail only on a
null pointer, when it drives a session that has no object, or on a load that
overruns its block. -/
theorem calls_served (hm : m.Sound) (hfresh : FreshBlocks x.tapps.loader m.heap) {server : Server}
    (hserver : handleRequest cfg x.served m.server = .ok (status, server)) :
    (∃ i, Drives x.served m.server i ∧ (m.server.tapp i).archObj = none ∧
        x.calls server.events m.heap = .error .nullDeref) ∨
      (Overruns x m.server ∧ x.calls server.events m.heap = .error .overrun) ∨
      ∃ heap, x.calls server.events m.heap = .ok ((), heap) ∧ MachineServed x m ⟨server, heap⟩ := by
  cases handleRequest_tapps hm.server hserver with
  | quiet hevents htapp hactive hcheck =>
    exact .inr (.inr ⟨m.heap, calls_generate hevents _, .kept htapp rfl hactive hcheck⟩)
  | @opened i handle ho hactive htapp hevents =>
    rw [hevents]
    rcases calls_opened ho m.heap handle (loadResult x.served m.server i) with
      hover | ⟨_, hfits⟩
    · exact .inr (.inl hover)
    rcases calls_load hfresh handle (openSessionTaid x.served) (m.server.tapp i) hfits with
      ⟨hselected, hsame, hcalls⟩ |
      ⟨entry, heap', hselected, htapp', hcalls, hloaded, hnew, hkept, hobj⟩
    · refine .inr (.inr ⟨m.heap, hcalls, ?_⟩)
      refine .openedEmpty ho.free hactive hselected (fun j => ?_) rfl
      rw [htapp]
      split
      · rename_i hj
        rw [hj]
        exact hsame
      · rfl
    · refine .inr (.inr ⟨heap', hcalls, ?_⟩)
      have hi : server.tapp i =
          (skSwldPlatformTappLoad x.tapps.loader entry TappsInfoData.zero).tapp := by
        rw [htapp, if_pos rfl]
        exact htapp'
      rw [← hi] at hloaded hnew hkept hobj
      exact .opened ho.free hactive hselected hi (fun j hj => by rw [htapp, if_neg hj])
        hloaded hnew hkept hobj
  | @closed c i ha hfind hactive htapp hevents =>
    rw [hevents]
    rcases calls_close (x := x) (hm.loaded i) with
      ⟨hnull, hcalls⟩ | ⟨_, heap', hcalls, hfreed, hkept⟩
    · exact .inl ⟨i, .inl ⟨ha, c, hfind⟩, hnull, hcalls⟩
    · refine .inr (.inr ⟨heap', hcalls, .closed
        (TApiConnectionTable.findObjects_ok hfind).2.2.2.1 hactive ?_
        (fun j hj => by rw [htapp, if_neg hj]) hfreed hkept⟩)
      rw [htapp, if_pos rfl]
      rfl
  | @invoked c i cmd op ha hfind hactive htapp hevents =>
    rw [hevents, calls_pull cmd op (hm.loaded i)]
    by_cases hnull : (m.server.tapp i).archObj = none
    · exact .inl ⟨i, .inr ⟨ha, c, hfind⟩, hnull, by rw [if_pos hnull]⟩
    · refine .inr (.inr ⟨m.heap, by rw [if_neg hnull],
        .kept htapp rfl (fun j hj => ?_) fun j hj hj' => ?_⟩)
      · rwa [← hactive j]
      · rw [hactive j] at hj'
        exact absurd (hj.symm.trans hj') (by decide)

/-- A step of the machine, whatever it returns. -/
theorem machineStep_served (hm : m.Sound) (hfresh : FreshBlocks x.tapps.loader m.heap)
    (hstep : machineStep cfg x m = .ok (status, m')) :
    handleRequest cfg x.served m.server = .ok (status, m'.server) ∧ MachineServed x m m' := by
  unfold machineStep withCalls at hstep
  cases hserver : handleRequest cfg x.served m.server with
  | error fault =>
    rw [hserver] at hstep
    cases hstep
  | ok r =>
    obtain ⟨status', server⟩ := r
    rw [hserver] at hstep
    dsimp only at hstep
    rcases calls_served hm hfresh hserver with
      ⟨_, _, _, hcalls⟩ | ⟨_, hcalls⟩ | ⟨heap, hcalls, hserved⟩
    · rw [hcalls] at hstep
      cases hstep
    · rw [hcalls] at hstep
      cases hstep
    · rw [hcalls] at hstep
      cases hstep
      exact ⟨rfl, hserved⟩

/-! ## Where the calls of a request end -/

/-- A request whose calls fault is served up to them. -/
theorem machineStep_eq_tapp_fault {fault : TappFault} {server : Server}
    (hserver : handleRequest cfg x.served m.server = .ok (status, server))
    (hcalls : x.calls server.events m.heap = .error fault) :
    machineStep cfg x m = .error (.tapp fault) := by
  simp only [machineStep, withCalls, hserver, hcalls]

/-- A request that drives a session without an object ends in a null pointer. -/
theorem machineStep_of_drives (cfg : Config) (hm : m.Sound) {i : SSlot}
    (hd : Drives x.served m.server i) (hnull : (m.server.tapp i).archObj = none) :
    machineStep cfg x m = .error (.tapp .nullDeref) := by
  obtain ⟨status, server, hserver⟩ := hd.completes cfg hm.server
  refine machineStep_eq_tapp_fault hserver ?_
  rcases hd.events hm.server hserver with hevents | ⟨cmd, op, hevents⟩
  · rcases calls_close (x := x) (hm.loaded i) with ⟨_, hcalls⟩ | ⟨hne, _⟩
    · rwa [hevents]
    · exact absurd hnull hne
  · rw [hevents, calls_pull cmd op (hm.loaded i), if_pos hnull]

/-- A request whose load overruns its block ends there. -/
theorem machineStep_of_overruns (cfg : Config) (hm : m.Sound) (h : Overruns x m.server) :
    machineStep cfg x m = .error (.tapp .overrun) := by
  obtain ⟨i, _, ho, _⟩ := id h
  obtain ⟨status, server, handle, hserver, hevents⟩ := ho.completes cfg hm.server
  refine machineStep_eq_tapp_fault hserver ?_
  rw [hevents]
  rcases calls_opened ho m.heap handle (loadResult x.served m.server i) with ⟨_, hcalls⟩ | ⟨hnot, _⟩
  · exact hcalls
  · exact absurd h hnot

/-- The fault of the TApp interface that request `x` meets. -/
def InterfaceFault (x : TappRequest) (m : Machine) (fault : TappFault) : Prop :=
  (fault = .nullDeref ∧ ∃ i, Drives x.served m.server i ∧ (m.server.tapp i).archObj = none) ∨
    (fault = .overrun ∧ Overruns x m.server)

theorem machineStep_tapp_fault_iff (hm : m.Sound) (hfresh : FreshBlocks x.tapps.loader m.heap)
    (fault : TappFault) :
    machineStep cfg x m = .error (.tapp fault) ↔ InterfaceFault x m fault := by
  constructor
  · intro hfault
    unfold machineStep withCalls at hfault
    cases hserver : handleRequest cfg x.served m.server with
    | error fault =>
      rw [hserver] at hfault
      cases hfault
    | ok r =>
      rw [hserver] at hfault
      rcases calls_served hm hfresh hserver with
        ⟨i, hdrives, hnull, hcalls⟩ | ⟨hover, hcalls⟩ | ⟨_, hcalls, _⟩
      · simp only [hcalls] at hfault
        cases hfault
        exact .inl ⟨rfl, i, hdrives, hnull⟩
      · simp only [hcalls] at hfault
        cases hfault
        exact .inr ⟨rfl, hover⟩
      · simp [hcalls] at hfault
  · rintro (⟨rfl, i, hdrives, hnull⟩ | ⟨rfl, hover⟩)
    · exact machineStep_of_drives cfg hm hdrives hnull
    · exact machineStep_of_overruns cfg hm hover

/-! ## What a request does to the holdings -/

/-- The blocks behind the `arch_obj` that a load overwrites. -/
def droppedBlocks (y : MachineStep) : Set Nat :=
  {a | ∃ i, y.pre.server.sessionActive i = false ∧ y.post.server.sessionActive i = true ∧
    y.input.tapps.selected (openSessionTaid y.input.served) ≠ none ∧
    a ∈ footprint y.pre.heap (y.pre.server.tapp i)}

/-- What a completed request is to the holdings. -/
structure Moved (y : MachineStep) (move : Move SSlot Nat) : Prop where
  allowed : y.pre.holdings.Allows move
  holdings : y.post.holdings = y.pre.holdings.apply move
  loaded : ∀ i, Loaded y.post.heap (y.post.server.tapp i)
  dropped : y.pre.holdings.dropped move = droppedBlocks y

/-- Nothing is dropped where no session starts, or none is loaded. -/
private theorem droppedBlocks_empty {y : MachineStep}
    (h : ∀ i, y.pre.server.sessionActive i = false → y.post.server.sessionActive i = true →
      y.input.tapps.selected (openSessionTaid y.input.served) = none) :
    droppedBlocks y = ∅ := by
  ext a
  simp only [Set.mem_empty_iff_false, iff_false]
  rintro ⟨i, hpre, hpost, hselected, _⟩
  exact hselected (h i hpre hpost)

private theorem holdings_same (hheap : m'.heap = m.heap)
    (htapp : ∀ i, m'.server.tapp i = m.server.tapp i) : m'.holdings = m.holdings := by
  simp [Machine.holdings, hheap, htapp]

private theorem moved_opened (hm : m.Sound) {status : SkStatus} {i : SSlot}
    (hfree : m.server.sessionActive i = false)
    (hactive : ∀ j, m'.server.sessionActive j = if j = i then true else m.server.sessionActive j)
    (hselected : x.tapps.selected (openSessionTaid x.served) ≠ none)
    (htapp : ∀ j, j ≠ i → m'.server.tapp j = m.server.tapp j)
    (hloaded : Loaded m'.heap (m'.server.tapp i))
    (hnew : ∀ a ∈ footprint m'.heap (m'.server.tapp i), m.heap a = none)
    (hkept : ∀ a, a ∉ footprint m'.heap (m'.server.tapp i) → m'.heap a = m.heap a) :
    Moved ⟨x, m, status, m'⟩ (.assign i (footprint m'.heap (m'.server.tapp i))) := by
  have hothers : ∀ j, j ≠ i →
      footprint m'.heap (m.server.tapp j) = footprint m.heap (m.server.tapp j) ∧
        Loaded m'.heap (m.server.tapp j) := fun j _ =>
    footprint_frame (fun a ha => hkept a fun hnot => (hm.loaded j).live ha (hnew a hnot))
      (hm.loaded j)
  refine ⟨Set.disjoint_left.mpr fun a ha hlive => hlive (hnew a ha), ?_, fun j => ?_, ?_⟩
  · refine Holdings.ext ?_ (funext fun j => ?_)
    · ext a
      by_cases ha : a ∈ footprint m'.heap (m'.server.tapp i)
      · simp [Machine.holdings, Holdings.apply, ha, hloaded.live ha]
      · simp [Machine.holdings, Holdings.apply, ha, hkept a ha]
    · by_cases hj : j = i
      · subst hj
        simp [Machine.holdings, Holdings.apply]
      · simp [Machine.holdings, Holdings.apply, hj, htapp j hj, (hothers j hj).1]
  · by_cases hj : j = i
    · exact hj ▸ hloaded
    · exact htapp j hj ▸ (hothers j hj).2
  · ext a
    constructor
    · intro ha
      exact ⟨i, hfree, (hactive i).trans (if_pos rfl), hselected, ha⟩
    · rintro ⟨j, hpre, hpost, _, ha⟩
      have hj : j = i := by
        by_contra hne
        have hsame := (hactive j).trans (if_neg hne)
        exact absurd (hpost.symm.trans (hsame.trans hpre)) (by decide)
      exact hj ▸ ha

private theorem moved_closed (hm : m.Sound) (ho : m.holdings.Owned) {status : SkStatus} {i : SSlot}
    (hactive : ∀ j, m'.server.sessionActive j = if j = i then false else m.server.sessionActive j)
    (hnull : m'.server.tapp i = ⟨none⟩) (htapp : ∀ j, j ≠ i → m'.server.tapp j = m.server.tapp j)
    (hfreed : ∀ a ∈ footprint m.heap (m.server.tapp i), m'.heap a = none)
    (hkept : ∀ a, a ∉ footprint m.heap (m.server.tapp i) → m'.heap a = m.heap a) :
    Moved ⟨x, m, status, m'⟩ (.release i) := by
  have hothers : ∀ j, j ≠ i →
      footprint m'.heap (m.server.tapp j) = footprint m.heap (m.server.tapp j) ∧
        Loaded m'.heap (m.server.tapp j) := fun j hj =>
    footprint_frame (fun a ha => hkept a fun hi => (ho.disjoint j i hj).le_bot ⟨ha, hi⟩)
      (hm.loaded j)
  refine ⟨trivial, ?_, fun j => ?_, ?_⟩
  · refine Holdings.ext ?_ (funext fun j => ?_)
    · ext a
      by_cases ha : a ∈ footprint m.heap (m.server.tapp i)
      · simp [Machine.holdings, Holdings.apply, ha, hfreed a ha]
      · simp [Machine.holdings, Holdings.apply, ha, hkept a ha]
    · by_cases hj : j = i
      · subst hj
        simp [Machine.holdings, Holdings.apply, hnull, footprint_null]
      · simp [Machine.holdings, Holdings.apply, hj, htapp j hj, (hothers j hj).1]
  · by_cases hj : j = i
    · rw [hj, hnull]
      exact .of_null rfl
    · exact htapp j hj ▸ (hothers j hj).2
  · refine (droppedBlocks_empty fun j hpre hpost => ?_).symm
    have hpost' := (hactive j).symm.trans hpost
    split at hpost'
    · cases hpost'
    · exact absurd (hpre.symm.trans hpost') (by decide)

theorem MachineServed.moved (hm : m.Sound) (ho : m.holdings.Owned) (status : SkStatus)
    (h : MachineServed x m m') : ∃ move, Moved ⟨x, m, status, m'⟩ move := by
  cases h with
  | kept htapp hheap hactive _ =>
    refine ⟨.keep, trivial, holdings_same hheap htapp, fun i => ?_, ?_⟩
    · rw [hheap, htapp]
      exact hm.loaded i
    · refine (droppedBlocks_empty fun i hpre hpost => ?_).symm
      exact absurd (hpre.symm.trans (hactive i hpost)) (by decide)
  | openedEmpty _ _ hselected htapp hheap =>
    refine ⟨.keep, trivial, holdings_same hheap htapp, fun i => ?_, ?_⟩
    · rw [hheap, htapp]
      exact hm.loaded i
    · exact (droppedBlocks_empty fun _ _ _ => hselected).symm
  | opened hfree hactive hselected _ htapp hloaded hnew hkept _ =>
    exact ⟨_, moved_opened hm hfree hactive (by simp [hselected]) htapp hloaded hnew hkept⟩
  | closed _ hactive hnull htapp hfreed hkept =>
    exact ⟨_, moved_closed hm ho hactive hnull htapp hfreed hkept⟩

/-! ## Runs -/

theorem Started.machine (hserver : Started m.server) : m.Sound ∧ m.holdings.Owned := by
  have htapp : ∀ i, (m.server.tapp i).archObj = none := fun i => by
    rw [Server.tapp, hserver.conn]
    rfl
  refine ⟨⟨hserver.sound, fun i => .of_null (htapp i)⟩, fun i => ?_, fun i j _ => ?_⟩
  · simp [Machine.holdings, footprint_null (htapp i)]
  · simp [Machine.holdings, footprint_null (htapp i)]

/-- An invariant of runs that may look at what each step did, on machines whose
slots own their objects. -/
theorem MachineRun.induct (hrun : MachineRun cfg tr m) (I : List MachineStep → Machine → Prop)
    (h₀ : ∀ m₀ : Machine, Started m₀.server → (m₀.heap = fun _ => none) → I [] m₀)
    (hstep : ∀ tr (y : MachineStep), y.pre.Sound → y.pre.holdings.Owned →
      handleRequest cfg y.input.served y.pre.server = .ok (y.result, y.post.server) →
      MachineServed y.input y.pre y.post → I tr y.pre → I (tr ++ [y]) y.post) :
    (m.Sound ∧ m.holdings.Owned) ∧ I tr m := by
  obtain ⟨m₀, hserver, hheap, hsteps, hfresh⟩ := hrun
  refine hsteps.invariant_of (fun y => FreshBlocks y.input.tapps.loader y.pre.heap) hfresh
    (fun tr m => (m.Sound ∧ m.holdings.Owned) ∧ I tr m)
    ⟨hserver.machine, h₀ m₀ hserver hheap⟩ ?_
  rintro tr m x status m' ⟨⟨hm, ho⟩, hI⟩ hrun hx
  obtain ⟨hserver, hserved⟩ := machineStep_served hm hx hrun
  obtain ⟨move, hmoved⟩ := hserved.moved hm ho status
  refine ⟨⟨⟨handleRequest_sound hm.server hserver, hmoved.loaded⟩, ?_⟩,
    hstep tr ⟨x, m, status, m'⟩ hm ho hserver hserved hI⟩
  rw [show m'.holdings = _ from hmoved.holdings]
  exact ho.apply hmoved.allowed

theorem MachineRun.sound (hrun : MachineRun cfg tr m) : m.Sound ∧ m.holdings.Owned :=
  (hrun.induct (fun _ _ => True) (fun _ _ _ => trivial) fun _ _ _ _ _ _ _ => trivial).1

/-! ## Sample runs -/

/-- A loader that is given three pages from `base` on and finds a bare manifest. -/
def sampleLoader (base : UInt32) : LoaderEnv :=
  ⟨some base, some (base + 4096), fun _ => some (base + 8192), some sampleDb⟩

/-- A TOC file with one entry, for a TApp of this size. -/
def tocOfSize (size : UInt32) : List UInt8 :=
  Format.be32.enc tappTocIndexHdrCookie ++ Format.be32.enc 1 ++ List.replicate 8 0 ++
    List.replicate 16 9 ++ Format.be32.enc size ++ List.replicate 64 0

/-- A request with three free pages and a TOC that has a bare manifest. -/
def TappRequest.at (base : UInt32) (req : Request) : TappRequest :=
  ⟨req, some (tocOfSize 1050), Mem.ofList [], unsizedEntry, sampleLoader base⟩

def sampleMachine : Machine := ⟨sampleServer 64, fun _ => none⟩

/-- The three pages are free. -/
def pagesFree (base : UInt32) (heap : TappHeap) : Bool :=
  [base, base + 4096, base + 8192].all fun a => (heap a.toNat).isNone

theorem freshBlocks_sampleLoader {base : UInt32} {heap : TappHeap}
    (h : pagesFree base heap = true) : FreshBlocks (sampleLoader base) heap := by
  have hfree : ∀ a ∈ [base, base + 4096, base + 8192], heap a.toNat = none := fun a ha =>
    Option.isNone_iff_eq_none.mp (List.all_eq_true.mp h a ha)
  have hne : ∀ d : UInt32, d ≠ 0 → base ≠ base + d := by
    intro d hd heq
    exact hd (by simpa using heq)
  have hpages : (4096 : UInt32) ≠ 8192 := by decide
  refine ⟨fun a ha => ?_, fun a ha => ?_, fun n a ha => ?_⟩
  · obtain rfl : base = a := Option.some.inj ha
    exact hfree _ (by simp)
  · obtain rfl : base + 4096 = a := Option.some.inj ha
    exact ⟨hfree _ (by simp), fun heq => hne 4096 (by decide) (Option.some.inj heq)⟩
  · obtain rfl : base + 8192 = a := Option.some.inj ha
    refine ⟨hfree _ (by simp), fun heq => hne 8192 (by decide) (Option.some.inj heq), fun heq => ?_⟩
    exact hpages (by simpa using Option.some.inj heq)

/-- An executed list of requests, each with three free pages of its own, is a run. -/
theorem exists_machineRun (cfg : Config) (reqs : List (UInt32 × Request))
    (P : List MachineStep → Machine → Prop) [∀ tr m, Decidable (P tr m)]
    (h : (execute (machineStep cfg) (reqs.map fun r => .at r.1 r.2) sampleMachine).any (fun r =>
      (r.1.zip reqs).all (fun y => pagesFree y.2.1 y.1.pre.heap) && decide (P r.1 r.2)) = true) :
    ∃ tr m, MachineRun cfg tr m ∧ P tr m := by
  cases hrun : execute (machineStep cfg) (reqs.map fun r => .at r.1 r.2) sampleMachine with
  | none => simp [hrun] at h
  | some r =>
    obtain ⟨tr, m⟩ := r
    simp only [hrun, Option.any_some, Bool.and_eq_true, decide_eq_true_eq] at h
    have hinputs := inputs_of_execute hrun
    refine ⟨tr, m, ⟨sampleMachine, sampleServer_started 64, rfl, run_of_execute hrun, ?_⟩, h.2⟩
    intro y hy
    obtain ⟨n, hn, rfl⟩ := List.mem_iff_getElem.mp hy
    have hlen : n < reqs.length := by
      have hlen := congrArg List.length hinputs
      simp only [List.length_map] at hlen
      omega
    have hinput : tr[n].input = .at reqs[n].1 reqs[n].2 := by
      have hget := List.getElem_of_eq hinputs (by simpa using hn)
      simpa using hget
    have hmem : (tr[n], reqs[n]) ∈ tr.zip reqs :=
      List.mem_iff_getElem.mpr ⟨n, by simp [hn, hlen], List.getElem_zip⟩
    rw [hinput]
    exact freshBlocks_sampleLoader (List.all_eq_true.mp h.1 _ hmem)

/-- Every object that a slot can reach is allocated and no other slot's, and no
request frees or follows a pointer to anything else. -/
theorem tapp_objects_owned (hrun : MachineRun cfg tr m) :
    (∀ i, Loaded m.heap (m.server.tapp i)) ∧
    (∀ i j, i ≠ j →
      Disjoint (footprint m.heap (m.server.tapp i)) (footprint m.heap (m.server.tapp j))) ∧
    ∀ x, FreshBlocks x.tapps.loader m.heap →
      machineStep cfg x m ≠ .error (.tapp .notAllocated) := by
  obtain ⟨hm, ho⟩ := hrun.sound
  refine ⟨hm.loaded, ho.disjoint, fun x hfresh hfault => ?_⟩
  rcases (machineStep_tapp_fault_iff hm hfresh _).mp hfault with ⟨hnull, _⟩ | ⟨hover, _⟩
  · cases hnull
  · cases hover

/-- Two sessions with an object each. -/
theorem tapp_objects_owned_two : ∃ tr m, MachineRun sampleConfig tr m ∧
    (m.server.tapp 0).archObj = some 4096 ∧ (m.server.tapp 1).archObj = some 20480 ∧
    Disjoint (footprint m.heap (m.server.tapp 0)) (footprint m.heap (m.server.tapp 1)) := by
  obtain ⟨tr, m, hrun, h₀, h₁⟩ := exists_machineRun sampleConfig
    [(4096, sampleOpenContext), (4096, sampleOpenSession), (20480, sampleOpenSession)]
    (fun _ m => (m.server.tapp 0).archObj = some 4096 ∧ (m.server.tapp 1).archObj = some 20480)
    (by decide +kernel)
  exact ⟨tr, m, hrun, h₀, h₁, (tapp_objects_owned hrun).2.1 0 1 (by decide)⟩

/-! ## Where the object of a session comes from -/

/-- The request opened a session in slot `i`. -/
def Starts (i : SSlot) (y : MachineStep) : Prop :=
  y.pre.server.sessionActive i = false ∧ y.post.server.sessionActive i = true

/-- The status of `tapp_load` in a request that takes slot `i`. -/
def loadStatus (y : MachineStep) (i : SSlot) : SkStatus :=
  (y.input.tapps.tappLoad (openSessionTaid y.input.served) (y.pre.server.tapp i)).1

/-- The TApp of the session that `o` opened in slot `i`: what the slot held
before if the loader was not reached, else what the loader left. -/
def ObjectFrom (m : Machine) (i : SSlot) (o : MachineStep) : Prop :=
  match o.input.tapps.selected (openSessionTaid o.input.served) with
  | none => m.server.tapp i = o.pre.server.tapp i
  | some entry =>
    let load := skSwldPlatformTappLoad o.input.tapps.loader entry TappsInfoData.zero
    m.server.tapp i = load.tapp ∧ ∀ p, (m.server.tapp i).archObj = some p →
      ∃ obj, load.obj = some obj ∧ m.heap p = some (.object obj)

/-- The opening of the session in slot `i`, which has been active ever since. -/
abbrev OpenedBy (tr : List MachineStep) (i : SSlot) (o : MachineStep) : Prop :=
  Latest (Starts i) (fun y => y.post.server.sessionActive i = false) tr o

/-- An object stays what it is while its slot is left alone. -/
private theorem ObjectFrom.frame {i : SSlot} {o : MachineStep} (h : ObjectFrom m i o)
    (htapp : m'.server.tapp i = m.server.tapp i)
    (hheap : ∀ a ∈ footprint m.heap (m.server.tapp i), m'.heap a = m.heap a) :
    ObjectFrom m' i o := by
  unfold ObjectFrom at h ⊢
  rw [htapp]
  split
  · rename_i hselected
    rwa [hselected] at h
  · rename_i entry hselected
    rw [hselected] at h
    refine ⟨h.1, fun p hp => ?_⟩
    obtain ⟨obj, hobj, hheld⟩ := h.2 p hp
    exact ⟨obj, hobj, (hheap p ((mem_footprint hp hheld).mpr (.inl rfl))).trans hheld⟩

/-- A session that a request leaves alone has the opening it had. -/
private theorem opened_frame {y : MachineStep} {i : SSlot}
    (hrec : ∃ o, OpenedBy tr i o ∧ ObjectFrom y.pre i o)
    (hactive : y.post.server.sessionActive i = true)
    (htapp : y.post.server.tapp i = y.pre.server.tapp i)
    (hheap : ∀ a ∈ footprint y.pre.heap (y.pre.server.tapp i), y.post.heap a = y.pre.heap a) :
    ∃ o, OpenedBy (tr ++ [y]) i o ∧ ObjectFrom y.post i o := by
  obtain ⟨o, ho, hfrom⟩ := hrec
  exact ⟨o, ho.snoc (by simp [hactive]), hfrom.frame htapp hheap⟩

/-- Every active session has its opening, and its object is the one of that opening. -/
private theorem opened_record (hrun : MachineRun cfg tr m) :
    ∀ i, m.server.sessionActive i = true → ∃ o, OpenedBy tr i o ∧ ObjectFrom m i o := by
  refine (hrun.induct (fun tr m => ∀ i, m.server.sessionActive i = true →
    ∃ o, OpenedBy tr i o ∧ ObjectFrom m i o) ?_ ?_).2
  · intro m₀ hserver _ i hi
    rw [Server.sessionActive, hserver.conn] at hi
    cases hi
  · intro tr y hm ho _ hserved hrec i hi
    have hothers : ∀ {j : SSlot}, (∀ i, y.post.server.sessionActive i =
        if i = j then true else y.pre.server.sessionActive i) → i ≠ j →
        y.pre.server.sessionActive i = true := by
      intro j hactive hij
      rwa [hactive i, if_neg hij] at hi
    cases hserved with
    | kept htapp hheap hactive _ =>
      exact opened_frame (hrec i (hactive i hi)) hi (htapp i) fun a _ => congrFun hheap a
    | @openedEmpty j hfree hactive hselected htapp hheap =>
      by_cases hij : i = j
      · subst hij
        refine ⟨y, Latest.last ⟨hfree, hi⟩ _ _, ?_⟩
        rw [ObjectFrom, hselected]
        exact htapp i
      · exact opened_frame (hrec i (hothers hactive hij)) hi (htapp i) fun a _ => congrFun hheap a
    | @opened j entry hfree hactive hselected htapp hrest _ hnew hkept hobj =>
      by_cases hij : i = j
      · subst hij
        refine ⟨y, Latest.last ⟨hfree, hi⟩ _ _, ?_⟩
        rw [ObjectFrom, hselected]
        exact ⟨htapp, hobj⟩
      · exact opened_frame (hrec i (hothers hactive hij)) hi (hrest i hij) fun a ha =>
          hkept a fun hnot => (hm.loaded i).live ha (hnew a hnot)
    | @closed j _ hactive _ hrest _ hkept =>
      by_cases hij : i = j
      · rw [hactive i, if_pos hij] at hi
        cases hi
      · rw [hactive i, if_neg hij] at hi
        refine opened_frame (hrec i hi) ?_ (hrest i hij) fun a ha =>
          hkept a fun hj => (ho.disjoint i j hij).le_bot ⟨ha, hj⟩
        rw [hactive i, if_neg hij, hi]

/-- Every active session was opened by a request of the run, and drives what that
request left in its slot: the object that its own load made, or, if the load did
not come to the loader, what the session before it had left there. -/
theorem session_object_provenance (hrun : MachineRun cfg tr m) {i : SSlot}
    (hi : m.server.sessionActive i = true) :
    ∃ o, OpenedBy tr i o ∧
      match o.input.tapps.selected (openSessionTaid o.input.served) with
      | none => m.server.tapp i = o.pre.server.tapp i ∧ loadStatus o i ≠ skErrorSuccess
      | some entry =>
        let load := skSwldPlatformTappLoad o.input.tapps.loader entry TappsInfoData.zero
        m.server.tapp i = load.tapp ∧ loadStatus o i = statusOfLoad load.err ∧
          ∀ p, (m.server.tapp i).archObj = some p →
            ∃ obj, load.obj = some obj ∧ m.heap p = some (.object obj) := by
  obtain ⟨o, ho, hfrom⟩ := opened_record hrun i hi
  refine ⟨o, ho, ?_⟩
  unfold ObjectFrom at hfrom
  rcases o.input.tapps.tappLoad_cases (openSessionTaid o.input.served) (o.pre.server.tapp i) with
    ⟨hselected, herr, _⟩ | ⟨entry, hselected, hload⟩
  · rw [hselected] at hfrom ⊢
    exact ⟨hfrom, herr⟩
  · rw [hselected] at hfrom ⊢
    exact ⟨hfrom.1, congrArg Prod.fst hload, hfrom.2⟩

theorem session_object_provenance_loaded : ∃ tr m o, MachineRun sampleConfig tr m ∧
    (m.server.tapp 0).archObj = some 4096 ∧ OpenedBy tr 0 o := by
  obtain ⟨tr, m, hrun, hobj, hactive⟩ := exists_machineRun sampleConfig
    [(4096, sampleOpenContext), (4096, sampleOpenSession)]
    (fun _ m => (m.server.tapp 0).archObj = some 4096 ∧ m.server.sessionActive 0 = true)
    (by decide +kernel)
  obtain ⟨o, ho, _⟩ := session_object_provenance hrun hactive
  exact ⟨tr, m, o, hrun, hobj, ho⟩

/-- A request ends in the TApp interface exactly if it drives a session without
an object, by a null pointer, or opens one whose code is read past its block; and
the load of a session without an object had failed. -/
theorem tapp_fault_iff (hrun : MachineRun cfg tr m) :
    (∀ x, FreshBlocks x.tapps.loader m.heap → ∀ fault,
      machineStep cfg x m = .error (.tapp fault) ↔
        (fault = .nullDeref ∧ ∃ i, Drives x.served m.server i ∧
            (m.server.tapp i).archObj = none) ∨
          (fault = .overrun ∧ Overruns x m.server)) ∧
    ∀ i, m.server.sessionActive i = true → (m.server.tapp i).archObj = none →
      ∃ o, OpenedBy tr i o ∧ loadStatus o i ≠ skErrorSuccess := by
  refine ⟨fun x hfresh fault => machineStep_tapp_fault_iff hrun.sound.1 hfresh fault,
    fun i hi hnull => ?_⟩
  obtain ⟨o, ho, hfrom⟩ := opened_record hrun i hi
  refine ⟨o, ho, ?_⟩
  unfold ObjectFrom at hfrom
  rcases o.input.tapps.tappLoad_cases (openSessionTaid o.input.served) (o.pre.server.tapp i) with
    ⟨_, herr, _⟩ | ⟨entry, hselected, hload⟩
  · exact herr
  · rw [hselected] at hfrom
    rw [loadStatus, congrArg Prod.fst hload, ne_eq, statusOfLoad_success]
    rcases load_outcome o.input.tapps.loader entry TappsInfoData.zero with ⟨herr, _⟩ |
      ⟨p, _, _, _, _, _, _, _, htapp, _⟩
    · exact herr
    · rw [hfrom.1, htapp] at hnull
      cases hnull

/-- An open_session request for a TAID that the TOC file does not name. -/
def unknownOpenSession : Request :=
  .of .openSessionReq (⟨1, 2, skTapiOpenSession⟩, fun _ => 5, fun _ => 8) (sampleEnv 7)

/-- The fault that a request ends in. -/
def stepFault (cfg : Config) (x : TappRequest) (m : Machine) : Option MachineFault :=
  match machineStep cfg x m with
  | .error fault => some fault
  | .ok _ => none

theorem stepFault_eq_some {fault : MachineFault} :
    stepFault cfg x m = some fault ↔ machineStep cfg x m = .error fault := by
  unfold stepFault
  split
  · rename_i hstep
    simp [hstep]
  · rename_i hstep
    simp [hstep]

/-- An open_session request for an entry without a size, in a database that has more
code than the block holds. -/
def unsizedOpenSession : TappRequest :=
  { TappRequest.at 4096 sampleOpenSession with
    tapps := ⟨some (tocOfSize 0), Mem.ofList [], unsizedEntry,
      { sampleLoader 4096 with db := some (List.replicate 9242 0) }⟩ }

/-- A command for a session whose TApp was not found, and an opening that runs past
its block. -/
theorem tapp_fault_not_found : ∃ tr m i o, MachineRun sampleConfig tr m ∧
    Drives (TappRequest.at 4096 sampleInvokeCommand).served m.server i ∧
    (m.server.tapp i).archObj = none ∧ OpenedBy tr i o ∧ loadStatus o i ≠ skErrorSuccess ∧
    Overruns unsizedOpenSession m.server := by
  obtain ⟨tr, m, hrun, hfree, hfault, hoverrun⟩ := exists_machineRun sampleConfig
    [(4096, sampleOpenContext), (4096, unknownOpenSession)]
    (fun _ m => pagesFree 4096 m.heap = true ∧
      stepFault sampleConfig (.at 4096 sampleInvokeCommand) m = some (.tapp .nullDeref) ∧
      stepFault sampleConfig unsizedOpenSession m = some (.tapp .overrun))
    (by decide +kernel)
  have hfresh := freshBlocks_sampleLoader hfree
  rcases ((tapp_fault_iff hrun).1 (.at 4096 sampleInvokeCommand) hfresh _).mp
    (stepFault_eq_some.mp hfault) with ⟨_, i, hdrives, hnull⟩ | ⟨hne, _⟩
  · rcases ((tapp_fault_iff hrun).1 unsizedOpenSession
      ⟨hfresh.obj, hfresh.manifest, hfresh.memBase⟩ _).mp
      (stepFault_eq_some.mp hoverrun) with ⟨hne, _⟩ | ⟨_, hover⟩
    · cases hne
    · have hi : m.server.sessionActive i = true := by
        rcases hdrives with ⟨_, c, hfind⟩ | ⟨_, c, hfind⟩ <;>
          exact (TApiConnectionTable.findObjects_ok hfind).2.2.2.1
      obtain ⟨o, ho, hstatus⟩ := (tapp_fault_iff hrun).2 i hi hnull
      exact ⟨tr, m, i, o, hrun, hdrives, hnull, ho, hstatus, hover⟩
  · cases hne

/-! ## What is lost -/

/-- A check request took the session of slot `i` away. -/
def Expired (i : SSlot) (y : MachineStep) : Prop :=
  y.pre.server.sessionActive i = true ∧ y.post.server.sessionActive i = false ∧
    Accepted y.pre.server y.input.served .check

/-- Slot `i` lost its session to a check request and has had none since. -/
abbrev Abandoned (tr : List MachineStep) (i : SSlot) : Prop :=
  ∃ z, Latest (Expired i) (fun y => y.post.server.sessionActive i = true) tr z

/-- An inactive slot that still has an object was abandoned. -/
private theorem abandoned_record (hrun : MachineRun cfg tr m) :
    (m.Sound ∧ m.holdings.Owned) ∧ ∀ i, m.server.sessionActive i = false →
      (m.server.tapp i).archObj ≠ none → Abandoned tr i := by
  refine hrun.induct (fun tr m => ∀ i, m.server.sessionActive i = false →
    (m.server.tapp i).archObj ≠ none → Abandoned tr i) ?_ ?_
  · intro m₀ hserver _ i _ hobj
    rw [Server.tapp, hserver.conn] at hobj
    exact absurd rfl hobj
  · intro tr y _ _ _ hserved hrec i hi hobj
    have hkeep : y.pre.server.sessionActive i = false →
        y.post.server.tapp i = y.pre.server.tapp i → Abandoned (tr ++ [y]) i := by
      intro hpre htapp
      obtain ⟨z, hz⟩ := hrec i hpre (htapp ▸ hobj)
      exact ⟨z, hz.snoc (by simp [hi])⟩
    cases hserved with
    | kept htapp _ _ hcheck =>
      by_cases hpre : y.pre.server.sessionActive i = true
      · exact ⟨y, Latest.last ⟨hpre, hi, hcheck i hpre hi⟩ _ _⟩
      · exact hkeep (by simpa using hpre) (htapp i)
    | @openedEmpty j _ hactive _ htapp _ =>
      rw [hactive i] at hi
      by_cases hij : i = j
      · rw [if_pos hij] at hi
        cases hi
      · rw [if_neg hij] at hi
        exact hkeep hi (htapp i)
    | @opened j _ _ hactive _ _ hrest _ _ _ _ =>
      rw [hactive i] at hi
      by_cases hij : i = j
      · rw [if_pos hij] at hi
        cases hi
      · rw [if_neg hij] at hi
        exact hkeep hi (hrest i hij)
    | @closed j _ hactive hnull hrest _ _ =>
      by_cases hij : i = j
      · rw [hij, hnull] at hobj
        exact absurd rfl hobj
      · rw [hactive i, if_neg hij] at hi
        exact hkeep hi (hrest i hij)

theorem MachineRun.before (hrun : MachineRun cfg tr m) {before after : List MachineStep}
    {y : MachineStep} (htr : tr = before ++ y :: after) : MachineRun cfg before y.pre := by
  obtain ⟨m₀, hserver, hheap, hsteps, hfresh⟩ := hrun
  exact ⟨m₀, hserver, hheap, (hsteps.split htr).1, fun z hz =>
    hfresh z (htr ▸ List.mem_append_left _ hz)⟩

/-- What is leaked has been dropped by a load of the run. -/
private theorem leaked_dropped (hrun : MachineRun cfg tr m) :
    m.holdings.leaked = {a | ∃ y ∈ tr, a ∈ droppedBlocks y} := by
  refine (hrun.induct (fun tr m => m.holdings.leaked = {a | ∃ y ∈ tr, a ∈ droppedBlocks y})
    ?_ ?_).2
  · intro m₀ _ hheap
    ext a
    simp [Holdings.leaked, Machine.holdings, hheap]
  · intro tr y hm ho _ hserved hleaked
    obtain ⟨move, hmoved⟩ := hserved.moved hm ho y.result
    rw [show y.post.holdings = _ from hmoved.holdings, ho.leaked_apply hmoved.allowed, hleaked]
    ext a
    have hdropped : a ∈ y.pre.holdings.dropped move ↔ a ∈ droppedBlocks y :=
      iff_of_eq (congrArg (a ∈ ·) hmoved.dropped)
    simp [hdropped, or_and_right, exists_or]

theorem archObj_of_mem_footprint {heap : TappHeap} {tapp : SkSwldTappInstance} {a : Nat}
    (h : a ∈ footprint heap tapp) : tapp.archObj ≠ none := by
  obtain ⟨p, _, hp, _⟩ := h
  simp [hp]

/-- The blocks that no slot can give back are those that the loads of the run
dropped, and a load drops blocks only in a slot whose session a check request
took away. While no session expires, every block belongs to an active session. -/
theorem leaked_blocks (hrun : MachineRun cfg tr m) :
    m.holdings.leaked = {a | ∃ y ∈ tr, a ∈ droppedBlocks y} ∧
    (∀ before y after, tr = before ++ y :: after → ∀ i, Starts i y →
      (y.pre.server.tapp i).archObj ≠ none → Abandoned before i) ∧
    ((∀ y ∈ tr, ∀ i, ¬ Expired i y) → ∀ a, m.heap a ≠ none →
      ∃ i, m.server.sessionActive i = true ∧ a ∈ footprint m.heap (m.server.tapp i)) := by
  have hleaked := leaked_dropped hrun
  have habandoned : ∀ before y after, tr = before ++ y :: after → ∀ i, Starts i y →
      (y.pre.server.tapp i).archObj ≠ none → Abandoned before i := by
    rintro before y after htr i ⟨hpre, _⟩ hobj
    exact (abandoned_record (hrun.before htr)).2 i hpre hobj
  refine ⟨hleaked, habandoned, fun hnone a ha => ?_⟩
  have hnever : ∀ {before : List MachineStep} {i : SSlot}, (∀ y ∈ before, y ∈ tr) →
      ¬ Abandoned before i := by
    rintro before i hsub ⟨z, b₁, b₂, rfl, hz, _⟩
    exact hnone z (hsub z (by simp)) i hz
  have hkept : a ∉ m.holdings.leaked := by
    rw [hleaked]
    rintro ⟨y, hy, i, hpre, hpost, _, hfoot⟩
    obtain ⟨before, after, rfl⟩ := List.append_of_mem hy
    exact hnever (fun z hz => List.mem_append_left _ hz)
      (habandoned before y after rfl i ⟨hpre, hpost⟩ (archObj_of_mem_footprint hfoot))
  rw [Holdings.mem_leaked, not_and, not_forall] at hkept
  obtain ⟨i, hi⟩ := hkept ha
  rw [not_not] at hi
  refine ⟨i, ?_, hi⟩
  by_contra hinactive
  exact hnever (fun y hy => hy) ((abandoned_record hrun).2 i (by simpa using hinactive)
    (archObj_of_mem_footprint hi))

/-- The server that forgets its contexts at once. -/
def forgetfulConfig : Config := ⟨4294967295, 0⟩

def lateCheck : Request :=
  .of .checkReq (⟨1, 2, skTapiCheck⟩, ()) { sampleEnv 0 with timer := fun _ => 1 }

/-- The code block of the object at an address. -/
def codeOf (heap : TappHeap) (p : Nat) : Option UInt32 :=
  match heap p with
  | some (.object obj) => some obj.memBase
  | _ => none

/-- The object of a session whose context has expired, after the next session in
its slot. -/
theorem leaked_blocks_expired : ∃ tr m, MachineRun forgetfulConfig tr m ∧
    4096 ∈ m.holdings.leaked ∧ ∃ y ∈ tr, 4096 ∈ droppedBlocks y := by
  obtain ⟨tr, m, hrun, hlive, hcode, harch⟩ := exists_machineRun forgetfulConfig
    [(4096, sampleOpenContext), (4096, sampleOpenSession), (20480, lateCheck),
      (20480, .of .openContextReq (⟨1, 2, skTapiOpenContext⟩, 1) (sampleEnv 6)),
      (20480, .of .openSessionReq (⟨1, 2, skTapiOpenSession⟩, fun _ => 3, fun _ => 9)
        (sampleEnv 7))]
    (fun _ m => (m.heap 4096).isSome = true ∧ codeOf m.heap 20480 = some 28672 ∧
      ∀ i, (m.server.tapp i).archObj = if i = 0 then some 20480 else none)
    (by decide +kernel)
  have hleaked : 4096 ∈ m.holdings.leaked := by
    refine Holdings.mem_leaked.mpr ⟨Option.isSome_iff_ne_none.mp hlive, ?_⟩
    rintro i ⟨p, obj, hp, hheap, ha⟩
    rw [harch i] at hp
    split at hp
    · cases hp
      rw [codeOf, hheap] at hcode
      rw [Option.some.inj hcode] at ha
      exact absurd ha (by decide)
    · cases hp
  exact ⟨tr, m, hrun, hleaked, (Set.ext_iff.mp (leaked_blocks hrun).1 4096).mp hleaked⟩

end SkSdk
