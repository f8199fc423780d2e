import SkSdk.Library.Ownership
import SkSdk.Platform.TappSwldAppInterface
import SkSdk.Swld.Tapp

/-!
The blocks behind `arch_obj`: what the platform's loader allocates and frees,
and what its other functions do through the pointer
(`sk_tapp_swld_app_interface.c`, the same under `tcp` and `fiasco`). The code of
a TApp is outside: each of its functions is an argument.
-/

namespace SkSdk
open ByteMemory FaultState Ownership

/-! ## The heap -/

/-- A block is raw bytes until the loader has filled an object in. -/
inductive HeapBlock
  | raw
  | object (obj : TappElfTappInterface)

/-- The live blocks by their addresses. -/
abbrev TappHeap := Nat → Option HeapBlock

/-- A null pointer, or a pointer to no live block of the right kind, is followed
or freed, or a read stores more than its block holds. -/
inductive TappFault
  | nullDeref
  | notAllocated
  | overrun
  deriving DecidableEq

abbrev TappM := Prog TappHeap TappFault

/-- `malloc`, given the address it returns. -/
def mallocBlock : Option UInt32 → TappM (Option UInt32)
  | none => return none
  | some a => do
    modify fun heap => Function.update heap a.toNat (some .raw)
    return some a

def freeBlock (a : Nat) : TappM Unit := do
  require .notAllocated (((← get) a).isSome = true)
  modify fun heap => Function.update heap a none

/-- `if (p) free(p);` -/
def freeIf : Option UInt32 → TappM Unit
  | none => return ()
  | some a => freeBlock a.toNat

/-- The `fread` of the code, into a block that has to hold all that it finds. -/
def readCode : Option CodeRead → TappM Unit
  | none => return ()
  | some read => require .overrun (read.padding.toNat + read.stored ≤ read.allocated.toNat)

def readObject (a : Nat) : TappM TappElfTappInterface := do
  match (← get) a with
  | some (.object obj) => return obj
  | _ => throw .notAllocated

/-! ## The functions of the platform -/

/-- `sk_swld_platform_tapp_load` with its allocations. The database is read
between them and the clean-up, as `skSwldPlatformTappLoad` has it. -/
def skSwldPlatformTappLoadBlocks (env : LoaderEnv) (entry : TappTocEntry) : TappM PlatformLoad := do
  let load := skSwldPlatformTappLoad env entry TappsInfoData.zero
  let obj ← mallocBlock env.mallocObj
  let manifest ← if obj.isSome then mallocBlock env.mallocManifest else pure none
  let memBase ← if manifest.isSome then mallocBlock (env.mallocMemBase (memBaseSize entry))
    else pure none
  readCode load.codeRead
  match load.tapp.archObj, load.obj with
  | some p, some filled => modify fun heap => Function.update heap p (some (.object filled))
  | _, _ => pure ()
  freeIf manifest
  if load.err ≠ skErrorSuccess then
    if obj.isSome then
      freeIf memBase
      freeIf obj
  return load

def skSwldPlatformTappUnload (tapp : SkSwldTappInstance) : TappM (SkStatus × SkSwldTappInstance) :=
  match tapp.archObj with
  | none => return (skErrorSuccess, tapp)
  | some p => do
    let obj ← readObject p
    freeBlock obj.memBase.toNat
    freeBlock p
    return (skErrorSuccess, ⟨none⟩)

/-- Call a function of the TApp through `obj->def`. -/
def callTapp (iface : TappElfTappInterface → SkStatus) (tapp : SkSwldTappInstance) :
    TappM SkStatus := do
  let p ← deref .nullDeref tapp.archObj
  return iface (← readObject p)

def skSwldPlatformTappInit (initIface : SkStatus) (tapp : SkSwldTappInstance) : TappM SkStatus :=
  callTapp (fun _ => initIface) tapp

def skSwldPlatformTappClose (closeIface : SkStatus) (tapp : SkSwldTappInstance) : TappM SkStatus :=
  callTapp (fun _ => closeIface) tapp

def skSwldPlatformTappPull (receiveOperationIface : SkTaid → UInt32 → SkOperation → SkStatus)
    (tapp : SkSwldTappInstance) (cmdId : UInt32) (op : SkOperation) : TappM SkStatus :=
  callTapp (fun obj => receiveOperationIface obj.info.taid cmdId op) tapp

/-- `tapp_unload` (`tapp.c`). -/
def tappUnload (tapp : SkSwldTappInstance) : TappM (SkStatus × SkSwldTappInstance) := do
  let (err, tapp) ← skSwldPlatformTappUnload tapp
  if err ≠ skErrorSuccess then return (skErrorUnloadFailed, tapp)
  return (err, tapp)

/-! ## What a load leaves allocated -/

/-- `malloc` returns blocks that are not in use, and no block twice. -/
structure FreshBlocks (env : LoaderEnv) (heap : TappHeap) : Prop where
  obj : ∀ a, env.mallocObj = some a → heap a.toNat = none
  manifest : ∀ a, env.mallocManifest = some a → heap a.toNat = none ∧
    env.mallocObj ≠ some a
  memBase : ∀ n a, env.mallocMemBase n = some a → heap a.toNat = none ∧
    env.mallocObj ≠ some a ∧ env.mallocManifest ≠ some a

/-- A load fails and has no object, or it has the object and the code block that
`malloc` gave. -/
theorem load_outcome (env : LoaderEnv) (entry : TappTocEntry) (info : TappsInfoData) :
    let load := skSwldPlatformTappLoad env entry info
    (load.err ≠ skErrorSuccess ∧ load.tapp = ⟨none⟩ ∧ load.obj = none) ∨
      ∃ p manifest memBase obj, env.mallocObj = some p ∧ env.mallocManifest = some manifest ∧
        env.mallocMemBase (memBaseSize entry) = some memBase ∧ load.err = skErrorSuccess ∧
        load.tapp = ⟨some p.toNat⟩ ∧ load.obj = some obj ∧ obj.memBase = memBase := by
  have hmemory : skErrorNoMemory ≠ skErrorSuccess := by decide
  have hopen : skErrorOpenFailed ≠ skErrorSuccess := by decide
  have hread : skErrorReadFailed ≠ skErrorSuccess := by decide
  dsimp only
  rw [skSwldPlatformTappLoad]
  cases env.mallocObj with
  | none => exact .inl ⟨hmemory, rfl, rfl⟩
  | some p =>
    cases env.mallocManifest with
    | none => exact .inl ⟨hmemory, rfl, rfl⟩
    | some manifest =>
      cases env.mallocMemBase (memBaseSize entry) with
      | none => exact .inl ⟨hmemory, rfl, rfl⟩
      | some memBase =>
        cases env.db with
        | none => exact .inl ⟨hopen, rfl, rfl⟩
        | some db =>
          dsimp only
          cases fseekSet db (dbAddress entry.address) with
          | none => exact .inl ⟨hread, rfl, rfl⟩
          | some fpDb =>
            dsimp only
            split
            · exact .inl ⟨hread, rfl, rfl⟩
            · split
              · exact .inl ⟨hread, rfl, rfl⟩
              · exact .inr ⟨p, manifest, memBase, _, rfl, rfl, rfl, rfl, rfl, rfl, rfl⟩

theorem readCode_of_fits {load : PlatformLoad} (h : load.Fits) :
    readCode load.codeRead = pure () := by
  cases hread : load.codeRead with
  | none => rfl
  | some read => exact if_pos (h read hread)

theorem readCode_of_not_fits {load : PlatformLoad} (h : ¬ load.Fits) :
    readCode load.codeRead = throw .overrun := by
  cases hread : load.codeRead with
  | none => exact absurd (by simp [PlatformLoad.Fits, hread]) h
  | some read =>
    refine if_neg fun hle => h fun read' hread' => ?_
    obtain rfl : read = read' := Option.some.inj (hread.symm.trans hread')
    exact hle

theorem toNat_ne_of_ne {p : Option UInt32} {a b : UInt32} (hp : p = some a) (h : p ≠ some b) :
    a.toNat ≠ b.toNat := by
  intro heq
  exact h (hp.trans (congrArg some (UInt32.toNat_inj.mp heq)))

/-- No allocation keeps a load from its read. -/
theorem tappLoadBlocks_overrun {env : LoaderEnv} {entry : TappTocEntry} (heap : TappHeap)
    (h : ¬ (skSwldPlatformTappLoad env entry TappsInfoData.zero).Fits) :
    skSwldPlatformTappLoadBlocks env entry heap = .error .overrun := by
  apply error_of_wp
  simp only [skSwldPlatformTappLoadBlocks, readCode_of_not_fits h]
  cases env.mallocObj with
  | none => simp [mallocBlock]
  | some p =>
    cases env.mallocManifest with
    | none => simp [mallocBlock]
    | some m => cases env.mallocMemBase (memBaseSize entry) <;> simp [mallocBlock]

/-- A load that fails frees all that it has allocated. -/
theorem tappLoadBlocks_failed {env : LoaderEnv} {entry : TappTocEntry} {heap : TappHeap}
    (hfresh : FreshBlocks env heap)
    (hfits : (skSwldPlatformTappLoad env entry TappsInfoData.zero).Fits)
    (herr : (skSwldPlatformTappLoad env entry TappsInfoData.zero).err ≠ skErrorSuccess)
    (htapp : (skSwldPlatformTappLoad env entry TappsInfoData.zero).tapp = ⟨none⟩) :
    skSwldPlatformTappLoadBlocks env entry heap =
      .ok (skSwldPlatformTappLoad env entry TappsInfoData.zero, heap) := by
  apply ok_of_wp
  simp only [skSwldPlatformTappLoadBlocks, readCode_of_fits hfits]
  generalize skSwldPlatformTappLoad env entry TappsInfoData.zero = load at herr htapp ⊢
  cases hobj : env.mallocObj with
  | none => simp [mallocBlock, htapp, herr, freeIf]
  | some p =>
    have hp := hfresh.obj p hobj
    cases hmanifest : env.mallocManifest with
    | none => simp [mallocBlock, htapp, herr, freeIf, freeBlock, hp]
    | some m =>
      obtain ⟨hm, hpm⟩ := hfresh.manifest m hmanifest
      have hpm := toNat_ne_of_ne hobj hpm
      cases hmemBase : env.mallocMemBase (memBaseSize entry) with
      | none =>
        simp only [mallocBlock, htapp, freeIf, freeBlock]
        simp [hpm, herr]
        funext a
        by_cases hap : a = p.toNat <;> by_cases ham : a = m.toNat <;>
          simp_all
      | some b =>
        obtain ⟨hb, hpb, hmb⟩ := hfresh.memBase _ b hmemBase
        have hpb := toNat_ne_of_ne hobj hpb
        have hmb := toNat_ne_of_ne hmanifest hmb
        simp only [mallocBlock, htapp, freeIf, freeBlock]
        simp [herr, hpm, hpb, hmb, hmb.symm]
        funext a
        by_cases hap : a = p.toNat <;> by_cases ham : a = m.toNat <;>
          by_cases hab : a = b.toNat <;> simp_all

/-- A load that succeeds keeps two of its three blocks. -/
theorem tappLoadBlocks_loaded {env : LoaderEnv} {entry : TappTocEntry} {heap : TappHeap}
    (hfresh : FreshBlocks env heap)
    (hfits : (skSwldPlatformTappLoad env entry TappsInfoData.zero).Fits)
    {p m b : UInt32} {obj : TappElfTappInterface}
    (hobj : env.mallocObj = some p) (hmanifest : env.mallocManifest = some m)
    (hmemBase : env.mallocMemBase (memBaseSize entry) = some b)
    (herr : (skSwldPlatformTappLoad env entry TappsInfoData.zero).err = skErrorSuccess)
    (htapp : (skSwldPlatformTappLoad env entry TappsInfoData.zero).tapp = ⟨some p.toNat⟩)
    (hfilled : (skSwldPlatformTappLoad env entry TappsInfoData.zero).obj = some obj) :
    skSwldPlatformTappLoadBlocks env entry heap =
      .ok (skSwldPlatformTappLoad env entry TappsInfoData.zero,
        Function.update (Function.update heap b.toNat (some .raw)) p.toNat
          (some (.object obj))) := by
  obtain ⟨hm, hpm⟩ := hfresh.manifest m hmanifest
  obtain ⟨hb, hpb, hmb⟩ := hfresh.memBase _ b hmemBase
  have hpm := toNat_ne_of_ne hobj hpm
  have hpb := toNat_ne_of_ne hobj hpb
  have hmb := toNat_ne_of_ne hmanifest hmb
  apply ok_of_wp
  simp only [skSwldPlatformTappLoadBlocks, readCode_of_fits hfits, hobj, hmanifest, hmemBase]
  generalize skSwldPlatformTappLoad env entry TappsInfoData.zero = load at herr htapp hfilled ⊢
  simp only [mallocBlock, htapp, hfilled, herr, freeIf, freeBlock]
  simp [hpm.symm, hmb]
  funext a
  by_cases hap : a = p.toNat <;> by_cases ham : a = m.toNat <;>
    by_cases hab : a = b.toNat <;> simp_all

/-! ## What an instance owns -/

/-- The object behind an instance and the code block of the object. -/
def footprint (heap : TappHeap) (tapp : SkSwldTappInstance) : Set Nat :=
  {a | ∃ p obj, tapp.archObj = some p ∧ heap p = some (.object obj) ∧
    (a = p ∨ a = obj.memBase.toNat)}

/-- The pointer is null, or leads to an object whose code block is there. -/
def Loaded (heap : TappHeap) (tapp : SkSwldTappInstance) : Prop :=
  ∀ p, tapp.archObj = some p →
    ∃ obj, heap p = some (.object obj) ∧ heap obj.memBase.toNat = some .raw

section Footprint

variable {heap heap' : TappHeap} {tapp : SkSwldTappInstance} {p : Nat} {obj : TappElfTappInterface}

theorem footprint_null (h : tapp.archObj = none) : footprint heap tapp = ∅ := by
  simp [footprint, h]

theorem mem_footprint (hp : tapp.archObj = some p) (hobj : heap p = some (.object obj)) {a : Nat} :
    a ∈ footprint heap tapp ↔ a = p ∨ a = obj.memBase.toNat := by
  simp [footprint, hp, hobj]

theorem Loaded.of_null (h : tapp.archObj = none) : Loaded heap tapp := by
  intro p hp
  rw [h] at hp
  cases hp

theorem Loaded.live (h : Loaded heap tapp) {a : Nat} (ha : a ∈ footprint heap tapp) :
    heap a ≠ none := by
  obtain ⟨p, obj, hp, hobj, rfl | rfl⟩ := ha
  · simp [hobj]
  · obtain ⟨obj', hobj', hmem⟩ := h p hp
    rw [hobj] at hobj'
    cases hobj'
    simp [hmem]

/-- An instance depends on the heap through its own blocks only. -/
theorem footprint_frame (hsame : ∀ a ∈ footprint heap tapp, heap' a = heap a)
    (h : Loaded heap tapp) : footprint heap' tapp = footprint heap tapp ∧ Loaded heap' tapp := by
  cases hp : tapp.archObj with
  | none => exact ⟨by rw [footprint_null hp, footprint_null hp], .of_null hp⟩
  | some p =>
    obtain ⟨obj, hobj, hmem⟩ := h p hp
    have hobj' : heap' p = some (.object obj) :=
      (hsame p ((mem_footprint hp hobj).mpr (.inl rfl))).trans hobj
    have hmem' : heap' obj.memBase.toNat = some .raw :=
      (hsame _ ((mem_footprint hp hobj).mpr (.inr rfl))).trans hmem
    refine ⟨?_, fun q hq => ?_⟩
    · ext a
      rw [mem_footprint hp hobj, mem_footprint hp hobj']
    · rw [hp] at hq
      cases hq
      exact ⟨obj, hobj', hmem'⟩

theorem callTapp_null (iface : TappElfTappInterface → SkStatus) (h : tapp.archObj = none) :
    callTapp iface tapp heap = .error .nullDeref := by
  rw [callTapp, h]
  rfl

theorem callTapp_loaded (iface : TappElfTappInterface → SkStatus) (h : Loaded heap tapp)
    (hp : tapp.archObj = some p) : ∃ err, callTapp iface tapp heap = .ok (err, heap) := by
  obtain ⟨obj, hobj, _⟩ := h p hp
  refine ⟨iface obj, ok_of_wp ?_⟩
  simp [callTapp, readObject, hp, hobj]

/-- An instance that owns its blocks gives back these and no others. -/
theorem tappUnload_run (h : Loaded heap tapp) :
    ∃ heap', tappUnload tapp heap = .ok ((skErrorSuccess, ⟨none⟩), heap') ∧
      (∀ a ∈ footprint heap tapp, heap' a = none) ∧
      ∀ a, a ∉ footprint heap tapp → heap' a = heap a := by
  cases hp : tapp.archObj with
  | none =>
    obtain rfl : tapp = ⟨none⟩ := congrArg SkSwldTappInstance.mk hp
    refine ⟨heap, ok_of_wp ?_, ?_, fun _ _ => rfl⟩
    · simp [tappUnload, skSwldPlatformTappUnload]
    · simp [footprint_null]
  | some p =>
    obtain ⟨obj, hobj, hmem⟩ := h p hp
    have hne : p ≠ obj.memBase.toNat := by
      intro heq
      rw [heq, hmem] at hobj
      cases hobj
    refine ⟨Function.update (Function.update heap obj.memBase.toNat none) p none, ok_of_wp ?_,
      fun a ha => ?_, fun a ha => ?_⟩
    · simp [tappUnload, skSwldPlatformTappUnload, readObject, freeBlock, hp, hobj, hmem, hne]
    · rw [mem_footprint hp hobj] at ha
      rcases ha with rfl | rfl
      · simp
      · by_cases hap : obj.memBase.toNat = p <;> simp [hap]
    · rw [mem_footprint hp hobj, not_or] at ha
      simp [ha.1, ha.2]

end Footprint

/-- A load leaves the heap as it was but for the blocks of its instance, which
were free before. -/
theorem tappLoadBlocks_run {env : LoaderEnv} {heap : TappHeap} (entry : TappTocEntry)
    (hfresh : FreshBlocks env heap)
    (hfits : (skSwldPlatformTappLoad env entry TappsInfoData.zero).Fits) :
    let load := skSwldPlatformTappLoad env entry TappsInfoData.zero
    ∃ heap', skSwldPlatformTappLoadBlocks env entry heap = .ok (load, heap') ∧
      Loaded heap' load.tapp ∧ (∀ a ∈ footprint heap' load.tapp, heap a = none) ∧
      (∀ a, a ∉ footprint heap' load.tapp → heap' a = heap a) ∧
      (load.err = skErrorSuccess ↔ load.tapp.archObj ≠ none) ∧
      ∀ p, load.tapp.archObj = some p →
        ∃ obj, load.obj = some obj ∧ heap' p = some (.object obj) := by
  intro load
  rcases load_outcome env entry TappsInfoData.zero with ⟨herr, htapp, _⟩ |
    ⟨p, m, b, obj, hp, hm, hb, herr, htapp, hobj, hbase⟩
  · refine ⟨heap, tappLoadBlocks_failed hfresh hfits herr htapp, ?_⟩
    simp only [load, htapp]
    exact ⟨.of_null rfl, by simp [footprint_null], by simp, by simp [herr], by simp⟩
  · refine ⟨_, tappLoadBlocks_loaded hfresh hfits hp hm hb herr htapp hobj, ?_⟩
    obtain ⟨hb₀, hpb, _⟩ := hfresh.memBase _ b hb
    have hne := toNat_ne_of_ne hp hpb
    have hheap : Function.update (Function.update heap b.toNat (some .raw)) p.toNat
        (some (.object obj)) p.toNat = some (.object obj) := Function.update_self ..
    have hcode : Function.update (Function.update heap b.toNat (some .raw)) p.toNat
        (some (.object obj)) obj.memBase.toNat = some .raw := by
      simp [hbase, hne.symm]
    simp only [load, htapp]
    refine ⟨fun q hq => ?_, fun a ha => ?_, fun a ha => ?_, by simp [herr], fun q hq => ?_⟩
    · cases hq
      exact ⟨obj, hheap, hcode⟩
    · rw [mem_footprint rfl hheap, hbase] at ha
      rcases ha with rfl | rfl
      · exact hfresh.obj p hp
      · exact hb₀
    · rw [mem_footprint rfl hheap, hbase, not_or] at ha
      simp [ha.1, ha.2]
    · cases hq
      exact ⟨obj, hobj, hheap⟩

end SkSdk
