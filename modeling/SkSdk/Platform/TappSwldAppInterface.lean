import SkSdk.Library.Stdio
import SkSdk.Swld.Tapi
import SkSdk.Swld.TappToc

/-!
The loader of a TApp's code on the platform (`sk_tapp_swld_app_interface.c`, the
same arithmetic under `tcp` and `fiasco`) on a target with 32-bit `size_t` and
`long`. The allocation, the size of the code and the padding are computed apart
from each other out of the entry's `tapp_size`.
-/

namespace SkSdk
open ByteMemory Stdio

/-! ## The loader -/

/-- What the loader meets: its three allocations in order, the last by its size,
and the database, if it can be opened. -/
structure LoaderEnv where
  mallocObj : Option UInt32
  mallocManifest : Option UInt32
  mallocMemBase : UInt32 → Option UInt32
  db : Option (List UInt8)

/-- The members of `tapp_elf_tapp_interface` that the loader fills. -/
structure TappElfTappInterface where
  info : TappsInfoData
  memBase : UInt32
  code : UInt32

/-- The read of the application code: where it starts in the block that
`mem_base` points to, how long that is, how much is asked for and how much the
database has of it. -/
structure CodeRead where
  allocated : UInt32
  padding : UInt32
  codeSize : UInt32
  stored : Nat

structure PlatformLoad where
  err : SkStatus
  tapp : SkSwldTappInstance
  obj : Option TappElfTappInterface
  codeRead : Option CodeRead

/-- Everything that was allocated is free again. -/
def loadFailed (err : SkStatus) (codeRead : Option CodeRead) : PlatformLoad :=
  ⟨err, ⟨none⟩, none, codeRead⟩

/-- `TAPPS_INFO_DATA_SIZE` in the arithmetic of `size_t`. -/
abbrev manifestSize : UInt32 := 1050

/-- The argument of the last `malloc`. -/
def memBaseSize (entry : TappTocEntry) : UInt32 := (entry.tappSize - manifestSize) + 8192

def codePadding (memBase : UInt32) : UInt32 :=
  if memBase &&& 4095 ≠ 0 then 4096 - (memBase &&& 4095) else 0

/-- The first four bytes of the address. -/
def dbAddress (address : Blk tappTocIndexEntryAddrSize) : UInt32 :=
  (address 0).toUInt32 <<< 24 ||| (address 1).toUInt32 <<< 16 ||| (address 2).toUInt32 <<< 8 |||
    (address 3).toUInt32

/-- `fseek` from the start; the offset is a `long`, so half of the addresses are
negative. -/
def fseekSet (bytes : List UInt8) (offset : UInt32) : Option File :=
  if offset.toNat < 2147483648 then some ((File.ofBytes bytes).advance offset.toNat) else none

def skSwldPlatformTappLoad (env : LoaderEnv) (entry : TappTocEntry) (info : TappsInfoData) :
    PlatformLoad :=
  match env.mallocObj with
  | none => loadFailed skErrorNoMemory none
  | some obj =>
    match env.mallocManifest with
    | none => loadFailed skErrorNoMemory none
    | some _ =>
      match env.mallocMemBase (memBaseSize entry) with
      | none => loadFailed skErrorNoMemory none
      | some memBase =>
        match env.db with
        | none => loadFailed skErrorOpenFailed none
        | some db =>
          match fseekSet db (dbAddress entry.address) with
          | none => loadFailed skErrorReadFailed none
          | some fpDb =>
            let (manifest, fpDb) := fpDb.fread tappsInfoDataSize
            if manifest.length ≠ tappsInfoDataSize then loadFailed skErrorReadFailed none
            else
              let info := (tappManifestPackGet (Mem.ofList manifest) tappsInfoDataSize info).out
              let codeSize := entry.tappSize - manifestSize
              let padding := codePadding memBase
              let (code, _) := fpDb.fread codeSize.toNat
              let read := some ⟨memBaseSize entry, padding, codeSize, code.length⟩
              if code.length ≠ codeSize.toNat then loadFailed skErrorReadFailed read
              else ⟨skErrorSuccess, ⟨some obj.toNat⟩, some ⟨info, memBase, memBase + padding⟩, read⟩

/-! ## When the arithmetic is safe -/

/-- Smaller than a manifest, or too large for the block to be counted in 32 bits. -/
def BadSize (entry : TappTocEntry) : Prop :=
  entry.tappSize.toNat < tappsInfoDataSize ∨
    4294967296 ≤ entry.tappSize.toNat - tappsInfoDataSize + 8192

/-- The padding and the code fit in the block, and a bad size is refused. -/
structure SafeLoad (env : LoaderEnv) (entry : TappTocEntry) (info : TappsInfoData) : Prop where
  fits : ∀ read, (skSwldPlatformTappLoad env entry info).codeRead = some read →
    read.padding.toNat + read.codeSize.toNat ≤ read.allocated.toNat
  refuses : BadSize entry → (skSwldPlatformTappLoad env entry info).err ≠ skErrorSuccess ∧
    (skSwldPlatformTappLoad env entry info).tapp.archObj = none

/-- Every allocation succeeds, and the database opens and has a manifest at the
entry's address. -/
structure ManifestReadable (env : LoaderEnv) (entry : TappTocEntry) : Prop where
  obj : env.mallocObj.isSome
  manifest : env.mallocManifest.isSome
  memBase : (env.mallocMemBase (memBaseSize entry)).isSome
  db : ∃ db, env.db = some db ∧ (dbAddress entry.address).toNat < 2147483648 ∧
    (dbAddress entry.address).toNat + tappsInfoDataSize ≤ db.length

/-- A read of the code, if there is one, stores no more than its block holds. -/
def PlatformLoad.Fits (load : PlatformLoad) : Prop :=
  ∀ read, load.codeRead = some read →
    read.padding.toNat + read.stored ≤ read.allocated.toNat

/-- The read of the code is asked for more than the block holds, and the database
has it. -/
structure CodeOverruns (env : LoaderEnv) (entry : TappTocEntry) : Prop where
  badSize : BadSize entry
  readable : ManifestReadable env entry
  long : ∀ db memBase, env.db = some db → env.mallocMemBase (memBaseSize entry) = some memBase →
    (memBaseSize entry).toNat < (codePadding memBase).toNat +
      (db.length - ((dbAddress entry.address).toNat + tappsInfoDataSize))

/-! ## Sizes -/

theorem codeSize_toNat (entry : TappTocEntry) :
    (entry.tappSize - manifestSize).toNat = (entry.tappSize.toNat + 4294966246) % 4294967296 := by
  have hlt := entry.tappSize.toNat_lt
  rw [UInt32.toNat_sub, show manifestSize.toNat = 1050 from rfl]
  omega

theorem memBaseSize_toNat (entry : TappTocEntry) :
    (memBaseSize entry).toNat = ((entry.tappSize - manifestSize).toNat + 8192) % 4294967296 := by
  rw [memBaseSize, UInt32.toNat_add]
  rfl

theorem badSize_iff (entry : TappTocEntry) :
    BadSize entry ↔ 4294967296 ≤ (entry.tappSize - manifestSize).toNat + 8192 := by
  have hlt := entry.tappSize.toNat_lt
  have hsize : tappsInfoDataSize = 1050 := rfl
  rw [BadSize, codeSize_toNat]
  omega

theorem codePadding_lt (memBase : UInt32) : (codePadding memBase).toNat < 4096 := by
  have hlow : (memBase &&& 4095).toNat ≤ 4095 := by
    rw [UInt32.toNat_and]
    exact Nat.and_le_right
  unfold codePadding
  split
  · next hne =>
    have hpos : (memBase &&& 4095).toNat ≠ 0 := fun h => hne (UInt32.toNat_inj.mp h)
    rw [UInt32.toNat_sub, show (4096 : UInt32).toNat = 4096 from rfl]
    omega
  · decide

/-! ## The loads that reach the read of the code -/

theorem length_manifest (db : List UInt8) (n : Nat) :
    (((File.ofBytes db).advance n).fread tappsInfoDataSize).1.length =
      min tappsInfoDataSize (db.length - n) := by
  simp [File.fread, File.advance, File.ofBytes]

/-- What is left for the code after the manifest. -/
theorem length_code (db : List UInt8) (n size : Nat) :
    ((((File.ofBytes db).advance n).fread tappsInfoDataSize).2.fread size).1.length =
      min size (db.length - (n + tappsInfoDataSize)) := by
  simp only [File.fread, File.advance, File.ofBytes, List.length_take, List.length_drop]
  omega

theorem codeRead_of_readable {env : LoaderEnv} {entry : TappTocEntry} (info : TappsInfoData)
    (h : ManifestReadable env entry) :
    ∃ db memBase, env.db = some db ∧ env.mallocMemBase (memBaseSize entry) = some memBase ∧
      (skSwldPlatformTappLoad env entry info).codeRead =
        some ⟨memBaseSize entry, codePadding memBase, entry.tappSize - manifestSize,
          min (entry.tappSize - manifestSize).toNat
            (db.length - ((dbAddress entry.address).toNat + tappsInfoDataSize))⟩ := by
  obtain ⟨obj, hobj⟩ := Option.isSome_iff_exists.mp h.obj
  obtain ⟨manifest, hmanifest⟩ := Option.isSome_iff_exists.mp h.manifest
  obtain ⟨memBase, hmemBase⟩ := Option.isSome_iff_exists.mp h.memBase
  obtain ⟨db, hdb, hpos, hlen⟩ := h.db
  have hseek : fseekSet db (dbAddress entry.address) =
      some ((File.ofBytes db).advance (dbAddress entry.address).toNat) := if_pos hpos
  have hread : ¬ (((File.ofBytes db).advance (dbAddress entry.address).toNat).fread
      tappsInfoDataSize).1.length ≠ tappsInfoDataSize := by
    rw [length_manifest]
    omega
  refine ⟨db, memBase, hdb, hmemBase, ?_⟩
  simp only [skSwldPlatformTappLoad, hobj, hmanifest, hmemBase, hdb, hseek]
  rw [if_neg hread, length_code]
  split <;> rfl

theorem load_of_not_readable {env : LoaderEnv} {entry : TappTocEntry} (info : TappsInfoData)
    (h : ¬ ManifestReadable env entry) :
    ∃ err, skSwldPlatformTappLoad env entry info = loadFailed err none ∧
      err ≠ skErrorSuccess := by
  have hmemory : skErrorNoMemory ≠ skErrorSuccess := by decide
  have hopen : skErrorOpenFailed ≠ skErrorSuccess := by decide
  have hread : skErrorReadFailed ≠ skErrorSuccess := by decide
  rw [skSwldPlatformTappLoad]
  cases hobj : env.mallocObj with
  | none => exact ⟨_, rfl, hmemory⟩
  | some obj =>
    cases hmanifest : env.mallocManifest with
    | none => exact ⟨_, rfl, hmemory⟩
    | some manifest =>
      cases hmemBase : env.mallocMemBase (memBaseSize entry) with
      | none => exact ⟨_, rfl, hmemory⟩
      | some memBase =>
        cases hdb : env.db with
        | none => exact ⟨_, rfl, hopen⟩
        | some db =>
          by_cases hpos : (dbAddress entry.address).toNat < 2147483648
          · have hlen : ¬ (dbAddress entry.address).toNat + tappsInfoDataSize ≤ db.length :=
              fun hlen => h ⟨by simp [hobj], by simp [hmanifest], by simp [hmemBase],
                db, hdb, hpos, hlen⟩
            have hseek : fseekSet db (dbAddress entry.address) =
                some ((File.ofBytes db).advance (dbAddress entry.address).toNat) := if_pos hpos
            have hcut : (((File.ofBytes db).advance (dbAddress entry.address).toNat).fread
                tappsInfoDataSize).1.length ≠ tappsInfoDataSize := by
              have hsize : tappsInfoDataSize = 1050 := rfl
              rw [length_manifest]
              omega
            simp only [hseek, if_pos hcut]
            exact ⟨_, rfl, hread⟩
          · have hseek : fseekSet db (dbAddress entry.address) = none := if_neg hpos
            simp only [hseek]
            exact ⟨_, rfl, hread⟩

/-! ## The arithmetic -/

theorem fits_of_not_badSize {entry : TappTocEntry} (h : ¬ BadSize entry) (memBase : UInt32) :
    (codePadding memBase).toNat + (entry.tappSize - manifestSize).toNat ≤
      (memBaseSize entry).toNat := by
  have hpadding := codePadding_lt memBase
  rw [badSize_iff] at h
  rw [memBaseSize_toNat]
  omega

/-- The block is shorter than the code alone. -/
theorem not_fits_of_badSize {entry : TappTocEntry} (h : BadSize entry) :
    (memBaseSize entry).toNat < (entry.tappSize - manifestSize).toNat := by
  have hlt := (entry.tappSize - manifestSize).toNat_lt
  rw [badSize_iff] at h
  rw [memBaseSize_toNat]
  omega

/-- With a good size the code fits, and with a bad one the database has to be short. -/
theorem fits_iff (env : LoaderEnv) (entry : TappTocEntry) (info : TappsInfoData) :
    (skSwldPlatformTappLoad env entry info).Fits ↔ ¬ CodeOverruns env entry := by
  by_cases hreadable : ManifestReadable env entry
  case neg =>
    obtain ⟨err, hload, -⟩ := load_of_not_readable info hreadable
    refine ⟨fun _ h => hreadable h.readable, fun _ read hread => ?_⟩
    rw [hload] at hread
    cases hread
  obtain ⟨db, memBase, hdb, hmemBase, hread⟩ := codeRead_of_readable info hreadable
  constructor
  · intro h hover
    have hfits := h _ hread
    have hshort := not_fits_of_badSize hover.badSize
    have hlong := hover.long db memBase hdb hmemBase
    simp only at hfits
    omega
  · intro h read hread'
    rw [← Option.some.inj (hread.symm.trans hread')]
    dsimp only
    by_cases hbad : BadSize entry
    · by_contra hlong
      refine h ⟨hbad, hreadable, fun db' memBase' hdb' hmemBase' => ?_⟩
      obtain rfl : db = db' := Option.some.inj (hdb.symm.trans hdb')
      obtain rfl : memBase = memBase' := Option.some.inj (hmemBase.symm.trans hmemBase')
      omega
    · have hfits := fits_of_not_badSize hbad memBase
      omega

/-- A bad size is refused by nothing but a failure on the way to the read. -/
theorem safeLoad_iff (env : LoaderEnv) (entry : TappTocEntry) (info : TappsInfoData) :
    SafeLoad env entry info ↔ ¬ (BadSize entry ∧ ManifestReadable env entry) := by
  constructor
  · rintro h ⟨hbad, hreadable⟩
    obtain ⟨db, memBase, -, -, hread⟩ := codeRead_of_readable info hreadable
    have hfits := h.fits _ hread
    have hshort := not_fits_of_badSize hbad
    simp only at hfits
    omega
  · intro h
    by_cases hreadable : ManifestReadable env entry
    · have hgood : ¬ BadSize entry := fun hbad => h ⟨hbad, hreadable⟩
      obtain ⟨db, memBase, -, -, hread⟩ := codeRead_of_readable info hreadable
      refine ⟨fun read hread' => ?_, fun hbad => absurd hbad hgood⟩
      rw [← Option.some.inj (hread.symm.trans hread')]
      exact fits_of_not_badSize hgood memBase
    · obtain ⟨err, hload, herr⟩ := load_of_not_readable info hreadable
      refine ⟨fun read hread => ?_, fun _ => ?_⟩
      · rw [hload] at hread
        cases hread
      · rw [hload]
        exact ⟨herr, rfl⟩

def sampleLoaderEnv (db : List UInt8) : LoaderEnv :=
  ⟨some 4096, some 8192, fun _ => some 12288, some db⟩

def unsizedEntry : TappTocEntry := ⟨Blk.zero 16, 0, Blk.zero 32⟩

def sampleDb : List UInt8 := List.replicate tappsInfoDataSize 0

/-- An entry without a size, whose code is read into a block of 7142 bytes. -/
theorem safeLoad_false : ∃ info, ¬ SafeLoad (sampleLoaderEnv sampleDb) unsizedEntry info := by
  have hbad : BadSize unsizedEntry := .inl (by decide)
  have hlen : sampleDb.length = tappsInfoDataSize := List.length_replicate
  have haddress : (dbAddress unsizedEntry.address).toNat = 0 := by decide
  have hreadable : ManifestReadable (sampleLoaderEnv sampleDb) unsizedEntry :=
    ⟨rfl, rfl, rfl, sampleDb, rfl, by omega, by omega⟩
  refine ⟨.zero, fun h => ?_⟩
  obtain ⟨db, memBase, -, -, hread⟩ := codeRead_of_readable .zero hreadable
  have hfits := h.fits _ hread
  have hshort := not_fits_of_badSize hbad
  simp only at hfits
  omega

end SkSdk
