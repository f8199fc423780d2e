import SkSdk.Platform.TappSwldAppInterface
import SkSdk.Swld.Tapp
import SkSdk.Tools.TappBuildTocDb
import SkSdk.Tools.TappManifest

/-!
What the secure world makes of a TOC and a database that the tools have built: which
TAIDs it finds there, and what becomes of the load.
-/

namespace SkSdk
open ByteMemory Format Stdio

/-! ## The bytes of a built TOC -/

/-- Past the first 36 bytes of an entry nothing is ever stored. -/
def BlankTails (buffer : Mem) : Prop := ∀ a, 16 ≤ a → 36 ≤ (a - 16) % 84 → buffer a = 0

theorem BlankTails.addedEntry {buffer : Mem} (h : BlankTails buffer) (k : Nat) (taid : SkTaid)
    (tappSize : UInt32) (address : Blk tappTocIndexEntryAddrSize) :
    BlankTails (addedEntry buffer k taid tappSize address) := by
  intro a ha htail
  have hlen : ∀ v, (be32.enc v).length = 4 := be32.length_enc
  have haddr : (List.ofFn address).length = 32 := List.length_ofFn
  have htaid : (List.ofFn taid).length = 16 := List.length_ofFn
  have houtside : a < 16 + 84 * k ∨ 16 + 84 * k + 36 ≤ a := by omega
  unfold SkSdk.addedEntry
  rw [Mem.write_outside _ _ _ _ (by rw [hlen]; omega),
    Mem.write_outside _ _ _ _ (by rw [hlen]; omega),
    Mem.write_outside _ _ _ _ (by rw [haddr]; omega),
    Mem.write_outside _ _ _ _ (by rw [hlen]; omega),
    Mem.write_outside _ _ _ _ (by rw [htaid]; omega)]
  exact h a ha htail

/-- Only the first four bytes of an address are used. -/
theorem addressOf_eq_zero (addressDb : UInt32) {i : Fin tappTocIndexEntryAddrSize}
    (hi : 4 ≤ i.val) : addressOf addressDb i = 0 := by
  unfold addressOf Blk.ofList
  exact List.getD_eq_default _ _ hi

section Build

variable {done files : List (List UInt8)} {s s' : TocBuild} {tappInfo : TappsInfoData}

/-- What a file adds to the TOC is one entry. -/
theorem Built.buffer_addFile (h : Built done s) {file : List UInt8}
    (hlen : sizeofTappsInfoData ≤ file.length) (hlt : file.length < 4294967296)
    (hfit : 16 + 84 * (done.length + 1) ≤ maxBufferSize)
    (hadd : SkSdk.addFile tappInfo s file = some s') :
    ∃ taid tappSize address,
      s'.buffer = addedEntry s.buffer done.length taid tappSize address := by
  have hmax : maxBufferSize = 32768 := rfl
  have hsize := h.size
  have htake : (file.take sizeofTappsInfoData).length = sizeofTappsInfoData := by
    rw [List.length_take, Nat.min_eq_left hlen]
  have hfileSize : UInt32.ofNat file.length ≠ 0 := by
    intro hzero
    have hmod : file.length % 4294967296 = 0 := congrArg UInt32.toNat hzero
    have hmanifest : sizeofTappsInfoData = 1052 := rfl
    omega
  have hentry := tappTocAddEntry_run
    (s.tempBinaryBuffer.write 0 (file.take sizeofTappsInfoData)) (addressOf s.addressDb) tappInfo
    (k := done.length) (by omega) (by omega : 48 ≤ s.bufferSize.toNat)
    (by decide : sizeofTappsInfoData ≠ 0) hfileSize h.cookie h.entries
  unfold SkSdk.addFile at hadd
  simp only [fread, htake, ne_eq, not_true_eq_false, ↓reduceIte, hentry] at hadd
  obtain ⟨temp, hcopy⟩ := copyRest_run (file.drop sizeofTappsInfoData) _
    (Nat.lt_succ_of_le (List.length_drop ▸ Nat.sub_le _ _))
  rw [hcopy] at hadd
  cases hadd
  exact ⟨_, _, _, rfl⟩

theorem Built.blankTails (rest : List (List UInt8)) (h : Built done s)
    (hblank : BlankTails s.buffer) (hlen : ∀ f ∈ rest, sizeofTappsInfoData ≤ f.length)
    (hlt : ∀ f ∈ rest, f.length < 4294967296)
    (hfit : 16 + 84 * (done.length + rest.length) ≤ maxBufferSize)
    (hrun : rest.foldlM (SkSdk.addFile tappInfo) s = some s') : BlankTails s'.buffer := by
  induction rest generalizing done s with
  | nil =>
    cases hrun
    exact hblank
  | cons file rest ih =>
    rw [List.length_cons] at hfit
    have hfile := hlen file List.mem_cons_self
    have hfile' := hlt file List.mem_cons_self
    obtain ⟨s₁, hadd, h₁⟩ := h.addFile tappInfo hfile hfile' (by omega)
    obtain ⟨taid, tappSize, address, hbuffer⟩ := h.buffer_addFile hfile hfile' (by omega) hadd
    rw [List.foldlM_cons, hadd] at hrun
    refine ih h₁ (hbuffer ▸ hblank.addedEntry _ _ _ _)
      (fun f hf => hlen f (List.mem_cons_of_mem _ hf))
      (fun f hf => hlt f (List.mem_cons_of_mem _ hf)) ?_ hrun
    rw [List.length_append, List.length_singleton]
    omega

/-- The TOC with its header only. -/
theorem built_header (tempBinaryBuffer : Mem) : Built []
    ⟨(tappTocWriteHeader (fun _ => 0) maxBufferSize ⟨tappTocIndexHdrCookie, 0⟩).2,
      UInt32.ofNat maxBufferSize - UInt32.ofNat tappTocIndexHdrTotalSize, tempBinaryBuffer, 0,
      []⟩ := by
  rw [tappTocWriteHeader_of_le _ (by decide)]
  refine ⟨?_, be32.get_write _ _ _, rfl, fun k hk => absurd hk (Nat.not_lt_zero k), rfl, rfl⟩
  rw [Format.get, Mem.read_write_disjoint _ _ _ _ _ (Or.inl (Nat.le_refl 4)),
    Mem.read_write_eq _ _ _ _ (be32.length_enc _), dec_enc]

theorem blankTails_header : BlankTails
    (tappTocWriteHeader (fun _ => 0) maxBufferSize ⟨tappTocIndexHdrCookie, 0⟩).2 := by
  intro a ha _
  rw [tappTocWriteHeader_of_le _ (by decide)]
  dsimp only
  rw [Mem.write_outside _ _ _ _ (by rw [be32.length_enc]; omega),
    Mem.write_outside _ _ _ _ (by rw [be32.length_enc]; omega)]

theorem blankTails_of_buildTocDb {tempBinaryBuffer : Mem}
    (hlen : ∀ f ∈ files, sizeofTappsInfoData ≤ f.length)
    (htotal : files.flatten.length < 4294967296)
    (hfit : 16 + 84 * files.length ≤ maxBufferSize)
    (hbuild : buildTocDb tempBinaryBuffer tappInfo files = some s) : BlankTails s.buffer := by
  have hlt : ∀ f ∈ files, f.length < 4294967296 := by
    intro f hf
    have hsub := (List.sublist_flatten_of_mem hf).length_le
    omega
  have hstatus : ¬ (tappTocWriteHeader (fun _ => 0) maxBufferSize
      ⟨tappTocIndexHdrCookie, 0⟩).1 ≠ skErrorSuccess := by
    rw [tappTocWriteHeader_of_le _ (by decide)]
    decide
  change (if (tappTocWriteHeader (fun _ => 0) maxBufferSize ⟨tappTocIndexHdrCookie, 0⟩).1 ≠
    skErrorSuccess then none else _) = _ at hbuild
  rw [if_neg hstatus] at hbuild
  refine Built.blankTails files (built_header tempBinaryBuffer) blankTails_header hlen hlt ?_ hbuild
  rw [List.length_nil, Nat.zero_add]
  exact hfit

/-- The bytes of entry `k` from the sixteenth on: the end of its address, and what
nothing has written. -/
theorem Built.rest_eq_zero (h : Built files s) (hblank : BlankTails s.buffer) {k : Nat}
    (hk : k < files.length) {i : Nat} (hi : 16 ≤ i) (hi' : i < 84) :
    s.buffer (16 + 84 * k + i) = 0 := by
  rcases Nat.lt_or_ge i 36 with hlt | hge
  · have hsize : (be32.enc (UInt32.ofNat files[k].length)).length = 4 := be32.length_enc _
    have haddress : tappTocIndexEntryAddrSize = 32 := rfl
    have hbyte : (s.buffer.read (16 + 84 * k) 36)[i]? = _ := congrArg (·[i]?) (h.entry k hk)
    rw [List.getElem?_append_right (by omega), hsize,
      List.getElem?_eq_getElem (by rw [Mem.length_read]; exact hlt), Mem.getElem_read,
      List.getElem?_eq_getElem (by rw [List.length_ofFn]; omega), List.getElem_ofFn] at hbyte
    refine (Option.some.inj hbyte).trans ?_
    exact addressOf_eq_zero _ (by simp only; omega)
  · exact hblank _ (by omega) (by omega)

/-- The file that the tool writes, entry by entry. -/
theorem drop_take_toc (buffer : Mem) (k off n : Nat)
    (h : 16 + 84 * k + off + n ≤ maxBufferSize) :
    (((buffer.read 0 maxBufferSize).drop (entryPos k)).drop off).take n =
      buffer.read (16 + 84 * k + off) n := by
  have hread := Mem.drop_take_read buffer 0 h
  rw [Nat.zero_add] at hread
  rw [List.drop_drop, ← hread]
  rfl

end Build

/-! ## What is found -/

/-- The bytes under which the loader finds file `k`: its size, its place in the
database, and zeros. -/
def foundAs (files : List (List UInt8)) (k : Nat) : List UInt8 :=
  (be32.enc (UInt32.ofNat (files.getD k []).length) ++
    List.ofFn (addressOf (UInt32.ofNat (offsetOf files k)))).take 16

/-- Some file is found under this TAID. -/
def Installed (files : List (List UInt8)) (taid : SkTaid) : Prop :=
  ∃ k < files.length, List.ofFn taid = foundAs files k

section Found

variable {files : List (List UInt8)} {s : TocBuild} {taid : SkTaid}

theorem Built.read_taid (h : Built files s) {k : Nat} (hk : k < files.length) :
    s.buffer.read (16 + 84 * k) 16 = foundAs files k := by
  have hentry := h.entry k hk
  rw [← Mem.take_read _ _ 16 36 (by decide), hentry, foundAs, List.getD_eq_getElem _ _ hk]

theorem Built.taid_toc (h : Built files s) (hfit : 16 + 84 * files.length ≤ maxBufferSize) {k : Nat}
    (hk : k < files.length) :
    ((s.buffer.read 0 maxBufferSize).drop (entryPos k)).take 16 = foundAs files k := by
  have hread := drop_take_toc s.buffer k 0 16 (by omega)
  rwa [List.drop_zero, Nat.add_zero, h.read_taid hk] at hread

theorem names_toc_iff (h : Built files s) (hfit : 16 + 84 * files.length ≤ maxBufferSize)
    (k : Nat) : Names (s.buffer.read 0 maxBufferSize) taid k ↔
      k < files.length ∧ List.ofFn taid = foundAs files k := by
  have hmax : maxBufferSize = 32768 := rfl
  have hlength : (s.buffer.read 0 maxBufferSize).length = 32768 := Mem.length_read _ _ _
  have hcookie : (s.buffer.read 0 maxBufferSize).take 4 = s.buffer.read 0 4 :=
    Mem.take_read _ _ _ _ (by decide)
  have hentries : ((s.buffer.read 0 maxBufferSize).drop 4).take 4 = s.buffer.read 4 4 :=
    Mem.drop_take_read s.buffer 0 (by decide)
  have hheader : HeaderOf (s.buffer.read 0 maxBufferSize) files.length := by
    refine ⟨by rw [hlength]; decide, by rw [hcookie]; exact h.cookie, ?_⟩
    have hcount : be32.dec (s.buffer.read 4 4) = UInt32.ofNat files.length := h.entries
    rw [hentries, hcount]
    exact UInt32.toNat_ofNat_of_lt' (by
      have hword : UInt32.size = 4294967296 := rfl
      omega)
  rw [names_iff hheader, List.length_drop, hlength]
  have hheaderSize : tappTocIndexHdrTotalSize = 16 := rfl
  rw [List.drop_drop]
  constructor
  · rintro ⟨hk, -, hfound⟩
    exact ⟨hk, hfound.symm.trans (h.taid_toc hfit hk)⟩
  · rintro ⟨hk, hfound⟩
    exact ⟨hk, by omega, (h.taid_toc hfit hk).trans hfound.symm⟩

theorem entryOfBytes_toc (h : Built files s) (hblank : BlankTails s.buffer)
    (hfit : 16 + 84 * files.length ≤ maxBufferSize) {k : Nat} (hk : k < files.length)
    (hfound : List.ofFn taid = foundAs files k) :
    entryOfBytes ((s.buffer.read 0 maxBufferSize).drop (entryPos k)) =
      ⟨taid, 0, Blk.zero 32⟩ := by
  have hmax : maxBufferSize = 32768 := rfl
  have hread {off n : Nat} (hoff : off + n ≤ 84) := drop_take_toc s.buffer k off n (by omega)
  have htaid := (h.taid_toc hfit hk).trans hfound.symm
  have hsize : s.buffer.read (16 + 84 * k + 16) 4 =
      Mem.read (fun _ => 0) (16 + 84 * k + 16) 4 := by
    refine Mem.read_congr fun a hlow hhigh => ?_
    obtain ⟨i, rfl⟩ := Nat.exists_eq_add_of_le hlow
    rw [Nat.add_assoc]
    exact h.rest_eq_zero hblank hk (by omega) (by omega)
  have haddress : (blk 32).dec (s.buffer.read (16 + 84 * k + 20) 32) = Blk.zero 32 := by
    refine (get_blk _ _ _).trans ?_
    funext i
    have hi := i.isLt
    change s.buffer (16 + 84 * k + 20 + i.val) = 0
    rw [Nat.add_assoc]
    exact h.rest_eq_zero hblank hk (by omega) (by omega)
  rw [entryOfBytes, htaid, hread (by decide), hread (by decide), hsize, haddress]
  have hzero : be32.dec (Mem.read (fun _ => 0) (16 + 84 * k + 16) 4) = 0 :=
    (by decide : be32.dec [0, 0, 0, 0] = 0)
  rw [hzero]
  congr 1
  exact (blk 16).dec_enc taid

end Found

/-! ## What becomes of the load -/

/-- The platform loader as `tapp_load` calls it. -/
def loaderOf (env : LoaderEnv) (info : TappsInfoData) (entry : TappTocEntry)
    (_ : SkSwldTappInstance) : SkStatus × SkSwldTappInstance :=
  ((skSwldPlatformTappLoad env entry info).err, (skSwldPlatformTappLoad env entry info).tapp)

theorem selected_of_open
    (platformLoad : TappTocEntry → SkSwldTappInstance → SkStatus × SkSwldTappInstance)
    (file : List UInt8) (buffer : Mem) (entry : TappTocEntry) (taid : SkTaid)
    (tapp : SkSwldTappInstance) :
    Selected platformLoad file taid ⟨.ofBytes file, buffer, entry, tapp, [.storageOpen true]⟩
      (tappLoadBody platformLoad taid
        ⟨.ofBytes file, buffer, entry, tapp, [.storageOpen true]⟩) :=
  tappLoadBody_selected platformLoad taid rfl

/-- Without a size the loader asks for almost 2 to the 32 bytes of code. -/
theorem load_fails_of_unsized {env : LoaderEnv} {entry : TappTocEntry} (info : TappsInfoData)
    (hsize : entry.tappSize = 0) (hdb : ∀ db, env.db = some db → db.length < 4294967296) :
    (skSwldPlatformTappLoad env entry info).err ≠ skErrorSuccess := by
  by_cases hreadable : ManifestReadable env entry
  case neg =>
    obtain ⟨err, hload, herr⟩ := load_of_not_readable info hreadable
    rw [hload]
    exact herr
  obtain ⟨obj, hobj⟩ := Option.isSome_iff_exists.mp hreadable.obj
  obtain ⟨manifest, hmanifest⟩ := Option.isSome_iff_exists.mp hreadable.manifest
  obtain ⟨memBase, hmemBase⟩ := Option.isSome_iff_exists.mp hreadable.memBase
  obtain ⟨db, hopen, hpos, hlen⟩ := hreadable.db
  have hshort := hdb db hopen
  have hseek : fseekSet db (dbAddress entry.address) =
      some ((File.ofBytes db).advance (dbAddress entry.address).toNat) := if_pos hpos
  have hread : ¬ (((File.ofBytes db).advance (dbAddress entry.address).toNat).fread
      tappsInfoDataSize).1.length ≠ tappsInfoDataSize := by
    rw [length_manifest]
    omega
  have hcode : (entry.tappSize - manifestSize).toNat = 4294966246 := by
    rw [codeSize_toNat, hsize]
    rfl
  have hcut : ((((File.ofBytes db).advance (dbAddress entry.address).toNat).fread
      tappsInfoDataSize).2.fread (entry.tappSize - manifestSize).toNat).1.length ≠
        (entry.tappSize - manifestSize).toNat := by
    have hmanifestSize : tappsInfoDataSize = 1050 := rfl
    rw [length_code]
    omega
  simp only [skSwldPlatformTappLoad, hobj, hmanifest, hmemBase, hopen, hseek]
  rw [if_neg hread, if_pos hcut]
  exact (by decide : skErrorReadFailed ≠ skErrorSuccess)

/-- The block that it allocates for them is of 7142. -/
theorem codeRead_of_unsized {env : LoaderEnv} {entry : TappTocEntry} (info : TappsInfoData)
    (hsize : entry.tappSize = 0) {read : CodeRead}
    (hread : (skSwldPlatformTappLoad env entry info).codeRead = some read) :
    read.allocated = 7142 ∧ read.codeSize = 4294966246 := by
  by_cases hreadable : ManifestReadable env entry
  · obtain ⟨db, memBase, -, -, hcode⟩ := codeRead_of_readable info hreadable
    obtain rfl := Option.some.inj (hcode.symm.trans hread)
    unfold memBaseSize
    rw [hsize]
    exact ⟨(by decide : 0 - manifestSize + 8192 = 7142), (by decide : 0 - manifestSize = _)⟩
  · obtain ⟨err, hload, -⟩ := load_of_not_readable info hreadable
    rw [hload] at hread
    cases hread

/-- Whatever TApps the tool has put into a TOC and a database, none is ever loaded. The
platform loader is called for the TAIDs that are the size and the place of a file, is
given neither of the two, and asks for more than its block holds. -/
theorem built_toc_never_loads (tempBinaryBuffer : Mem) (tappInfo : TappsInfoData)
    {files : List (List UInt8)} (hlen : ∀ f ∈ files, sizeofTappsInfoData ≤ f.length)
    (htotal : files.flatten.length < 4294967296)
    (hfit : 16 + 84 * files.length ≤ maxBufferSize) :
    ∃ s, buildTocDb tempBinaryBuffer tappInfo files = some s ∧
      ∀ (env : LoaderEnv) (info : TappsInfoData) (buffer : Mem) (entry : TappTocEntry)
        (taid : SkTaid) (tapp : SkSwldTappInstance), env.db = some s.db →
        let run := tappLoadCalls (loaderOf env info) (some (s.buffer.read 0 maxBufferSize)) buffer
          entry taid tapp
        let named : TappTocEntry := ⟨taid, 0, Blk.zero tappTocIndexEntryAddrSize⟩
        run.1 ≠ skErrorSuccess ∧
        (Installed files taid →
          run.2.calls = [.storageOpen true, .platformLoad named, .storageClose] ∧
          ∀ read, (skSwldPlatformTappLoad env named info).codeRead = some read →
            read.allocated = 7142 ∧ read.codeSize = 4294966246) ∧
        (¬ Installed files taid →
          run.2.calls = [.storageOpen true, .storageClose] ∧ run.2.tapp = tapp) := by
  obtain ⟨s, hbuild, hbuilt⟩ := buildTocDb_built tempBinaryBuffer tappInfo hlen htotal hfit
  have hblank := blankTails_of_buildTocDb hlen htotal hfit hbuild
  refine ⟨s, hbuild, fun env info buffer entry taid tapp hdb => ?_⟩
  have hshort : ∀ db, env.db = some db → db.length < 4294967296 := by
    intro db hopen
    obtain rfl := Option.some.inj (hdb.symm.trans hopen)
    rw [hbuilt.db]
    exact htotal
  have hbody := selected_of_open (loaderOf env info) (s.buffer.read 0 maxBufferSize) buffer entry
    taid tapp
  have hnames : ∀ k, Names (s.buffer.read 0 maxBufferSize) taid k ↔
      k < files.length ∧ List.ofFn taid = foundAs files k := names_toc_iff hbuilt hfit
  have hentries : ∀ k < files.length, List.ofFn taid = foundAs files k →
      entryOfBytes ((s.buffer.read 0 maxBufferSize).drop (entryPos k)) = ⟨taid, 0, Blk.zero 32⟩ :=
    fun k hk hfound => entryOfBytes_toc hbuilt hblank hfit hk hfound
  -- From here on only what the entries are counts, not that there are 32768 bytes.
  generalize s.buffer.read 0 maxBufferSize = toc at hbody hnames hentries ⊢
  unfold tappLoadCalls
  simp only
  generalize tappLoadBody (loaderOf env info) taid
    ⟨.ofBytes toc, buffer, entry, tapp, [.storageOpen true]⟩ = result at hbody ⊢
  cases hbody with
  | loaded k s' hk _ hcalls _ =>
    obtain ⟨hlt, hfound⟩ := (hnames k).mp hk
    have hfails : (loaderOf env info ⟨taid, 0, Blk.zero 32⟩ tapp).1 ≠ skErrorSuccess :=
      load_fails_of_unsized info rfl hshort
    rw [hentries k hlt hfound] at hcalls ⊢
    refine ⟨?_, fun _ => ⟨?_, fun read => codeRead_of_unsized info rfl⟩,
      fun hnone => absurd ⟨k, hlt, hfound⟩ hnone⟩
    · rw [statusOfLoad, if_pos hfails]
      exact (by decide : skErrorLoadFailed ≠ skErrorSuccess)
    · rw [hcalls]
      rfl
  | refused err s' hnone herr hcalls htapp =>
    have hrefused : err ≠ skErrorSuccess := by
      simp only [List.mem_cons, List.not_mem_nil, or_false] at herr
      rcases herr with rfl | rfl | rfl
      · exact (by decide : skErrorReadFailed ≠ skErrorSuccess)
      · exact (by decide : skErrorHeaderFailed ≠ skErrorSuccess)
      · exact (by decide : skErrorEntryNotFound ≠ skErrorSuccess)
    have habsent : ¬ Installed files taid := by
      rintro ⟨k, hk⟩
      exact hnone k ((hnames k).mpr hk)
    refine ⟨hrefused, fun hinstalled => absurd hinstalled habsent, fun _ => ⟨?_, htapp⟩⟩
    rw [hcalls]
    rfl

/-- A TApp of an empty binary, through both tools and the loader. -/
theorem built_toc_never_loads_combined : ∃ file s,
    combine sampleTappsInfo [] = some file ∧
    buildTocDb (fun _ => 0) sampleTappsInfo [file] = some s ∧
    ∀ (taid : SkTaid), (tappLoadCalls (loaderOf (sampleLoaderEnv s.db) sampleTappsInfo)
      (some (s.buffer.read 0 maxBufferSize)) (fun _ => 0) ⟨Blk.zero 16, 0, Blk.zero 32⟩ taid
      ⟨none⟩).1 ≠ skErrorSuccess := by
  obtain ⟨stale, hfile, hstale⟩ := combine_eq sampleTappsInfo []
  have hlength : (packedManifest sampleTappsInfo ++ [] ++ stale).length = 2102 := by
    rw [List.length_append, List.length_append, length_packedManifest, hstale]
    rfl
  generalize packedManifest sampleTappsInfo ++ [] ++ stale = file at hfile hlength
  have hlen : ∀ f ∈ [file], sizeofTappsInfoData ≤ f.length := by
    intro f hf
    rw [List.mem_singleton.mp hf, hlength]
    decide
  have htotal : [file].flatten.length < 4294967296 := by
    rw [List.flatten_singleton, hlength]
    decide
  obtain ⟨s, hbuild, hload⟩ :=
    built_toc_never_loads (fun _ => 0) sampleTappsInfo hlen htotal (by
      rw [List.length_singleton]
      decide)
  exact ⟨file, s, hfile, hbuild, fun taid => (hload _ _ _ _ taid ⟨none⟩ rfl).1⟩

end SkSdk
