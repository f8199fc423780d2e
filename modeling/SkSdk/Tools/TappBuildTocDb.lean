import SkSdk.Swld.TappToc

/-!
The tool that builds the TOC and the database from a directory of TApp files
(`tapp_build_toc_db.c`), and what the loader finds in them. The files are those
of the directory in the order in which `readdir` names them.
-/

namespace SkSdk
open ByteMemory Format

abbrev maxBufferSize : Nat := 32768
abbrev maxCarrierBufferSize : Nat := 4096

/-- The variables of `main` that the loop over the directory changes, and the
bytes written to the database file. -/
structure TocBuild where
  buffer : Mem
  bufferSize : UInt32
  tempBinaryBuffer : Mem
  addressDb : UInt32
  db : List UInt8

/-- The `address` field for an offset into the database. -/
def addressOf (addressDb : UInt32) : Blk tappTocIndexEntryAddrSize :=
  let byte (shift : UInt32) : UInt8 := ((0xff : UInt32) &&& (addressDb >>> shift)).toUInt8
  Blk.ofList 32 [byte 24, byte 16, byte 8, byte 0]

/-- The loop `while (!feof(fp))`: a short read sets the end-of-file mark. The
first argument bounds the number of rounds. -/
def copyRest : Nat → List UInt8 → TocBuild → Option TocBuild
  | 0, _, _ => none
  | k + 1, file, s =>
    let (numBytes, temp, rest) := fread s.tempBinaryBuffer maxCarrierBufferSize file
    let s := { s with
      tempBinaryBuffer := temp
      addressDb := s.addressDb + UInt32.ofNat numBytes
      db := s.db ++ temp.read 0 numBytes }
    if numBytes < maxCarrierBufferSize then some s else copyRest k rest s

/-- One file of the directory; `none` is `TAPP_TOOL_FAILED`. -/
def addFile (tappInfo : TappsInfoData) (s : TocBuild) (file : List UInt8) : Option TocBuild :=
  let (n, temp, rest) := fread s.tempBinaryBuffer sizeofTappsInfoData file
  if n ≠ sizeofTappsInfoData then none
  else
    let (err, buffer) := tappTocAddEntry s.buffer s.bufferSize.toNat temp sizeofTappsInfoData
      (UInt32.ofNat file.length) (addressOf s.addressDb) tappInfo
    if err ≠ skErrorSuccess then none
    else copyRest (file.length + 1) rest
      { buffer
        bufferSize := s.bufferSize - UInt32.ofNat tappTocIndexEntryTotalSize
        tempBinaryBuffer := temp
        addressDb := s.addressDb + UInt32.ofNat sizeofTappsInfoData
        db := s.db ++ temp.read 0 sizeofTappsInfoData }

/-- The part of `main` that builds; `tempBinaryBuffer` and `tappInfo` are what
the locals held. -/
def buildTocDb (tempBinaryBuffer : Mem) (tappInfo : TappsInfoData) (files : List (List UInt8)) :
    Option TocBuild :=
  let (err, buffer) := tappTocWriteHeader (fun _ => 0) maxBufferSize ⟨tappTocIndexHdrCookie, 0⟩
  if err ≠ skErrorSuccess then none
  else files.foldlM (addFile tappInfo)
    ⟨buffer, UInt32.ofNat maxBufferSize - UInt32.ofNat tappTocIndexHdrTotalSize, tempBinaryBuffer,
      0, []⟩

/-! ## The copy -/

theorem copyRest_run (file : List UInt8) (s : TocBuild) {k : Nat} (hk : file.length < k) :
    ∃ temp, copyRest k file s = some { s with
      tempBinaryBuffer := temp
      addressDb := s.addressDb + UInt32.ofNat file.length
      db := s.db ++ file } := by
  induction k generalizing file s with
  | zero => omega
  | succ k ih =>
    have htake : (file.take maxCarrierBufferSize).length = min maxCarrierBufferSize file.length :=
      List.length_take
    have hread : (s.tempBinaryBuffer.write 0 (file.take maxCarrierBufferSize)).read 0
        (file.take maxCarrierBufferSize).length = file.take maxCarrierBufferSize :=
      Mem.read_write_same _ _ _
    rw [copyRest]
    simp only [fread, hread]
    by_cases hlast : file.length < maxCarrierBufferSize
    · rw [if_pos (by omega), List.take_of_length_le (Nat.le_of_lt hlast)]
      exact ⟨_, rfl⟩
    · rw [if_neg (by omega)]
      have hsum : (file.take maxCarrierBufferSize).length +
          (file.drop maxCarrierBufferSize).length = file.length := by
        rw [← List.length_append, List.take_append_drop]
      have hpos : maxCarrierBufferSize = 4096 := rfl
      obtain ⟨temp, hrest⟩ := ih (file.drop maxCarrierBufferSize)
        { s with
          tempBinaryBuffer := s.tempBinaryBuffer.write 0 (file.take maxCarrierBufferSize)
          addressDb := s.addressDb + UInt32.ofNat (file.take maxCarrierBufferSize).length
          db := s.db ++ file.take maxCarrierBufferSize } (by omega)
      refine ⟨temp, hrest.trans ?_⟩
      simp only [UInt32.add_assoc, ← UInt32.ofNat_add, hsum, List.append_assoc,
        List.take_append_drop]

/-! ## What the builder leaves -/

/-- The number of bytes before file `k` in the database. -/
def offsetOf (files : List (List UInt8)) (k : Nat) : Nat := (files.take k).flatten.length

/-- The state after the files `done`: every entry is the size of its file
followed by its address. -/
structure Built (done : List (List UInt8)) (s : TocBuild) : Prop where
  cookie : be32.get s.buffer 0 = tappTocIndexHdrCookie
  entries : be32.get s.buffer 4 = UInt32.ofNat done.length
  size : s.bufferSize.toNat + 84 * done.length + 16 = maxBufferSize
  entry : ∀ (k : Nat) (hk : k < done.length), s.buffer.read (16 + 84 * k) 36 =
    be32.enc (UInt32.ofNat done[k].length) ++
      List.ofFn (addressOf (UInt32.ofNat (offsetOf done k)))
  addressDb : s.addressDb = UInt32.ofNat done.flatten.length
  db : s.db = done.flatten

theorem offsetOf_append_of_lt {done : List (List UInt8)} {file : List UInt8} {k : Nat}
    (hk : k ≤ done.length) : offsetOf (done ++ [file]) k = offsetOf done k := by
  rw [offsetOf, List.take_append_of_le_length hk, offsetOf]

theorem offsetOf_length (files : List (List UInt8)) :
    offsetOf files files.length = files.flatten.length := by
  rw [offsetOf, List.take_length]

theorem Built.addFile {done : List (List UInt8)} {s : TocBuild} (h : Built done s)
    (tappInfo : TappsInfoData) {file : List UInt8} (hlen : sizeofTappsInfoData ≤ file.length)
    (hlt : file.length < 4294967296)
    (hfit : 16 + 84 * (done.length + 1) ≤ maxBufferSize) :
    ∃ s', addFile tappInfo s file = some s' ∧ Built (done ++ [file]) s' := by
  have hmax : maxBufferSize = 32768 := rfl
  have hmanifest : sizeofTappsInfoData = 1052 := rfl
  have hsize := h.size
  have htake : (file.take sizeofTappsInfoData).length = sizeofTappsInfoData := by
    rw [List.length_take, Nat.min_eq_left hlen]
  have hsum : sizeofTappsInfoData + (file.drop sizeofTappsInfoData).length = file.length := by
    rw [List.length_drop]
    omega
  have hread : (s.tempBinaryBuffer.write 0 (file.take sizeofTappsInfoData)).read 0
      sizeofTappsInfoData = file.take sizeofTappsInfoData := Mem.read_write_eq _ _ _ _ htake
  have hfileSize : UInt32.ofNat file.length ≠ 0 := by
    intro hzero
    have hmod : file.length % 4294967296 = 0 := congrArg UInt32.toNat hzero
    omega
  have hadd := tappTocAddEntry_run
    (s.tempBinaryBuffer.write 0 (file.take sizeofTappsInfoData)) (addressOf s.addressDb) tappInfo
    (k := done.length) (by omega) (by omega : 48 ≤ s.bufferSize.toNat)
    (by decide : sizeofTappsInfoData ≠ 0) hfileSize h.cookie h.entries
  unfold SkSdk.addFile
  simp only [fread, htake, ne_eq, not_true_eq_false, ↓reduceIte, hread, hadd]
  obtain ⟨temp, hcopy⟩ := copyRest_run (file.drop sizeofTappsInfoData) _
    (Nat.lt_succ_of_le (List.length_drop ▸ Nat.sub_le _ _))
  refine ⟨_, hcopy, ?_⟩
  constructor
  · exact cookie_addedEntry _ _ _ _ _
  · rw [List.length_append]
    exact entries_addedEntry _ _ _ _ _
  · have h84 : (UInt32.ofNat tappTocIndexEntryTotalSize).toNat = 84 := rfl
    rw [UInt32.toNat_sub_of_le _ _ (UInt32.le_iff_toNat_le.mpr (by omega)), List.length_append,
      List.length_singleton]
    omega
  · intro k hk
    rw [List.length_append, List.length_singleton] at hk
    rcases Nat.lt_or_ge k done.length with hlt' | hge
    · rw [read_addedEntry_of_lt _ _ _ _ _ hlt', List.getElem_append_left hlt',
        offsetOf_append_of_lt (Nat.le_of_lt hlt')]
      exact h.entry k hlt'
    · obtain rfl : k = done.length := by omega
      rw [read_addedEntry, List.getElem_append_right (Nat.le_refl _),
        offsetOf_append_of_lt (Nat.le_refl _), offsetOf_length, h.addressDb]
      simp
  · change s.addressDb + UInt32.ofNat _ + UInt32.ofNat _ = UInt32.ofNat _
    rw [h.addressDb, ← UInt32.ofNat_add, ← UInt32.ofNat_add, List.flatten_append,
      List.flatten_singleton, List.length_append, Nat.add_assoc, hsum]
  · simp only [h.db, List.append_assoc, List.take_append_drop, List.flatten_append,
      List.flatten_singleton]

/-- The builder adds every file of a list that fits. -/
theorem buildTocDb_built (tempBinaryBuffer : Mem) (tappInfo : TappsInfoData)
    {files : List (List UInt8)} (hlen : ∀ f ∈ files, sizeofTappsInfoData ≤ f.length)
    (htotal : files.flatten.length < 4294967296)
    (hfit : 16 + 84 * files.length ≤ maxBufferSize) :
    ∃ s, buildTocDb tempBinaryBuffer tappInfo files = some s ∧ Built files s := by
  have hrun : ∀ (rest done : List (List UInt8)) (s : TocBuild), files = done ++ rest →
      Built done s → ∃ s', rest.foldlM (SkSdk.addFile tappInfo) s = some s' ∧ Built files s' := by
    intro rest
    induction rest with
    | nil =>
      intro done s hfiles h
      rw [List.append_nil] at hfiles
      exact ⟨s, rfl, hfiles ▸ h⟩
    | cons file rest ih =>
      intro done s hfiles h
      have hmem : file ∈ files := by
        rw [hfiles]
        exact List.mem_append_right _ List.mem_cons_self
      have hcount : files.length = done.length + (rest.length + 1) := by
        rw [hfiles, List.length_append, List.length_cons]
      have hbelow : file.length ≤ files.flatten.length := by
        rw [hfiles, List.flatten_append, List.flatten_cons, List.length_append, List.length_append]
        omega
      obtain ⟨s', hadd, h'⟩ := h.addFile tappInfo (hlen file hmem) (by omega) (by omega)
      obtain ⟨s'', hrest, h''⟩ := ih (done ++ [file]) s' (by rw [hfiles, List.append_assoc]; rfl) h'
      exact ⟨s'', by rw [List.foldlM_cons, hadd]; exact hrest, h''⟩
  have hheader : tappTocWriteHeader (fun _ => 0) maxBufferSize ⟨tappTocIndexHdrCookie, 0⟩ =
      (skErrorSuccess, _) := tappTocWriteHeader_of_le _ (by decide)
  unfold buildTocDb
  simp only [hheader, ne_eq, not_true_eq_false, ↓reduceIte]
  refine hrun files [] _ rfl ?_
  constructor
  · rw [Format.get, Mem.read_write_disjoint _ _ _ _ _ (Or.inl (Nat.le_refl 4)),
      Mem.read_write_eq _ _ _ _ (be32.length_enc _), dec_enc]
  · exact be32.get_write _ _ _
  · rfl
  · intro k hk
    cases hk
  · rfl
  · rfl

/-! ## What the loader finds -/

/-- The entry that the builder means for file `k`. -/
def entryOf (files : List (List UInt8)) (k : Nat) : TappTocEntry :=
  let file := files.getD k []
  ⟨Blk.ofList 16 file, UInt32.ofNat file.length, addressOf (UInt32.ofNat (offsetOf files k))⟩

/-- The header counts the files, and for every file the reader of entries, the
loader and the database agree with what the builder was given. -/
structure TocAgrees (files : List (List UInt8)) (s : TocBuild) : Prop where
  header : ∀ header, tappTocReadHeader s.buffer maxBufferSize header =
    (skErrorSuccess, ⟨tappTocIndexHdrCookie, UInt32.ofNat files.length⟩)
  entry : ∀ k < files.length, ∀ entry, tappTocGetEntry (s.buffer.ptr (16 + 84 * k))
    tappTocIndexEntryTotalSize entry = (skErrorSuccess, entryOf files k)
  load : ∀ k < files.length, ∀ platformLoad buffer entry,
    (tappLoad (some (s.buffer.read 0 maxBufferSize)) platformLoad buffer entry
      (entryOf files k).taid).2 = some (entryOf files k)
  stored : ∀ (k : Nat) (hk : k < files.length),
    (s.db.drop (offsetOf files k)).take files[k].length = files[k]

/-- The size is read where the address has been stored. -/
theorem tappSize_of_built {files : List (List UInt8)} {s : TocBuild} (h : Built files s) {k : Nat}
    (hk : k < files.length) (entry : TappTocEntry) :
    (tappTocGetEntry (s.buffer.ptr (16 + 84 * k)) tappTocIndexEntryTotalSize entry).2.tappSize =
      0 := by
  have hentry := h.entry k hk
  rw [tappTocGetEntry_of_le _ (by decide)]
  change be32.get _ 16 = 0
  have hread : (s.buffer.ptr (16 + 84 * k)).read 16 4 = [0, 0, 0, 0] := by
    have hsize : (be32.enc (UInt32.ofNat files[k].length)).length = 4 := be32.length_enc _
    rw [Mem.read_ptr_add, ← Mem.drop_take_read _ _ (by decide : 16 + 4 ≤ 36), hentry,
      List.drop_append, hsize, List.drop_of_length_le (by omega)]
    rfl
  rw [Format.get, hread]
  decide

/-- The first entry already has the wrong size. -/
theorem not_tocAgrees_of_built {file : List UInt8} {files : List (List UInt8)} {s : TocBuild}
    (h : Built (file :: files) s) (hpos : 0 < file.length) (hlt : file.length < 4294967296) :
    ¬ TocAgrees (file :: files) s := by
  intro hagrees
  have hentry := hagrees.entry 0 (Nat.succ_pos _) ⟨Blk.zero 16, 0, Blk.zero 32⟩
  have hsize := tappSize_of_built h (Nat.succ_pos _) ⟨Blk.zero 16, 0, Blk.zero 32⟩
  rw [hentry] at hsize
  have hmod : file.length % 4294967296 = 0 := congrArg UInt32.toNat hsize
  omega

/-- The builder and the loader agree on the empty directory only. -/
theorem toc_agrees_iff (tempBinaryBuffer : Mem) (tappInfo : TappsInfoData)
    {files : List (List UInt8)} (hlen : ∀ f ∈ files, sizeofTappsInfoData ≤ f.length)
    (htotal : files.flatten.length < 4294967296)
    (hfit : 16 + 84 * files.length ≤ maxBufferSize) :
    (∃ s, buildTocDb tempBinaryBuffer tappInfo files = some s ∧ TocAgrees files s) ↔
      files = [] := by
  obtain ⟨s, hbuild, hbuilt⟩ := buildTocDb_built tempBinaryBuffer tappInfo hlen htotal hfit
  constructor
  · rintro ⟨s', hbuild', hagrees⟩
    cases hbuild.symm.trans hbuild'
    cases files with
    | nil => rfl
    | cons file files =>
      have hfile := hlen file List.mem_cons_self
      have hmanifest : sizeofTappsInfoData = 1052 := rfl
      rw [List.flatten_cons, List.length_append] at htotal
      exact absurd hagrees (not_tocAgrees_of_built hbuilt (by omega) (by omega))
  · rintro rfl
    refine ⟨s, hbuild, ?_⟩
    constructor
    · intro header
      rw [tappTocReadHeader_of_cookie _ (by decide) hbuilt.cookie, hbuilt.entries]
    all_goals
      intro k hk
      cases hk

def sampleTappsInfo : TappsInfoData :=
  ⟨Blk.zero 16, 0, 0, 0, 0, Blk.zero 256, Blk.zero 256, Blk.zero 512⟩

/-- A file of the least size. -/
def sampleTapp : List UInt8 := List.replicate sizeofTappsInfoData 7

theorem length_sampleTapp : sampleTapp.length = 1052 := List.length_replicate

theorem sizeof_le_sampleTapp : ∀ f ∈ [sampleTapp], sizeofTappsInfoData ≤ f.length := by
  intro f hf
  rw [List.mem_singleton.mp hf, length_sampleTapp]

theorem length_flatten_sampleTapp : [sampleTapp].flatten.length < 4294967296 := by
  rw [List.flatten_singleton, length_sampleTapp]
  decide

/-- A directory with one file. -/
theorem toc_agrees_iff_one : ¬ ∃ s,
    buildTocDb (fun _ => 0) sampleTappsInfo [sampleTapp] = some s ∧ TocAgrees [sampleTapp] s := by
  rw [toc_agrees_iff (fun _ => 0) sampleTappsInfo sizeof_le_sampleTapp length_flatten_sampleTapp
    (by decide)]
  exact List.cons_ne_nil _ _

theorem toc_agrees_false : ∃ file s,
    buildTocDb (fun _ => 0) sampleTappsInfo [file] = some s ∧ ¬ TocAgrees [file] s := by
  have hlength := length_sampleTapp
  obtain ⟨s, hbuild, hbuilt⟩ := buildTocDb_built (fun _ => 0) sampleTappsInfo sizeof_le_sampleTapp
    length_flatten_sampleTapp (by decide)
  exact ⟨_, s, hbuild, not_tocAgrees_of_built hbuilt (by omega) (by omega)⟩

end SkSdk
