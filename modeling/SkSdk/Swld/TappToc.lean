import SkSdk.Both.TapiByteUnpack

/-!
The table of contents of the TApp database (`tapp_toc_shared.c`), the manifest
in front of a TApp (`tapp_manifest_pack.c`) and the search of `tapp_load`
(`tapp.c`). Pointers into the table are offsets.
-/

namespace SkSdk
open ByteMemory Format

/-! ## The manifest -/

abbrev skTappMaxServiceName : Nat := 256
abbrev skTappMaxVendorName : Nat := 256
abbrev skTappMaxDescriptionName : Nat := 512

structure TappsInfoData where
  taid : SkTaid
  multiInstance : UInt8
  multiSession : UInt8
  maxHeapSize : UInt32
  maxStackSize : UInt32
  serviceName : Blk skTappMaxServiceName
  vendorName : Blk skTappMaxVendorName
  description : Blk skTappMaxDescriptionName

/-- What `memset` leaves. -/
def TappsInfoData.zero : TappsInfoData :=
  ⟨Blk.zero 16, 0, 0, 0, 0, Blk.zero 256, Blk.zero 256, Blk.zero 512⟩

/-- `TAPPS_INFO_DATA_SIZE`, the length of a packed manifest. -/
abbrev tappsInfoDataSize : Nat := 1050

/-- `sizeof(tapps_info_data)`: two bytes of padding stand before `max_heap_size`. -/
abbrev sizeofTappsInfoData : Nat := 1052

/-- `READ` of a member of `size` bytes. -/
def readMember (size : Nat) (assign : UInt64 → TappsInfoData → TappsInfoData) :
    Unpacker TappsInfoData Unit := do
  let s ← get
  if u32 (s.byteCnt + size) > s.packLen then throw skErrorInvalidParam
  set { s with out := assign (sysvByteGet (s.pack.ptr s.byteCnt) size) s.out,
               byteCnt := u32 (s.byteCnt + size) }

/-- `READBUF` of a member. -/
def readMemberBuf {len : Nat} (assign : Blk len → TappsInfoData → TappsInfoData) :
    Unpacker TappsInfoData Unit := do
  let s ← get
  if u32 (s.byteCnt + len) > s.packLen then throw skErrorInvalidParam
  set { s with out := assign (s.pack.blk s.byteCnt len) s.out,
               byteCnt := u32 (s.byteCnt + len) }

def tappManifestPackGet (ibuffer : Mem) (ibufferSize : Nat) (tappData : TappsInfoData) :
    Unpacked TappsInfoData :=
  if ibufferSize = 0 then ⟨skErrorInvalidParam, tappData⟩
  else runUnpack ibuffer ibufferSize tappData do
    readMemberBuf fun v d => { d with taid := v }
    readMember 1 fun v d => { d with multiInstance := v.toUInt8 }
    readMember 1 fun v d => { d with multiSession := v.toUInt8 }
    readMember 4 fun v d => { d with maxHeapSize := v.toUInt32 }
    readMember 4 fun v d => { d with maxStackSize := v.toUInt32 }
    readMemberBuf fun v d => { d with serviceName := v }
    readMemberBuf fun v d => { d with vendorName := v }
    readMemberBuf fun v d => { d with description := v }
    return skErrorSuccess

/-! ## The table of contents -/

abbrev tappTocIndexHdrCookie : UInt32 := 0x36c186a6
abbrev tappTocIndexHdrCookiePos : Nat := 0
abbrev tappTocIndexHdrNumEntriesPos : Nat := 4
abbrev tappTocIndexHdrTappStartPos : Nat := 16
abbrev tappTocIndexHdrTotalSize : Nat := 16

abbrev tappTocIndexEntryTaidSize : Nat := skTapiSessionTaidSize
abbrev tappTocIndexEntrySizeSize : Nat := 4
abbrev tappTocIndexEntryAddrSize : Nat := 32
abbrev tappTocIndexEntryTotalSize : Nat := 84

structure TappTocHeader where
  cookie : UInt32
  entries : UInt32
  deriving DecidableEq

structure TappTocEntry where
  taid : SkTaid
  tappSize : UInt32
  address : Blk tappTocIndexEntryAddrSize
  deriving DecidableEq

def tappTocReadHeader (toc : Mem) (tocSize : Nat) (header : TappTocHeader) :
    SkStatus × TappTocHeader :=
  if tocSize = 0 then (skErrorInvalidParam, header)
  else
    let header := { header with
      cookie := (sysvByteGet (toc.ptr tappTocIndexHdrCookiePos) 4).toUInt32 }
    if header.cookie ≠ tappTocIndexHdrCookie then (skErrorInvalidCookie, header)
    else (skErrorSuccess, { header with
      entries := (sysvByteGet (toc.ptr tappTocIndexHdrNumEntriesPos) 4).toUInt32 })

def tappTocWriteHeader (toc : Mem) (tocSize : Nat) (header : TappTocHeader) : SkStatus × Mem :=
  if tocSize = 0 then (skErrorInvalidParam, toc)
  else
    let (cnt, toc) := sysvBytePut toc tappTocIndexHdrCookiePos tocSize 4 header.cookie.toUInt64
    if cnt = 0 then (skErrorHeaderFailed, toc)
    else
      let (cnt, toc) := sysvBytePut toc tappTocIndexHdrNumEntriesPos tocSize 4
        header.entries.toUInt64
      if cnt = 0 then (skErrorHeaderFailed, toc) else (skErrorSuccess, toc)

def tappTocGetEntry (entry : Mem) (entrySize : Nat) (entryInfo : TappTocEntry) :
    SkStatus × TappTocEntry :=
  if entrySize = 0 then (skErrorInvalidParam, entryInfo)
  else if skTapiSessionTaidSize + tappTocIndexEntrySizeSize + tappTocIndexEntryAddrSize >
      entrySize then (skErrorHeaderFailed, entryInfo)
  else (skErrorSuccess,
    { taid := entry.blk 0 16
      tappSize := (sysvByteGet (entry.ptr 16) 4).toUInt32
      address := entry.blk 20 32 })

/-- `tappInfo` is what the local of that name held. The pointer is not moved
past the TAID, so the size is stored over its first bytes; whether the size
fits is not looked at. -/
def tappTocAddEntry (toc : Mem) (tocSize : Nat) (tappManifestBin : Mem) (tappManifestBinSize : Nat)
    (tappSize : UInt32) (address : Blk tappTocIndexEntryAddrSize) (tappInfo : TappsInfoData) :
    SkStatus × Mem :=
  if tocSize = 0 ∨ tappManifestBinSize = 0 ∨ tappSize = 0 then (skErrorInvalidParam, toc)
  else
    let (err, header) := tappTocReadHeader toc tocSize ⟨0, 0⟩
    if err ≠ skErrorSuccess then (skErrorHeaderFailed, toc)
    else
      let ptoc := tappTocIndexHdrTappStartPos +
        u32 (header.entries.toNat * tappTocIndexEntryTotalSize)
      let tappInfo := (tappManifestPackGet tappManifestBin tappManifestBinSize tappInfo).out
      if skTapiSessionTaidSize > tocSize then (skErrorHeaderFailed, toc)
      else
        let toc := toc.write ptoc (List.ofFn tappInfo.taid)
        let toc := toc.setPtr ptoc (sysvBytePut (toc.ptr ptoc) 0
          (tocSize - tappTocIndexEntryTaidSize) 4 tappSize.toUInt64).2
        let ptoc := ptoc + tappTocIndexEntrySizeSize
        if skTapiSessionTaidSize + tappTocIndexEntryAddrSize > tocSize then
          (skErrorHeaderFailed, toc)
        else
          let toc := toc.write ptoc (List.ofFn address)
          let (err, toc) := tappTocWriteHeader toc tocSize
            { header with entries := header.entries + 1 }
          if err ≠ skErrorSuccess then (skErrorHeaderFailed, toc) else (skErrorSuccess, toc)

/-! ## The search -/

/-- What `fread` leaves of the next `n` bytes of a file in a buffer, and the rest. -/
def fread (buffer : Mem) (n : Nat) (file : List UInt8) : Nat × Mem × List UInt8 :=
  ((file.take n).length, buffer.write 0 (file.take n), file.drop n)

/-- The loop over the entries; `none` stands for `found_entry == 0`. -/
def searchEntries (taid : SkTaid) (buffer : Mem) (entry : TappTocEntry) :
    Nat → List UInt8 → Except SkStatus (Option TappTocEntry)
  | 0, _ => .ok none
  | k + 1, file =>
    let (n, buffer, file) := fread buffer tappTocIndexEntryTotalSize file
    if n ≠ tappTocIndexEntryTotalSize then .error skErrorReadFailed
    else
      let (err, entry) := tappTocGetEntry buffer tappTocIndexEntryTotalSize entry
      if err ≠ skErrorSuccess then .error skErrorEntryFailed
      else if entry.taid = taid then .ok (some entry)
      else searchEntries taid buffer entry k file

/-- `platformLoad` is `sk_swld_platform_tapp_load`, the second result the entry
handed to it. `toc` is the TOC file unless it cannot be opened; `buffer` and
`entry` are what the locals held. -/
def tappLoad (toc : Option (List UInt8)) (platformLoad : TappTocEntry → SkStatus) (buffer : Mem)
    (entry : TappTocEntry) (taid : SkTaid) : SkStatus × Option TappTocEntry :=
  match toc with
  | none => (skErrorOpenFailed, none)
  | some file =>
    let (n, buffer, file) := fread buffer tappTocIndexHdrTotalSize file
    if n ≠ tappTocIndexHdrTotalSize then (skErrorReadFailed, none)
    else
      let (err, header) := tappTocReadHeader buffer tappTocIndexHdrTotalSize ⟨0, 0⟩
      if err ≠ skErrorSuccess then (skErrorHeaderFailed, none)
      else if header.cookie ≠ tappTocIndexHdrCookie then (skErrorInvalidCookie, none)
      else match searchEntries taid buffer entry header.entries.toNat file with
        | .error err => (err, none)
        | .ok none => (skErrorEntryNotFound, none)
        | .ok (some entry) =>
          (if platformLoad entry ≠ skErrorSuccess then skErrorLoadFailed else skErrorSuccess,
            some entry)

/-! ## What the functions compute -/

/-- A 32-bit write is the `be32` format. -/
theorem sysvBytePut_four (image : Mem) (offset buflen : Nat) (v : UInt32)
    (h : u32 (offset + 4) ≤ buflen) :
    sysvBytePut image offset buflen 4 v.toUInt64 = (4, image.write offset (be32.enc v)) := by
  rw [sysvBytePut_eq _ _ _ 4 _ (by decide), if_neg (Nat.not_lt.mpr h), UInt32.toNat_toUInt64]
  rfl

theorem tappTocReadHeader_of_cookie {toc : Mem} {tocSize : Nat} (header : TappTocHeader)
    (hsize : tocSize ≠ 0) (hcookie : be32.get toc 0 = tappTocIndexHdrCookie) :
    tappTocReadHeader toc tocSize header =
      (skErrorSuccess, ⟨tappTocIndexHdrCookie, be32.get toc 4⟩) := by
  unfold tappTocReadHeader
  simp only [sysvByteGet_four, hcookie, if_neg hsize, ne_eq, not_true_eq_false, ↓reduceIte]

theorem tappTocReadHeader_of_bad_cookie {toc : Mem} {tocSize : Nat} (header : TappTocHeader)
    (hsize : tocSize ≠ 0) (hcookie : be32.get toc 0 ≠ tappTocIndexHdrCookie) :
    tappTocReadHeader toc tocSize header =
      (skErrorInvalidCookie, { header with cookie := be32.get toc 0 }) := by
  unfold tappTocReadHeader
  simp only [sysvByteGet_four, if_neg hsize, ne_eq, hcookie, not_false_eq_true, ↓reduceIte]

theorem tappTocWriteHeader_of_le {toc : Mem} {tocSize : Nat} (header : TappTocHeader)
    (hsize : 8 ≤ tocSize) :
    tappTocWriteHeader toc tocSize header = (skErrorSuccess,
      (toc.write 0 (be32.enc header.cookie)).write 4 (be32.enc header.entries)) := by
  have h₀ : u32 (tappTocIndexHdrCookiePos + 4) ≤ tocSize := Nat.le_trans (by decide) hsize
  have h₁ : u32 (tappTocIndexHdrNumEntriesPos + 4) ≤ tocSize := Nat.le_trans (by decide) hsize
  unfold tappTocWriteHeader
  rw [if_neg (by omega), sysvBytePut_four _ _ _ _ h₀]
  simp only [sysvBytePut_four _ _ _ _ h₁]
  rfl

theorem tappTocGetEntry_of_le {entry : Mem} {entrySize : Nat} (entryInfo : TappTocEntry)
    (hsize : 52 ≤ entrySize) :
    tappTocGetEntry entry entrySize entryInfo =
      (skErrorSuccess, ⟨entry.blk 0 16, be32.get entry 16, entry.blk 20 32⟩) := by
  have hfit : ¬ skTapiSessionTaidSize + tappTocIndexEntrySizeSize + tappTocIndexEntryAddrSize >
      entrySize := Nat.not_lt.mpr hsize
  unfold tappTocGetEntry
  rw [if_neg (by omega), if_neg hfit, sysvByteGet_four]

/-- The table with one more entry: what `taid` leaves of the TAID is overwritten. -/
def addedEntry (toc : Mem) (k : Nat) (taid : SkTaid) (tappSize : UInt32)
    (address : Blk tappTocIndexEntryAddrSize) : Mem :=
  let ptoc := 16 + 84 * k
  (((((toc.write ptoc (List.ofFn taid)).write ptoc (be32.enc tappSize)).write (ptoc + 4)
    (List.ofFn address)).write 0 (be32.enc tappTocIndexHdrCookie)).write 4
      (be32.enc (UInt32.ofNat (k + 1))))

theorem tappTocAddEntry_run {toc : Mem} {tocSize : Nat} (tappManifestBin : Mem)
    {tappManifestBinSize : Nat} {tappSize : UInt32} (address : Blk tappTocIndexEntryAddrSize)
    (tappInfo : TappsInfoData) {k : Nat} (hk : 84 * k < 4294967296) (hsize : 48 ≤ tocSize)
    (hmanifest : tappManifestBinSize ≠ 0) (hlen : tappSize ≠ 0)
    (hcookie : be32.get toc 0 = tappTocIndexHdrCookie)
    (hentries : be32.get toc 4 = UInt32.ofNat k) :
    tappTocAddEntry toc tocSize tappManifestBin tappManifestBinSize tappSize address tappInfo =
      (skErrorSuccess, addedEntry toc k
        (tappManifestPackGet tappManifestBin tappManifestBinSize tappInfo).out.taid tappSize
        address) := by
  have htoNat : (UInt32.ofNat k).toNat = k := UInt32.toNat_ofNat_of_lt' (by
    have : UInt32.size = 4294967296 := rfl
    omega)
  have hptoc : u32 (k * tappTocIndexEntryTotalSize) = 84 * k := by
    rw [Nat.mul_comm]
    exact Nat.mod_eq_of_lt hk
  have hput : u32 (0 + 4) ≤ tocSize - tappTocIndexEntryTaidSize := by
    have : u32 (0 + 4) = 4 := rfl
    have : tappTocIndexEntryTaidSize = 16 := rfl
    omega
  have hnext : UInt32.ofNat k + 1 = UInt32.ofNat (k + 1) := (UInt32.ofNat_add k 1).symm
  unfold tappTocAddEntry
  rw [if_neg (by simp only [not_or]; exact ⟨by omega, hmanifest, hlen⟩),
    tappTocReadHeader_of_cookie _ (by omega) hcookie]
  simp only [ne_eq, not_true_eq_false, ↓reduceIte, hentries, htoNat, hptoc, hnext,
    sysvBytePut_four _ _ _ _ hput, Mem.setPtr_write]
  rw [if_neg (by simp only [skTapiSessionTaidSize]; omega),
    if_neg (by simp only [skTapiSessionTaidSize, tappTocIndexEntryAddrSize]; omega),
    tappTocWriteHeader_of_le _ (by omega)]
  rfl

/-! ## What an added entry leaves -/

section Added

variable (toc : Mem) (k : Nat) (taid : SkTaid) (tappSize : UInt32)
  (address : Blk tappTocIndexEntryAddrSize)

theorem cookie_addedEntry :
    be32.get (addedEntry toc k taid tappSize address) 0 = tappTocIndexHdrCookie := by
  have hlen : ∀ v, (be32.enc v).length = 4 := be32.length_enc
  unfold addedEntry
  simp only [Format.get]
  rw [Mem.read_write_disjoint _ _ _ _ _ (by omega), Mem.read_write_eq _ _ _ _ (hlen _), dec_enc]

theorem entries_addedEntry :
    be32.get (addedEntry toc k taid tappSize address) 4 = UInt32.ofNat (k + 1) := by
  unfold addedEntry
  exact be32.get_write _ _ _

/-- The entry is the size followed by the address. -/
theorem read_addedEntry :
    (addedEntry toc k taid tappSize address).read (16 + 84 * k) 36 =
      be32.enc tappSize ++ List.ofFn address := by
  have hlen : ∀ v, (be32.enc v).length = 4 := be32.length_enc
  have haddr : (List.ofFn address).length = 32 := List.length_ofFn
  unfold addedEntry
  simp only
  rw [Mem.read_write_disjoint _ _ _ _ _ (by rw [hlen]; omega),
    Mem.read_write_disjoint _ _ _ _ _ (by rw [hlen]; omega), show 36 = 4 + 32 from rfl,
    Mem.read_add, Mem.read_write_disjoint _ _ _ _ _ (by omega),
    Mem.read_write_eq _ _ _ _ (hlen _), Mem.read_write_eq _ _ _ _ haddr]

/-- The entries before it stay. -/
theorem read_addedEntry_of_lt {j : Nat} (hj : j < k) :
    (addedEntry toc k taid tappSize address).read (16 + 84 * j) 36 =
      toc.read (16 + 84 * j) 36 := by
  have hlen : ∀ v, (be32.enc v).length = 4 := be32.length_enc
  have haddr : (List.ofFn address).length = 32 := List.length_ofFn
  have htaid : (List.ofFn taid).length = 16 := List.length_ofFn
  unfold addedEntry
  simp only
  rw [Mem.read_write_disjoint _ _ _ _ _ (by rw [hlen]; omega),
    Mem.read_write_disjoint _ _ _ _ _ (by rw [hlen]; omega),
    Mem.read_write_disjoint _ _ _ _ _ (by omega), Mem.read_write_disjoint _ _ _ _ _ (by omega),
    Mem.read_write_disjoint _ _ _ _ _ (by omega)]

end Added

end SkSdk
