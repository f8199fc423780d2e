import SkSdk.Swld.TappTocBounds

/-!
A new entry of the table of contents (`tapp_toc_add_entry`). It goes where the
stored count says, the two sums that are compared with `toc_size` are those of
the lengths stored so far, and what `tapp_manifest_pack_get` returns is not
looked at.
-/

namespace SkSdk
open ByteMemory Format Access
open Accesses (tocOf cookie_tocOf)

section Statements

variable (toc : Mem) (tocSize : Nat) (tappManifestBin : Mem) (tappManifestBinSize : Nat)
  (tappSize : UInt32) (address : Blk tappTocIndexEntryAddrSize) (tappInfo : TappsInfoData)

/-- The count in the header of the table. -/
def tocCount (toc : Mem) : Nat := (be32.get toc tappTocIndexHdrNumEntriesPos).toNat

/-- Where the new entry goes; the product is one of 32 bits. -/
def newEntryPos (toc : Mem) : Nat :=
  tappTocIndexHdrTappStartPos + u32 (tocCount toc * tappTocIndexEntryTotalSize)

/-- Success means a parsed manifest, an entry that fits, one more in the count and
nothing else changed. An error changes nothing, and no write leaves the table. -/
structure AllOrNothing : Prop where
  success : ∀ toc', tappTocAddEntry toc tocSize tappManifestBin tappManifestBinSize tappSize address
      tappInfo = (skErrorSuccess, toc') →
    (tappManifestPackGet tappManifestBin tappManifestBinSize tappInfo).status = skErrorSuccess ∧
    TocFits tocSize (tocCount toc + 1) ∧
    tocCount toc' = tocCount toc + 1 ∧
    ∀ a < tocSize, toc' a ≠ toc a →
      a < tappTocIndexHdrTotalSize ∨ entryPos (tocCount toc) ≤ a ∧ a < entryPos (tocCount toc + 1)
  error : ∀ err toc', tappTocAddEntry toc tocSize tappManifestBin tappManifestBinSize tappSize
      address tappInfo = (err, toc') → err ≠ skErrorSuccess → ∀ a < tocSize, toc' a = toc a
  bounded : (Accesses.tappTocAddEntry toc tocSize tappManifestBin tappManifestBinSize tappSize
    address tappInfo).All (Span.WritesBelow tocSize)

/-- The TAID that is stored: of a shorter manifest it is what the local held. -/
def storedTaid : SkTaid :=
  if tappTocIndexEntryTaidSize ≤ tappManifestBinSize then tappManifestBin.blk 0 16
  else tappInfo.taid

/-- The arguments are refused at once, or the manifest is complete and the entry
fits, or the table is too short for any address and holds the start of the
entry already. -/
def AddsCleanly : Prop :=
  tocSize = 0 ∨ tappManifestBinSize = 0 ∨ tappSize = 0 ∨
  be32.get toc 0 ≠ tappTocIndexHdrCookie ∨ tocSize < skTapiSessionTaidSize ∨
  (tappsInfoDataSize ≤ tappManifestBinSize ∧ TocFits tocSize (tocCount toc + 1)) ∨
  (tocSize < skTapiSessionTaidSize + tappTocIndexEntryAddrSize ∧
    newEntryPos toc + skTapiSessionTaidSize ≤ tocSize ∧
    toc.read (newEntryPos toc) skTapiSessionTaidSize = be32.enc tappSize ++
      (List.ofFn (storedTaid tappManifestBin tappManifestBinSize tappInfo)).drop 4)

end Statements

/-! ## The TAID that is stored -/

theorem taid_assignFields (ibuffer : Mem) (off : Nat) (fields : List (Field TappsInfoData))
    (d : TappsInfoData) (h : ∀ f ∈ fields, ∀ bs d, (f.2 bs d).taid = d.taid) :
    (assignFields ibuffer off fields d).taid = d.taid := by
  induction fields generalizing off d with
  | nil => rfl
  | cons f fs ih =>
    rw [assignFields, ih _ _ fun g hg => h g (List.mem_cons_of_mem _ hg)]
    exact h f List.mem_cons_self _ _

/-- None of the members after the TAID is assigned to it. -/
theorem taid_tappManifestPackGet (ibuffer : Mem) (ibufferSize : Nat) (d : TappsInfoData) :
    (tappManifestPackGet ibuffer ibufferSize d).out.taid = storedTaid ibuffer ibufferSize d := by
  have hrest : ∀ f ∈ manifestReads.tail, ∀ bs d, (f.2 bs d).taid = d.taid := by
    simp [manifestReads]
  have hreads : manifestReads =
      (16, fun bs d => { d with taid := (blk 16).dec bs }) :: manifestReads.tail := rfl
  have hblk : (blk 16).dec (ibuffer.read 0 16) = ibuffer.blk 0 16 := get_blk ibuffer 0 16
  rw [tappManifestPackGet_eq, storedTaid]
  by_cases hfull : tappsInfoDataSize ≤ ibufferSize
  · have htaid : tappTocIndexEntryTaidSize ≤ ibufferSize := Nat.le_trans (by decide) hfull
    rw [if_pos hfull, if_pos htaid, ← assignFields_manifestReads ibuffer d, hreads, assignFields,
      taid_assignFields _ _ _ _ hrest]
    exact hblk
  · rw [if_neg hfull, hreads, complete]
    by_cases htaid : tappTocIndexEntryTaidSize ≤ ibufferSize
    · rw [if_pos (by simpa using htaid), if_pos htaid, assignFields,
        taid_assignFields _ _ _ _ fun f hf => hrest f (mem_of_mem_complete _ _ hf)]
      exact hblk
    · rw [if_neg (by simpa using htaid), if_neg htaid]
      rfl

/-! ## The runs -/

section Runs

variable {toc : Mem} {tocSize : Nat} {tappManifestBin : Mem} {tappManifestBinSize : Nat}
  {tappSize : UInt32} {address : Blk tappTocIndexEntryAddrSize} {tappInfo : TappsInfoData}

/-- Reading the header writes nothing. -/
theorem writesBelow_tappTocReadHeader (toc : Mem) (header : TappTocHeader) (hsize : tocSize ≠ 0) :
    (Accesses.tappTocReadHeader toc tocSize header).All (Span.WritesBelow tocSize) := by
  rw [Accesses.all_tappTocReadHeader _ _ _ hsize, writesBelow_read, writesBelow_read]
  exact ⟨trivial, fun _ => trivial⟩

/-- What is refused before the first store. -/
theorem addEntry_refused (tappManifestBin : Mem) (tappInfo : TappsInfoData)
    (address : Blk tappTocIndexEntryAddrSize)
    (h : tocSize = 0 ∨ tappManifestBinSize = 0 ∨ tappSize = 0 ∨
      be32.get toc 0 ≠ tappTocIndexHdrCookie ∨ tocSize < skTapiSessionTaidSize) :
    (∃ err, tappTocAddEntry toc tocSize tappManifestBin tappManifestBinSize tappSize address
      tappInfo = (err, toc) ∧ err ≠ skErrorSuccess) ∧
    (Accesses.tappTocAddEntry toc tocSize tappManifestBin tappManifestBinSize tappSize address
      tappInfo).All (Span.WritesBelow tocSize) := by
  have hinvalid : skErrorInvalidParam ≠ skErrorSuccess := by decide
  have hfailed : skErrorHeaderFailed ≠ skErrorSuccess := by decide
  have hbad : skErrorInvalidCookie ≠ skErrorSuccess := by decide
  rw [← Accesses.value_tappTocAddEntry]
  unfold Accesses.tappTocAddEntry
  by_cases hparam : tocSize = 0 ∨ tappManifestBinSize = 0 ∨ tappSize = 0
  · rw [if_pos hparam]
    exact ⟨⟨_, rfl, hinvalid⟩, (Traced.all_pure _ _).mpr trivial⟩
  · have hsize : tocSize ≠ 0 := fun hzero => hparam (Or.inl hzero)
    have hheader := writesBelow_tappTocReadHeader toc ⟨0, 0⟩ hsize
    rw [if_neg hparam, Traced.value_bind, Traced.all_bind, Accesses.value_tappTocReadHeader]
    by_cases hcookie : be32.get toc 0 = tappTocIndexHdrCookie
    · have hshort : skTapiSessionTaidSize > tocSize := by tauto
      rw [tappTocReadHeader_of_cookie _ hsize hcookie]
      simp only [ne_eq, not_true_eq_false, ↓reduceIte, hshort]
      exact ⟨⟨_, rfl, hfailed⟩, hheader, (Traced.all_pure _ _).mpr trivial⟩
    · rw [tappTocReadHeader_of_bad_cookie _ hsize hcookie]
      simp only [ne_eq, hbad, not_false_eq_true, ↓reduceIte]
      exact ⟨⟨_, rfl, hfailed⟩, hheader, (Traced.all_pure _ _).mpr trivial⟩

/-- The store of the size: it needs four bytes more than the TAID. -/
theorem sysvBytePut_size (image : Mem) (tappSize : UInt32)
    (hsize : skTapiSessionTaidSize ≤ tocSize) :
    sysvBytePut image 0 (tocSize - tappTocIndexEntryTaidSize) 4 tappSize.toUInt64 =
      if 20 ≤ tocSize then (4, image.write 0 (be32.enc tappSize)) else (0, image) := by
  have htaid : skTapiSessionTaidSize = 16 := rfl
  have hlen : tappTocIndexEntryTaidSize = 16 := rfl
  have hfour : u32 (0 + 4) = 4 := rfl
  split
  · next hroom => exact sysvBytePut_four _ _ _ _ (by omega)
  · next hroom => rw [sysvBytePut_eq _ _ _ 4 _ (by decide), if_pos (by omega)]

/-- The size is stored over the first bytes of the TAID. -/
theorem write_taid_size (toc : Mem) (p : Nat) (taid : SkTaid) (tappSize : UInt32) :
    (toc.write p (List.ofFn taid)).write p (be32.enc tappSize) =
      toc.write p (be32.enc tappSize ++ (List.ofFn taid).drop 4) := by
  have hlen : (be32.enc tappSize).length = 4 := be32.length_enc _
  have htaid : (List.ofFn taid).length = 16 := List.length_ofFn
  rw [Mem.write_over _ _ _ _ (by omega), hlen]

/-- In a table without room for an address the start of the entry is written all
the same. -/
theorem addEntry_short (tappManifestBin : Mem) (tappInfo : TappsInfoData)
    (address : Blk tappTocIndexEntryAddrSize) (hmanifest : tappManifestBinSize ≠ 0)
    (hlen : tappSize ≠ 0) (hcookie : be32.get toc 0 = tappTocIndexHdrCookie)
    (hsize : skTapiSessionTaidSize ≤ tocSize)
    (hshort : tocSize < skTapiSessionTaidSize + tappTocIndexEntryAddrSize) :
    (∃ toc', tappTocAddEntry toc tocSize tappManifestBin tappManifestBinSize tappSize address
        tappInfo = (skErrorHeaderFailed, toc') ∧
      (20 ≤ tocSize → toc' = toc.write (newEntryPos toc) (be32.enc tappSize ++
        (List.ofFn (storedTaid tappManifestBin tappManifestBinSize tappInfo)).drop 4))) ∧
    ((Accesses.tappTocAddEntry toc tocSize tappManifestBin tappManifestBinSize tappSize address
        tappInfo).All (Span.WritesBelow tocSize) ↔
      newEntryPos toc + skTapiSessionTaidSize ≤ tocSize) := by
  have hne : tocSize ≠ 0 := by
    have htaid : skTapiSessionTaidSize = 16 := rfl
    omega
  have hheader := writesBelow_tappTocReadHeader toc ⟨0, 0⟩ hne
  have hpos : newEntryPos toc = tappTocIndexHdrTappStartPos +
      u32 ((be32.get toc 4).toNat * tappTocIndexEntryTotalSize) := rfl
  rw [← Accesses.value_tappTocAddEntry]
  unfold Accesses.tappTocAddEntry
  rw [if_neg (by tauto), Traced.value_bind, Traced.all_bind, Accesses.value_tappTocReadHeader,
    tappTocReadHeader_of_cookie _ hne hcookie]
  simp only [ne_eq, not_true_eq_false, ↓reduceIte, gt_iff_lt, Nat.not_lt.mpr hsize, hshort, ← hpos,
    Traced.value_bind, Traced.all_bind, Traced.value_write, Traced.all_write, Traced.value_pure,
    Traced.all_pure, Accesses.value_stored, Accesses.all_stored, writesBelow_write, hheader,
    taid_tappManifestPackGet, true_and, and_true, sysvBytePut_size _ _ hsize]
  refine ⟨⟨_, rfl, fun hroom => ?_⟩, ?_⟩
  · rw [if_pos hroom, Mem.setPtr_write, write_taid_size]
  · split
    · exact and_iff_left_of_imp fun h =>
        Or.inr (Nat.le_trans (Nat.add_le_add_left (by decide : 4 ≤ 16) _) h)
    · exact and_iff_left (Or.inl rfl)

/-- From 48 bytes on every entry is accepted, wherever it goes. -/
theorem addEntry_stored (tappManifestBin : Mem) (tappInfo : TappsInfoData)
    (address : Blk tappTocIndexEntryAddrSize)
    (hmanifest : tappManifestBinSize ≠ 0) (hlen : tappSize ≠ 0)
    (hcookie : be32.get toc 0 = tappTocIndexHdrCookie)
    (hroom : skTapiSessionTaidSize + tappTocIndexEntryAddrSize ≤ tocSize) :
    (∃ toc', tappTocAddEntry toc tocSize tappManifestBin tappManifestBinSize tappSize address
        tappInfo = (skErrorSuccess, toc')) ∧
    ((Accesses.tappTocAddEntry toc tocSize tappManifestBin tappManifestBinSize tappSize address
        tappInfo).All (Span.WritesBelow tocSize) ↔ newEntryPos toc + 36 ≤ tocSize) := by
  have htaid : skTapiSessionTaidSize = 16 := rfl
  have haddr : tappTocIndexEntryAddrSize = 32 := rfl
  have hne : tocSize ≠ 0 := by omega
  have hsize : skTapiSessionTaidSize ≤ tocSize := by omega
  have hheader := writesBelow_tappTocReadHeader toc ⟨0, 0⟩ hne
  have hpos : newEntryPos toc = tappTocIndexHdrTappStartPos +
      u32 ((be32.get toc 4).toNat * tappTocIndexEntryTotalSize) := rfl
  have hwritten : 8 ≤ tocSize := by omega
  have hput (image : Mem) := (sysvBytePut_size image tappSize hsize).trans (if_pos (by omega))
  have hwrites (toc : Mem) (header : TappTocHeader) :
      (Accesses.tappTocWriteHeader toc tocSize header).All (Span.WritesBelow tocSize) := by
    rw [Accesses.all_tappTocWriteHeader _ _ _ (by omega), writesBelow_write, writesBelow_write]
    omega
  rw [← Accesses.value_tappTocAddEntry]
  unfold Accesses.tappTocAddEntry
  rw [if_neg (by tauto), Traced.value_bind, Traced.all_bind, Accesses.value_tappTocReadHeader,
    tappTocReadHeader_of_cookie _ hne hcookie]
  simp only [ne_eq, not_true_eq_false, ↓reduceIte, gt_iff_lt, Nat.not_lt.mpr hsize,
    Nat.not_lt.mpr hroom, ← hpos, Traced.value_bind, Traced.all_bind, Traced.value_write,
    Traced.all_write, Traced.value_pure, Traced.all_pure, Accesses.value_stored,
    Accesses.all_stored, Accesses.value_tappTocWriteHeader, tappTocWriteHeader_of_le _ hwritten,
    writesBelow_write, hheader, hwrites, true_and, and_true, hput]
  have hsizeLen : tappTocIndexEntrySizeSize = 4 := rfl
  refine ⟨⟨_, rfl⟩, ?_⟩
  omega

theorem newEntryPos_eq (h : entryPos (tocCount toc) < 4294967296) :
    newEntryPos toc = entryPos (tocCount toc) := by
  have hmul : u32 (tocCount toc * tappTocIndexEntryTotalSize) = 84 * tocCount toc := by
    have hlt : 84 * tocCount toc < 4294967296 := by
      unfold entryPos at h
      omega
    rw [Nat.mul_comm]
    exact Nat.mod_eq_of_lt hlt
  rw [newEntryPos, hmul, entryPos]

/-- The entry that fits: the run is that of a table that is not full. -/
theorem addEntry_fits (tappManifestBin : Mem) (tappInfo : TappsInfoData)
    (address : Blk tappTocIndexEntryAddrSize) (hmanifest : tappManifestBinSize ≠ 0)
    (hlen : tappSize ≠ 0) (hcookie : be32.get toc 0 = tappTocIndexHdrCookie)
    (htoc : tocSize < 4294967296) (hfits : entryPos (tocCount toc) + 84 ≤ tocSize) :
    ∃ taid, tappTocAddEntry toc tocSize tappManifestBin tappManifestBinSize tappSize address
      tappInfo = (skErrorSuccess, addedEntry toc (tocCount toc) taid tappSize address) := by
  have hcount : be32.get toc 4 = UInt32.ofNat (tocCount toc) := UInt32.ofNat_toNat.symm
  unfold entryPos at hfits
  exact ⟨_, tappTocAddEntry_run tappManifestBin address tappInfo (by omega) (by omega) hmanifest
    hlen hcookie hcount⟩

theorem tocCount_addedEntry {taid : SkTaid} (h : tocCount toc + 1 < 4294967296) :
    tocCount (addedEntry toc (tocCount toc) taid tappSize address) = tocCount toc + 1 :=
  (congrArg UInt32.toNat (entries_addedEntry toc _ taid tappSize address)).trans
    (UInt32.toNat_ofNat_of_lt' h)

theorem addedEntry_changes {taid : SkTaid} (k a : Nat)
    (h : addedEntry toc k taid tappSize address a ≠ toc a) :
    a < tappTocIndexHdrTotalSize ∨ entryPos k ≤ a ∧ a < entryPos (k + 1) := by
  have hheader : tappTocIndexHdrTotalSize = 16 := rfl
  have hnext := entryPos_succ k
  have hword (v : UInt32) : (be32.enc v).length = 4 := be32.length_enc v
  have htaid : (List.ofFn taid).length = 16 := List.length_ofFn
  have haddr : (List.ofFn address).length = 32 := List.length_ofFn
  by_contra hout
  refine h ?_
  unfold entryPos at hout hnext
  unfold addedEntry
  rw [Mem.write_outside _ _ _ _ (by rw [hword]; omega),
    Mem.write_outside _ _ _ _ (by rw [hword]; omega),
    Mem.write_outside _ _ _ _ (by rw [haddr]; omega),
    Mem.write_outside _ _ _ _ (by rw [hword]; omega),
    Mem.write_outside _ _ _ _ (by rw [htaid]; omega)]

/-- Below 48 bytes the outcome is an error, so that nothing may change. -/
theorem short_allOrNothing_iff (address : Blk tappTocIndexEntryAddrSize)
    (hmanifest : tappManifestBinSize ≠ 0) (hlen : tappSize ≠ 0)
    (hcookie : be32.get toc 0 = tappTocIndexHdrCookie)
    (hsize : skTapiSessionTaidSize ≤ tocSize)
    (hshort : tocSize < skTapiSessionTaidSize + tappTocIndexEntryAddrSize) :
    AllOrNothing toc tocSize tappManifestBin tappManifestBinSize tappSize address tappInfo ↔
      newEntryPos toc + skTapiSessionTaidSize ≤ tocSize ∧
      toc.read (newEntryPos toc) skTapiSessionTaidSize = be32.enc tappSize ++
        (List.ofFn (storedTaid tappManifestBin tappManifestBinSize tappInfo)).drop 4 := by
  have hfailed : skErrorHeaderFailed ≠ skErrorSuccess := by decide
  have htaid : skTapiSessionTaidSize = 16 := rfl
  have hstart : newEntryPos toc = 16 + u32 (tocCount toc * tappTocIndexEntryTotalSize) := rfl
  obtain ⟨⟨toc', hrun, hwritten⟩, hbounded⟩ := addEntry_short tappManifestBin
    tappInfo address hmanifest hlen hcookie hsize hshort
  have hstored : (be32.enc tappSize ++ (List.ofFn (storedTaid tappManifestBin tappManifestBinSize
      tappInfo)).drop 4).length = skTapiSessionTaidSize := by
    rw [List.length_append, be32.length_enc, List.length_drop, List.length_ofFn]
  constructor
  · intro h
    have hfits := hbounded.mp h.bounded
    have hsame := h.error _ _ hrun hfailed
    refine ⟨hfits, ?_⟩
    rw [hwritten (by omega)] at hsame
    rw [← Mem.read_congr fun a _ ha => hsame a (by omega), Mem.read_write_eq _ _ _ _ hstored]
  · rintro ⟨hfits, hsame⟩
    rw [hwritten (by omega), ← hsame, Mem.write_read_same] at hrun
    refine ⟨fun toc'' hok => ?_, fun err toc'' herr _ a _ => ?_, hbounded.mpr hfits⟩
    · cases hrun.symm.trans hok
    · cases hrun.symm.trans herr
      rfl

/-- From 48 bytes on the outcome is success, so that the manifest has to be whole
and the entry has to fit. -/
theorem stored_allOrNothing_iff (address : Blk tappTocIndexEntryAddrSize)
    (htoc : tocSize < 4294967296) (hmanifest : tappManifestBinSize ≠ 0) (hlen : tappSize ≠ 0)
    (hcookie : be32.get toc 0 = tappTocIndexHdrCookie)
    (hroom : skTapiSessionTaidSize + tappTocIndexEntryAddrSize ≤ tocSize) :
    AllOrNothing toc tocSize tappManifestBin tappManifestBinSize tappSize address tappInfo ↔
      tappsInfoDataSize ≤ tappManifestBinSize ∧ TocFits tocSize (tocCount toc + 1) := by
  obtain ⟨⟨toc', hrun⟩, hbounded⟩ := addEntry_stored tappManifestBin tappInfo address hmanifest
    hlen hcookie hroom
  have hparsed := status_tappManifestPackGet tappManifestBin tappManifestBinSize tappInfo
  constructor
  · intro h
    obtain ⟨hparse, hfits, -, -⟩ := h.success _ hrun
    exact ⟨hparsed.mp hparse, hfits⟩
  · rintro ⟨hwhole, hfits⟩
    have hend : entryPos (tocCount toc) + 84 ≤ tocSize :=
      Nat.le_trans (entryPos_le (Nat.lt_succ_self _)) hfits
    have hpos : newEntryPos toc = entryPos (tocCount toc) := newEntryPos_eq (by omega)
    have hcount : tocCount toc + 1 < 4294967296 := by
      unfold entryPos at hend
      omega
    obtain ⟨taid, hadded⟩ := addEntry_fits tappManifestBin tappInfo address hmanifest hlen hcookie
      htoc hend
    refine ⟨fun toc'' hok => ?_, fun err toc'' herr hne => ?_, hbounded.mpr (by omega)⟩
    · cases hadded.symm.trans hok
      exact ⟨hparsed.mpr hwhole, hfits, tocCount_addedEntry hcount,
        fun a _ => addedEntry_changes _ a⟩
    · cases hrun.symm.trans herr
      exact absurd rfl hne

/-- An entry is added all or nothing exactly under the conditions that the
function should have checked. -/
theorem add_entry_iff (toc : Mem) (tocSize : Nat) (tappManifestBin : Mem)
    (tappManifestBinSize : Nat) (tappSize : UInt32) (address : Blk tappTocIndexEntryAddrSize)
    (tappInfo : TappsInfoData) (htoc : tocSize < 4294967296) :
    AllOrNothing toc tocSize tappManifestBin tappManifestBinSize tappSize address tappInfo ↔
      AddsCleanly toc tocSize tappManifestBin tappManifestBinSize tappSize tappInfo := by
  have htaid : skTapiSessionTaidSize = 16 := rfl
  have haddr : tappTocIndexEntryAddrSize = 32 := rfl
  by_cases hrefused : tocSize = 0 ∨ tappManifestBinSize = 0 ∨ tappSize = 0 ∨
      be32.get toc 0 ≠ tappTocIndexHdrCookie ∨ tocSize < skTapiSessionTaidSize
  · obtain ⟨⟨err, hrun, herr⟩, hbounded⟩ :=
      addEntry_refused tappManifestBin tappInfo address hrefused
    refine iff_of_true ⟨fun toc' hok => ?_, fun err' toc' herr' _ a _ => ?_, hbounded⟩ ?_
    · cases hrun.symm.trans hok
      exact absurd rfl herr
    · cases hrun.symm.trans herr'
      rfl
    · unfold AddsCleanly
      tauto
  · simp only [not_or, not_not, Nat.not_lt] at hrefused
    obtain ⟨hne, hmanifest, hlen, hcookie, hsize⟩ := hrefused
    by_cases hshort : tocSize < skTapiSessionTaidSize + tappTocIndexEntryAddrSize
    · have hnot : ¬ TocFits tocSize (tocCount toc + 1) := fun hfits => by
        have hend := Nat.le_trans (entryPos_le (Nat.lt_succ_self (tocCount toc))) hfits
        unfold entryPos at hend
        omega
      rw [short_allOrNothing_iff address hmanifest hlen hcookie hsize hshort]
      unfold AddsCleanly
      simp only [hne, hmanifest, hlen, hcookie, Nat.not_lt.mpr hsize, hnot, hshort, ne_eq,
        not_true_eq_false, and_false, true_and, false_or]
    · rw [stored_allOrNothing_iff address htoc hmanifest hlen hcookie (Nat.le_of_not_lt hshort)]
      unfold AddsCleanly
      simp only [hne, hmanifest, hlen, hcookie, Nat.not_lt.mpr hsize, hshort, ne_eq,
        not_true_eq_false, false_and, false_or, or_false]

end Runs

def blankManifest : TappsInfoData :=
  ⟨Blk.zero 16, 0, 0, 0, 0, Blk.zero 256, Blk.zero 256, Blk.zero 512⟩

/-- The first entry of a table with room for one. -/
theorem add_entry_first :
    AllOrNothing (tocOf 0) 100 (fun _ => 0) 1050 1 (Blk.zero 32) blankManifest := by
  have hfits : TocFits 100 (tocCount (tocOf 0) + 1) := by decide
  refine (add_entry_iff (tocOf 0) 100 (fun _ => 0) 1050 1 (Blk.zero 32) blankManifest
    (by decide)).mpr ?_
  exact Or.inr (Or.inr (Or.inr (Or.inr (Or.inr (Or.inl ⟨Nat.le_refl _, hfits⟩)))))

/-- A full table takes another entry past its end, and a table with room takes the
entry of a manifest of one byte. -/
theorem add_entry_accepts :
    ¬ AllOrNothing (tocOf 1) 100 (fun _ => 0) 1050 1 (Blk.zero 32) blankManifest ∧
    ¬ AllOrNothing (tocOf 0) 100 (fun _ => 0) 1 1 (Blk.zero 32) blankManifest := by
  have hfull : ¬ TocFits 100 (tocCount (tocOf 1) + 1) := by decide
  constructor
  · rw [stored_allOrNothing_iff _ (by decide) (by decide) (by decide) (cookie_tocOf 1) (by decide)]
    exact fun h => hfull h.2
  · rw [stored_allOrNothing_iff _ (by decide) (by decide) (by decide) (cookie_tocOf 0) (by decide)]
    exact fun h => absurd h.1 (by decide)

end SkSdk
