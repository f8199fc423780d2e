import SkSdk.Library.Stdio
import SkSdk.Swld.TappManifestPack

/-!
The tool that puts a manifest in front of a TApp binary (`tapp_manifest.c`):
the part of `main` after the manifest is parsed. The buffer that held the packed
manifest is the copy buffer, and each round writes all of it.
-/

namespace SkSdk
open ByteMemory Stdio

/-! ## The output file -/

/-- The loop `while (!feof(ifp))`; `ofp` is what the output file holds. The
first argument bounds the number of rounds. -/
def copyBinary : Nat → File → Mem → List UInt8 → Option (List UInt8)
  | 0, _, _, _ => none
  | k + 1, ifp, buffer, ofp =>
    if ifp.eof then some ofp
    else
      let (bytes, ifp) := ifp.fread sizeofTappsInfoData
      let buffer := buffer.write 0 bytes
      copyBinary k ifp buffer (ofp ++ buffer.read 0 sizeofTappsInfoData)

/-- `buffer` is a global, which nothing has written before. -/
def combine (tappInfo : TappsInfoData) (binary : List UInt8) : Option (List UInt8) :=
  let put := tappManifestPackPut tappInfo (fun _ => 0) sizeofTappsInfoData
  copyBinary (binary.length + 3) (.ofBytes binary) put.pack (put.pack.read 0 put.packLen)

/-- The bytes `tapp_manifest_pack_put` makes of a manifest. -/
def packedManifest (tappInfo : TappsInfoData) : List UInt8 :=
  let put := tappManifestPackPut tappInfo (fun _ => 0) sizeofTappsInfoData
  put.pack.read 0 put.packLen

/-- The output is the packed manifest and then the binary. -/
def PrependsManifest (tappInfo : TappsInfoData) (binary : List UInt8) : Prop :=
  combine tappInfo binary = some (packedManifest tappInfo ++ binary)

/-! ## What the loop writes -/

theorem length_packedManifest (tappInfo : TappsInfoData) :
    (packedManifest tappInfo).length = tappsInfoDataSize := by
  have hfit : tappsInfoDataSize ≤ sizeofTappsInfoData := by decide
  rw [packedManifest, tappManifestPackPut_eq, if_pos hfit]
  exact Mem.length_read _ _ _

/-- The round that meets the end of the file writes what the buffer held past
the last bytes as well. -/
theorem copyBinary_last {k : Nat} (past rest : List UInt8) (buffer : Mem) (ofp : List UInt8)
    (hlast : rest.length < sizeofTappsInfoData) :
    copyBinary (k + 2) ⟨past, rest, false⟩ buffer ofp =
      some (ofp ++ rest ++ buffer.read rest.length (sizeofTappsInfoData - rest.length)) := by
  have hsize : sizeofTappsInfoData = rest.length + (sizeofTappsInfoData - rest.length) := by omega
  have hblock : (buffer.write 0 rest).read 0 sizeofTappsInfoData =
      rest ++ buffer.read rest.length (sizeofTappsInfoData - rest.length) := by
    rw [hsize, Mem.read_add, Mem.read_write_eq _ _ _ _ rfl,
      Mem.read_write_disjoint _ _ _ _ _ (Or.inr (Nat.le_refl _)), Nat.zero_add, ← hsize]
  rw [copyBinary, if_neg (by simp), File.fread_of_lt hlast]
  simp only [hblock]
  rw [copyBinary, if_pos rfl, List.append_assoc]

theorem copyBinary_run {k : Nat} (past rest : List UInt8) (buffer : Mem) (ofp : List UInt8)
    (hk : rest.length + 2 < k) :
    ∃ stale : List UInt8, copyBinary k ⟨past, rest, false⟩ buffer ofp =
        some (ofp ++ rest ++ stale) ∧
      stale.length = sizeofTappsInfoData - rest.length % sizeofTappsInfoData := by
  have hblock : sizeofTappsInfoData = 1052 := rfl
  induction k generalizing past rest buffer ofp with
  | zero => omega
  | succ k ih =>
    by_cases hlast : rest.length < sizeofTappsInfoData
    · obtain ⟨j, rfl⟩ := Nat.exists_eq_add_of_lt (by omega : 0 < k)
      have hrun := copyBinary_last (k := 0 + j) past rest buffer ofp hlast
      refine ⟨_, hrun, ?_⟩
      rw [Mem.length_read, Nat.mod_eq_of_lt hlast]
    · have htake : (rest.take sizeofTappsInfoData).length = sizeofTappsInfoData := by
        rw [List.length_take]
        omega
      have hdrop : (rest.drop sizeofTappsInfoData).length = rest.length - sizeofTappsInfoData :=
        List.length_drop
      rw [copyBinary, if_neg (by simp), File.fread_of_le (Nat.le_of_not_lt hlast)]
      simp only [Mem.read_write_eq _ _ _ _ htake]
      obtain ⟨stale, hrun, hlen⟩ := ih _ (rest.drop sizeofTappsInfoData) _
        (ofp ++ rest.take sizeofTappsInfoData) (by omega)
      refine ⟨stale, hrun.trans ?_, ?_⟩
      · rw [List.append_assoc ofp, List.take_append_drop]
      · have hmod : rest.length % sizeofTappsInfoData =
            (rest.length - sizeofTappsInfoData) % sizeofTappsInfoData :=
          Nat.mod_eq_sub_mod (Nat.le_of_not_lt hlast)
        rw [hlen, hdrop, hmod]

/-- The file is the manifest, the binary, and the bytes that fill up the last block. -/
theorem combine_eq (tappInfo : TappsInfoData) (binary : List UInt8) :
    ∃ stale : List UInt8,
      combine tappInfo binary = some (packedManifest tappInfo ++ binary ++ stale) ∧
      stale.length = sizeofTappsInfoData - binary.length % sizeofTappsInfoData :=
  copyBinary_run [] binary _ _ (by omega)

theorem combine_longer (tappInfo : TappsInfoData) (binary : List UInt8) :
    ∃ file, combine tappInfo binary = some file ∧
      tappsInfoDataSize + binary.length < file.length := by
  have hblock : sizeofTappsInfoData = 1052 := rfl
  obtain ⟨stale, hrun, hlen⟩ := combine_eq tappInfo binary
  have hmod : binary.length % sizeofTappsInfoData < sizeofTappsInfoData :=
    Nat.mod_lt _ (by decide)
  refine ⟨_, hrun, ?_⟩
  rw [List.length_append, List.length_append, length_packedManifest]
  omega

theorem not_prependsManifest (tappInfo : TappsInfoData) (binary : List UInt8) :
    ¬ PrependsManifest tappInfo binary := by
  obtain ⟨file, hrun, hlong⟩ := combine_longer tappInfo binary
  intro h
  rw [PrependsManifest, hrun, Option.some.injEq] at h
  rw [h, List.length_append, length_packedManifest] at hlong
  exact absurd hlong (Nat.lt_irrefl _)

/-- Whatever the binary, bytes of the buffer follow it up to a whole block. -/
theorem combine_appends (tappInfo : TappsInfoData) (binary : List UInt8) :
    ¬ PrependsManifest tappInfo binary ∧
      ∃ stale : List UInt8,
        combine tappInfo binary = some (packedManifest tappInfo ++ binary ++ stale) ∧
        stale.length = sizeofTappsInfoData - binary.length % sizeofTappsInfoData :=
  ⟨not_prependsManifest tappInfo binary, combine_eq tappInfo binary⟩

/-- The empty binary gets a whole block of them. -/
theorem combine_appends_empty :
    ¬ PrependsManifest ⟨Blk.zero 16, 0, 0, 0, 0, Blk.zero 256, Blk.zero 256, Blk.zero 512⟩ [] :=
  not_prependsManifest _ _

end SkSdk
