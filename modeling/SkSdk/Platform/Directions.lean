import Mathlib.Data.Finset.Max
import SkSdk.Platform.Transport

/-!
Which way the buffers of an operation go. Of the three flags the four loops know
`SKTEEC_MEMREF_OUT` only, so that a buffer flagged `SKTEEC_MEMREF_INOUT` comes
back like one flagged `SKTEEC_MEMREF_IN` and is not sent along.
-/

namespace SkSdk
open ByteMemory Duplex Format

/-- The flags of a buffer that the TApp is to read. -/
abbrev SkOpMeminfo.GoesUp (m : SkOpMeminfo) : Prop :=
  m.flag = skTeecMemrefOut ∨ m.flag = skTeecMemrefInout

/-- The flags of a buffer that the client is to read. -/
abbrev SkOpMeminfo.ComesBack (m : SkOpMeminfo) : Prop :=
  m.flag = skTeecMemrefIn ∨ m.flag = skTeecMemrefInout

/-- The address is one of the buffer's. -/
def SkOpMeminfo.Covers (m : SkOpMeminfo) (a : Nat) : Prop :=
  m.addr.toNat ≤ a ∧ a < m.addr.toNat + m.memorySize.toNat

theorem SkOpMeminfo.ComesBack.not_out {m : SkOpMeminfo} (h : m.ComesBack) : ¬ m.Out := by
  rcases h with h | h <;> rw [SkOpMeminfo.Out, h] <;> decide

/-- Buffer `i` is the last one written at `a`. -/
structure SkOperation.LastOver (op : SkOperation) (i : Fin skMaximumOperations) (a : Nat) :
    Prop where
  mem : i ∈ op.indices
  not_out : ¬ (op.param i).Out
  covers : (op.param i).Covers a
  last : ∀ j ∈ op.indices, i < j → ¬ (op.param j).Out → ¬ (op.param j).Covers a

/-- What buffer `i` of `op` has for the address `a`. -/
def byteFor (op : SkOperation) (content : Fin skMaximumOperations → List UInt8)
    (i : Fin skMaximumOperations) (a : Nat) : UInt8 :=
  (content i).getD (a - (op.param i).addr.toNat) 0

section Statements

variable (call : NwldComm) (job : SwldJob) (received : SwldComm)

/-- The TApp finds the client's bytes, and the client the TApp's. -/
structure BothWays (r : CommReply × Mem) : Prop where
  up : ∀ op, call.op = some op → ∀ i ∈ op.indices, (op.param i).GoesUp →
    (op.param i).memorySize ≠ 0 →
    received.heap.buffer (received.op.param i) = call.content op i
  down : ∀ op, call.op = some op → ∀ i ∈ op.indices, (op.param i).ComesBack →
    r.2.read (op.param i).addr.toNat (op.param i).memorySize.toNat =
      (job.process received).content i

/-- Every buffer flagged `SKTEEC_MEMREF_INOUT` is, by chance, allocated where the
client's bytes already are, and a buffer that comes back over another one brings
the same bytes. -/
structure Coincides : Prop where
  inout : ∀ op, call.op = some op → ∀ i ∈ op.indices,
    (op.param i).flag = skTeecMemrefInout → (op.param i).memorySize ≠ 0 →
    (job.env.prior i).read 0 (op.param i).memorySize.toNat = call.content op i
  overlap : ∀ op, call.op = some op → ∀ i ∈ op.indices, (op.param i).ComesBack →
    ∀ j a, (op.param i).Covers a → op.LastOver j a →
    byteFor op (job.process received).content i a = byteFor op (job.process received).content j a

end Statements

/-! ## The last buffer over an address -/

section Buffers

variable {op : SkOperation} {content : Fin skMaximumOperations → List UInt8}
  {is : List (Fin skMaximumOperations)}

theorem fillBuffers_last (hsorted : is.Pairwise (· < ·))
    (hlen : ∀ i ∈ is, ¬ (op.param i).Out → (content i).length = (op.param i).memorySize.toNat)
    {i : Fin skMaximumOperations} {a : Nat} (hi : i ∈ is) (hout : ¬ (op.param i).Out)
    (hcovers : (op.param i).Covers a)
    (hlast : ∀ j ∈ is, i < j → ¬ (op.param j).Out → ¬ (op.param j).Covers a) (mem : Mem) :
    fillBuffers op content is mem a = byteFor op content i a := by
  induction is generalizing mem with
  | nil => exact absurd hi List.not_mem_nil
  | cons k is ih =>
    obtain ⟨hfirst, hsorted⟩ := List.pairwise_cons.mp hsorted
    have htail := fun j hj => hlen j (List.mem_cons_of_mem _ hj)
    rw [fillBuffers, List.foldl_cons]
    rcases List.mem_cons.mp hi with rfl | hi
    · -- written now, and not again
      rw [if_neg hout]
      refine (fillBuffers_outside _ fun j hj hjout => ?_).trans ?_
      · have hmiss := hlast j (List.mem_cons_of_mem _ hj) (hfirst j hj) hjout
        rw [htail j hj hjout]
        unfold SkOpMeminfo.Covers at hmiss
        omega
      · have hsize := hlen i List.mem_cons_self hout
        exact if_pos ⟨hcovers.1, by rw [hsize]; exact hcovers.2⟩
    · exact ih hsorted htail hi (fun j hj => hlast j (List.mem_cons_of_mem _ hj)) _

theorem exists_lastOver {i : Fin skMaximumOperations} {a : Nat} (hi : i ∈ op.indices)
    (hout : ¬ (op.param i).Out) (hcovers : (op.param i).Covers a) : ∃ j, op.LastOver j a := by
  classical
  let covering := Finset.univ.filter fun j =>
    j ∈ op.indices ∧ ¬ (op.param j).Out ∧ (op.param j).Covers a
  have hmem : i ∈ covering := Finset.mem_filter.mpr ⟨Finset.mem_univ i, hi, hout, hcovers⟩
  obtain ⟨j, hj, hmax⟩ := covering.exists_max_image id ⟨i, hmem⟩
  obtain ⟨-, hjmem, hjout, hjcovers⟩ := Finset.mem_filter.mp hj
  refine ⟨j, hjmem, hjout, hjcovers, fun k hk hlt hkout hkcovers => ?_⟩
  have hle := hmax k (Finset.mem_filter.mpr ⟨Finset.mem_univ k, hk, hkout, hkcovers⟩)
  exact absurd hlt (not_lt.mpr hle)

/-- A buffer is read back byte by byte. -/
theorem read_eq_iff {mem : Mem} {i : Fin skMaximumOperations}
    (hlen : (content i).length = (op.param i).memorySize.toNat) :
    mem.read (op.param i).addr.toNat (op.param i).memorySize.toNat = content i ↔
      ∀ a, (op.param i).Covers a → mem a = byteFor op content i a := by
  constructor
  · rintro hread a ⟨hlo, hhi⟩
    have hlt : a - (op.param i).addr.toNat < (op.param i).memorySize.toNat := by omega
    rw [byteFor, ← hread, List.getD_eq_getElem _ _ (by rwa [Mem.length_read]), Mem.getElem_read,
      Nat.add_sub_cancel' hlo]
  · intro hbytes
    refine List.ext_getElem ((Mem.length_read _ _ _).trans hlen.symm) fun k hk hk' => ?_
    rw [Mem.length_read] at hk
    have hbyte := hbytes ((op.param i).addr.toNat + k) ⟨Nat.le_add_right _ _, by omega⟩
    rw [byteFor, Nat.add_sub_cancel_left, List.getD_eq_getElem _ _ hk'] at hbyte
    rw [Mem.getElem_read, hbyte]

/-- A buffer comes back whole exactly if no other one has spoilt it. -/
theorem read_fillBuffers_iff
    (hlen : ∀ i ∈ op.indices, ¬ (op.param i).Out →
      (content i).length = (op.param i).memorySize.toNat)
    {i : Fin skMaximumOperations} (hi : i ∈ op.indices) (hout : ¬ (op.param i).Out) (mem : Mem) :
    (fillBuffers op content op.indices mem).read (op.param i).addr.toNat
        (op.param i).memorySize.toNat = content i ↔
      ∀ j a, (op.param i).Covers a → op.LastOver j a →
        byteFor op content i a = byteFor op content j a := by
  rw [read_eq_iff (hlen i hi hout)]
  have hlast {j : Fin skMaximumOperations} {a : Nat} (hj : op.LastOver j a) :
      fillBuffers op content op.indices mem a = byteFor op content j a :=
    fillBuffers_last op.sorted_indices hlen hj.mem hj.not_out hj.covers hj.last mem
  constructor
  · intro hbytes j a ha hj
    rw [← hbytes a ha, hlast hj]
  · intro hagree a ha
    obtain ⟨j, hj⟩ := exists_lastOver hi hout ha
    rw [hlast hj, hagree j a ha hj]

end Buffers

/-! ## Both ways in one exchange -/

section Exchange

variable {word : Format UInt32 4} {platform : Platform} {maxMrecvSize : Nat}
  {call : NwldComm} {job : SwldJob}

/-- A buffer that is not sent along is found as `malloc` returned it. -/
theorem Arrived.goes_up_iff {received : SwldComm} (h : Arrived job.env call received)
    {op : SkOperation} (hop : call.op = some op) {i : Fin skMaximumOperations}
    (hi : i ∈ op.indices) (hflag : (op.param i).GoesUp) :
    received.heap.buffer (received.op.param i) = call.content op i ↔
      ((op.param i).flag = skTeecMemrefInout →
        (job.env.prior i).read 0 (op.param i).memorySize.toNat = call.content op i) := by
  have hboth : skTeecMemrefOut ≠ skTeecMemrefInout := by decide
  rcases hflag with hout | hinout
  · have hflag : (op.param i).Out := by
      rw [SkOpMeminfo.Out, hout]
      decide
    exact iff_of_true (h.out op hop i hi hflag) fun hinout => absurd (hout.symm.trans hinout) hboth
  · have hout : ¬ (op.param i).Out := SkOpMeminfo.ComesBack.not_out (Or.inr hinout)
    rw [h.prior op hop i hi hout]
    exact ⟨fun heq _ => heq, fun heq => heq hinout⟩

theorem both_ways_iff_of_arrived (h : Fits maxMrecvSize call job) {received : SwldComm}
    (harrived : Arrived job.env call received) :
    BothWays call job received (call.answered (job.process received)) ↔
      Coincides call job received := by
  have hdown {op : SkOperation} (hop : call.op = some op) {i : Fin skMaximumOperations}
      (hi : i ∈ op.indices) (hback : (op.param i).ComesBack) :=
    read_fillBuffers_iff (h.length_content harrived.toDelivered op hop) hi hback.not_out call.mem
  have hmem {op : SkOperation} (hop : call.op = some op) :
      (call.answered (job.process received)).2 =
        fillBuffers op (job.process received).content op.indices call.mem := by
    simp only [NwldComm.answered, hop]
  constructor
  · intro hboth
    refine ⟨fun op hop i hi hinout hsize => ?_, fun op hop i hi hback => ?_⟩
    · have hup := hboth.up op hop i hi (Or.inr hinout) hsize
      exact (harrived.goes_up_iff hop hi (Or.inr hinout)).mp hup hinout
    · have hread := hboth.down op hop i hi hback
      rw [hmem hop] at hread
      exact (hdown hop hi hback).mp hread
  · intro hsame
    refine ⟨fun op hop i hi hup hsize => ?_, fun op hop i hi hback => ?_⟩
    · refine (harrived.goes_up_iff hop hi hup).mpr fun hinout => ?_
      exact hsame.inout op hop i hi hinout hsize
    · rw [hmem hop]
      exact (hdown hop hi hback).mpr (hsame.overlap op hop i hi hback)

/-- In any interleaving of one exchange, from any state of the server, the buffers
go both ways exactly if every one flagged `SKTEEC_MEMREF_INOUT` is allocated over
the client's bytes, and those that come back agree where they overlap. -/
theorem both_ways_iff (word : Format UInt32 4) (platform : Platform) (maxMrecvSize : Nat)
    (call : NwldComm) (job : SwldJob) (s : SwldComm) (h : Fits maxMrecvSize call job) :
    ∃ received r e bound, Arrived job.env call received ∧
      (∀ k st, (transport word platform maxMrecvSize).Run k
        (Parties.initial [call] [job] s) st →
        (transport word platform maxMrecvSize).InStep e [r] [received] st ∧ k ≤ bound) ∧
      (BothWays call job received r ↔ Coincides call job received) := by
  obtain ⟨received, s', n, harrived, hmeets⟩ := h.meets word platform s
  exact ⟨received, _, s', _, harrived,
    fun k st hrun => Parties.inStep_of_run (.cons hmeets (.nil s')) hrun,
    both_ways_iff_of_arrived h harrived⟩

/-- A single buffer flagged `SKTEEC_MEMREF_INOUT`. -/
def inoutOperation : SkOperation := ⟨1, fun _ => ⟨2, skTeecMemrefInout, 0, .zero 16⟩⟩

theorem fits_inout : Fits 64 (sampleComm (some inoutOperation)) echoJob := by
  refine fits_echoJob _ fun o ho => ?_
  cases ho
  decide

/-- The bytes 4 and 5 of the client against the zeros that `malloc` returned. -/
theorem both_ways_iff_inout : ∃ received r e bound,
    Arrived echoJob.env (sampleComm (some inoutOperation)) received ∧
      (∀ k st, (transport le32 .tcp 64).Run k (Parties.initial
        [sampleComm (some inoutOperation)] [echoJob]
        ⟨.ofList [], 0, inoutOperation, fun _ => none⟩) st →
        (transport le32 .tcp 64).InStep e [r] [received] st ∧ k ≤ bound) ∧
      (BothWays (sampleComm (some inoutOperation)) echoJob received r ↔
        Coincides (sampleComm (some inoutOperation)) echoJob received) :=
  both_ways_iff le32 .tcp 64 (sampleComm (some inoutOperation)) echoJob _ fits_inout

/-- A buffer flagged `SKTEEC_MEMREF_INOUT` reaches the TApp on neither platform. -/
theorem inout_not_sent : ∃ call job, Fits 64 call job ∧ ∀ platform s,
    ∃ received r e bound,
      (∀ k st, (transport le32 platform 64).Run k (Parties.initial [call] [job] s) st →
        (transport le32 platform 64).InStep e [r] [received] st ∧ k ≤ bound) ∧
      ¬ BothWays call job received r := by
  refine ⟨sampleComm (some inoutOperation), echoJob, fits_inout, fun platform s => ?_⟩
  obtain ⟨received, s', n, harrived, hmeets⟩ := fits_inout.meets le32 platform s
  refine ⟨received, _, s', _,
    fun k st hrun => Parties.inStep_of_run (.cons hmeets (.nil s')) hrun, fun hboth => ?_⟩
  have hfirst : ⟨0, by decide⟩ ∈ inoutOperation.indices := by decide
  have hup := hboth.up inoutOperation rfl ⟨0, by decide⟩ hfirst (Or.inr rfl) (by decide)
  rw [harrived.prior inoutOperation rfl _ hfirst (by decide)] at hup
  exact absurd hup (by decide)

end Exchange

end SkSdk
