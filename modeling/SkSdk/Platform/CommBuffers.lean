import Mathlib.Data.Fin.VecNotation
import Mathlib.Tactic.FinCases
import SkSdk.Library.Duplex
import SkSdk.Nwld.Tapi

/-!
The operation on the wire, and the four loops over its parameters: the driver
sends and fills buffers of its own memory, the server those it allocates for the
message. `SKTEEC_MEMREF_OUT` alone decides which way a buffer goes.
-/

namespace SkSdk
open ByteMemory Duplex Duplex.Proc Format

/-! ## The operation in memory -/

/-- The ways a process stops without returning: it leaves what it may access, or
the loop of `sk_swld_tapi_dispatch` has ended. -/
inductive CommFault
  | overrun
  | outOfRange
  | badPointer
  | ended
  deriving DecidableEq

abbrev Comm (α : Type) := Proc UInt8 CommFault α

abbrev messageHeaderSize : Nat := 4
abbrev sizeofSkOperation : Nat := 116

def SkOpMeminfo.equiv : UInt32 × UInt32 × UInt32 × MemoryId ≃ SkOpMeminfo where
  toFun p := ⟨p.1, p.2.1, p.2.2.1, p.2.2.2⟩
  invFun m := (m.memorySize, m.flag, m.addr, m.id)
  left_inv _ := rfl
  right_inv _ := rfl

def SkOperation.equiv :
    UInt32 × SkOpMeminfo × SkOpMeminfo × SkOpMeminfo × SkOpMeminfo ≃ SkOperation where
  toFun p := ⟨p.1, ![p.2.1, p.2.2.1, p.2.2.2.1, p.2.2.2.2]⟩
  invFun op := (op.numParam, op.param ⟨0, by decide⟩, op.param ⟨1, by decide⟩,
    op.param ⟨2, by decide⟩, op.param ⟨3, by decide⟩)
  left_inv _ := rfl
  right_inv op := by
    obtain ⟨numParam, param⟩ := op
    refine congrArg (SkOperation.mk numParam) (funext fun i => ?_)
    fin_cases i <;> rfl

section Words

-- a `uint32_t` as both worlds hold it in memory
variable (word : Format UInt32 4)

def memFormat : Format SkOpMeminfo 28 :=
  (word.seq (word.seq (word.seq (Format.blk 16)))).iso SkOpMeminfo.equiv

/-- `sk_operation`, the structure as it lies in memory. -/
def opFormat : Format SkOperation sizeofSkOperation :=
  (word.seq ((memFormat word).seq ((memFormat word).seq
    ((memFormat word).seq (memFormat word))))).iso SkOperation.equiv

/-- A value of which the first bytes have been overwritten. -/
def patch {α : Type} {n : Nat} (f : Format α n) (a : α) (bs : List UInt8) : α :=
  f.dec (bs ++ (f.enc a).drop bs.length)

theorem patch_enc {α : Type} {n : Nat} (f : Format α n) (a b : α) : patch f a (f.enc b) = b := by
  have hdrop : (f.enc a).drop (f.enc b).length = [] :=
    List.drop_eq_nil_of_le (by rw [f.length_enc, f.length_enc])
  rw [patch, hdrop, List.append_nil, f.dec_enc]

theorem patch_nil {α : Type} {n : Nat} (f : Format α n) (a : α) : patch f a [] = a :=
  f.dec_enc a

end Words

/-- The buffer goes to the secure world. -/
abbrev SkOpMeminfo.Out (m : SkOpMeminfo) : Prop := m.flag &&& skTeecMemrefOut ≠ 0

namespace SkOperation

/-- The parameters that a loop over `num_param` comes to, inside the array. -/
def indices (op : SkOperation) : List (Fin skMaximumOperations) :=
  (List.finRange skMaximumOperations).take op.numParam.toNat

/-- The end of such a loop, which goes past the array if `num_param` does. -/
def loopEnd {α : Type} (op : SkOperation) (a : α) : Comm α :=
  if skMaximumOperations < op.numParam.toNat then .fail .outOfRange else .ret a

def setAddr (op : SkOperation) (i : Fin skMaximumOperations) (a : UInt32) : SkOperation :=
  { op with param := Function.update op.param i { op.param i with addr := a } }

/-- The same count, sizes and flags. -/
structure SameShape (op op' : SkOperation) : Prop where
  numParam : op'.numParam = op.numParam
  memorySize : ∀ i, (op'.param i).memorySize = (op.param i).memorySize
  flag : ∀ i, (op'.param i).flag = (op.param i).flag

end SkOperation

namespace SkOperation

variable (op : SkOperation) (i : Fin skMaximumOperations) (a : UInt32)

@[simp] theorem setAddr_numParam : (op.setAddr i a).numParam = op.numParam := rfl

@[simp] theorem setAddr_memorySize (j : Fin skMaximumOperations) :
    ((op.setAddr i a).param j).memorySize = (op.param j).memorySize := by
  rcases eq_or_ne j i with rfl | hne <;> simp [setAddr, *]

@[simp] theorem setAddr_flag (j : Fin skMaximumOperations) :
    ((op.setAddr i a).param j).flag = (op.param j).flag := by
  rcases eq_or_ne j i with rfl | hne <;> simp [setAddr, *]

@[simp] theorem setAddr_id (j : Fin skMaximumOperations) :
    ((op.setAddr i a).param j).id = (op.param j).id := by
  rcases eq_or_ne j i with rfl | hne <;> simp [setAddr, *]

@[simp] theorem setAddr_addr : ((op.setAddr i a).param i).addr = a := by
  simp [setAddr]

theorem setAddr_other {j : Fin skMaximumOperations} (h : j ≠ i) :
    (op.setAddr i a).param j = op.param j :=
  Function.update_of_ne h _ _

variable {op}

theorem SameShape.refl (op : SkOperation) : op.SameShape op :=
  ⟨rfl, fun _ => rfl, fun _ => rfl⟩

theorem SameShape.trans {op' op'' : SkOperation} (h : op.SameShape op')
    (h' : op'.SameShape op'') : op.SameShape op'' where
  numParam := h'.numParam.trans h.numParam
  memorySize j := (h'.memorySize j).trans (h.memorySize j)
  flag j := (h'.flag j).trans (h.flag j)

theorem sameShape_setAddr (op : SkOperation) : op.SameShape (op.setAddr i a) :=
  ⟨rfl, op.setAddr_memorySize i a, op.setAddr_flag i a⟩

theorem SameShape.indices {op' : SkOperation} (h : op.SameShape op') :
    op'.indices = op.indices := by
  rw [SkOperation.indices, SkOperation.indices, h.numParam]

theorem nodup_indices (op : SkOperation) : op.indices.Nodup :=
  (List.nodup_finRange _).sublist (List.take_sublist _ _)

theorem loopEnd_of_le {α : Type} (h : op.numParam.toNat ≤ skMaximumOperations) (x : α) :
    op.loopEnd x = .ret x :=
  if_neg (Nat.not_lt.mpr h)

end SkOperation

/-- The blocks that `malloc` has handed out, by address. -/
abbrev Heap := UInt32 → Option (List UInt8)

namespace Heap

/-- A call of `malloc` that returned `a`, null if it failed. -/
def alloc (heap : Heap) (a : UInt32) (block : List UInt8) : Heap :=
  if a = 0 then heap else Function.update heap a (some block)

/-- `bs` stored from the start of the block at `a`. -/
def store (heap : Heap) (a : UInt32) (bs : List UInt8) : Heap :=
  Function.update heap a ((heap a).map fun block => bs ++ block.drop bs.length)

/-- The first `n` bytes of the block at `a`. -/
def load (heap : Heap) (a : UInt32) (n : Nat) : Option (List UInt8) :=
  if n = 0 then some [] else
    (heap a).bind fun block => if n ≤ block.length then some (block.take n) else none

def free (heap : Heap) (a : UInt32) : Heap := Function.update heap a none

/-- The bytes of a parameter's buffer. -/
def buffer (heap : Heap) (m : SkOpMeminfo) : List UInt8 :=
  (heap.load m.addr m.memorySize.toNat).getD []

end Heap

/-! ## The loops of the driver -/

section Loops

variable (word : Format UInt32 4)

/-- Sends the buffers that are flagged with `SKTEEC_MEMREF_OUT`. -/
def sendBuffers (mem : Mem) (op : SkOperation) : List (Fin skMaximumOperations) → Comm Unit
  | [] => op.loopEnd ()
  | i :: is =>
    if (op.param i).Out ∧ (op.param i).memorySize ≠ 0 then do
      send (mem.read (op.param i).addr.toNat (op.param i).memorySize.toNat)
      sendBuffers mem op is
    else sendBuffers mem op is

/-- Fills the other buffers with what arrives for them. -/
def recvBuffers (op : SkOperation) : List (Fin skMaximumOperations) → Mem → Comm (SkStatus × Mem)
  | [], mem => op.loopEnd (skErrorSuccess, mem)
  | i :: is, mem =>
    if (op.param i).Out then recvBuffers op is mem
    else do
      let header ← recv 4
      let nbytes := word.dec header
      if header.length ≠ 4 then .ret (skErrorCommReadFailed, mem)
      else if (op.param i).memorySize < nbytes then .ret (skErrorCommReadFailed, mem)
      else do
        let data ← recv nbytes.toNat
        let mem := mem.write (op.param i).addr.toNat data
        if data.length ≠ nbytes.toNat then .ret (skErrorCommReadFailed, mem)
        else recvBuffers op is mem

/-! ## The loops of the server -/

/-- What one message meets outside the server: the addresses that `malloc`
returns for the parameters with the prior bytes there, and the prior value of
the local `op_size`. -/
structure SwldCommEnv where
  malloc : Fin skMaximumOperations → UInt32
  prior : Fin skMaximumOperations → Mem
  opSize : UInt32

/-- Allocates a buffer for every parameter and fills those that are flagged with
`SKTEEC_MEMREF_OUT`. A null buffer is refused by the read. -/
def recvParams (env : SwldCommEnv) (err : SkStatus) :
    List (Fin skMaximumOperations) → SkOperation → Heap → Comm (SkStatus × SkOperation × Heap)
  | [], op, heap => op.loopEnd (err, op, heap)
  | i :: is, op, heap =>
    let size := (op.param i).memorySize
    if size = 0 then recvParams env err is (op.setAddr i 0) heap
    else
      let addr := env.malloc i
      let heap := heap.alloc addr ((env.prior i).read 0 size.toNat)
      if (op.param i).Out then
        if addr = 0 then .ret (skErrorCommReadFailed, op.setAddr i addr, heap)
        else do
          let bytes ← recv size.toNat
          let heap := heap.store addr bytes
          if bytes.length ≠ size.toNat then
            .ret (skErrorCommReadFailed, op.setAddr i addr, heap)
          else recvParams env err is (op.setAddr i addr) heap
      else recvParams env err is (op.setAddr i addr) heap

/-- `free`, unless the pointer is null. -/
def freeParam (heap : Heap) (addr : UInt32) : Comm Heap :=
  if addr = 0 then .ret heap
  else if (heap addr).isSome then .ret (heap.free addr) else .fail .badPointer

/-- Sends the size and the bytes of the other buffers, and frees every buffer. -/
def sendParams (op : SkOperation) :
    List (Fin skMaximumOperations) → Heap → Comm (SkStatus × Heap)
  | [], heap => op.loopEnd (skErrorSuccess, heap)
  | i :: is, heap =>
    let mem := op.param i
    if mem.Out then do
      let heap ← freeParam heap mem.addr
      sendParams op is heap
    else do
      send (word.enc mem.memorySize)
      if mem.addr = 0 ∧ mem.memorySize ≠ 0 then .ret (skErrorCommSendFailed, heap)
      else
        match heap.load mem.addr mem.memorySize.toNat with
        | none => .fail .badPointer
        | some bytes => do
          send bytes
          let heap ← freeParam heap mem.addr
          sendParams op is heap

end Loops

/-! ## What travels -/

section Bytes

variable (word : Format UInt32 4) (op : SkOperation)
  (content : Fin skMaximumOperations → List UInt8) (is : List (Fin skMaximumOperations))

/-- The buffers on their way to the server. -/
def upBytes : List UInt8 :=
  is.flatMap fun i => if (op.param i).Out ∧ (op.param i).memorySize ≠ 0 then content i else []

/-- The buffers on their way back, each after its size. -/
def downBytes : List UInt8 :=
  is.flatMap fun i =>
    if (op.param i).Out then [] else word.enc (op.param i).memorySize ++ content i

/-- The driver's memory once the buffers have come back, one after the other. -/
def fillBuffers (mem : Mem) : Mem :=
  is.foldl (fun m i => if (op.param i).Out then m else m.write (op.param i).addr.toNat (content i))
    mem

variable {op} {op' : SkOperation}

theorem upBytes_congr (h : op.SameShape op') : upBytes op' content is = upBytes op content is := by
  simp only [upBytes, SkOpMeminfo.Out, h.flag, h.memorySize]

theorem downBytes_congr (h : op.SameShape op') :
    downBytes word op' content is = downBytes word op content is := by
  simp only [downBytes, SkOpMeminfo.Out, h.flag, h.memorySize]

end Bytes

section Loops

variable {word : Format UInt32 4} {op : SkOperation}
  {content : Fin skMaximumOperations → List UInt8} {is : List (Fin skMaximumOperations)}

theorem writes_sendBuffers (mem : Mem) (hn : op.numParam.toNat ≤ skMaximumOperations)
    (is : List (Fin skMaximumOperations)) :
    (sendBuffers mem op is).Writes
      (upBytes op (fun i => mem.read (op.param i).addr.toNat (op.param i).memorySize.toNat) is)
      (.ret ()) := by
  induction is with
  | nil =>
    rw [sendBuffers, op.loopEnd_of_le hn]
    exact .done _
  | cons i is ih =>
    rw [sendBuffers, upBytes, List.flatMap_cons]
    split
    · exact (writes_send _).seq ih
    · exact ih

theorem reads_recvBuffers (hn : op.numParam.toNat ≤ skMaximumOperations)
    (hlen : ∀ i ∈ is, ¬ (op.param i).Out → (content i).length = (op.param i).memorySize.toNat)
    (mem : Mem) :
    (recvBuffers word op is mem).Reads (downBytes word op content is)
      (.ret (skErrorSuccess, fillBuffers op content is mem)) := by
  induction is generalizing mem with
  | nil =>
    rw [recvBuffers, op.loopEnd_of_le hn]
    exact .done _
  | cons i is ih =>
    rw [recvBuffers, downBytes, fillBuffers, List.flatMap_cons, List.foldl_cons]
    have hrest := ih fun j hj => hlen j (List.mem_cons_of_mem _ hj)
    split
    · exact hrest mem
    · next hout =>
      have hdata := hlen i List.mem_cons_self hout
      have hsize := word.length_enc (op.param i).memorySize
      rw [List.append_assoc]
      refine (reads_recv hsize).seq ?_
      simp only [word.dec_enc, hsize, ne_eq, not_true_eq_false, ↓reduceIte, UInt32.lt_irrefl]
      refine (reads_recv hdata).seq ?_
      simp only [hdata, not_true_eq_false, ↓reduceIte]
      exact hrest _

/-- The bytes of a buffer that has been allocated and, if it is sent along, filled. -/
def SwldCommEnv.placed (env : SwldCommEnv) (content : Fin skMaximumOperations → List UInt8)
    (m : SkOpMeminfo) (i : Fin skMaximumOperations) : List UInt8 :=
  if m.Out then content i else (env.prior i).read 0 m.memorySize.toNat

/-- What `recvParams` makes of the operation and the heap: an address for every
buffer, null for an empty one, and the bytes that arrived for it or those that
were there before. -/
structure Placed (env : SwldCommEnv) (content : Fin skMaximumOperations → List UInt8)
    (is : List (Fin skMaximumOperations)) (op op' : SkOperation) (heap heap' : Heap) : Prop where
  shape : op.SameShape op'
  id : ∀ i, (op'.param i).id = (op.param i).id
  addr : ∀ i ∈ is, (op'.param i).addr = if (op.param i).memorySize = 0 then 0 else env.malloc i
  other : ∀ i ∉ is, op'.param i = op.param i
  block : ∀ i ∈ is, (op.param i).memorySize ≠ 0 →
    heap' (env.malloc i) = some (env.placed content (op.param i) i)
  frame : ∀ a, (∀ i ∈ is, (op.param i).memorySize ≠ 0 → a ≠ env.malloc i) → heap' a = heap a

/-- No call of `malloc` fails, and the blocks of one message lie apart. -/
structure SwldCommEnv.Allocates (env : SwldCommEnv) : Prop where
  ne_null : ∀ i, env.malloc i ≠ 0
  apart : Function.Injective env.malloc

/-- One parameter, and then the others as `h` has them. -/
theorem Placed.cons {env : SwldCommEnv} {i : Fin skMaximumOperations} {op' : SkOperation}
    {heap heap₁ heap' : Heap} {addr : UInt32} (halloc : env.Allocates) (hi : i ∉ is)
    (haddr : addr = if (op.param i).memorySize = 0 then 0 else env.malloc i)
    (hblock : (op.param i).memorySize ≠ 0 →
      heap₁ (env.malloc i) = some (env.placed content (op.param i) i))
    (hframe : ∀ a, ((op.param i).memorySize ≠ 0 → a ≠ env.malloc i) → heap₁ a = heap a)
    (h : Placed env content is (op.setAddr i addr) op' heap₁ heap') :
    Placed env content (i :: is) op op' heap heap' where
  shape := (SkOperation.sameShape_setAddr i addr op).trans h.shape
  id j := by rw [h.id j, SkOperation.setAddr_id]
  addr j hj := by
    rcases List.mem_cons.mp hj with rfl | hj
    · rw [h.other j hi, SkOperation.setAddr_addr, haddr]
    · rw [h.addr j hj, SkOperation.setAddr_memorySize]
  other j hj := by
    obtain ⟨hne, hj⟩ := not_or.mp (mt List.mem_cons.mpr hj)
    rw [h.other j hj, SkOperation.setAddr_other _ _ _ hne]
  block j hj hsize := by
    rcases List.mem_cons.mp hj with rfl | hj
    · rw [h.frame _ fun k hk _ => halloc.apart.ne (ne_of_mem_of_not_mem hk hi).symm,
        hblock hsize]
    · have hblock := h.block j hj (by rwa [SkOperation.setAddr_memorySize])
      simpa only [SwldCommEnv.placed, SkOpMeminfo.Out, SkOperation.setAddr_memorySize,
        SkOperation.setAddr_flag] using hblock
  frame a ha := by
    rw [h.frame a fun j hj hsize => ha j (List.mem_cons_of_mem _ hj)
      (by rwa [SkOperation.setAddr_memorySize] at hsize)]
    exact hframe a (ha i List.mem_cons_self)

theorem reads_recvParams {env : SwldCommEnv} (err : SkStatus) (halloc : env.Allocates)
    (hn : op.numParam.toNat ≤ skMaximumOperations)
    (hlen : ∀ i, (content i).length = (op.param i).memorySize.toNat) (hnodup : is.Nodup)
    (heap : Heap) :
    ∃ op' heap', (recvParams env err is op heap).Reads (upBytes op content is)
      (.ret (err, op', heap')) ∧ Placed env content is op op' heap heap' := by
  induction is generalizing op heap with
  | nil =>
    refine ⟨op, heap, ?_, .refl op, fun _ => rfl, ?_, fun _ _ => rfl, ?_, fun _ _ => rfl⟩
    · rw [recvParams, op.loopEnd_of_le hn]
      exact .done _
    · exact fun _ hj => absurd hj List.not_mem_nil
    · exact fun _ hj => absurd hj List.not_mem_nil
  | cons i is ih =>
    obtain ⟨hi, hnodup⟩ := List.nodup_cons.mp hnodup
    have hrest (addr : UInt32) (heap₁ : Heap) := @ih (op.setAddr i addr) hn
      (by simpa only [SkOperation.setAddr_memorySize] using hlen) hnodup heap₁
    simp only [upBytes_congr content is (op.sameShape_setAddr i _)] at hrest
    rw [upBytes, List.flatMap_cons]
    by_cases hsize : (op.param i).memorySize = 0
    · -- nothing is allocated
      obtain ⟨op', heap', hreads, hplaced⟩ := hrest 0 heap
      refine ⟨op', heap', ?_, hplaced.cons halloc hi (if_pos hsize).symm
        (fun hne => absurd hsize hne) fun _ _ => rfl⟩
      rw [recvParams, if_pos hsize, if_neg fun h => h.2 hsize]
      exact hreads
    have hnull := halloc.ne_null i
    by_cases hout : (op.param i).Out
    · let block := (env.prior i).read 0 (op.param i).memorySize.toNat
      obtain ⟨op', heap', hreads, hplaced⟩ := hrest (env.malloc i)
        ((heap.alloc (env.malloc i) block).store (env.malloc i) (content i))
      refine ⟨op', heap', ?_, hplaced.cons halloc hi (if_neg hsize).symm ?_ ?_⟩
      · rw [recvParams]
        simp only [if_neg hsize, if_pos hout, if_neg hnull, if_pos (And.intro hout hsize)]
        refine (reads_recv (hlen i)).seq ?_
        simp only [hlen i, ne_eq, not_true_eq_false, ↓reduceIte]
        exact hreads
      · intro _
        have hdrop : block.drop (content i).length = [] :=
          List.drop_eq_nil_of_le (by rw [Mem.length_read, hlen i])
        rw [Heap.store, Function.update_self, Heap.alloc, if_neg hnull, Function.update_self,
          Option.map_some, hdrop, List.append_nil, SwldCommEnv.placed, if_pos hout]
      · intro a ha
        rw [Heap.store, Function.update_of_ne (ha hsize), Heap.alloc, if_neg hnull,
          Function.update_of_ne (ha hsize)]
    · obtain ⟨op', heap', hreads, hplaced⟩ := hrest (env.malloc i)
        (heap.alloc (env.malloc i) ((env.prior i).read 0 (op.param i).memorySize.toNat))
      refine ⟨op', heap', ?_, hplaced.cons halloc hi (if_neg hsize).symm ?_ ?_⟩
      · rw [recvParams]
        simp only [if_neg hsize, if_neg hout, if_neg fun h : _ ∧ _ => hout h.1]
        exact hreads
      · intro _
        rw [Heap.alloc, if_neg hnull, Function.update_self, SwldCommEnv.placed, if_neg hout]
      · intro a ha
        rw [Heap.alloc, if_neg hnull, Function.update_of_ne (ha hsize)]

/-- Every buffer of the operation is one that can be sent back and freed, and
those that are sent back hold `content`. -/
structure Holds (op : SkOperation) (heap : Heap) (content : Fin skMaximumOperations → List UInt8)
    (is : List (Fin skMaximumOperations)) : Prop where
  live : ∀ i ∈ is, (op.param i).addr ≠ 0 → (heap (op.param i).addr).isSome
  ne_null : ∀ i ∈ is, ¬ (op.param i).Out → (op.param i).memorySize ≠ 0 → (op.param i).addr ≠ 0
  load : ∀ i ∈ is, ¬ (op.param i).Out →
    heap.load (op.param i).addr (op.param i).memorySize.toNat = some (content i)
  apart : ∀ i ∈ is, ∀ j ∈ is, i ≠ j → (op.param i).addr ≠ 0 →
    (op.param i).addr ≠ (op.param j).addr

theorem Heap.length_load {heap : Heap} {a : UInt32} {n : Nat} {bs : List UInt8}
    (h : heap.load a n = some bs) : bs.length = n := by
  unfold Heap.load at h
  split at h
  · next hn =>
    cases h
    exact hn.symm
  · obtain ⟨block, -, hblock⟩ := Option.bind_eq_some_iff.mp h
    split at hblock
    · next hle =>
      cases hblock
      rw [List.length_take, Nat.min_eq_left hle]
    · cases hblock

theorem Heap.load_congr {heap heap' : Heap} {a : UInt32} (h : heap' a = heap a) (n : Nat) :
    heap'.load a n = heap.load a n := by
  rw [Heap.load, Heap.load, h]

theorem Heap.load_of_block {heap : Heap} {a : UInt32} {block : List UInt8} {n : Nat}
    (hn : block.length = n) (h : n ≠ 0 → heap a = some block) : heap.load a n = some block := by
  unfold Heap.load
  split
  · next hzero => rw [List.length_eq_zero_iff.mp (hn.trans hzero)]
  · next hne => rw [h hne, Option.bind_some, if_pos hn.ge, List.take_of_length_le hn.le]

/-- A buffer that has just been allocated holds what arrived for it, or what was
there before. -/
theorem Placed.load {env : SwldCommEnv} {op' : SkOperation} {heap heap' : Heap}
    (h : Placed env content is op op' heap heap')
    (hlen : ∀ i, (content i).length = (op.param i).memorySize.toNat)
    {i : Fin skMaximumOperations} (hi : i ∈ is) :
    heap'.load (op'.param i).addr (op'.param i).memorySize.toNat =
      some (env.placed content (op.param i) i) := by
  rw [h.shape.memorySize i]
  apply Heap.load_of_block
  · unfold SwldCommEnv.placed
    split
    · exact hlen i
    · exact Mem.length_read _ _ _
  · intro hsize
    have hsize : (op.param i).memorySize ≠ 0 := fun hzero => hsize (hzero ▸ rfl)
    rw [h.addr i hi, if_neg hsize, h.block i hi hsize]

theorem Placed.holds {env : SwldCommEnv} {op' : SkOperation} {heap heap' : Heap}
    (h : Placed env content is op op' heap heap') (halloc : env.Allocates)
    (hlen : ∀ i, (content i).length = (op.param i).memorySize.toNat) :
    Holds op' heap' (fun i => heap'.buffer (op'.param i)) is where
  live i hi haddr := by
    rw [h.addr i hi] at haddr ⊢
    split at haddr
    · exact absurd rfl haddr
    · next hsize => rw [if_neg hsize, h.block i hi hsize, Option.isSome_some]
  ne_null i hi _ hsize := by
    rw [h.shape.memorySize i] at hsize
    rw [h.addr i hi, if_neg hsize]
    exact halloc.ne_null i
  load i hi _ := by
    rw [Heap.buffer, h.load hlen hi, Option.getD_some]
  apart i hi j hj hne haddr := by
    rw [h.addr i hi] at haddr ⊢
    rw [h.addr j hj]
    split at haddr
    · exact absurd rfl haddr
    · next hsize =>
      rw [if_neg hsize]
      split
      · exact halloc.ne_null i
      · exact halloc.apart.ne hne

/-- Freeing a buffer leaves the others as they are. -/
theorem Holds.free {i : Fin skMaximumOperations} {heap : Heap}
    (h : Holds op heap content (i :: is)) (hi : i ∉ is) :
    ∃ heap', freeParam heap (op.param i).addr = .ret heap' ∧ Holds op heap' content is := by
  have htail : Holds op heap content is := by
    refine ⟨fun j hj => h.live j ?_, fun j hj => h.ne_null j ?_, fun j hj => h.load j ?_,
      fun j hj k hk => h.apart j ?_ k ?_⟩ <;> exact List.mem_cons_of_mem _ ‹_›
  by_cases hnull : (op.param i).addr = 0
  · exact ⟨heap, if_pos hnull, htail⟩
  · have hlive := h.live i List.mem_cons_self hnull
    refine ⟨heap.free (op.param i).addr, (if_neg hnull).trans (if_pos hlive), ?_⟩
    have hother (j : Fin skMaximumOperations) (hj : j ∈ is) :
        heap.free (op.param i).addr (op.param j).addr = heap (op.param j).addr := by
      refine Function.update_of_ne (Ne.symm ?_) _ _
      exact h.apart i List.mem_cons_self j (List.mem_cons_of_mem _ hj)
        (ne_of_mem_of_not_mem hj hi).symm hnull
    refine ⟨fun j hj hne => ?_, htail.ne_null, fun j hj hout => ?_, htail.apart⟩
    · rw [hother j hj]
      exact htail.live j hj hne
    · rw [Heap.load_congr (hother j hj)]
      exact htail.load j hj hout

theorem writes_sendParams (word : Format UInt32 4) (hn : op.numParam.toNat ≤ skMaximumOperations)
    (hnodup : is.Nodup) {heap : Heap} (h : Holds op heap content is) :
    ∃ heap', (sendParams word op is heap).Writes (downBytes word op content is)
      (.ret (skErrorSuccess, heap')) := by
  induction is generalizing heap with
  | nil =>
    refine ⟨heap, ?_⟩
    rw [sendParams, op.loopEnd_of_le hn]
    exact .done _
  | cons i is ih =>
    obtain ⟨hi, hnodup⟩ := List.nodup_cons.mp hnodup
    obtain ⟨freed, hfree, hholds⟩ := h.free hi
    obtain ⟨heap', hwrites⟩ := ih hnodup hholds
    refine ⟨heap', ?_⟩
    rw [sendParams, downBytes, List.flatMap_cons]
    by_cases hout : (op.param i).Out
    · simp only [if_pos hout, hfree]
      exact hwrites
    · have hload := h.load i List.mem_cons_self hout
      have hnull : ¬ ((op.param i).addr = 0 ∧ (op.param i).memorySize ≠ 0) := fun hnull =>
        h.ne_null i List.mem_cons_self hout hnull.2 hnull.1
      simp only [if_neg hout, if_neg hnull, hload, hfree, List.append_assoc]
      exact (writes_send _).seq ((writes_send _).seq hwrites)

end Loops

end SkSdk
