import SkSdk.Platform.Receiver
import SkSdk.Swld.ServerInvariant
import SkSdk.Swld.TapiDispatch

/-!
What the client learns of the server's heap. The receive allocates a buffer for
every parameter and fills those that are flagged with `SKTEEC_MEMREF_OUT`; the
send returns the others whole, whether or not a TApp has written them and also
where the request was refused.
-/

namespace SkSdk
open ByteMemory Duplex Duplex.Proc Format FaultState

/-! ## One exchange of the server -/

/-- A byte that a TApp stores in a block. -/
structure TappStore where
  addr : UInt32
  offset : Nat
  byte : UInt8

/-- What one exchange meets: `malloc`, the surroundings of the server, the prior
bytes of its local `msg`, and the bytes that the TApp stores when it is called. -/
structure Turn where
  env : SwldCommEnv
  swldEnv : Env
  msg : SkMsg
  stores : SkSwldTappInstance → UInt32 → SkOperation → List TappStore

/-- The same with other bytes in the memory that `malloc` returns. -/
def Turn.withPrior (x : Turn) (prior : Fin skMaximumOperations → Mem) : Turn :=
  { x with env := { x.env with prior } }

def Heap.poke (heap : Heap) (st : TappStore) : Heap :=
  Function.update heap st.addr ((heap st.addr).map fun block => block.set st.offset st.byte)

/-- The stores of the calls that the server has made. -/
def Turn.made (x : Turn) (events : List Event) : List TappStore :=
  events.flatMap fun
    | .pull tapp cmd op => x.stores tapp cmd op
    | _ => []

def Turn.exchange (x : Turn) (bytes : List UInt8) (op : SkOperation) : Exchange where
  request := ⟨bytes, op, x.swldEnv⟩
  recv := 0
  send := 0
  msg := x.msg

section Exchange

variable (word : Format UInt32 4) (maxMrecvSize : Nat) (platform : Platform) (cfg : Config)

/-- One pass of the loop of `sk_swld_tapi_dispatch`: receive, process and send. -/
def serveOnce (x : Turn) (swld : Server) (s : SwldComm) : Comm Unit := do
  let (err, received) ← platform.skSwldPlatformCommRecv word maxMrecvSize x.env
    { s with op := { s.op with numParam := 0 } }
  if err ≠ skErrorSuccess then .fail .ended
  else
    match dispatchOnce cfg (x.exchange (received.buf.read 0 received.bufLen.toNat) received.op)
      swld with
    | .ok ((_, [sent]), swld') => do
      let heap := (x.made swld'.events).foldl Heap.poke received.heap
      let _ ← platform.skSwldPlatformCommSend word (Mem.ofList sent.bytes)
        (UInt32.ofNat sent.bytes.length) sent.op heap
      .ret ()
    | _ => .fail .ended

end Exchange

/-! ## What is received -/

/-- The operation with the addresses of the allocated buffers. -/
def placedOp (env : SwldCommEnv) (op : SkOperation) : SkOperation where
  numParam := op.numParam
  param i :=
    if i ∈ op.indices then
      { op.param i with addr := if (op.param i).memorySize = 0 then 0 else env.malloc i }
    else op.param i

/-- The message is complete, within the limits, and so are its buffers. -/
structure Whole (word : Format UInt32 4) (maxMrecvSize : Nat) (p : Pass) : Prop where
  header : (p.message word).header.length = messageHeaderSize
  body : (p.message word).body.length = (p.message word).bufLen.toNat
  fits : (p.message word).bufLen.toNat ≤ maxMrecvSize
  opHeader : (p.message word).opHeader.length = 4
  opBody : (p.message word).opBody.length = (p.message word).opSize.toNat
  opFits : (p.message word).opSize.toNat ≤ sizeofSkOperation
  numParam : (p.message word).op.numParam.toNat ≤ skMaximumOperations
  params : paramsArrive p.env (p.message word).op (p.message word).op.indices
    (p.message word).rest = true

section Receive

variable {word : Format UInt32 4} {maxMrecvSize : Nat} {platform : Platform} {p : Pass}

theorem silent_recvInto (cap n : Nat) : (recvInto cap n).Silent := by
  refine (silent_recv n).bind fun bytes => ?_
  split <;> trivial

theorem silent_recvParams (env : SwldCommEnv) (err : SkStatus) (is : List (Fin skMaximumOperations))
    (op : SkOperation) (heap : Heap) : (recvParams env err is op heap).Silent := by
  induction is generalizing op heap with
  | nil =>
    rw [recvParams, SkOperation.loopEnd]
    split <;> trivial
  | cons i is ih =>
    rw [recvParams]
    dsimp only
    split
    · exact ih _ _
    split
    · split
      · trivial
      · refine (silent_recv _).bind fun bytes => ?_
        split
        · trivial
        · exact ih _ _
    · exact ih _ _

theorem silent_commRecv (env : SwldCommEnv) (s : SwldComm) :
    (platform.skSwldPlatformCommRecv word maxMrecvSize env s).Silent := by
  cases platform with
  | tcp =>
    refine (silent_recv _).bind fun _ => (silent_recvInto _ _).bind fun _ =>
      (silent_recv _).bind fun _ => ?_
    dsimp only
    split
    · trivial
    · exact (silent_recvInto _ _).bind fun _ => (silent_recvParams _ _ _ _ _).bind fun _ => trivial
  | fiasco =>
    refine (silent_recv _).bind fun _ => ?_
    dsimp only
    split
    · trivial
    refine (silent_recvInto _ _).bind fun _ => ?_
    split
    · trivial
    refine (silent_recv _).bind fun _ => ?_
    split
    · trivial
    split
    · trivial
    refine (silent_recvInto _ _).bind fun _ => ?_
    split
    · trivial
    · exact (silent_recvParams _ _ _ _ _).bind fun _ => trivial

theorem result_of_whole (h : Whole word maxMrecvSize p) :
    ((platform.skSwldPlatformCommRecv word maxMrecvSize p.env p.start).run p.supply).result =
      p.recvOp word skErrorSuccess := by
  have hbody := Nat.not_lt.mpr h.fits
  have hop := Nat.not_lt.mpr h.opFits
  -- without an operation the loop over the parameters has nothing to do
  have hnone (hsize : (p.message word).opSize = 0) : p.recvOp word skErrorSuccess =
      .ok (skErrorSuccess, ⟨p.start.buf.write 0 (p.message word).body, (p.message word).bufLen,
        p.start.op, p.start.heap⟩) := by
    have hindices : p.start.op.indices = [] := indices_of_numParam_eq_zero rfl
    rw [Pass.recvOp, (message_of_opSize_eq_zero hsize).2, hindices]
    rfl
  cases platform with
  | tcp =>
    refine Tcp.result_eq.trans ?_
    simp only [h.header, h.body, h.opHeader, h.opBody, ne_eq, not_true_eq_false, hbody, hop,
      ↓reduceIte]
    split
    · next hsize => exact (hnone hsize).symm
    · rfl
  | fiasco =>
    refine Fiasco.result_eq.trans ?_
    simp only [h.header, h.body, h.opHeader, h.opBody, ne_eq, not_true_eq_false, or_self, hbody,
      hop, ↓reduceIte]
    split
    · next hsize => exact (hnone hsize).symm
    · rfl

theorem ite_readFailed {c : Prop} [Decidable c] {err : SkStatus} :
    (if c then skErrorCommReadFailed else err) = skErrorSuccess ↔ ¬ c ∧ err = skErrorSuccess := by
  have hfailed : skErrorCommReadFailed ≠ skErrorSuccess := by decide
  split <;> simp [*]

theorem whole_of_opSize_eq_zero (hsize : (p.message word).opSize = 0)
    (hheader : (p.message word).header.length = messageHeaderSize)
    (hbody : (p.message word).body.length = (p.message word).bufLen.toNat)
    (hfits : (p.message word).bufLen.toNat ≤ maxMrecvSize)
    (hopHeader : (p.message word).opHeader.length = 4) : Whole word maxMrecvSize p := by
  obtain ⟨hnil, hop⟩ := message_of_opSize_eq_zero hsize
  have hindices : p.start.op.indices = [] := indices_of_numParam_eq_zero rfl
  refine ⟨hheader, hbody, hfits, hopHeader, ?_, ?_, ?_, ?_⟩
  · rw [hnil, hsize]
    rfl
  · rw [hsize]
    exact Nat.zero_le _
  · rw [hop]
    exact Nat.zero_le _
  · rw [hop, hindices]
    rfl

theorem ite_error_eq_ok {c : Prop} [Decidable c] {fault : CommFault} {r : Except CommFault SkStatus}
    {err : SkStatus} : (if c then .error fault else r) = .ok err ↔ ¬ c ∧ r = .ok err := by
  split <;> simp [*]

theorem ite_ok_readFailed {c : Prop} [Decidable c] {r : Except CommFault SkStatus} :
    (if c then .ok skErrorCommReadFailed else r) = .ok skErrorSuccess ↔
      ¬ c ∧ r = .ok skErrorSuccess := by
  have hfailed : skErrorCommReadFailed ≠ skErrorSuccess := by decide
  split <;> simp [*]

theorem Tcp.whole_of_success (h : p.status word maxMrecvSize .tcp = .ok skErrorSuccess) :
    Whole word maxMrecvSize p := by
  rw [Tcp.status_eq] at h
  simp only [ite_error_eq_ok, Nat.not_lt] at h
  obtain ⟨hfits, h⟩ := h
  by_cases hsize : (p.message word).opSize = 0
  · rw [if_pos hsize] at h
    simp only [Except.ok.injEq, ite_readFailed, not_not, and_true] at h
    obtain ⟨hopHeader, hbody, hheader⟩ := h
    rw [hbody] at hfits
    exact whole_of_opSize_eq_zero hsize hheader hbody hfits hopHeader
  · rw [if_neg hsize] at h
    simp only [ite_error_eq_ok, ite_ok_readFailed, Except.ok.injEq, ite_readFailed, not_not,
      and_true, Nat.not_lt, Bool.not_eq_false] at h
    obtain ⟨hopFits, hparams, hnumParam, hopBody, hopHeader, hbody, hheader⟩ := h
    rw [hbody] at hfits
    rw [hopBody] at hopFits
    exact ⟨hheader, hbody, hfits, hopHeader, hopBody, hopFits, hnumParam, hparams⟩

theorem Fiasco.whole_of_success (h : p.status word maxMrecvSize .fiasco = .ok skErrorSuccess) :
    Whole word maxMrecvSize p := by
  rw [Fiasco.status_eq] at h
  simp only [ite_ok_readFailed, ite_error_eq_ok, not_or, not_not, Nat.not_lt] at h
  obtain ⟨hheader, hfits, ⟨hbody, hopHeader⟩, h⟩ := h
  rw [hbody] at hfits
  by_cases hsize : (p.message word).opSize = 0
  · exact whole_of_opSize_eq_zero hsize hheader hbody hfits hopHeader
  · rw [if_neg hsize] at h
    simp only [ite_ok_readFailed, ite_error_eq_ok, not_or, not_not, Nat.not_lt,
      Bool.not_eq_false] at h
    obtain ⟨hopFits, ⟨hopBody, hparams⟩, hnumParam, -⟩ := h
    rw [hopBody] at hopFits
    exact ⟨hheader, hbody, hfits, hopHeader, hopBody, hopFits, hnumParam, hparams⟩

/-- A message that is received without an error is a whole one. -/
theorem whole_of_success (h : p.status word maxMrecvSize platform = .ok skErrorSuccess) :
    Whole word maxMrecvSize p := by
  cases platform with
  | tcp => exact Tcp.whole_of_success h
  | fiasco => exact Fiasco.whole_of_success h

/-- The buffers that arrive, taken apart. -/
theorem exists_content {env : SwldCommEnv} {op : SkOperation} {is : List (Fin skMaximumOperations)}
    (hnodup : is.Nodup) {supply : Supply UInt8} (h : paramsArrive env op is supply = true) :
    ∃ (content : Fin skMaximumOperations → List UInt8) (rest : Supply UInt8),
      (∀ i, (content i).length = (op.param i).memorySize.toNat) ∧
      supply = (upBytes op content is).map some ++ rest := by
  induction is generalizing supply with
  | nil =>
    exact ⟨fun i => List.replicate (op.param i).memorySize.toNat 0, supply,
      fun i => List.length_replicate, rfl⟩
  | cons i is ih =>
    obtain ⟨hi, hnodup⟩ := List.nodup_cons.mp hnodup
    rw [paramsArrive] at h
    split at h
    · next hsent =>
      split at h
      · cases h
      next hfull =>
      have hfull := not_not.mp (not_or.mp hfull).2
      obtain ⟨content, rest, hlen, hsupply⟩ := ih hnodup h
      let bytes := (arriving (op.param i).memorySize.toNat supply).1
      refine ⟨Function.update content i bytes, rest, fun j => ?_, ?_⟩
      · rcases eq_or_ne j i with rfl | hne
        · rw [Function.update_self]
          exact hfull
        · rw [Function.update_of_ne hne]
          exact hlen j
      · have hothers : upBytes op (Function.update content i bytes) is = upBytes op content is := by
          refine List.flatMap_congr fun j hj => ?_
          rw [Function.update_of_ne (ne_of_mem_of_not_mem hj hi)]
        rw [upBytes, List.flatMap_cons, if_pos hsent, Function.update_self]
        change supply = (bytes ++ upBytes op (Function.update content i bytes) is).map some ++ rest
        rw [hothers, List.map_append, List.append_assoc, ← hsupply]
        exact eq_of_arriving hfull
    · next hsent =>
      obtain ⟨content, rest, hlen, hsupply⟩ := ih hnodup h
      refine ⟨content, rest, hlen, ?_⟩
      rw [upBytes, List.flatMap_cons, if_neg hsent]
      exact hsupply

theorem Placed.op_eq {env : SwldCommEnv} {op op' : SkOperation} {heap heap' : Heap}
    {content : Fin skMaximumOperations → List UInt8}
    (h : Placed env content op.indices op op' heap heap') : op' = placedOp env op := by
  obtain ⟨numParam, param⟩ := op'
  refine congrArg₂ SkOperation.mk h.shape.numParam (funext fun i => ?_)
  dsimp only
  split
  · next hi =>
    have haddr := h.addr i hi
    have hsize := h.shape.memorySize i
    have hflag := h.shape.flag i
    have hid := h.id i
    dsimp only at haddr hsize hflag hid
    rw [← haddr, ← hsize, ← hflag, ← hid]
  · next hi => exact h.other i hi

/-- What is received depends on the prior bytes of the heap in the buffers only. -/
theorem exists_received (h : Whole word maxMrecvSize p) (halloc : p.env.Allocates) :
    ∃ content, (∀ i, (content i).length = ((p.message word).op.param i).memorySize.toNat) ∧
      ∀ prior, ∃ heap,
        (({ p with env := { p.env with prior } } : Pass).recvOp word skErrorSuccess =
          .ok (skErrorSuccess, ⟨p.start.buf.write 0 (p.message word).body, (p.message word).bufLen,
            placedOp p.env (p.message word).op, heap⟩)) ∧
        Placed { p.env with prior } content (p.message word).op.indices (p.message word).op
          (placedOp p.env (p.message word).op) p.start.heap heap := by
  obtain ⟨content, rest, hlen, hsupply⟩ := exists_content (p.message word).op.nodup_indices h.params
  refine ⟨content, hlen, fun prior => ?_⟩
  have halloc' : ({ p.env with prior } : SwldCommEnv).Allocates := ⟨halloc.ne_null, halloc.apart⟩
  obtain ⟨op', heap', hreads, hplaced⟩ := reads_recvParams skErrorSuccess halloc' h.numParam hlen
    (p.message word).op.nodup_indices p.start.heap
  have hop : op' = placedOp p.env (p.message word).op := hplaced.op_eq
  subst hop
  refine ⟨heap', ?_, hplaced⟩
  have hrun := hreads.run rest
  rw [← hsupply] at hrun
  exact congrArg Outcome.result (run_bind_of_ok hrun _)

end Receive

/-! ## What the TApp stores -/

section Stores

/-- A block once the stores for it have been made. -/
def storedIn (sts : List TappStore) (a : UInt32) (block : List UInt8) : List UInt8 :=
  (sts.filter fun st => st.addr = a).foldl (fun block st => block.set st.offset st.byte) block

theorem foldl_poke_apply (sts : List TappStore) (heap : Heap) (a : UInt32) :
    sts.foldl Heap.poke heap a = (heap a).map (storedIn sts a) := by
  unfold storedIn
  induction sts generalizing heap with
  | nil => cases h : heap a <;> simp [h]
  | cons st sts ih =>
    rw [List.foldl_cons, ih, Heap.poke]
    rcases eq_or_ne st.addr a with rfl | hne
    · rw [Function.update_self, Option.map_map]
      simp [Function.comp_def]
    · rw [Function.update_of_ne hne.symm]
      simp [hne]

theorem length_foldl_set (sts : List TappStore) (block : List UInt8) :
    (sts.foldl (fun block st => block.set st.offset st.byte) block).length = block.length := by
  induction sts generalizing block with
  | nil => rfl
  | cons st sts ih => rw [List.foldl_cons, ih, List.length_set]

theorem length_storedIn (sts : List TappStore) (a : UInt32) (block : List UInt8) :
    (storedIn sts a block).length = block.length :=
  length_foldl_set _ _

/-- Two blocks become the same exactly if they differ in stored bytes only. -/
theorem foldl_set_eq_iff (sts : List TappStore) {block block' : List UInt8}
    (hlen : block.length = block'.length) :
    sts.foldl (fun block st => block.set st.offset st.byte) block =
        sts.foldl (fun block st => block.set st.offset st.byte) block' ↔
      ∀ k < block.length, (∀ st ∈ sts, st.offset ≠ k) → block[k]? = block'[k]? := by
  induction sts generalizing block block' with
  | nil =>
    rw [List.foldl_nil, List.foldl_nil]
    constructor
    · rintro rfl k _ _
      rfl
    · intro h
      refine List.ext_getElem? fun k => ?_
      rcases Nat.lt_or_ge k block.length with hk | hk
      · exact h k hk fun _ hst => absurd hst List.not_mem_nil
      · rw [List.getElem?_eq_none hk, List.getElem?_eq_none (hlen ▸ hk)]
  | cons st sts ih =>
    rw [List.foldl_cons, List.foldl_cons, ih (by rw [List.length_set, List.length_set, hlen])]
    rw [List.length_set]
    refine forall₂_congr fun k hk => ?_
    rw [List.forall_mem_cons]
    rcases eq_or_ne st.offset k with rfl | hne
    · -- this byte is stored in both
      refine iff_of_true (fun _ => ?_) fun h => absurd rfl h.1
      rw [List.getElem?_set_self hk, List.getElem?_set_self (hlen ▸ hk)]
    · rw [List.getElem?_set_ne hne, List.getElem?_set_ne hne]
      exact ⟨fun h hst => h hst.2, fun h hst => h ⟨hne, hst⟩⟩

theorem storedIn_read_eq_iff (sts : List TappStore) (a : UInt32) (mem mem' : Mem) (n : Nat) :
    storedIn sts a (mem.read 0 n) = storedIn sts a (mem'.read 0 n) ↔
      ∀ k < n, (∀ st ∈ sts, st.addr = a → st.offset ≠ k) → mem k = mem' k := by
  unfold storedIn
  rw [foldl_set_eq_iff _ (by rw [Mem.length_read, Mem.length_read]), Mem.length_read]
  refine forall₂_congr fun k hk => ?_
  have hbyte (mem : Mem) : (mem.read 0 n)[k]? = some (mem k) := by
    rw [List.getElem?_eq_getElem (by rwa [Mem.length_read]), Mem.getElem_read, Nat.zero_add]
  simp only [hbyte, Option.some.injEq, List.mem_filter, decide_eq_true_eq, and_imp]

/-- Stores leave every block as long as it was. -/
theorem Holds.stored {op : SkOperation} {heap : Heap}
    {content : Fin skMaximumOperations → List UInt8} {is : List (Fin skMaximumOperations)}
    (h : Holds op heap content is) (sts : List TappStore) :
    Holds op (sts.foldl Heap.poke heap)
      (fun i => (sts.foldl Heap.poke heap).buffer (op.param i)) is where
  live i hi haddr := by
    rw [foldl_poke_apply, Option.isSome_map]
    exact h.live i hi haddr
  ne_null := h.ne_null
  load i hi hout := by
    have hload := h.load i hi hout
    unfold Heap.buffer Heap.load at *
    split at hload
    · next hsize => simp [hsize]
    · next hsize =>
      obtain ⟨block, hblock, hfits⟩ := Option.bind_eq_some_iff.mp hload
      split at hfits
      · next hle => simp [hsize, foldl_poke_apply, hblock, length_storedIn, hle]
      · cases hfits
  apart := h.apart

end Stores

/-! ## What is sent back -/

/-- Buffers of the same lengths are on the way back the same bytes only if each is. -/
theorem downBytes_inj (word : Format UInt32 4) (op : SkOperation)
    {content content' : Fin skMaximumOperations → List UInt8} {is : List (Fin skMaximumOperations)}
    (hlen : ∀ i ∈ is, ¬ (op.param i).Out → (content i).length = (content' i).length) :
    downBytes word op content is = downBytes word op content' is ↔
      ∀ i ∈ is, ¬ (op.param i).Out → content i = content' i := by
  induction is with
  | nil => exact iff_of_true rfl fun _ hi => absurd hi List.not_mem_nil
  | cons i is ih =>
    obtain ⟨hfirst, hothers⟩ := List.forall_mem_cons.mp hlen
    rw [downBytes, downBytes, List.flatMap_cons, List.flatMap_cons, List.forall_mem_cons]
    change _ ++ downBytes word op content is = _ ++ downBytes word op content' is ↔ _
    split
    · next hout =>
      rw [List.nil_append, List.nil_append, ih hothers]
      exact ⟨fun h => ⟨fun hin => absurd hout hin, h⟩, And.right⟩
    · next hout =>
      have hlength : (word.enc (op.param i).memorySize ++ content i).length =
          (word.enc (op.param i).memorySize ++ content' i).length := by
        rw [List.length_append, List.length_append, hfirst hout]
      constructor
      · intro h
        obtain ⟨hi, his⟩ := List.append_inj h hlength
        exact ⟨fun _ => List.append_cancel_left hi, (ih hothers).mp his⟩
      · rintro ⟨hi, his⟩
        rw [hi hout, (ih hothers).mpr his]

/-- The buffers apart, an answer depends on the reply and the operation only. -/
theorem answer_inj (word : Format UInt32 4) (platform : Platform) {p p' : Processed}
    (hmsend : p'.msend = p.msend) (hsize : p'.msendSize = p.msendSize) (hop : p'.op = p.op)
    (hlen : ∀ i ∈ p.op.indices, ¬ (p.op.param i).Out →
      (p.content i).length = (p'.content i).length) :
    p.answer word platform = p'.answer word platform ↔
      ∀ i ∈ p.op.indices, ¬ (p.op.param i).Out → p.content i = p'.content i := by
  unfold Processed.answer
  rw [hmsend, hsize, hop, List.append_cancel_left_eq, List.append_cancel_left_eq,
    List.append_cancel_left_eq]
  exact downBytes_inj word p.op hlen

section Sent

variable {word : Format UInt32 4} {maxMrecvSize : Nat} {platform : Platform} {cfg : Config}
  {x : Turn} {swld : Server} {s : SwldComm} {supply : Supply UInt8}

theorem sent_of_not_whole (h : ¬ Whole word maxMrecvSize ⟨x.env, s, supply⟩) :
    ((serveOnce word maxMrecvSize platform cfg x swld s).run supply).sent = [] := by
  let p : Pass := ⟨x.env, s, supply⟩
  have hsent := (@silent_commRecv word maxMrecvSize platform p.env p.start).sent p.supply
  have hstatus := mt (@whole_of_success word maxMrecvSize platform p) h
  unfold Pass.status at hstatus
  cases hrun : (platform.skSwldPlatformCommRecv word maxMrecvSize p.env p.start).run p.supply with
  | mk result sent rest =>
  rw [hrun] at hsent hstatus
  cases result with
  | error e =>
    refine (congrArg Outcome.sent (run_bind_of_error hrun _)).trans ?_
    exact hsent
  | ok r =>
    have herr : r.1 ≠ skErrorSuccess := fun hsuccess => hstatus (congrArg Except.ok hsuccess)
    refine (congrArg Outcome.sent (run_bind_of_ok hrun _)).trans ?_
    dsimp only at hsent ⊢
    rw [if_pos herr, hsent]
    rfl

/-- What happens after a whole message has been received. -/
theorem exists_run_recv {received : SwldComm} (h : Whole word maxMrecvSize ⟨x.env, s, supply⟩)
    (hrecv : (⟨x.env, s, supply⟩ : Pass).recvOp word skErrorSuccess =
      .ok (skErrorSuccess, received)) :
    ∃ rest, (platform.skSwldPlatformCommRecv word maxMrecvSize x.env
      { s with op := { s.op with numParam := 0 } }).run supply =
        ⟨.ok (skErrorSuccess, received), [], rest⟩ := by
  let p : Pass := ⟨x.env, s, supply⟩
  have hsent := (@silent_commRecv word maxMrecvSize platform p.env p.start).sent p.supply
  have hresult := (@result_of_whole word maxMrecvSize platform p h).trans hrecv
  cases hrun : (platform.skSwldPlatformCommRecv word maxMrecvSize p.env p.start).run p.supply with
  | mk result sent rest =>
  rw [hrun] at hsent hresult
  cases hsent
  cases hresult
  exact ⟨rest, hrun⟩

theorem sent_of_unanswered {received : SwldComm}
    (h : Whole word maxMrecvSize ⟨x.env, s, supply⟩)
    (hrecv : (⟨x.env, s, supply⟩ : Pass).recvOp word skErrorSuccess =
      .ok (skErrorSuccess, received))
    (hdispatch : ∀ err sent swld', dispatchOnce cfg
      (x.exchange (received.buf.read 0 received.bufLen.toNat) received.op) swld ≠
        .ok ((err, [sent]), swld')) :
    ((serveOnce word maxMrecvSize platform cfg x swld s).run supply).sent = [] := by
  obtain ⟨rest, hrun⟩ := @exists_run_recv word maxMrecvSize platform x s supply _ h hrecv
  refine (congrArg Outcome.sent (run_bind_of_ok hrun _)).trans ?_
  dsimp only
  rw [if_neg (not_not.mpr rfl)]
  split
  · next hanswer => exact absurd hanswer (hdispatch _ _ _)
  · rfl

theorem sent_of_answered {received : SwldComm} {err : SkStatus} {sent : Sent} {swld' : Server}
    {bytes : List UInt8} {r : SkStatus × Heap}
    (h : Whole word maxMrecvSize ⟨x.env, s, supply⟩)
    (hrecv : (⟨x.env, s, supply⟩ : Pass).recvOp word skErrorSuccess =
      .ok (skErrorSuccess, received))
    (hdispatch : dispatchOnce cfg
      (x.exchange (received.buf.read 0 received.bufLen.toNat) received.op) swld =
        .ok ((err, [sent]), swld'))
    (hsend : (platform.skSwldPlatformCommSend word (Mem.ofList sent.bytes)
      (UInt32.ofNat sent.bytes.length) sent.op
      ((x.made swld'.events).foldl Heap.poke received.heap)).Writes bytes (.ret r)) :
    ((serveOnce word maxMrecvSize platform cfg x swld s).run supply).sent = bytes := by
  obtain ⟨rest, hrun⟩ := @exists_run_recv word maxMrecvSize platform x s supply _ h hrecv
  refine (congrArg Outcome.sent (run_bind_of_ok hrun _)).trans ?_
  dsimp only
  rw [if_neg (not_not.mpr rfl), hdispatch]
  have hsent := (hsend.last (f := fun _ => .ret ()) rfl).run rest
  refine (congrArg (fun o => (Outcome.after [] o).sent) hsent).trans ?_
  simp [Outcome.after, Proc.run]

/-- A buffer that is sent back holds what was there before, but for the stores. -/
theorem Placed.stored_buffer {env : SwldCommEnv} {op op' : SkOperation} {heap heap' : Heap}
    {content : Fin skMaximumOperations → List UInt8} {is : List (Fin skMaximumOperations)}
    (h : Placed env content is op op' heap heap') (sts : List TappStore)
    {i : Fin skMaximumOperations} (hi : i ∈ is) (hout : ¬ (op.param i).Out) :
    (sts.foldl Heap.poke heap').buffer (op'.param i) =
      storedIn sts (env.malloc i) ((env.prior i).read 0 (op.param i).memorySize.toNat) := by
  have hlength := length_storedIn sts (env.malloc i)
    ((env.prior i).read 0 (op.param i).memorySize.toNat)
  rw [Mem.length_read] at hlength
  have hload : (sts.foldl Heap.poke heap').load (op'.param i).addr
      (op'.param i).memorySize.toNat = some (storedIn sts (env.malloc i)
        ((env.prior i).read 0 (op.param i).memorySize.toNat)) := by
    rw [h.shape.memorySize i]
    refine Heap.load_of_block hlength fun hsize => ?_
    have hsize : (op.param i).memorySize ≠ 0 := fun hzero => hsize (hzero ▸ rfl)
    rw [h.addr i hi, if_neg hsize, foldl_poke_apply, h.block i hi hsize, SwldCommEnv.placed,
      if_neg hout, Option.map_some]
  rw [Heap.buffer, hload, Option.getD_some]

theorem paramsArrive_withPrior (env : SwldCommEnv) (prior : Fin skMaximumOperations → Mem)
    (op : SkOperation) (is : List (Fin skMaximumOperations)) (supply : Supply UInt8) :
    paramsArrive { env with prior } op is supply = paramsArrive env op is supply := by
  induction is generalizing supply with
  | nil => rfl
  | cons i is ih => simp only [paramsArrive, ih]

theorem whole_withPrior (prior : Fin skMaximumOperations → Mem) :
    Whole word maxMrecvSize ⟨(x.withPrior prior).env, s, supply⟩ ↔
      Whole word maxMrecvSize ⟨x.env, s, supply⟩ := by
  have hparams := paramsArrive_withPrior x.env prior
  constructor
  · intro h
    exact { h with params := (hparams _ _ _).symm.trans h.params }
  · intro h
    exact { h with params := (hparams _ _ _).trans h.params }

end Sent

section TwoRuns

variable (word : Format UInt32 4) (maxMrecvSize : Nat) (platform : Platform) (cfg : Config)
  (x : Turn) (swld : Server) (s : SwldComm) (supply : Supply UInt8)

/-- If the message is answered, the bytes of the buffers that are sent back and
that no TApp stores are the same before. -/
def PriorAgrees (prior prior' : Fin skMaximumOperations → Mem) : Prop :=
  let p : Pass := ⟨x.env, s, supply⟩
  let m := p.message word
  Whole word maxMrecvSize p → ∀ err sent swld',
    dispatchOnce cfg (x.exchange m.body (placedOp x.env m.op)) swld = .ok ((err, [sent]), swld') →
    ∀ i ∈ m.op.indices, ¬ (m.op.param i).Out → ∀ k < (m.op.param i).memorySize.toNat,
      (∀ st ∈ x.made swld'.events, st.addr = x.env.malloc i → st.offset ≠ k) →
      prior i k = prior' i k

variable {word maxMrecvSize platform cfg x swld s supply}

variable (platform) in
/-- What one execution sends where the message is answered: the bytes before, but
for the stores, in every buffer that is sent back. -/
theorem exists_answer {m : Message} {content : Fin skMaximumOperations → List UInt8}
    {err : SkStatus} {sent : Sent} {swld' : Server} {heap : Heap}
    (hm : (⟨x.env, s, supply⟩ : Pass).message word = m)
    (hwhole : Whole word maxMrecvSize ⟨x.env, s, supply⟩) (halloc : x.env.Allocates)
    (hlen : ∀ i, (content i).length = (m.op.param i).memorySize.toNat)
    (hdispatch : dispatchOnce cfg (x.exchange m.body (placedOp x.env m.op)) swld =
      .ok ((err, [sent]), swld'))
    (hop : sent.op = placedOp x.env m.op) (prior : Fin skMaximumOperations → Mem)
    (hrecv : (⟨(x.withPrior prior).env, s, supply⟩ : Pass).recvOp word skErrorSuccess =
      .ok (skErrorSuccess, ⟨s.buf.write 0 m.body, m.bufLen, placedOp x.env m.op, heap⟩))
    (hplaced : Placed (x.withPrior prior).env content m.op.indices m.op (placedOp x.env m.op)
      s.heap heap) :
    ∃ p : Processed, p.msend = Mem.ofList sent.bytes ∧
      p.msendSize = UInt32.ofNat sent.bytes.length ∧ p.op = placedOp x.env m.op ∧
      (∀ i ∈ m.op.indices, ¬ (m.op.param i).Out → p.content i =
        storedIn (x.made swld'.events) (x.env.malloc i)
          ((prior i).read 0 (m.op.param i).memorySize.toNat)) ∧
      ((serveOnce word maxMrecvSize platform cfg (x.withPrior prior) swld s).run supply).sent =
        p.answer word platform := by
  let p : Processed := ⟨Mem.ofList sent.bytes, UInt32.ofNat sent.bytes.length,
    placedOp x.env m.op, (x.made swld'.events).foldl Heap.poke heap⟩
  have hnumParam : p.op.numParam.toNat ≤ skMaximumOperations := by
    have hle := hwhole.numParam
    rwa [hm] at hle
  have hbody : m.body.length = m.bufLen.toNat := by
    have hlength := hwhole.body
    rwa [hm] at hlength
  have hbytes : (s.buf.write 0 m.body).read 0 m.bufLen.toNat = m.body :=
    Mem.read_write_eq _ _ _ _ hbody
  have hholds := (hplaced.holds ⟨halloc.ne_null, halloc.apart⟩ hlen).stored (x.made swld'.events)
  rw [← hplaced.shape.indices] at hholds
  obtain ⟨heap', hsend⟩ := writes_commSend word platform p hnumParam hholds
  refine ⟨p, rfl, rfl, rfl, fun i hi hout => hplaced.stored_buffer _ hi hout, ?_⟩
  have hanswered :=
    (congrArg (fun bs => dispatchOnce cfg (x.exchange bs (placedOp x.env m.op)) swld)
      hbytes).trans hdispatch
  have hsend' : (platform.skSwldPlatformCommSend word (Mem.ofList sent.bytes)
      (UInt32.ofNat sent.bytes.length) sent.op
      ((x.made swld'.events).foldl Heap.poke heap)).Writes (p.answer word platform)
        (.ret (skErrorSuccess, heap')) := by
    rw [hop]
    exact hsend
  exact sent_of_answered ((whole_withPrior prior).mpr hwhole) hrecv hanswered hsend'

/-- Two executions that differ in the prior bytes of the heap send back the same
exactly if these agree wherever a buffer is sent back and no TApp has stored. -/
theorem stale_heap_iff (prior prior' : Fin skMaximumOperations → Mem)
    (halloc : x.env.Allocates)
    (hcmd : (x.exchange ((⟨x.env, s, supply⟩ : Pass).message word).body
      (placedOp x.env ((⟨x.env, s, supply⟩ : Pass).message word).op)).request.hdr.cmd =
        skTapiInvokeCommand) :
    ((serveOnce word maxMrecvSize platform cfg (x.withPrior prior) swld s).run supply).sent =
        ((serveOnce word maxMrecvSize platform cfg (x.withPrior prior') swld s).run supply).sent ↔
      PriorAgrees word maxMrecvSize cfg x swld s supply prior prior' := by
  by_cases hwhole : Whole word maxMrecvSize ⟨x.env, s, supply⟩
  swap
  · rw [sent_of_not_whole fun h => hwhole ((whole_withPrior prior).mp h),
      sent_of_not_whole fun h => hwhole ((whole_withPrior prior').mp h)]
    exact iff_of_true rfl fun h => absurd h hwhole
  obtain ⟨content, hlen, hreceived⟩ := exists_received hwhole halloc
  obtain ⟨heap, hrecv, hplaced⟩ := hreceived prior
  obtain ⟨heap', hrecv', hplaced'⟩ := hreceived prior'
  unfold PriorAgrees
  dsimp only
  generalize hm : (⟨x.env, s, supply⟩ : Pass).message word = m at *
  by_cases hanswer : ∃ err sent swld',
      dispatchOnce cfg (x.exchange m.body (placedOp x.env m.op)) swld = .ok ((err, [sent]), swld')
  · obtain ⟨err, sent, swld', hdispatch⟩ := hanswer
    have hop := dispatchOnce_invoke_op rfl hcmd hdispatch
    obtain ⟨p, hmsend, hsize, hpop, hcontent, hsent⟩ := exists_answer platform hm
      hwhole halloc hlen hdispatch hop prior hrecv hplaced
    obtain ⟨p', hmsend', hsize', hpop', hcontent', hsent'⟩ := exists_answer platform
      hm hwhole halloc hlen hdispatch hop prior' hrecv' hplaced'
    have hindices : p.op.indices = m.op.indices := by
      rw [hpop]
      exact hplaced.shape.indices
    have hout (i : Fin skMaximumOperations) : (p.op.param i).Out ↔ (m.op.param i).Out := by
      rw [hpop, SkOpMeminfo.Out, hplaced.shape.flag]
    have hstored (i : Fin skMaximumOperations) (hi : i ∈ m.op.indices)
        (hin : ¬ (m.op.param i).Out) : p.content i = p'.content i ↔
          ∀ k < (m.op.param i).memorySize.toNat,
            (∀ st ∈ x.made swld'.events, st.addr = x.env.malloc i → st.offset ≠ k) →
              prior i k = prior' i k := by
      rw [hcontent i hi hin, hcontent' i hi hin]
      exact storedIn_read_eq_iff _ _ _ _ _
    rw [hsent, hsent', answer_inj word platform (hmsend'.trans hmsend.symm)
      (hsize'.trans hsize.symm) (hpop'.trans hpop.symm) ?_]
    · simp only [hindices, hout]
      constructor
      · intro hsame _ err₁ sent₁ swld₁ hdispatch₁ i hi hin
        cases hdispatch.symm.trans hdispatch₁
        exact (hstored i hi hin).mp (hsame i hi hin)
      · intro hagree i hi hin
        exact (hstored i hi hin).mpr (hagree hwhole err sent swld' hdispatch i hi hin)
    · intro i hi hin
      rw [hindices] at hi
      rw [hout] at hin
      rw [hcontent i hi hin, hcontent' i hi hin]
      simp only [length_storedIn, Mem.length_read]
  · -- refused without a reply
    have hrefused (err : SkStatus) (sent : Sent) (swld' : Server) : dispatchOnce cfg
        (x.exchange ((s.buf.write 0 m.body).read 0 m.bufLen.toNat) (placedOp x.env m.op)) swld ≠
          .ok ((err, [sent]), swld') := by
      rw [Mem.read_write_eq _ _ _ _ (by rw [← hm]; exact hwhole.body)]
      exact fun h => hanswer ⟨err, sent, swld', h⟩
    rw [sent_of_unanswered ((whole_withPrior prior).mpr hwhole) hrecv hrefused,
      sent_of_unanswered ((whole_withPrior prior').mpr hwhole) hrecv' hrefused]
    exact iff_of_true rfl fun _ err sent swld' h => absurd ⟨err, sent, swld', h⟩ hanswer

/-- No TApp stores anything. -/
def sampleTurn : Turn := ⟨echoJob.env, sampleEnv 0, SkMsg.zero, fun _ _ _ => []⟩

/-- An invoke_command with handles that nobody has been given, and one byte to be returned. -/
def sampleInvokeSupply : Supply UInt8 :=
  (Format.le32.enc (UInt32.ofNat sampleInvokeCommand.bytes.length) ++ sampleInvokeCommand.bytes ++
    Format.le32.enc (UInt32.ofNat sizeofSkOperation) ++
    (opFormat Format.le32).enc ⟨1, fun _ => ⟨1, skTeecMemrefIn, 0, .zero 16⟩⟩).map some

theorem stale_heap_iff_sample :
    ((serveOnce Format.le32 64 .tcp sampleConfig (sampleTurn.withPrior fun _ _ => 0)
        (sampleServer 64) (samplePass []).state).run sampleInvokeSupply).sent =
      ((serveOnce Format.le32 64 .tcp sampleConfig (sampleTurn.withPrior fun _ _ => 1)
        (sampleServer 64) (samplePass []).state).run sampleInvokeSupply).sent ↔
      PriorAgrees Format.le32 64 sampleConfig sampleTurn (sampleServer 64) (samplePass []).state
        sampleInvokeSupply (fun _ _ => 0) (fun _ _ => 1) :=
  stale_heap_iff _ _ ⟨by decide, by decide⟩ (by decide)

/-- The request is refused, and the byte that was on the heap goes out. -/
theorem stale_heap_leaks : ∃ x : Turn, ∃ swld s supply prior prior',
    x.env.Allocates ∧ Started swld ∧ (∀ tapp cmd op, x.stores tapp cmd op = []) ∧
    ((serveOnce Format.le32 64 .tcp sampleConfig (x.withPrior prior) swld s).run supply).sent ≠
      ((serveOnce Format.le32 64 .tcp sampleConfig (x.withPrior prior') swld s).run supply).sent ∧
    ((serveOnce Format.le32 64 .fiasco sampleConfig (x.withPrior prior) swld s).run supply).sent ≠
      ((serveOnce Format.le32 64 .fiasco sampleConfig (x.withPrior prior') swld s).run supply).sent :=
  ⟨sampleTurn, sampleServer 64, (samplePass []).state, sampleInvokeSupply, fun _ _ => 0,
    fun _ _ => 1, ⟨by decide, by decide⟩, sampleServer_started 64, fun _ _ _ => rfl,
    by decide +kernel, by decide +kernel⟩

end TwoRuns

end SkSdk
