import SkSdk.Platform.Comm
import SkSdk.Worlds.Composition

/-!
The driver and the server over a reliable byte channel, exchange after exchange
and in any interleaving of their steps.
-/

namespace SkSdk
open ByteMemory Duplex Format

/-- What the server brings to one exchange. -/
structure SwldJob where
  env : SwldCommEnv
  process : SwldComm → Processed

section Exchanges

variable (word : Format UInt32 4) (platform : Platform) (maxMrecvSize : Nat)

/-- The two ends of the transport. -/
def transport :
    Parties UInt8 CommFault NwldComm SwldJob SwldComm (CommReply × Mem) SwldComm where
  client := platform.skNwldPlatformCommProc word
  server job := commDispatch word maxMrecvSize job.env platform job.process
  reads_first _ _ := by cases platform <;> exact ⟨_, rfl⟩

/-- The lengths are within the buffers, no `malloc` fails, and the server leaves
count, sizes and flags of the operation as received, and a buffer for each
parameter. -/
structure Fits (call : NwldComm) (job : SwldJob) : Prop where
  request : call.sendBufLen.toNat ≤ maxMrecvSize
  numParam : ∀ op, call.op = some op → op.numParam.toNat ≤ skMaximumOperations
  allocates : job.env.Allocates
  response : ∀ s, Delivered call s → (job.process s).msendSize ≤ call.recvBufLen
  shape : ∀ s, Delivered call s → s.op.SameShape (job.process s).op
  holds : ∀ s, Delivered call s → Holds (job.process s).op (job.process s).heap
    (job.process s).content (job.process s).op.indices

/-- Two buffers of the driver's memory do not overlap. -/
def SkOpMeminfo.Apart (m m' : SkOpMeminfo) : Prop :=
  m.addr.toNat + m.memorySize.toNat ≤ m'.addr.toNat ∨
    m'.addr.toNat + m'.memorySize.toNat ≤ m.addr.toNat

/-- What the two sides obtain in one exchange. A buffer that comes back holds the
server's bytes unless a later one overlaps it, and nothing else changes in the
driver's memory. -/
structure Transported (call : NwldComm) (job : SwldJob) (received : SwldComm)
    (r : CommReply × Mem) : Prop where
  delivered : Delivered call received
  err : r.1.err = skErrorSuccess
  response : r.1.recvBuf.read 0 r.1.recvBufLen =
    (job.process received).msend.read 0 (job.process received).msendSize.toNat
  op : r.1.op = call.op
  buffer : ∀ op, call.op = some op → ∀ i ∈ op.indices, ¬ (op.param i).Out →
    (∀ j ∈ op.indices, i < j → ¬ (op.param j).Out → (op.param i).Apart (op.param j)) →
    r.2.read (op.param i).addr.toNat (op.param i).memorySize.toNat =
      (job.process received).content i
  frame : ∀ a, (∀ op, call.op = some op → ∀ i ∈ op.indices, ¬ (op.param i).Out →
    a < (op.param i).addr.toNat ∨ (op.param i).addr.toNat + (op.param i).memorySize.toNat ≤ a) →
    r.2 a = call.mem a

/-- Exchange by exchange. -/
inductive TransportedAll :
    List (NwldComm × SwldJob) → List SwldComm → List (CommReply × Mem) → Prop
  | nil : TransportedAll [] [] []
  | cons {call job received r xs rs as} : Transported call job received r →
      TransportedAll xs rs as → TransportedAll ((call, job) :: xs) (received :: rs) (r :: as)

end Exchanges

/-! ## The buffers that come back -/

section Buffers

variable {op : SkOperation} {content : Fin skMaximumOperations → List UInt8}
  {is : List (Fin skMaximumOperations)}

theorem fillBuffers_outside (mem : Mem) {a : Nat}
    (h : ∀ i ∈ is, ¬ (op.param i).Out →
      a < (op.param i).addr.toNat ∨ (op.param i).addr.toNat + (content i).length ≤ a) :
    fillBuffers op content is mem a = mem a := by
  induction is generalizing mem with
  | nil => rfl
  | cons i is ih =>
    have hrest := fun mem => ih mem fun j hj => h j (List.mem_cons_of_mem _ hj)
    rw [fillBuffers, List.foldl_cons]
    refine (hrest _).trans ?_
    split
    · rfl
    · next hout => exact Mem.write_outside _ _ _ _ (h i List.mem_cons_self hout)

theorem read_fillBuffers (hsorted : is.Pairwise (· < ·))
    (hlen : ∀ i ∈ is, ¬ (op.param i).Out → (content i).length = (op.param i).memorySize.toNat)
    {i : Fin skMaximumOperations} (hi : i ∈ is) (hout : ¬ (op.param i).Out)
    (hlater : ∀ j ∈ is, i < j → ¬ (op.param j).Out → (op.param i).Apart (op.param j)) (mem : Mem) :
    (fillBuffers op content is mem).read (op.param i).addr.toNat (op.param i).memorySize.toNat =
      content i := by
  induction is generalizing mem with
  | nil => exact absurd hi List.not_mem_nil
  | cons k is ih =>
    obtain ⟨hfirst, hsorted⟩ := List.pairwise_cons.mp hsorted
    rw [fillBuffers, List.foldl_cons]
    rcases List.mem_cons.mp hi with rfl | hi
    · -- written now, and left alone by the later ones
      rw [if_neg hout]
      have hsize := hlen i List.mem_cons_self hout
      refine (Mem.read_congr fun a hlo hhi => fillBuffers_outside _ ?_).trans
        (Mem.read_write_eq _ _ _ _ hsize)
      intro j hj hjout
      rw [hlen j (List.mem_cons_of_mem _ hj) hjout]
      rcases hlater j (List.mem_cons_of_mem _ hj) (hfirst j hj) hjout with h | h
      · exact Or.inl (by omega)
      · exact Or.inr (by omega)
    · exact ih hsorted (fun j hj => hlen j (List.mem_cons_of_mem _ hj)) hi
        (fun j hj => hlater j (List.mem_cons_of_mem _ hj)) _

theorem SkOperation.sorted_indices (op : SkOperation) : op.indices.Pairwise (· < ·) :=
  (List.pairwise_lt_finRange _).sublist (List.take_sublist _ _)

end Buffers

/-! ## One exchange, and all of them -/

section InStep

variable {word : Format UInt32 4} {platform : Platform} {maxMrecvSize : Nat}
  {call : NwldComm} {job : SwldJob}

theorem Fits.keeps (h : Fits maxMrecvSize call job) {received : SwldComm}
    (hd : Delivered call received) : call.Keeps (job.process received) where
  no_op hop := (h.shape received hd).numParam.trans (hd.no_op hop)
  shape op hop := (hd.shape op hop).trans (h.shape received hd)

/-- What comes back is as long as its buffer. -/
theorem Fits.length_content (h : Fits maxMrecvSize call job) {received : SwldComm}
    (hd : Delivered call received) (op : SkOperation) (hop : call.op = some op) :
    ∀ i ∈ op.indices, ¬ (op.param i).Out →
      ((job.process received).content i).length = (op.param i).memorySize.toNat := by
  intro i hi hout
  have hshape := (h.keeps hd).shape op hop
  have hholds := h.holds received hd
  rw [hshape.indices] at hholds
  rw [SkOpMeminfo.Out, ← hshape.flag] at hout
  rw [Heap.length_load (hholds.load i hi hout), hshape.memorySize]

theorem Fits.transported (h : Fits maxMrecvSize call job) {received : SwldComm}
    (hd : Delivered call received) :
    Transported call job received (call.answered (job.process received)) := by
  have hlen := h.length_content hd
  refine ⟨hd, rfl, Mem.read_write_eq _ _ _ _ (Mem.length_read _ _ _), rfl, ?_, ?_⟩
  · intro op hop i hi hout hlater
    simp only [NwldComm.answered, hop]
    exact read_fillBuffers op.sorted_indices (hlen op hop) hi hout hlater call.mem
  · intro a ha
    unfold NwldComm.answered
    cases hop : call.op with
    | none => rfl
    | some op =>
      refine fillBuffers_outside _ fun i hi hout => ?_
      rw [hlen op hop i hi hout]
      exact ha op hop i hi hout

/-- One exchange from any state of the server. -/
theorem Fits.meets (word : Format UInt32 4) (platform : Platform)
    (h : Fits maxMrecvSize call job) (s : SwldComm) :
    ∃ received s' n, Arrived job.env call received ∧
      Parties.Meets ((transport word platform maxMrecvSize).client call)
        ((transport word platform maxMrecvSize).server job s)
        (call.answered (job.process received)) (received, s') n := by
  obtain ⟨received, hread, harrived⟩ := reads_commRecv word platform call
    { s with op := { s.op with numParam := 0 } } h.allocates h.request rfl h.numParam
  have hd := harrived.toDelivered
  have hholds := h.holds received hd
  have hn : (job.process received).op.numParam.toNat ≤ skMaximumOperations := by
    rw [(h.shape received hd).numParam]
    cases hop : call.op with
    | none =>
      rw [hd.no_op hop]
      exact Nat.zero_le _
    | some op =>
      rw [(hd.shape op hop).numParam]
      exact h.numParam op hop
  obtain ⟨rest, hask, hanswered⟩ := reads_recvResponse word platform call
    (job.process received) (h.response received hd) (h.keeps hd) h.numParam hholds
  obtain ⟨heap, hanswer⟩ := writes_commSend word platform (job.process received) hn hholds
  refine ⟨received, _, _, harrived, .intro hask hanswered (hread.last rfl) (hanswer.last rfl) ?_⟩
  intro hnil
  have hlen := congrArg List.length (List.append_eq_nil_iff.mp hnil).1
  rw [word.length_enc] at hlen
  cases hlen

/-- Exchanges that fit meet one after the other. -/
theorem exists_plan (word : Format UInt32 4) (platform : Platform)
    {xs : List (NwldComm × SwldJob)}
    (h : ∀ x ∈ xs, Fits maxMrecvSize x.1 x.2) (s : SwldComm) :
    ∃ rs as e m, TransportedAll xs rs as ∧
      (transport word platform maxMrecvSize).Plan s (xs.map Prod.fst) (xs.map Prod.snd) as rs e m := by
  induction xs generalizing s with
  | nil => exact ⟨[], [], s, 0, .nil, .nil s⟩
  | cons x xs ih =>
    obtain ⟨call, job⟩ := x
    have hfits := h _ List.mem_cons_self
    obtain ⟨received, s', n, hd, hmeets⟩ := hfits.meets word platform s
    obtain ⟨rs, as, e, m, hxs, hplan⟩ := ih (fun x hx => h x (List.mem_cons_of_mem _ hx)) s'
    exact ⟨_, _, e, _, .cons (hfits.transported hd.toDelivered) hxs, .cons hmeets hplan⟩

/-- In any interleaving of the two ends of either platform, and in every state of
it, the two have obtained what the exchanges so far stand for, both streams are
empty between two exchanges, and the run goes on to the end of the last one. -/
theorem transport_in_step (word : Format UInt32 4) (platform : Platform) (maxMrecvSize : Nat)
    (xs : List (NwldComm × SwldJob)) (s : SwldComm)
    (h : ∀ x ∈ xs, Fits maxMrecvSize x.1 x.2) :
    ∃ rs as e bound, TransportedAll xs rs as ∧
      ∀ k st, (transport word platform maxMrecvSize).Run k
        (Parties.initial (xs.map Prod.fst) (xs.map Prod.snd) s) st →
        (transport word platform maxMrecvSize).InStep e as rs st ∧ k ≤ bound := by
  obtain ⟨rs, as, e, m, hxs, hplan⟩ := exists_plan word platform h s
  exact ⟨rs, as, e, _, hxs, fun k st hrun => Parties.inStep_of_run hplan hrun⟩

/-- Where the server answers as `dispatchOnce` has it, the driver of either platform
sees the reply that the two worlds' `transport` hands over. -/
theorem answered_eq_transport {cfg : Config} {worlds : WorldsCall} {swld swld' : Server}
    {op : Option SkOperation} {request : List UInt8} {err : SkStatus} {sent : Sent}
    {p : Processed}
    (hrun : dispatchOnce cfg (worlds.arrives swld request op) swld = .ok ((err, [sent]), swld'))
    (hfits : sent.bytes.length ≤ worlds.env.recvBufferSize)
    (hsent : p.msend.read 0 p.msendSize.toNat = sent.bytes)
    (hbuf : call.recvBuf = worlds.recvBuf) (hop : call.op = op) :
    (call.answered p).1 = worlds.transport cfg swld request op := by
  have hlen : p.msendSize.toNat = sent.bytes.length := by
    rw [← hsent, Mem.length_read]
  unfold WorldsCall.transport NwldComm.answered
  rw [hrun, hsent, hlen, hbuf, hop]
  simp only [if_pos hfits]

/-- A server that sends the request back and leaves the buffers alone. -/
def echoJob : SwldJob where
  env := ⟨fun i => UInt32.ofNat (i + 1), fun _ _ => 0, 0⟩
  process s := ⟨s.buf, s.bufLen, s.op, s.heap⟩

/-- A request of three bytes with one buffer each way, and an empty operation slot. -/
def sampleComm (op : Option SkOperation) : NwldComm where
  sendBuf := Mem.ofList [1, 2, 3]
  sendBufLen := 3
  recvBuf := Mem.ofList []
  recvBufLen := 8
  op
  mem := Mem.ofList [4, 5, 6]
  localOp := ⟨0, fun _ => ⟨0, 0, 0, .zero 16⟩⟩

/-- One buffer that is sent along, and the others, of which only the first counts,
that come back. -/
def sampleOperation : SkOperation :=
  ⟨2, fun i => if i.val = 0 then ⟨2, skTeecMemrefOut, 0, .zero 16⟩
    else ⟨1, skTeecMemrefIn, 2, .zero 16⟩⟩

theorem fits_echoJob (op : Option SkOperation)
    (hn : ∀ o, op = some o → o.numParam.toNat ≤ skMaximumOperations) :
    Fits 64 (sampleComm op) echoJob where
  request := (by decide : (3 : UInt32).toNat ≤ 64)
  numParam := hn
  allocates := ⟨by decide, by decide⟩
  response s hd := by
    have hlen : s.bufLen = 3 := hd.bufLen
    show s.bufLen ≤ 8
    rw [hlen]
    decide
  shape s _ := .refl s.op
  holds _ hd := hd.holds

/-- Two exchanges over TCP, one with an operation and one without. -/
theorem transport_in_step_echo : ∃ rs as e bound,
    TransportedAll [(sampleComm (some sampleOperation), echoJob), (sampleComm none, echoJob)]
      rs as ∧
      ∀ k st, (transport le32 .tcp 64).Run k (Parties.initial
        [sampleComm (some sampleOperation), sampleComm none] [echoJob, echoJob]
        ⟨.ofList [], 0, sampleOperation, fun _ => none⟩) st →
        (transport le32 .tcp 64).InStep e as rs st ∧ k ≤ bound := by
  refine transport_in_step le32 .tcp 64
    [(sampleComm (some sampleOperation), echoJob), (sampleComm none, echoJob)] _ ?_
  intro x hx
  rcases List.mem_pair.mp hx with rfl | rfl
  · refine fits_echoJob _ fun o ho => ?_
    cases ho
    decide
  · exact fits_echoJob _ fun o ho => nomatch ho

end InStep

end SkSdk
