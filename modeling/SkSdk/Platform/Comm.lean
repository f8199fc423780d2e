import SkSdk.Platform.CommBuffers

/-!
The transport of the two platforms: `sk_nwld_platform_comm_proc` of the driver
against `sk_swld_platform_comm_recv` and `sk_swld_platform_comm_send` of the
server. The server sends the operation back over TCP only.
-/

namespace SkSdk
open ByteMemory Duplex Duplex.Proc Format

inductive Platform
  | tcp
  | fiasco

/-- The arguments of `sk_nwld_platform_comm_proc`, the memory that the buffers
of `op` lie in, and the prior value of the local `local_op`. -/
structure NwldComm where
  sendBuf : Mem
  sendBufLen : UInt32
  recvBuf : Mem
  recvBufLen : UInt32
  op : Option SkOperation
  mem : Mem
  localOp : SkOperation

/-- What the server's receive works on: the arguments of
`sk_swld_platform_comm_recv`, and the heap. -/
structure SwldComm where
  buf : Mem
  bufLen : UInt32
  op : SkOperation
  heap : Heap

/-- `n` bytes read into an object of size `cap`. -/
def recvInto (cap n : Nat) : Comm (List UInt8) := do
  let bytes ← recv n
  if cap < bytes.length then .fail .overrun else .ret bytes

section Functions

variable (word : Format UInt32 4)

/-! ## The driver -/

/-- The part of `sk_nwld_platform_comm_proc` that sends, the same on both platforms. -/
def sendRequest (call : NwldComm) : Comm Unit := do
  send (word.enc call.sendBufLen)
  send (call.sendBuf.read 0 call.sendBufLen.toNat)
  match call.op with
  | none => send (word.enc 0)
  | some op => do
    send (word.enc (UInt32.ofNat sizeofSkOperation))
    send ((opFormat word).enc op)
    sendBuffers call.mem op op.indices

namespace NwldComm

/-- The return of `sk_nwld_platform_comm_proc` before any buffer has come back. -/
def done (call : NwldComm) (err : SkStatus) (recvBuf : Mem) (recvBufLen : UInt32) :
    Comm (CommReply × Mem) :=
  .ret (⟨err, recvBuf, recvBufLen.toNat, call.op⟩, call.mem)

/-- The buffers of the operation. -/
def recvOp (call : NwldComm) (op : SkOperation) (recvBuf : Mem) (recvBufLen : UInt32) :
    Comm (CommReply × Mem) := do
  let (err, mem) ← recvBuffers word op op.indices call.mem
  .ret (⟨err, recvBuf, recvBufLen.toNat, some op⟩, mem)

end NwldComm

/-- The operation is not looked at, but for its `num_param`. -/
def Tcp.recvOperation (call : NwldComm) (recvBuf : Mem) (recvBufLen : UInt32) :
    Comm (CommReply × Mem) := do
  let header ← recv 4
  let opSize := patch word 0 header
  if header.length ≠ 4 then call.done skErrorCommReadFailed recvBuf recvBufLen
  else if opSize = 0 then call.done skErrorSuccess recvBuf recvBufLen
  else
    match call.op with
    | none => call.done skErrorCommReadFailed recvBuf recvBufLen
    | some op => do
      let bytes ← recvInto sizeofSkOperation opSize.toNat
      if bytes.length ≠ opSize.toNat then call.done skErrorCommReadFailed recvBuf recvBufLen
      else
        let localOp := patch (opFormat word) call.localOp bytes
        call.recvOp word { op with numParam := localOp.numParam } recvBuf recvBufLen

def Tcp.recvResponse (call : NwldComm) : Comm (CommReply × Mem) := do
  let header ← recv messageHeaderSize
  let recvBufLen := patch word call.recvBufLen header
  if header.length ≠ messageHeaderSize then
    call.done skErrorCommReadFailed call.recvBuf recvBufLen
  else do
    let bytes ← recvInto call.recvBufLen.toNat recvBufLen.toNat
    let recvBuf := call.recvBuf.write 0 bytes
    if bytes.length ≠ recvBufLen.toNat then call.done skErrorCommReadFailed recvBuf recvBufLen
    else Tcp.recvOperation word call recvBuf recvBufLen

def Fiasco.recvResponse (call : NwldComm) : Comm (CommReply × Mem) := do
  let header ← recv 4
  let nbytes := word.dec header
  if header.length ≠ 4 then call.done skErrorCommReadFailed call.recvBuf call.recvBufLen
  else if call.recvBufLen < nbytes then
    call.done skErrorCommReadFailed call.recvBuf call.recvBufLen
  else do
    let bytes ← recv nbytes.toNat
    let recvBuf := call.recvBuf.write 0 bytes
    if bytes.length ≠ nbytes.toNat then call.done skErrorCommReadFailed recvBuf nbytes
    else
      match call.op with
      | none => call.done skErrorSuccess recvBuf nbytes
      | some op => call.recvOp word op recvBuf nbytes

def Tcp.skNwldPlatformCommProc (call : NwldComm) : Comm (CommReply × Mem) := do
  sendRequest word call
  Tcp.recvResponse word call

def Fiasco.skNwldPlatformCommProc (call : NwldComm) : Comm (CommReply × Mem) := do
  sendRequest word call
  Fiasco.recvResponse word call

def Platform.skNwldPlatformCommProc : Platform → NwldComm → Comm (CommReply × Mem)
  | tcp => Tcp.skNwldPlatformCommProc word
  | fiasco => Fiasco.skNwldPlatformCommProc word

/-! ## The server -/

variable (maxMrecvSize : Nat) (env : SwldCommEnv)

/-- A failed read does not stop the next one, the loop over the parameters apart. -/
def Tcp.skSwldPlatformCommRecv (s : SwldComm) : Comm (SkStatus × SwldComm) := do
  let header ← recv messageHeaderSize
  let err := if header.length ≠ messageHeaderSize then skErrorCommReadFailed else skErrorSuccess
  let bufLen := patch word s.bufLen header
  let bytes ← recvInto maxMrecvSize bufLen.toNat
  let err := if bytes.length ≠ bufLen.toNat then skErrorCommReadFailed else err
  let buf := s.buf.write 0 bytes
  let header ← recv 4
  let err := if header.length ≠ 4 then skErrorCommReadFailed else err
  let opSize := patch word env.opSize header
  if opSize = 0 then .ret (err, ⟨buf, bufLen, s.op, s.heap⟩)
  else do
    let bytes ← recvInto sizeofSkOperation opSize.toNat
    let err := if bytes.length ≠ opSize.toNat then skErrorCommReadFailed else err
    let op := patch (opFormat word) s.op bytes
    let (err, op, heap) ← recvParams env err op.indices op s.heap
    .ret (err, ⟨buf, bufLen, op, heap⟩)

def Fiasco.skSwldPlatformCommRecv (s : SwldComm) : Comm (SkStatus × SwldComm) := do
  let header ← recv messageHeaderSize
  let bufLen := patch word s.bufLen header
  if header.length ≠ messageHeaderSize then
    .ret (skErrorCommReadFailed, { s with bufLen })
  else do
    let bytes ← recvInto maxMrecvSize bufLen.toNat
    let buf := s.buf.write 0 bytes
    if bytes.length ≠ bufLen.toNat then .ret (skErrorCommReadFailed, { s with buf, bufLen })
    else do
      let header ← recv 4
      let opSize := patch word env.opSize header
      if header.length ≠ 4 then .ret (skErrorCommReadFailed, { s with buf, bufLen })
      else if opSize = 0 then .ret (skErrorSuccess, { s with buf, bufLen })
      else do
        let bytes ← recvInto sizeofSkOperation opSize.toNat
        let op := patch (opFormat word) s.op bytes
        if bytes.length ≠ opSize.toNat then
          .ret (skErrorCommReadFailed, ⟨buf, bufLen, op, s.heap⟩)
        else do
          let (err, op, heap) ← recvParams env skErrorSuccess op.indices op s.heap
          .ret (err, ⟨buf, bufLen, op, heap⟩)

def Platform.skSwldPlatformCommRecv : Platform → SwldComm → Comm (SkStatus × SwldComm)
  | tcp => Tcp.skSwldPlatformCommRecv word maxMrecvSize env
  | fiasco => Fiasco.skSwldPlatformCommRecv word maxMrecvSize env

/-- The operation goes back too, unless it has no parameter. -/
def Tcp.skSwldPlatformCommSend (buf : Mem) (bufLen : UInt32) (op : SkOperation) (heap : Heap) :
    Comm (SkStatus × Heap) := do
  send (word.enc bufLen)
  send (buf.read 0 bufLen.toNat)
  if op.numParam = 0 then do
    send (word.enc 0)
    .ret (skErrorSuccess, heap)
  else do
    send (word.enc (UInt32.ofNat sizeofSkOperation))
    send ((opFormat word).enc op)
    sendParams word op op.indices heap

def Fiasco.skSwldPlatformCommSend (buf : Mem) (bufLen : UInt32) (op : SkOperation)
    (heap : Heap) : Comm (SkStatus × Heap) := do
  send (word.enc bufLen)
  send (buf.read 0 bufLen.toNat)
  sendParams word op op.indices heap

def Platform.skSwldPlatformCommSend :
    Platform → Mem → UInt32 → SkOperation → Heap → Comm (SkStatus × Heap)
  | tcp => Tcp.skSwldPlatformCommSend word
  | fiasco => Fiasco.skSwldPlatformCommSend word

/-- What the server makes of a message: the reply in `msend`, and what has become
of the operation and its buffers. -/
structure Processed where
  msend : Mem
  msendSize : UInt32
  op : SkOperation
  heap : Heap

/-- One pass of the loop of `sk_swld_tapi_dispatch`: what it received, and the
state it leaves. -/
def commDispatch (platform : Platform) (process : SwldComm → Processed) (s : SwldComm) :
    Comm (SwldComm × SwldComm) := do
  let (err, received) ← platform.skSwldPlatformCommRecv word maxMrecvSize env
    { s with op := { s.op with numParam := 0 } }
  if err ≠ skErrorSuccess then .fail .ended
  else do
    let p := process received
    let (err, heap) ← platform.skSwldPlatformCommSend word p.msend p.msendSize p.op p.heap
    if err ≠ skErrorSuccess then .fail .ended
    else .ret (received, { received with op := p.op, heap })

end Functions

/-! ## The question and the answer -/

section Frames

variable (word : Format UInt32 4)

/-- The bytes of the buffers in the driver's memory. -/
def NwldComm.content (call : NwldComm) (op : SkOperation) (i : Fin skMaximumOperations) :
    List UInt8 :=
  call.mem.read (op.param i).addr.toNat (op.param i).memorySize.toNat

/-- All that the driver sends. -/
def NwldComm.question (call : NwldComm) : List UInt8 :=
  word.enc call.sendBufLen ++ (call.sendBuf.read 0 call.sendBufLen.toNat ++
    match call.op with
    | none => word.enc 0
    | some op => word.enc (UInt32.ofNat sizeofSkOperation) ++ ((opFormat word).enc op ++
        upBytes op (call.content op) op.indices))

/-- The bytes of the buffers on the server's heap. -/
def Processed.content (p : Processed) (i : Fin skMaximumOperations) : List UInt8 :=
  p.heap.buffer (p.op.param i)

/-- What stands between the reply and the buffers. -/
def Platform.header (platform : Platform) (op : SkOperation) : List UInt8 :=
  match platform with
  | tcp =>
    if op.numParam = 0 then word.enc 0
    else word.enc (UInt32.ofNat sizeofSkOperation) ++ (opFormat word).enc op
  | fiasco => []

/-- All that the server sends back. -/
def Processed.answer (platform : Platform) (p : Processed) : List UInt8 :=
  word.enc p.msendSize ++ (p.msend.read 0 p.msendSize.toNat ++
    (platform.header word p.op ++ downBytes word p.op p.content p.op.indices))

end Frames

section Exchange

variable {word : Format UInt32 4} {maxMrecvSize : Nat} {env : SwldCommEnv}

theorem reads_recvInto {cap n : Nat} {bs : List UInt8} (h : bs.length = n) (hcap : n ≤ cap) :
    (recvInto cap n).Reads bs (.ret bs) := by
  have hfits : ¬ cap < bs.length := by omega
  have hbytes : (recvInto cap n).Reads (bs ++ []) (.ret bs) := by
    refine (reads_recv h).seq ?_
    rw [if_neg hfits]
    exact .done _
  rwa [List.append_nil] at hbytes

theorem indices_of_numParam_eq_zero {op : SkOperation} (h : op.numParam = 0) :
    op.indices = [] := by
  rw [SkOperation.indices, h]
  rfl

theorem writes_sendRequest (word : Format UInt32 4) (call : NwldComm)
    (hn : ∀ op, call.op = some op → op.numParam.toNat ≤ skMaximumOperations) :
    (sendRequest word call).Writes (call.question word) (.ret ()) := by
  refine (writes_send _).seq ((writes_send _).seq ?_)
  cases hop : call.op with
  | none => exact writes_send _
  | some op =>
    exact (writes_send _).seq ((writes_send _).seq (writes_sendBuffers call.mem (hn op hop) _))

/-- What the server has obtained from the driver: the request, the header of the
operation, and for every buffer that is sent along the driver's bytes; each
parameter has a buffer of its own. -/
structure Delivered (call : NwldComm) (s : SwldComm) : Prop where
  bufLen : s.bufLen = call.sendBufLen
  request : s.buf.read 0 s.bufLen.toNat = call.sendBuf.read 0 call.sendBufLen.toNat
  no_op : call.op = none → s.op.numParam = 0
  shape : ∀ op, call.op = some op → op.SameShape s.op
  id : ∀ op, call.op = some op → ∀ i, (s.op.param i).id = (op.param i).id
  out : ∀ op, call.op = some op → ∀ i ∈ op.indices, (op.param i).Out →
    s.heap.buffer (s.op.param i) = call.content op i
  holds : Holds s.op s.heap (fun i => s.heap.buffer (s.op.param i)) s.op.indices

/-- The buffers that are not sent along still hold what was there before. -/
structure Arrived (env : SwldCommEnv) (call : NwldComm) (s : SwldComm) : Prop
    extends Delivered call s where
  prior : ∀ op, call.op = some op → ∀ i ∈ op.indices, ¬ (op.param i).Out →
    s.heap.buffer (s.op.param i) = (env.prior i).read 0 (op.param i).memorySize.toNat

theorem NwldComm.length_content (call : NwldComm) (op : SkOperation)
    (i : Fin skMaximumOperations) :
    (call.content op i).length = (op.param i).memorySize.toNat :=
  Mem.length_read _ _ _

theorem reads_header (word : Format UInt32 4) (v : UInt32) :
    (recv 4 : Comm (List UInt8)).Reads (word.enc v) (.ret (word.enc v)) :=
  reads_recv (word.length_enc v)

theorem reads_request (buf : Mem) {n cap : Nat} (h : n ≤ cap) :
    (recvInto cap n).Reads (buf.read 0 n) (.ret (buf.read 0 n)) :=
  reads_recvInto (Mem.length_read _ _ _) h

/-- The operation as it arrives over an older one. -/
theorem reads_operation (op : SkOperation) :
    (recvInto sizeofSkOperation (UInt32.ofNat sizeofSkOperation).toNat).Reads
      ((opFormat word).enc op) (.ret ((opFormat word).enc op)) :=
  reads_recvInto ((opFormat word).length_enc op) le_rfl

/-- A message without an operation. -/
theorem arrived_of_no_op {call : NwldComm} {s : SwldComm} (hop : call.op = none)
    (hs : s.op.numParam = 0) (buf : Mem) :
    Arrived env call ⟨buf.write 0 (call.sendBuf.read 0 call.sendBufLen.toNat), call.sendBufLen,
      s.op, s.heap⟩ := by
  have hnone (op : SkOperation) : call.op ≠ some op := fun h => nomatch hop.symm.trans h
  refine ⟨⟨rfl, ?_, fun _ => hs, ?_, ?_, ?_, ?_⟩, ?_⟩
  · exact Mem.read_write_eq _ _ _ _ (Mem.length_read _ _ _)
  · exact fun op h => absurd h (hnone op)
  · exact fun op h => absurd h (hnone op)
  · exact fun op h => absurd h (hnone op)
  · rw [indices_of_numParam_eq_zero hs]
    constructor <;> exact fun _ h => absurd h List.not_mem_nil
  · exact fun op h => absurd h (hnone op)

theorem arrived_of_placed {call : NwldComm} {op op' : SkOperation} {heap heap' : Heap}
    (hop : call.op = some op) (halloc : env.Allocates)
    (h : Placed env (call.content op) op.indices op op' heap heap') (buf : Mem) :
    Arrived env call ⟨buf.write 0 (call.sendBuf.read 0 call.sendBufLen.toNat), call.sendBufLen,
      op', heap'⟩ := by
  have hlen := call.length_content op
  have hbuffer {i : Fin skMaximumOperations} (hi : i ∈ op.indices) :
      heap'.buffer (op'.param i) = env.placed (call.content op) (op.param i) i := by
    rw [Heap.buffer, h.load hlen hi, Option.getD_some]
  refine ⟨⟨rfl, ?_, ?_, ?_, ?_, ?_, ?_⟩, ?_⟩
  · exact Mem.read_write_eq _ _ _ _ (Mem.length_read _ _ _)
  · intro hnone
    rw [hop] at hnone
    cases hnone
  · intro op₁ h₁
    cases hop.symm.trans h₁
    exact h.shape
  · intro op₁ h₁
    cases hop.symm.trans h₁
    exact h.id
  · intro op₁ h₁ i hi hout
    cases hop.symm.trans h₁
    rw [hbuffer hi, SwldCommEnv.placed, if_pos hout]
  · rw [h.shape.indices]
    exact h.holds halloc hlen
  · intro op₁ h₁ i hi hout
    cases hop.symm.trans h₁
    rw [hbuffer hi, SwldCommEnv.placed, if_neg hout]

/-- The receive of either platform reads the whole question. -/
theorem reads_commRecv (word : Format UInt32 4) (platform : Platform) (call : NwldComm)
    (s : SwldComm) (halloc : env.Allocates) (hfits : call.sendBufLen.toNat ≤ maxMrecvSize)
    (hs : s.op.numParam = 0)
    (hn : ∀ op, call.op = some op → op.numParam.toNat ≤ skMaximumOperations) :
    ∃ received, (platform.skSwldPlatformCommRecv word maxMrecvSize env s).Reads
      (call.question word) (.ret (skErrorSuccess, received)) ∧ Arrived env call received := by
  have hsize : UInt32.ofNat sizeofSkOperation ≠ 0 := by decide
  have hlen (op : SkOperation) : ((opFormat word).enc op).length =
      (UInt32.ofNat sizeofSkOperation).toNat := (opFormat word).length_enc op
  unfold NwldComm.question
  cases hop : call.op with
  | none =>
    refine ⟨_, ?_, arrived_of_no_op hop hs s.buf⟩
    cases platform with
    | tcp =>
      refine (reads_header word _).seq ?_
      simp only [patch_enc, word.length_enc, ne_eq, not_true_eq_false, ↓reduceIte]
      refine (reads_request _ hfits).seq ((reads_header word _).last ?_)
      simp only [patch_enc, word.length_enc, Mem.length_read, not_true_eq_false, ↓reduceIte]
    | fiasco =>
      refine (reads_header word _).seq ?_
      simp only [patch_enc, word.length_enc, ne_eq, not_true_eq_false, ↓reduceIte]
      refine (reads_request _ hfits).seq ?_
      simp only [Mem.length_read, not_true_eq_false, ↓reduceIte]
      refine (reads_header word _).last ?_
      simp only [patch_enc, word.length_enc, not_true_eq_false, ↓reduceIte]
  | some op =>
    obtain ⟨op', heap', hparams, hplaced⟩ := reads_recvParams skErrorSuccess halloc (hn op hop)
      (call.length_content op) op.nodup_indices s.heap
    refine ⟨_, ?_, arrived_of_placed hop halloc hplaced s.buf⟩
    cases platform with
    | tcp =>
      refine (reads_header word _).seq ?_
      simp only [patch_enc, word.length_enc, ne_eq, not_true_eq_false, ↓reduceIte]
      refine (reads_request _ hfits).seq ((reads_header word _).seq ?_)
      simp only [patch_enc, word.length_enc, Mem.length_read, hsize, not_true_eq_false, ↓reduceIte]
      refine (reads_operation op).seq ?_
      simp only [patch_enc, hlen, not_true_eq_false, ↓reduceIte]
      exact hparams.last rfl
    | fiasco =>
      refine (reads_header word _).seq ?_
      simp only [patch_enc, word.length_enc, ne_eq, not_true_eq_false, ↓reduceIte]
      refine (reads_request _ hfits).seq ?_
      simp only [Mem.length_read, not_true_eq_false, ↓reduceIte]
      refine (reads_header word _).seq ?_
      simp only [patch_enc, word.length_enc, hsize, not_true_eq_false, ↓reduceIte]
      refine (reads_operation op).seq ?_
      simp only [patch_enc, hlen, not_true_eq_false, ↓reduceIte]
      exact hparams.last rfl

/-- The send of either platform writes the whole answer. -/
theorem writes_commSend (word : Format UInt32 4) (platform : Platform) (p : Processed)
    (hn : p.op.numParam.toNat ≤ skMaximumOperations)
    (h : Holds p.op p.heap p.content p.op.indices) :
    ∃ heap, (platform.skSwldPlatformCommSend word p.msend p.msendSize p.op p.heap).Writes
      (p.answer word platform) (.ret (skErrorSuccess, heap)) := by
  obtain ⟨heap, hparams⟩ := writes_sendParams word hn p.op.nodup_indices h
  cases platform with
  | fiasco => exact ⟨heap, (writes_send _).seq ((writes_send _).seq hparams)⟩
  | tcp =>
    unfold Processed.answer Platform.header
    by_cases hzero : p.op.numParam = 0
    · refine ⟨p.heap, (writes_send _).seq ((writes_send _).seq ?_)⟩
      simp only [hzero, ↓reduceIte, indices_of_numParam_eq_zero hzero]
      exact (writes_send _).seq (.done _)
    · refine ⟨heap, (writes_send _).seq ((writes_send _).seq ?_)⟩
      simp only [hzero, ↓reduceIte, List.append_assoc]
      exact (writes_send _).seq ((writes_send _).seq hparams)

/-- What the driver is left with: the reply as it was sent, and its memory once
the buffers have come back. -/
def NwldComm.answered (call : NwldComm) (p : Processed) : CommReply × Mem :=
  (⟨skErrorSuccess, call.recvBuf.write 0 (p.msend.read 0 p.msendSize.toNat), p.msendSize.toNat,
    call.op⟩,
    match call.op with
    | none => call.mem
    | some op => fillBuffers op p.content op.indices call.mem)

/-- The server leaves the operation as it was received. -/
structure NwldComm.Keeps (call : NwldComm) (p : Processed) : Prop where
  no_op : call.op = none → p.op.numParam = 0
  shape : ∀ op, call.op = some op → op.SameShape p.op

/-- Without a parameter nothing comes back but the reply. -/
theorem done_of_no_param {call : NwldComm} {p : Processed} (hkeeps : call.Keeps p)
    (hzero : p.op.numParam = 0) :
    call.done skErrorSuccess (call.recvBuf.write 0 (p.msend.read 0 p.msendSize.toNat))
      p.msendSize = .ret (call.answered p) := by
  unfold NwldComm.done NwldComm.answered
  cases hop : call.op with
  | none => rfl
  | some op =>
    have hindices := indices_of_numParam_eq_zero ((hkeeps.shape op hop).numParam.symm.trans hzero)
    simp only [hindices, fillBuffers, List.foldl_nil]

theorem reads_recvOp {call : NwldComm} {p : Processed} {op : SkOperation} (hop : call.op = some op)
    (hshape : op.SameShape p.op) (hn : op.numParam.toNat ≤ skMaximumOperations)
    (h : Holds p.op p.heap p.content p.op.indices) :
    (call.recvOp word op (call.recvBuf.write 0 (p.msend.read 0 p.msendSize.toNat))
      p.msendSize).Reads (downBytes word p.op p.content p.op.indices) (.ret (call.answered p)) := by
  rw [downBytes_congr _ _ _ hshape, hshape.indices]
  rw [hshape.indices] at h
  refine (reads_recvBuffers hn ?_ call.mem).last ?_
  · intro i hi hout
    rw [SkOpMeminfo.Out, ← hshape.flag] at hout
    rw [Heap.length_load (h.load i hi hout), hshape.memorySize]
  · rw [NwldComm.answered, hop]

/-- The rest of the driver's call reads the whole answer. -/
theorem reads_recvResponse (word : Format UInt32 4) (platform : Platform) (call : NwldComm)
    (p : Processed) (hfits : p.msendSize ≤ call.recvBufLen) (hkeeps : call.Keeps p)
    (hn : ∀ op, call.op = some op → op.numParam.toNat ≤ skMaximumOperations)
    (h : Holds p.op p.heap p.content p.op.indices) :
    ∃ rest, (platform.skNwldPlatformCommProc word call).Writes (call.question word) rest ∧
      rest.Reads (p.answer word platform) (.ret (call.answered p)) := by
  have hsize : UInt32.ofNat sizeofSkOperation ≠ 0 := by decide
  have hlen (op : SkOperation) : ((opFormat word).enc op).length =
      (UInt32.ofNat sizeofSkOperation).toNat := (opFormat word).length_enc op
  have hask := writes_sendRequest word call hn
  unfold Processed.answer Platform.header
  cases platform with
  | fiasco =>
    refine ⟨_, hask.last rfl, (reads_header word _).seq ?_⟩
    have hle : ¬ call.recvBufLen < p.msendSize := UInt32.not_lt.mpr hfits
    simp only [word.dec_enc, word.length_enc, hle, ne_eq, not_true_eq_false, ↓reduceIte]
    refine (reads_recv (Mem.length_read _ _ _)).seq ?_
    simp only [Mem.length_read, not_true_eq_false, ↓reduceIte, List.nil_append]
    cases hop : call.op with
    | none =>
      rw [indices_of_numParam_eq_zero (hkeeps.no_op hop)]
      simp only [NwldComm.done, NwldComm.answered, hop]
      exact .done _
    | some op => exact reads_recvOp hop (hkeeps.shape op hop) (hn op hop) h
  | tcp =>
    refine ⟨_, hask.last rfl, (reads_header word _).seq ?_⟩
    simp only [patch_enc, word.length_enc, ne_eq, not_true_eq_false, ↓reduceIte]
    refine (reads_request _ (UInt32.le_iff_toNat_le.mp hfits)).seq ?_
    simp only [Mem.length_read, not_true_eq_false, ↓reduceIte]
    unfold Tcp.recvOperation
    by_cases hzero : p.op.numParam = 0
    · simp only [hzero, ↓reduceIte, indices_of_numParam_eq_zero hzero]
      refine (reads_header word 0).seq ?_
      simp only [patch_enc, word.length_enc, ↓reduceIte]
      rw [done_of_no_param hkeeps hzero]
      exact .done _
    · simp only [hzero, ↓reduceIte, List.append_assoc]
      refine (reads_header word _).seq ?_
      simp only [patch_enc, word.length_enc, hsize, ↓reduceIte]
      cases hop : call.op with
      | none => exact absurd (hkeeps.no_op hop) hzero
      | some op =>
        have hshape := hkeeps.shape op hop
        refine (reads_operation p.op).seq ?_
        simp only [patch_enc, hlen, hshape.numParam]
        exact reads_recvOp hop hshape (hn op hop) h

end Exchange

end SkSdk
