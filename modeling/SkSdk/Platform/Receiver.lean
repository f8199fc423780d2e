import SkSdk.Library.Supply
import SkSdk.Platform.Transport

/-!
`sk_swld_platform_comm_recv` on any bytes whatever, as `sk_swld_tapi_dispatch`
calls it over and over. Three numbers that arrive decide how much is stored and
how often the loop over the parameters is run, and none of them is looked at
first: a read that is too long goes past its buffer unless too little arrives.
-/

namespace SkSdk
open ByteMemory Duplex Duplex.Proc Format

/-! ## A message and what there is room for -/

/-- What arrives for one message, and the numbers that the server takes from it. -/
structure Message where
  header : List UInt8
  bufLen : UInt32
  body : List UInt8
  opHeader : List UInt8
  opSize : UInt32
  opBody : List UInt8
  op : SkOperation
  rest : Supply UInt8

/-- One call of the receive: what `malloc` returns meanwhile, what the loop has
left and what arrives. -/
structure Pass where
  env : SwldCommEnv
  state : SwldComm
  supply : Supply UInt8

/-- `sk_swld_tapi_dispatch` clears `num_param` first. -/
def Pass.start (p : Pass) : SwldComm := { p.state with op := { p.state.op with numParam := 0 } }

/-- All buffers that are to be sent along arrive, and none is null. -/
def paramsArrive (env : SwldCommEnv) (op : SkOperation) :
    List (Fin skMaximumOperations) → Supply UInt8 → Bool
  | [], _ => true
  | i :: is, supply =>
    let size := (op.param i).memorySize
    if (op.param i).Out ∧ size ≠ 0 then
      if env.malloc i = 0 ∨ (arriving size.toNat supply).1.length ≠ size.toNat then false
      else paramsArrive env op is (arriving size.toNat supply).2
    else paramsArrive env op is supply

/-- Fiasco's receive returns at the first read that fails, TCP's goes on. -/
def Platform.GoesOn : Platform → Prop → Prop
  | tcp, _ => True
  | fiasco, complete => complete

theorem Platform.goesOn_of (platform : Platform) {complete : Prop} (h : complete) :
    platform.GoesOn complete := by
  cases platform with
  | tcp => trivial
  | fiasco => exact h

section Statements

variable (word : Format UInt32 4) (maxMrecvSize : Nat) (platform : Platform) (p : Pass)

def Pass.message : Message :=
  let header := arriving messageHeaderSize p.supply
  let bufLen := patch word p.start.bufLen header.1
  let body := arriving bufLen.toNat header.2
  let opHeader := arriving 4 body.2
  let opSize := patch word p.env.opSize opHeader.1
  let opBody := arriving opSize.toNat opHeader.2
  ⟨header.1, bufLen, body.1, opHeader.1, opSize, opBody.1,
    patch (opFormat word) p.start.op opBody.1, opBody.2⟩

/-- What the receive returns. -/
def Pass.status : Except CommFault SkStatus :=
  ((platform.skSwldPlatformCommRecv word maxMrecvSize p.env p.start).run p.supply).result.map
    Prod.fst

/-- One of the three numbers is too large. -/
def Message.Exceeds (m : Message) : Prop :=
  maxMrecvSize < m.bufLen.toNat ∨ sizeofSkOperation < m.opSize.toNat ∨
    skMaximumOperations < m.op.numParam.toNat

/-- The receive stays within `mrecv`, `op` and `op.param`, and refuses a message
that does not fit. -/
structure Contained : Prop where
  buffers : p.status word maxMrecvSize platform ≠ .error .overrun
  params : p.status word maxMrecvSize platform ≠ .error .outOfRange
  refused : (p.message word).Exceeds maxMrecvSize →
    ∃ err, p.status word maxMrecvSize platform = .ok err ∧ err ≠ skErrorSuccess

/-- What arrives for the message and for the operation has room there, and if
`num_param` is too large, one of the buffers before does not arrive. -/
structure Bounded : Prop where
  body : platform.GoesOn ((p.message word).header.length = messageHeaderSize) →
    (p.message word).body.length ≤ maxMrecvSize
  op : platform.GoesOn ((p.message word).header.length = messageHeaderSize ∧
      (p.message word).body.length = (p.message word).bufLen.toNat ∧
      (p.message word).opHeader.length = 4) →
    (p.message word).opSize ≠ 0 → (p.message word).opBody.length ≤ sizeofSkOperation
  params : platform.GoesOn ((p.message word).header.length = messageHeaderSize ∧
      (p.message word).body.length = (p.message word).bufLen.toNat ∧
      (p.message word).opHeader.length = 4 ∧
      (p.message word).opBody.length = (p.message word).opSize.toNat) →
    (p.message word).opSize ≠ 0 →
    (p.message word).op.numParam.toNat ≤ skMaximumOperations ∨
      paramsArrive p.env (p.message word).op (p.message word).op.indices
        (p.message word).rest = false

/-- The calls of the receive in the loop of `sk_swld_tapi_dispatch`, up to the
first pass that does not come to its end. -/
def passes : List SwldJob → SwldComm → Supply UInt8 → List Pass
  | [], _, _ => []
  | job :: jobs, s, supply =>
    let o := (commDispatch word maxMrecvSize job.env platform job.process s).run supply
    ⟨job.env, s, supply⟩ :: match o.result with
      | .ok (_, s') => passes jobs s' o.rest
      | .error _ => []

end Statements

/-! ## Reads into an object -/

theorem result_recvInto_bind {α : Type} (cap n : Nat) (f : List UInt8 → Comm α)
    (supply : Supply UInt8) :
    ((recvInto cap n >>= f).run supply).result =
      if cap < (arriving n supply).1.length then .error .overrun
      else ((f (arriving n supply).1).run (arriving n supply).2).result := by
  have hread : (recvInto cap n).run supply =
      ⟨if cap < (arriving n supply).1.length then .error .overrun
        else .ok (arriving n supply).1, [], (arriving n supply).2⟩ := by
    rw [recvInto, run_recv_bind]
    split <;> rfl
  by_cases hcap : cap < (arriving n supply).1.length
  · rw [if_pos hcap] at hread ⊢
    rw [run_bind_of_error hread]
  · rw [if_neg hcap] at hread ⊢
    rw [run_bind_of_ok hread]
    rfl

/-! ## The loop over the parameters -/

theorem paramsArrive_congr {env : SwldCommEnv} {op op' : SkOperation} (h : op.SameShape op')
    (is : List (Fin skMaximumOperations)) (supply : Supply UInt8) :
    paramsArrive env op' is supply = paramsArrive env op is supply := by
  induction is generalizing supply with
  | nil => rfl
  | cons i is ih =>
    simp only [paramsArrive, SkOpMeminfo.Out, h.memorySize, h.flag, ih]

/-- The loop ends early where a buffer does not arrive, else at `num_param` or
past the array. -/
theorem run_recvParams (env : SwldCommEnv) (err : SkStatus) (is : List (Fin skMaximumOperations))
    (op : SkOperation) (heap : Heap) (supply : Supply UInt8) :
    ((recvParams env err is op heap).run supply).result.map Prod.fst =
      if paramsArrive env op is supply = false then .ok skErrorCommReadFailed
      else if skMaximumOperations < op.numParam.toNat then .error .outOfRange
      else .ok err := by
  induction is generalizing op heap supply with
  | nil =>
    rw [recvParams, SkOperation.loopEnd, paramsArrive, if_neg (Bool.noConfusion : true ≠ false)]
    split <;> rfl
  | cons i is ih =>
    have hrest (addr : UInt32) (heap : Heap) (supply : Supply UInt8) :=
      ih (op.setAddr i addr) heap supply
    simp only [paramsArrive_congr (op.sameShape_setAddr i _), SkOperation.setAddr_numParam] at hrest
    rw [recvParams, paramsArrive]
    by_cases hsize : (op.param i).memorySize = 0
    · -- nothing is allocated
      simp only [if_pos hsize, if_neg (not_and_of_not_right _ (not_not.mpr hsize))]
      exact hrest _ _ _
    simp only [if_neg hsize]
    by_cases hout : (op.param i).Out
    · simp only [if_pos hout, if_pos (And.intro hout hsize)]
      by_cases hnull : env.malloc i = 0
      · rw [if_pos hnull, if_pos (Or.inl hnull), if_pos rfl]
        rfl
      · simp only [if_neg hnull, run_recv_bind]
        by_cases hfull : (arriving (op.param i).memorySize.toNat supply).1.length =
            (op.param i).memorySize.toNat
        · simp only [if_neg (not_or.mpr ⟨hnull, not_not.mpr hfull⟩), if_neg (not_not.mpr hfull)]
          exact hrest _ _ _
        · rw [if_pos hfull, if_pos (Or.inr hfull), if_pos rfl]
          rfl
    · simp only [if_neg hout, if_neg (not_and_of_not_left _ hout)]
      exact hrest _ _ _

/-! ## One call -/

section Calls

variable {word : Format UInt32 4} {maxMrecvSize : Nat} {platform : Platform} {p : Pass}

/-- What the two receives end with: the loop over the parameters and what it returns. -/
def Pass.recvOp (word : Format UInt32 4) (p : Pass) (err : SkStatus) :
    Except CommFault (SkStatus × SwldComm) :=
  let m := p.message word
  ((do
    let (err, op, heap) ← recvParams p.env err m.op.indices m.op p.start.heap
    .ret (err, ⟨p.start.buf.write 0 m.body, m.bufLen, op, heap⟩) :
      Comm (SkStatus × SwldComm)).run m.rest).result

theorem status_recvOp (err : SkStatus) : (p.recvOp word err).map Prod.fst =
    let m := p.message word
    if paramsArrive p.env m.op m.op.indices m.rest = false then .ok skErrorCommReadFailed
    else if skMaximumOperations < m.op.numParam.toNat then .error .outOfRange
    else .ok err := by
  dsimp only
  rw [← run_recvParams p.env err _ _ p.start.heap, Pass.recvOp, run_bind, Outcome.bind]
  cases ((recvParams p.env err _ _ p.start.heap).run (p.message word).rest).result <;> rfl

/-- The reads of TCP's receive, one after the other. -/
theorem Tcp.result_eq :
    ((Tcp.skSwldPlatformCommRecv word maxMrecvSize p.env p.start).run p.supply).result =
    let m := p.message word
    let err := if m.header.length ≠ messageHeaderSize then skErrorCommReadFailed else skErrorSuccess
    let err := if m.body.length ≠ m.bufLen.toNat then skErrorCommReadFailed else err
    let err := if m.opHeader.length ≠ 4 then skErrorCommReadFailed else err
    if maxMrecvSize < m.body.length then .error .overrun
    else if m.opSize = 0 then
      .ok (err, ⟨p.start.buf.write 0 m.body, m.bufLen, p.start.op, p.start.heap⟩)
    else if sizeofSkOperation < m.opBody.length then .error .overrun
    else p.recvOp word
      (if m.opBody.length ≠ m.opSize.toNat then skErrorCommReadFailed else err) := by
  unfold Tcp.skSwldPlatformCommRecv Pass.recvOp Pass.message
  rw [run_recv_bind]
  rcases arriving messageHeaderSize p.supply with ⟨header, afterHeader⟩
  dsimp only
  generalize patch word p.start.bufLen header = bufLen
  rw [result_recvInto_bind]
  rcases arriving bufLen.toNat afterHeader with ⟨body, afterBody⟩
  dsimp only
  by_cases hbody : maxMrecvSize < body.length
  · rw [if_pos hbody, if_pos hbody]
  rw [if_neg hbody, if_neg hbody, run_recv_bind]
  rcases arriving 4 afterBody with ⟨opHeader, afterOpHeader⟩
  dsimp only
  generalize patch word p.env.opSize opHeader = opSize
  by_cases hsize : opSize = 0
  · rw [if_pos hsize, if_pos hsize]
    rfl
  rw [if_neg hsize, if_neg hsize, result_recvInto_bind]

/-- Fiasco's receive goes on after a read that was complete. -/
theorem Fiasco.result_eq :
    ((Fiasco.skSwldPlatformCommRecv word maxMrecvSize p.env p.start).run p.supply).result =
    let m := p.message word
    let buf := p.start.buf.write 0 m.body
    if m.header.length ≠ messageHeaderSize then
      .ok (skErrorCommReadFailed, { p.start with bufLen := m.bufLen })
    else if maxMrecvSize < m.body.length then .error .overrun
    else if m.body.length ≠ m.bufLen.toNat ∨ m.opHeader.length ≠ 4 then
      .ok (skErrorCommReadFailed, { p.start with buf, bufLen := m.bufLen })
    else if m.opSize = 0 then .ok (skErrorSuccess, { p.start with buf, bufLen := m.bufLen })
    else if sizeofSkOperation < m.opBody.length then .error .overrun
    else if m.opBody.length ≠ m.opSize.toNat then
      .ok (skErrorCommReadFailed, ⟨buf, m.bufLen, m.op, p.start.heap⟩)
    else p.recvOp word skErrorSuccess := by
  unfold Fiasco.skSwldPlatformCommRecv Pass.recvOp Pass.message
  rw [run_recv_bind]
  rcases arriving messageHeaderSize p.supply with ⟨header, afterHeader⟩
  dsimp only
  by_cases hheader : header.length ≠ messageHeaderSize
  · rw [if_pos hheader, if_pos hheader]
    rfl
  rw [if_neg hheader, if_neg hheader]
  generalize patch word p.start.bufLen header = bufLen
  rw [result_recvInto_bind]
  rcases arriving bufLen.toNat afterHeader with ⟨body, afterBody⟩
  dsimp only
  by_cases hfits : maxMrecvSize < body.length
  · rw [if_pos hfits, if_pos hfits]
  rw [if_neg hfits, if_neg hfits]
  by_cases hbody : body.length ≠ bufLen.toNat
  · rw [if_pos hbody, if_pos (Or.inl hbody)]
    rfl
  rw [if_neg hbody, run_recv_bind]
  rcases arriving 4 afterBody with ⟨opHeader, afterOpHeader⟩
  dsimp only
  by_cases hopHeader : opHeader.length ≠ 4
  · rw [if_pos hopHeader, if_pos (Or.inr hopHeader)]
    rfl
  rw [if_neg hopHeader, if_neg (not_or.mpr ⟨hbody, hopHeader⟩)]
  generalize patch word p.env.opSize opHeader = opSize
  by_cases hsize : opSize = 0
  · rw [if_pos hsize, if_pos hsize]
    rfl
  rw [if_neg hsize, if_neg hsize, result_recvInto_bind]
  rcases arriving opSize.toNat afterOpHeader with ⟨opBody, afterOp⟩
  dsimp only
  by_cases hop : sizeofSkOperation < opBody.length
  · rw [if_pos hop, if_pos hop]
  rw [if_neg hop, if_neg hop]
  by_cases hopBody : opBody.length ≠ opSize.toNat
  · rw [if_pos hopBody, if_pos hopBody]
    rfl
  rw [if_neg hopBody, if_neg hopBody]

theorem Tcp.status_eq : p.status word maxMrecvSize .tcp =
    let m := p.message word
    let err := if m.header.length ≠ messageHeaderSize then skErrorCommReadFailed else skErrorSuccess
    let err := if m.body.length ≠ m.bufLen.toNat then skErrorCommReadFailed else err
    let err := if m.opHeader.length ≠ 4 then skErrorCommReadFailed else err
    if maxMrecvSize < m.body.length then .error .overrun
    else if m.opSize = 0 then .ok err
    else if sizeofSkOperation < m.opBody.length then .error .overrun
    else if paramsArrive p.env m.op m.op.indices m.rest = false then .ok skErrorCommReadFailed
    else if skMaximumOperations < m.op.numParam.toNat then .error .outOfRange
    else .ok (if m.opBody.length ≠ m.opSize.toNat then skErrorCommReadFailed else err) := by
  refine (congrArg (Except.map Prod.fst) Tcp.result_eq).trans ?_
  dsimp only
  simp only [apply_ite (Except.map Prod.fst), status_recvOp]
  rfl

theorem Fiasco.status_eq : p.status word maxMrecvSize .fiasco =
    let m := p.message word
    if m.header.length ≠ messageHeaderSize then .ok skErrorCommReadFailed
    else if maxMrecvSize < m.body.length then .error .overrun
    else if m.body.length ≠ m.bufLen.toNat ∨ m.opHeader.length ≠ 4 then .ok skErrorCommReadFailed
    else if m.opSize = 0 then .ok skErrorSuccess
    else if sizeofSkOperation < m.opBody.length then .error .overrun
    else if m.opBody.length ≠ m.opSize.toNat ∨
      paramsArrive p.env m.op m.op.indices m.rest = false then .ok skErrorCommReadFailed
    else if skMaximumOperations < m.op.numParam.toNat then .error .outOfRange
    else .ok skErrorSuccess := by
  refine (congrArg (Except.map Prod.fst) Fiasco.result_eq).trans ?_
  dsimp only
  simp only [apply_ite (Except.map Prod.fst), status_recvOp, ite_or]
  rfl

theorem contained_of_ok {err : SkStatus} (h : p.status word maxMrecvSize platform = .ok err)
    (herr : (p.message word).Exceeds maxMrecvSize → err ≠ skErrorSuccess) :
    Contained word maxMrecvSize platform p where
  buffers hfail := nomatch h.symm.trans hfail
  params hfail := nomatch h.symm.trans hfail
  refused hexceeds := ⟨err, h, herr hexceeds⟩

/-- Without an operation nothing is read into it, and the cleared `num_param` stays. -/
theorem message_of_opSize_eq_zero (h : (p.message word).opSize = 0) :
    (p.message word).opBody = [] ∧ (p.message word).op = p.start.op := by
  have hle : (p.message word).opBody.length ≤ (p.message word).opSize.toNat := length_arriving _ _
  rw [h] at hle
  have hnil : (p.message word).opBody = [] := List.length_eq_zero_iff.mp (Nat.le_zero.mp hle)
  have hop : (p.message word).op = patch (opFormat word) p.start.op (p.message word).opBody := rfl
  rw [hnil, patch_nil] at hop
  exact ⟨hnil, hop⟩

/-- Where nothing is read past `mrecv` and `op`, a number that is too large is
more than what arrived, or the loop has to deal with it. -/
theorem Message.Exceeds.short {m : Message} (h : m.Exceeds maxMrecvSize)
    (hbody : m.body.length ≤ maxMrecvSize) (hop : m.opBody.length ≤ sizeofSkOperation)
    (hparams : m.op.numParam.toNat ≤ skMaximumOperations) :
    m.body.length ≠ m.bufLen.toNat ∨ m.opBody.length ≠ m.opSize.toNat := by
  rcases h with h | h | h
  · exact Or.inl (by omega)
  · exact Or.inr (by omega)
  · exact absurd hparams (Nat.not_le.mpr h)

theorem Tcp.contained_iff :
    Contained word maxMrecvSize .tcp p ↔ Bounded word maxMrecvSize .tcp p := by
  have hfailed : skErrorCommReadFailed ≠ skErrorSuccess := by decide
  have hstatus := @Tcp.status_eq word maxMrecvSize p
  dsimp only at hstatus
  by_cases hbody : maxMrecvSize < (p.message word).body.length
  · rw [if_pos hbody] at hstatus
    exact iff_of_false (fun h => h.buffers hstatus) fun h => Nat.not_le.mpr hbody (h.body trivial)
  rw [if_neg hbody] at hstatus
  have hbody := Nat.le_of_not_lt hbody
  by_cases hsize : (p.message word).opSize = 0
  · rw [if_pos hsize] at hstatus
    refine iff_of_true (contained_of_ok hstatus fun hexceeds => ?_)
      ⟨fun _ => hbody, fun _ h => absurd hsize h, fun _ h => absurd hsize h⟩
    obtain ⟨hnil, hop⟩ := message_of_opSize_eq_zero hsize
    rcases hexceeds.short hbody (by simp [hnil]) (by simp [hop, Pass.start]) with hshort | hshort
    · rw [if_pos hshort, ite_self]
      exact hfailed
    · exact absurd (by simp [hnil, hsize]) hshort
  rw [if_neg hsize] at hstatus
  by_cases hop : sizeofSkOperation < (p.message word).opBody.length
  · rw [if_pos hop] at hstatus
    exact iff_of_false (fun h => h.buffers hstatus) fun h => Nat.not_le.mpr hop (h.op trivial hsize)
  rw [if_neg hop] at hstatus
  have hop := Nat.le_of_not_lt hop
  by_cases harrive : paramsArrive p.env (p.message word).op (p.message word).op.indices
      (p.message word).rest = false
  · rw [if_pos harrive] at hstatus
    exact iff_of_true (contained_of_ok hstatus fun _ => hfailed)
      ⟨fun _ => hbody, fun _ _ => hop, fun _ _ => Or.inr harrive⟩
  rw [if_neg harrive] at hstatus
  by_cases hparams : skMaximumOperations < (p.message word).op.numParam.toNat
  · rw [if_pos hparams] at hstatus
    refine iff_of_false (fun h => h.params hstatus) fun h => ?_
    exact (h.params trivial hsize).elim (Nat.not_le.mpr hparams) harrive
  rw [if_neg hparams] at hstatus
  have hparams := Nat.le_of_not_lt hparams
  refine iff_of_true (contained_of_ok hstatus fun hexceeds => ?_)
    ⟨fun _ => hbody, fun _ _ => hop, fun _ _ => Or.inl hparams⟩
  rcases hexceeds.short hbody hop hparams with hshort | hshort
  · rw [if_pos hshort, ite_self, ite_self]
    exact hfailed
  · rw [if_pos hshort]
    exact hfailed

theorem Fiasco.contained_iff :
    Contained word maxMrecvSize .fiasco p ↔ Bounded word maxMrecvSize .fiasco p := by
  have hfailed : skErrorCommReadFailed ≠ skErrorSuccess := by decide
  have hstatus := @Fiasco.status_eq word maxMrecvSize p
  dsimp only at hstatus
  by_cases hheader : (p.message word).header.length ≠ messageHeaderSize
  · rw [if_pos hheader] at hstatus
    exact iff_of_true (contained_of_ok hstatus fun _ => hfailed)
      ⟨fun h => absurd h hheader, fun h => absurd h.1 hheader, fun h => absurd h.1 hheader⟩
  rw [if_neg hheader] at hstatus
  have hheader := not_not.mp hheader
  by_cases hbody : maxMrecvSize < (p.message word).body.length
  · rw [if_pos hbody] at hstatus
    exact iff_of_false (fun h => h.buffers hstatus) fun h => Nat.not_le.mpr hbody (h.body hheader)
  rw [if_neg hbody] at hstatus
  have hbody := Nat.le_of_not_lt hbody
  by_cases hshort : (p.message word).body.length ≠ (p.message word).bufLen.toNat ∨
      (p.message word).opHeader.length ≠ 4
  · rw [if_pos hshort] at hstatus
    refine iff_of_true (contained_of_ok hstatus fun _ => hfailed) ⟨fun _ => hbody, ?_, ?_⟩
    · exact fun h => (hshort.elim (· h.2.1) (· h.2.2)).elim
    · exact fun h => (hshort.elim (· h.2.1) (· h.2.2.1)).elim
  rw [if_neg hshort] at hstatus
  obtain ⟨hfull, hopHeader⟩ := not_or.mp hshort
  have hfull := not_not.mp hfull
  have hopHeader := not_not.mp hopHeader
  by_cases hsize : (p.message word).opSize = 0
  · rw [if_pos hsize] at hstatus
    refine iff_of_true (contained_of_ok hstatus fun hexceeds => ?_)
      ⟨fun _ => hbody, fun _ h => absurd hsize h, fun _ h => absurd hsize h⟩
    obtain ⟨hnil, hop⟩ := message_of_opSize_eq_zero hsize
    rcases hexceeds.short hbody (by simp [hnil]) (by simp [hop, Pass.start]) with hshort | hshort
    · exact absurd hfull hshort
    · exact absurd (by simp [hnil, hsize]) hshort
  rw [if_neg hsize] at hstatus
  by_cases hop : sizeofSkOperation < (p.message word).opBody.length
  · rw [if_pos hop] at hstatus
    refine iff_of_false (fun h => h.buffers hstatus) fun h => ?_
    exact Nat.not_le.mpr hop (h.op ⟨hheader, hfull, hopHeader⟩ hsize)
  rw [if_neg hop] at hstatus
  have hop := Nat.le_of_not_lt hop
  by_cases hrefused : (p.message word).opBody.length ≠ (p.message word).opSize.toNat ∨
      paramsArrive p.env (p.message word).op (p.message word).op.indices
        (p.message word).rest = false
  · rw [if_pos hrefused] at hstatus
    refine iff_of_true (contained_of_ok hstatus fun _ => hfailed)
      ⟨fun _ => hbody, fun _ _ => hop, fun h _ => Or.inr ?_⟩
    exact hrefused.elim (absurd h.2.2.2) id
  rw [if_neg hrefused] at hstatus
  obtain ⟨hopFull, harrive⟩ := not_or.mp hrefused
  have hopFull := not_not.mp hopFull
  by_cases hparams : skMaximumOperations < (p.message word).op.numParam.toNat
  · rw [if_pos hparams] at hstatus
    refine iff_of_false (fun h => h.params hstatus) fun h => ?_
    exact (h.params ⟨hheader, hfull, hopHeader, hopFull⟩ hsize).elim
      (Nat.not_le.mpr hparams) harrive
  rw [if_neg hparams] at hstatus
  have hparams := Nat.le_of_not_lt hparams
  refine iff_of_true (contained_of_ok hstatus fun hexceeds => ?_)
    ⟨fun _ => hbody, fun _ _ => hop, fun _ _ => Or.inl hparams⟩
  rcases hexceeds.short hbody hop hparams with hshort | hshort
  · exact absurd hfull hshort
  · exact absurd hopFull hshort

theorem contained_iff :
    Contained word maxMrecvSize platform p ↔ Bounded word maxMrecvSize platform p := by
  cases platform with
  | tcp => exact Tcp.contained_iff
  | fiasco => exact Fiasco.contained_iff

/-- Call after call of the loop, whatever arrives and whatever the earlier calls
have left: the receive stays within its buffers, and refuses what does not fit,
exactly if too little arrives to go past them. -/
theorem receiver_contained_iff (word : Format UInt32 4) (maxMrecvSize : Nat) (platform : Platform)
    (jobs : List SwldJob) (s : SwldComm) (supply : Supply UInt8) :
    ∀ p ∈ passes word maxMrecvSize platform jobs s supply,
      (Contained word maxMrecvSize platform p ↔ Bounded word maxMrecvSize platform p) :=
  fun _ _ => contained_iff

/-- A server with room for 64 bytes, and these bytes for it. -/
def samplePass (bs : List UInt8) : Pass :=
  ⟨echoJob.env, ⟨.ofList [], 0, sampleOperation, fun _ => none⟩, bs.map some⟩

/-- A message of one byte with an operation, of whose two buffers one is sent along. -/
def messageWithOperation : List UInt8 :=
  Format.le32.enc 1 ++ [7] ++ Format.le32.enc 116 ++ (opFormat Format.le32).enc sampleOperation ++
    [8, 9]

/-- A message with an operation that fits, on each platform. -/
theorem receiver_contained_iff_sample :
    (∀ platform, Bounded Format.le32 64 platform (samplePass messageWithOperation)) ∧
    ∀ platform, Contained Format.le32 64 platform (samplePass messageWithOperation) := by
  have hbounded : ∀ platform, Bounded Format.le32 64 platform (samplePass messageWithOperation) :=
    fun _ => ⟨fun _ => by decide +kernel, fun _ _ => by decide +kernel,
      fun _ _ => .inl (by decide +kernel)⟩
  refine ⟨hbounded, fun platform => ?_⟩
  exact (receiver_contained_iff Format.le32 64 platform [echoJob] (samplePass []).state
    (samplePass messageWithOperation).supply _ List.mem_cons_self).mpr (hbounded platform)

/-- Each of the three numbers, one too large, on each platform. -/
theorem receiver_overruns :
    (∀ platform, ¬ Contained Format.le32 64 platform
      (samplePass ([65, 0, 0, 0] ++ List.replicate 65 0))) ∧
    (∀ platform, ¬ Contained Format.le32 64 platform
      (samplePass ([1, 0, 0, 0, 7, 117, 0, 0, 0] ++ List.replicate 117 0))) ∧
    ∀ platform, ¬ Contained Format.le32 64 platform
      (samplePass ([1, 0, 0, 0, 7, 116, 0, 0, 0, 5, 0, 0, 0] ++ List.replicate 112 0)) := by
  simp only [contained_iff]
  refine ⟨fun platform h => ?_, fun platform h => ?_, fun platform h => ?_⟩
  · exact absurd (h.body (platform.goesOn_of (by decide))) (by decide)
  · exact absurd (h.op (platform.goesOn_of (by decide)) (by decide)) (by decide)
  · exact absurd (h.params (platform.goesOn_of (by decide)) (by decide)) (by decide)

end Calls

end SkSdk
