import SkSdk.Both.TapiCodec
import SkSdk.Library.Refinement
import SkSdk.Swld.Tapi

/-!
The router between the driver and several contexts (`tapi_message_interface.c`). Every
message and every reply passes through the one buffer `msg`, which the functions behind
the interfaces get with a length.
-/

namespace SkSdk
open ByteMemory FaultState Format

abbrev ContextIdx := Fin skTapiMaxContextIds

/-- `mObj` names an object that the two functions act on. They get the buffer as it is
and leave it as they like. -/
structure TApiMsgSendInterface (κ σ : Type) where
  mObj : κ
  tapiSendMsgToContext : Option (σ → Mem → UInt32 → SkStatus × Mem × σ)
  tapiRecvMsgFromContext : Option (σ → Mem → UInt32 → SkStatus × Mem × UInt32 × σ)

/-- Whether there is a `tapi_send_msg`. What the driver does is in the arrivals. -/
structure TApiMsgDriverRecvInterface where
  tapiSendMsg : Bool

structure TApiMsgIntObj (κ σ : Type) where
  numContextIds : Nat
  contextIds : ContextIdx → UInt32
  miSendContext : ContextIdx → Option (TApiMsgSendInterface κ σ)
  miRxIntf : TApiMsgDriverRecvInterface
  maxMsgSize : UInt32
  msg : Mem
  numContextIds_le : numContextIds ≤ skTapiMaxContextIds

/-- The object of the router and those behind the interfaces. -/
structure MsgRouter (κ σ : Type) where
  tObjParam : TApiMsgIntObj κ σ
  objects : κ → σ

/-- What one call meets: the result of `tapi_recv_msg`, the bytes it writes and the size
it reports, the result of `tapi_send_msg`, and the prior bytes of the local `hdr`. -/
structure MsgArrival where
  recv : SkStatus
  bytes : List UInt8
  msgSize : UInt32
  send : SkStatus
  hdr : SkHeader

variable {κ σ : Type}

/-! ## The functions -/

/-- The `memset` clears no more than the size of a pointer, so entries past
`num_context_ids` keep what they held, `priorIds` and `priorContext`. `mem` is the
memory that the allocation gives. -/
def skSwldTapiMessageInterfaceInit (numContextIds : UInt32) (contextIds : Option (Nat → UInt32))
    (msgContextInterface : Nat → Option (TApiMsgSendInterface κ σ))
    (msgRxInterface : Option TApiMsgDriverRecvInterface) (maxMsgSize : UInt32)
    (priorIds : ContextIdx → UInt32)
    (priorContext : ContextIdx → Option (TApiMsgSendInterface κ σ)) (mem : Option Mem) :
    Except SkStatus (TApiMsgIntObj κ σ) :=
  match contextIds, msgRxInterface with
  | some contextIds, some miRxIntf =>
    if numContextIds = 0 ∨ maxMsgSize = 0 then .error skErrorInvalidParam
    else if h : numContextIds.toNat ≤ skTapiMaxContextIds then
      match mem with
      | none => .error skErrorNoMemory
      | some msg => .ok
        { numContextIds := numContextIds.toNat
          contextIds := fun i => if i.val < numContextIds.toNat then contextIds i else priorIds i
          miSendContext := fun i =>
            if i.val < numContextIds.toNat then msgContextInterface i else priorContext i
          miRxIntf, maxMsgSize, msg
          numContextIds_le := h }
    else .error skErrorOutOfRange
  | _, _ => .error skErrorInvalidParam

/-- The loop over the registered ids; `none` is -1. -/
def TApiMsgIntObj.foundContext (tObjParam : TApiMsgIntObj κ σ) (contextId : UInt32) :
    Option ContextIdx :=
  (List.finRange skTapiMaxContextIds).find? fun i =>
    decide (i.val < tObjParam.numContextIds ∧ tObjParam.contextIds i = contextId)

/-- The message to the context and, if there is a function for it, its reply, with the
buffer and the object as the state: the status and the size of what is in the buffer. -/
def TApiMsgSendInterface.exchange (contextSendInterface : TApiMsgSendInterface κ σ)
    (maxMsgSize msgSize : UInt32) : Prog (Mem × σ) Fault (SkStatus × UInt32) := do
  let tapiSendMsgToContext ← deref .assert contextSendInterface.tapiSendMsgToContext
  let (msg, mObj) ← get
  let (err, msg, mObj) := tapiSendMsgToContext mObj msg msgSize
  set (msg, mObj)
  if err ≠ 0 then return (skErrorSendComm, msgSize)
  match contextSendInterface.tapiRecvMsgFromContext with
  | none => return (skErrorSuccess, msgSize)
  | some tapiRecvMsgFromContext =>
    let (err, msg, msgSize, mObj) := tapiRecvMsgFromContext mObj msg maxMsgSize
    set (msg, mObj)
    if err ≠ 0 then return (skErrorRecvFromContext, msgSize)
    return (skErrorSuccess, msgSize)

section Process

variable [DecidableEq κ]

/-- The status, and the messages handed to `tapi_send_msg`. -/
def skSwldTapiMessageInterfaceProcess (a : MsgArrival) :
    Prog (MsgRouter κ σ) Fault (SkStatus × List (List UInt8)) := do
  modify fun r => { r with tObjParam.msg := r.tObjParam.msg.write 0 a.bytes }
  if a.recv ≠ 0 then return (skErrorRecvComm, [])
  let tObjParam := (← get).tObjParam
  let unpacked := skTapiHeaderUnpack tObjParam.msg a.msgSize.toNat a.hdr
  if unpacked.status ≠ skTapiPackErrSuccess then return (skErrorInvalidParam, [])
  match tObjParam.foundContext unpacked.out.contextId with
  | none => return (skErrorBadContextId, [])
  | some foundContext =>
    let contextSendInterface ← deref .assert (tObjParam.miSendContext foundContext)
    let (err, msgSize) ← onPart
      (fun r => (r.tObjParam.msg, r.objects contextSendInterface.mObj))
      (fun s r => ⟨{ r.tObjParam with msg := s.1 },
        Function.update r.objects contextSendInterface.mObj s.2⟩)
      (contextSendInterface.exchange tObjParam.maxMsgSize a.msgSize)
    if err ≠ skErrorSuccess then return (err, [])
    if tObjParam.miRxIntf.tapiSendMsg then
      let msg := (← get).tObjParam.msg.read 0 msgSize.toNat
      if a.send ≠ 0 then return (skErrorSendToDriver, [msg])
      return (skErrorSuccess, [msg])
    return (skErrorSuccess, [])

end Process

/-! ## A context with a buffer of its own -/

/-- What a context does with a message depends on its object and on the message, what
it replies on its object alone. Nothing else in the buffer counts. -/
structure TApiMsgSendInterface.Contained (i : TApiMsgSendInterface κ σ) : Prop where
  send : ∀ f, i.tapiSendMsgToContext = some f → ∀ (mObj : σ) (len : UInt32) (m m' : Mem),
    m.read 0 len.toNat = m'.read 0 len.toNat →
    (f mObj m len).1 = (f mObj m' len).1 ∧ (f mObj m len).2.2 = (f mObj m' len).2.2 ∧
    (f mObj m len).2.1.read 0 len.toNat = (f mObj m' len).2.1.read 0 len.toNat
  recv : ∀ g, i.tapiRecvMsgFromContext = some g → ∀ (mObj : σ) (len : UInt32) (m m' : Mem),
    (g mObj m len).1 = (g mObj m' len).1 ∧ (g mObj m len).2.2 = (g mObj m' len).2.2 ∧
    (g mObj m len).2.1.read 0 (g mObj m len).2.2.1.toNat =
      (g mObj m' len).2.1.read 0 (g mObj m len).2.2.1.toNat

/-- The exchange in a buffer that holds the message and nothing else. -/
def TApiMsgSendInterface.answer (i : TApiMsgSendInterface κ σ) (maxMsgSize : UInt32)
    (bytes : List UInt8) : Prog σ Fault (SkStatus × List UInt8) := fun mObj =>
  match i.exchange maxMsgSize (UInt32.ofNat bytes.length) (Mem.ofList bytes, mObj) with
  | .error e => .error e
  | .ok ((err, msgSize), msg, mObj) => .ok ((err, msg.read 0 msgSize.toNat), mObj)

/-- What becomes of an answer at the driver. -/
def TApiMsgDriverRecvInterface.relay (miRxIntf : TApiMsgDriverRecvInterface) (a : MsgArrival)
    (answer : SkStatus × List UInt8) : SkStatus × List (List UInt8) :=
  if answer.1 ≠ skErrorSuccess then (answer.1, [])
  else if miRxIntf.tapiSendMsg then
    (if a.send ≠ 0 then skErrorSendToDriver else skErrorSuccess, [answer.2])
  else (skErrorSuccess, [])

/-- The interface that a message is for: that of the first registered id that equals
its context id. -/
def MsgArrival.interface (tObjParam : TApiMsgIntObj κ σ) (a : MsgArrival) :
    Option (TApiMsgSendInterface κ σ) :=
  if a.recv ≠ 0 ∨ a.bytes.length < 12 then none
  else (tObjParam.foundContext (be32.dec (a.bytes.take 4))).bind tObjParam.miSendContext

/-- The driver reports the bytes that it has written. -/
def MsgArrival.Whole (a : MsgArrival) : Prop := a.recv = 0 → a.msgSize.toNat = a.bytes.length

theorem TApiMsgSendInterface.exchange_eq (i : TApiMsgSendInterface κ σ)
    (maxMsgSize msgSize : UInt32) (msg : Mem) (mObj : σ) :
    i.exchange maxMsgSize msgSize (msg, mObj) =
      match i.tapiSendMsgToContext with
      | none => .error .assert
      | some f =>
        if (f mObj msg msgSize).1 ≠ 0 then
          .ok ((skErrorSendComm, msgSize), (f mObj msg msgSize).2.1, (f mObj msg msgSize).2.2)
        else match i.tapiRecvMsgFromContext with
          | none =>
            .ok ((skErrorSuccess, msgSize), (f mObj msg msgSize).2.1, (f mObj msg msgSize).2.2)
          | some g =>
            let reply := g (f mObj msg msgSize).2.2 (f mObj msg msgSize).2.1 maxMsgSize
            .ok ((if reply.1 ≠ 0 then skErrorRecvFromContext else skErrorSuccess, reply.2.2.1),
              reply.2.1, reply.2.2.2) := by
  unfold TApiMsgSendInterface.exchange
  cases i.tapiSendMsgToContext with
  | none => rfl
  | some f =>
    refine (deref_some_bind_run _ _ _ _).trans ?_
    refine (get_bind_run _ _).trans ?_
    change (do set (f mObj msg msgSize).2; _ : Prog (Mem × σ) Fault (SkStatus × UInt32)) _ = _
    refine (modify_bind_run (fun _ => (f mObj msg msgSize).2) _ _).trans ?_
    by_cases hsend : (f mObj msg msgSize).1 ≠ 0
    · simp only [if_pos hsend]
      rfl
    · simp only [if_neg hsend]
      cases i.tapiRecvMsgFromContext with
      | none => rfl
      | some g =>
        refine (modify_bind_run (fun _ => _) _ _).trans ?_
        dsimp only
        split <;> rfl

/-- The answer is that of the router's buffer, whatever lies past the message. -/
theorem TApiMsgSendInterface.Contained.answer {i : TApiMsgSendInterface κ σ} (h : i.Contained)
    {maxMsgSize msgSize size : UInt32} {bytes : List UInt8} {msg msg' : Mem} {mObj mObj' : σ}
    {err : SkStatus} (hsize : msgSize.toNat = bytes.length)
    (hread : msg.read 0 bytes.length = bytes)
    (hrun : i.exchange maxMsgSize msgSize (msg, mObj) = .ok ((err, size), msg', mObj')) :
    i.answer maxMsgSize bytes mObj = .ok ((err, msg'.read 0 size.toNat), mObj') := by
  have hlen : UInt32.ofNat bytes.length = msgSize := by
    rw [← hsize]
    exact UInt32.ofNat_toNat
  have hsame : (Mem.ofList bytes).read 0 msgSize.toNat = msg.read 0 msgSize.toNat := by
    rw [hsize, hread, Mem.read_ofList _ _ (Nat.le_refl _), List.take_length]
  rw [TApiMsgSendInterface.answer, hlen]
  rw [TApiMsgSendInterface.exchange_eq] at hrun ⊢
  cases hf : i.tapiSendMsgToContext with
  | none =>
    rw [hf] at hrun
    cases hrun
  | some f =>
    obtain ⟨herr, hobj, hbytes⟩ := h.send f hf mObj msgSize _ _ hsame
    rw [hf] at hrun
    simp only [herr, hobj] at hrun ⊢
    by_cases hfailed : (f mObj msg msgSize).1 ≠ 0
    · rw [if_pos hfailed] at hrun ⊢
      cases hrun
      simp only [hbytes]
    · rw [if_neg hfailed] at hrun ⊢
      cases hg : i.tapiRecvMsgFromContext with
      | none =>
        rw [hg] at hrun
        cases hrun
        simp only [hbytes]
      | some g =>
        obtain ⟨herr', hrest, hreply⟩ := h.recv g hg (f mObj msg msgSize).2.2 maxMsgSize
          (f mObj (Mem.ofList bytes) msgSize).2.1 (f mObj msg msgSize).2.1
        rw [hg] at hrun
        cases hrun
        rw [hrest] at hreply
        simp only [herr', hrest, hreply]

/-! ## A call -/

/-- The router with the arrived message in its buffer. -/
def MsgRouter.received (r : MsgRouter κ σ) (a : MsgArrival) : MsgRouter κ σ :=
  { r with tObjParam.msg := r.tObjParam.msg.write 0 a.bytes }

theorem read_received (r : MsgRouter κ σ) (a : MsgArrival) :
    (r.received a).tObjParam.msg.read 0 a.bytes.length = a.bytes :=
  Mem.read_write_same _ _ _

theorem registered_of_found {tObjParam : TApiMsgIntObj κ σ} {contextId : UInt32}
    {slot : ContextIdx} (h : tObjParam.foundContext contextId = some slot) :
    slot.val < tObjParam.numContextIds ∧ tObjParam.contextIds slot = contextId := by
  simpa using List.find?_some h

/-- The registered ids are searched whatever the buffer holds. -/
theorem foundContext_received (r : MsgRouter κ σ) (a : MsgArrival) (contextId : UInt32) :
    (r.received a).tObjParam.foundContext contextId = r.tObjParam.foundContext contextId := rfl

theorem contextId_received (r : MsgRouter κ σ) {a : MsgArrival} (h : 12 ≤ a.bytes.length) :
    (Layout.headerFormat.get (r.received a).tObjParam.msg 0).contextId =
      be32.dec (a.bytes.take 4) := by
  have hread : (r.received a).tObjParam.msg.read 0 4 = a.bytes.take 4 := by
    have hprefix := Mem.take_read (r.received a).tObjParam.msg 0 4 a.bytes.length (by omega)
    rw [read_received] at hprefix
    exact hprefix.symm
  rw [← hread]
  rw [Layout.headerFormat, get_iso, get_seq]
  rfl

section Calls

variable [DecidableEq κ]

/-- The router after an exchange with an object. -/
def MsgRouter.exchanged (r : MsgRouter κ σ) (mObj : κ) (msg : Mem) (o : σ) : MsgRouter κ σ :=
  ⟨{ r.tObjParam with msg }, Function.update r.objects mObj o⟩

theorem objects_exchanged (r : MsgRouter κ σ) (k : κ) (msg : Mem) (o : σ) :
    (r.exchanged k msg o).objects k = o := Function.update_self _ _ _

/-- A call that returns: what it returns, and the router it leaves. -/
inductive Routed (r : MsgRouter κ σ) (a : MsgArrival) :
    SkStatus × List (List UInt8) → MsgRouter κ σ → Prop
  | refused {err : SkStatus} : a.interface r.tObjParam = none → err ≠ skErrorSuccess →
    Routed r a (err, []) (r.received a)
  | served {i : TApiMsgSendInterface κ σ} {err : SkStatus} {size : UInt32} {msg : Mem} {o : σ} :
    a.recv = 0 → a.interface r.tObjParam = some i →
    i.exchange r.tObjParam.maxMsgSize a.msgSize
      ((r.received a).tObjParam.msg, r.objects i.mObj) = .ok ((err, size), msg, o) →
    Routed r a (r.tObjParam.miRxIntf.relay a (err, msg.read 0 size.toNat))
      ((r.received a).exchanged i.mObj msg o)

theorem routed_of_process {r r' : MsgRouter κ σ} {a : MsgArrival} (hwhole : a.Whole)
    {res : SkStatus × List (List UInt8)}
    (h : skSwldTapiMessageInterfaceProcess a r = .ok (res, r')) : Routed r a res r' := by
  refine of_wp (?_ : wp _ _ (fun _ => True) r) h
  unfold skSwldTapiMessageInterfaceProcess
  rw [wp_bind, wp_modify]
  change wp _ _ _ (r.received a)
  by_cases hrecv : a.recv = 0
  case neg =>
    rw [if_pos hrecv]
    exact .refused (if_pos (.inl hrecv)) (by decide)
  have hsize := hwhole hrecv
  rw [if_neg (not_not.mpr hrecv), wp_bind, wp_get]
  dsimp only
  by_cases hshort : a.bytes.length < 12
  · have hfailed : skTapiPackErrFailed ≠ skTapiPackErrSuccess := by decide
    rw [skTapiHeaderUnpack_of_lt _ _ _ (by omega), if_pos hfailed]
    exact .refused (if_pos (.inr hshort)) (by decide)
  have hinterface : a.interface r.tObjParam =
      (r.tObjParam.foundContext (be32.dec (a.bytes.take 4))).bind r.tObjParam.miSendContext :=
    if_neg (by simp only [hrecv, hshort, ne_eq, not_true_eq_false, or_self, not_false_eq_true])
  rw [skTapiHeaderUnpack_of_le _ _ _ (by omega), if_neg (not_not.mpr rfl),
    contextId_received r (by omega), foundContext_received]
  cases hfound : r.tObjParam.foundContext (be32.dec (a.bytes.take 4)) with
  | none =>
    rw [hfound] at hinterface
    exact .refused hinterface (by decide)
  | some slot =>
    rw [hfound] at hinterface
    cases hi : r.tObjParam.miSendContext slot with
    | none =>
      change wp (deref _ (r.tObjParam.miSendContext slot) >>= _) _ _ _
      rw [wp_bind, hi]
      trivial
    | some i =>
      have hfor : a.interface r.tObjParam = some i := hinterface.trans hi
      change wp (deref _ (r.tObjParam.miSendContext slot) >>= _) _ _ _
      rw [wp_bind, hi, wp_deref_some, wp_bind, wp_onPart]
      cases hrun : i.exchange (r.received a).tObjParam.maxMsgSize a.msgSize
          ((r.received a).tObjParam.msg, (r.received a).objects i.mObj) with
      | error e =>
        unfold wp
        rw [hrun]
        trivial
      | ok p =>
        obtain ⟨⟨err, size⟩, msg, o⟩ := p
        have hserved := Routed.served hrecv hfor hrun
        refine (wp_of_ok hrun _ _).mpr ?_
        change wp _ _ _ ((r.received a).exchanged i.mObj msg o)
        unfold TApiMsgDriverRecvInterface.relay at hserved
        dsimp only at hserved ⊢
        by_cases herr : err = skErrorSuccess
        · rw [if_neg (not_not.mpr herr)] at hserved ⊢
          cases hdriver : r.tObjParam.miRxIntf.tapiSendMsg with
          | false =>
            rw [hdriver] at hserved
            change wp (if r.tObjParam.miRxIntf.tapiSendMsg then _ else _) _ _ _
            rw [hdriver]
            exact hserved
          | true =>
            rw [hdriver] at hserved
            change wp (if r.tObjParam.miRxIntf.tapiSendMsg then _ else _) _ _ _
            rw [hdriver, if_pos rfl, wp_bind, wp_get]
            by_cases hsend : a.send = 0
            · rw [if_neg (not_not.mpr hsend)] at hserved ⊢
              exact hserved
            · rw [if_pos hsend] at hserved ⊢
              exact hserved
        · rw [if_pos herr] at hserved ⊢
          exact hserved

end Calls

/-! ## Runs -/

/-- A call leaves everything of the router's object but the buffer. -/
def TApiMsgIntObj.RoutesAs (tObjParam tObjParam' : TApiMsgIntObj κ σ) : Prop :=
  tObjParam' = { tObjParam with msg := tObjParam'.msg }

theorem TApiMsgIntObj.RoutesAs.interface {t t' : TApiMsgIntObj κ σ} (h : t.RoutesAs t')
    (a : MsgArrival) : a.interface t' = a.interface t := by
  rw [h]
  rfl

theorem TApiMsgIntObj.RoutesAs.trans {t t' t'' : TApiMsgIntObj κ σ} (h : t.RoutesAs t')
    (h' : t'.RoutesAs t'') : t.RoutesAs t'' := by
  rw [TApiMsgIntObj.RoutesAs, h', h]

section Init

variable {numContextIds maxMsgSize : UInt32} {contextIds : Option (Nat → UInt32)}
  {msgContextInterface : Nat → Option (TApiMsgSendInterface κ σ)}
  {msgRxInterface : Option TApiMsgDriverRecvInterface} {priorIds : ContextIdx → UInt32}
  {priorContext : ContextIdx → Option (TApiMsgSendInterface κ σ)} {mem : Option Mem}
  {tObjParam : TApiMsgIntObj κ σ}

/-- What the object held before stays past the registered ids only. -/
theorem registered_of_init
    (h : skSwldTapiMessageInterfaceInit numContextIds contextIds msgContextInterface msgRxInterface
      maxMsgSize priorIds priorContext mem = .ok tObjParam) :
    tObjParam.numContextIds = numContextIds.toNat ∧ ∀ slot : ContextIdx,
      slot.val < numContextIds.toNat →
        tObjParam.miSendContext slot = msgContextInterface slot := by
  unfold skSwldTapiMessageInterfaceInit at h
  split at h
  case h_2 => cases h
  split at h
  · cases h
  split at h
  case isFalse => cases h
  split at h
  · cases h
  · cases h
    exact ⟨rfl, fun slot hslot => if_pos hslot⟩

/-- Only interfaces that were registered get messages. -/
theorem interface_of_init
    (h : skSwldTapiMessageInterfaceInit numContextIds contextIds msgContextInterface msgRxInterface
      maxMsgSize priorIds priorContext mem = .ok tObjParam)
    {a : MsgArrival} {i : TApiMsgSendInterface κ σ} (hi : a.interface tObjParam = some i) :
    ∃ n < numContextIds.toNat, msgContextInterface n = some i := by
  obtain ⟨hnum, hslots⟩ := registered_of_init h
  unfold MsgArrival.interface at hi
  split at hi
  · cases hi
  obtain ⟨slot, hfound, hslot⟩ := Option.bind_eq_some_iff.mp hi
  have hcounted := (registered_of_found hfound).1
  rw [hnum] at hcounted
  exact ⟨slot, hcounted, (hslots slot hcounted).symm.trans hslot⟩

theorem contained_of_init
    (h : skSwldTapiMessageInterfaceInit numContextIds contextIds msgContextInterface msgRxInterface
      maxMsgSize priorIds priorContext mem = .ok tObjParam)
    (hcontained : ∀ n < numContextIds.toNat, ∀ i, msgContextInterface n = some i → i.Contained)
    (a : MsgArrival) (i : TApiMsgSendInterface κ σ) (hi : a.interface tObjParam = some i) :
    i.Contained := by
  obtain ⟨n, hn, hi'⟩ := interface_of_init h hi
  exact hcontained n hn i hi'

end Init

abbrev MsgStep (κ σ : Type) := Step MsgArrival (MsgRouter κ σ) (SkStatus × List (List UInt8))

/-- A message for a context, and its answer, in a buffer of its own. -/
abbrev AnswerStep (κ σ : Type) :=
  Step (TApiMsgSendInterface κ σ × List UInt8) σ (SkStatus × List UInt8)

/-- `t` is what the message of `y` and the reply to it are to the context. -/
structure MsgStep.Turn (tObjParam : TApiMsgIntObj κ σ) (y : MsgStep κ σ) (t : AnswerStep κ σ) :
    Prop where
  interface : y.input.interface tObjParam = some t.input.1
  bytes : y.input.bytes = t.input.2
  result : y.result = tObjParam.miRxIntf.relay y.input t.result

theorem MsgStep.Turn.inputs_eq {tObjParam : TApiMsgIntObj κ σ}
    {ys ys' : List (MsgStep κ σ)} {ts ts' : List (AnswerStep κ σ)}
    (h : List.Forall₂ (MsgStep.Turn tObjParam) ys ts)
    (h' : List.Forall₂ (MsgStep.Turn tObjParam) ys' ts')
    (hinputs : ys.map Step.input = ys'.map Step.input) :
    ts.map Step.input = ts'.map Step.input := by
  induction h generalizing ys' ts' with
  | nil =>
    obtain rfl := List.map_eq_nil_iff.mp hinputs.symm
    cases h'
    rfl
  | @cons y t ys ts hy _ ih =>
    cases h' with
    | nil => simp at hinputs
    | @cons y' t' ys' ts' hy' hrest =>
      obtain ⟨hhead, htail⟩ := List.cons.inj hinputs
      have hbytes : t.input.2 = t'.input.2 := by rw [← hy.bytes, ← hy'.bytes, hhead]
      have hi : t.input.1 = t'.input.1 :=
        Option.some.inj (by rw [← hy.interface, ← hy'.interface, hhead])
      rw [List.map_cons, List.map_cons, ih hrest htail, Prod.ext hi hbytes]

theorem MsgStep.Turn.results_eq {tObjParam : TApiMsgIntObj κ σ}
    {ys ys' : List (MsgStep κ σ)} {ts : List (AnswerStep κ σ)}
    (h : List.Forall₂ (MsgStep.Turn tObjParam) ys ts)
    (h' : List.Forall₂ (MsgStep.Turn tObjParam) ys' ts)
    (hinputs : ys.map Step.input = ys'.map Step.input) :
    ys.map Step.result = ys'.map Step.result := by
  induction h generalizing ys' with
  | nil =>
    cases h'
    rfl
  | @cons y t ys ts hy _ ih =>
    cases h' with
    | @cons y' _ ys' _ hy' hrest =>
      obtain ⟨hhead, htail⟩ := List.cons.inj hinputs
      rw [List.map_cons, List.map_cons, ih hrest htail, hy.result, hy'.result, hhead]

section Runs

variable [DecidableEq κ]

abbrev MsgRun (r₀ : MsgRouter κ σ) : List (MsgStep κ σ) → MsgRouter κ σ → Prop :=
  Run skSwldTapiMessageInterfaceProcess r₀

theorem Routed.routesAs {r r' : MsgRouter κ σ} {a : MsgArrival}
    {res : SkStatus × List (List UInt8)} (h : Routed r a res r') :
    r.tObjParam.RoutesAs r'.tObjParam := by
  cases h <;> rfl

/-- The message of `y` is for an interface with the object `k`. -/
def MsgStep.isFor (tObjParam : TApiMsgIntObj κ σ) (k : κ) (y : MsgStep κ σ) : Bool :=
  (y.input.interface tObjParam).any fun i => decide (i.mObj = k)

theorem MsgStep.isFor_iff (tObjParam : TApiMsgIntObj κ σ) (k : κ) (y : MsgStep κ σ) :
    y.isFor tObjParam k ↔ ∃ i, y.input.interface tObjParam = some i ∧ i.mObj = k := by
  unfold MsgStep.isFor
  cases y.input.interface tObjParam <;> simp

/-- A message that is for a context gets the answer of that context, and every other
object stays as it is. -/
theorem Routed.turn {tObjParam : TApiMsgIntObj κ σ} {y : MsgStep κ σ}
    (h : Routed y.pre y.input y.result y.post) (hroutes : tObjParam.RoutesAs y.pre.tObjParam)
    (hwhole : y.input.Whole) {i : TApiMsgSendInterface κ σ}
    (hi : y.input.interface tObjParam = some i) (hcontained : i.Contained) :
    ∃ answer, i.answer tObjParam.maxMsgSize y.input.bytes (y.pre.objects i.mObj) =
        .ok (answer, y.post.objects i.mObj) ∧
      y.result = tObjParam.miRxIntf.relay y.input answer ∧
      ∀ k, k ≠ i.mObj → y.post.objects k = y.pre.objects k := by
  obtain ⟨a, r, res, r'⟩ := y
  dsimp only at h hroutes hwhole hi ⊢
  rw [← hroutes.interface] at hi
  cases h with
  | refused hnone _ =>
    rw [hi] at hnone
    cases hnone
  | @served i' err size msg o hrecv hfor hrun =>
    obtain rfl : i = i' := Option.some.inj (hi.symm.trans hfor)
    have hanswer := hcontained.answer (hwhole hrecv) (read_received r a) hrun
    have hmax : r.tObjParam.maxMsgSize = tObjParam.maxMsgSize := by rw [hroutes]
    have hdriver : r.tObjParam.miRxIntf = tObjParam.miRxIntf := by rw [hroutes]
    rw [hmax] at hanswer
    refine ⟨_, hanswer.trans ?_, by rw [hdriver], fun k hk => Function.update_of_ne hk _ _⟩
    rw [objects_exchanged]

/-- A message that is for no context reaches none and is not replied to. -/
theorem Routed.refused_of_none {tObjParam : TApiMsgIntObj κ σ} {y : MsgStep κ σ}
    (h : Routed y.pre y.input y.result y.post) (hroutes : tObjParam.RoutesAs y.pre.tObjParam)
    (hi : y.input.interface tObjParam = none) :
    y.result.1 ≠ skErrorSuccess ∧ y.result.2 = [] ∧ y.post.objects = y.pre.objects := by
  obtain ⟨a, r, res, r'⟩ := y
  dsimp only at h hroutes hi ⊢
  rw [← hroutes.interface] at hi
  cases h with
  | refused _ herr => exact ⟨herr, rfl, rfl⟩
  | served _ hfor _ =>
    rw [hi] at hfor
    cases hfor

theorem MsgRun.routesAs {r₀ r : MsgRouter κ σ} {tr : List (MsgStep κ σ)} (h : MsgRun r₀ tr r)
    (hwhole : ∀ y ∈ tr, y.input.Whole) : r₀.tObjParam.RoutesAs r.tObjParam := by
  refine h.invariant_of (fun y => y.input.Whole) hwhole
    (fun _ r => r₀.tObjParam.RoutesAs r.tObjParam) rfl ?_
  intro tr r a res r' hr hstep ha
  exact hr.trans (routed_of_process ha hstep).routesAs

theorem MsgRun.routed {r₀ r : MsgRouter κ σ} {tr : List (MsgStep κ σ)} (h : MsgRun r₀ tr r)
    (hwhole : ∀ y ∈ tr, y.input.Whole) {y : MsgStep κ σ} (hy : y ∈ tr) :
    Routed y.pre y.input y.result y.post ∧ r₀.tObjParam.RoutesAs y.pre.tObjParam := by
  obtain ⟨before, after, rfl⟩ := List.append_of_mem hy
  obtain ⟨hbefore, hstep⟩ := Run.split h rfl
  exact ⟨routed_of_process (hwhole y hy) hstep,
    MsgRun.routesAs hbefore fun z hz => hwhole z (List.mem_append_left _ hz)⟩

/-- The messages for an object, as a run of that object. -/
theorem MsgRun.turns {tObjParam : TApiMsgIntObj κ σ} {objects : κ → σ} {tr : List (MsgStep κ σ)}
    {r : MsgRouter κ σ} (hrun : MsgRun ⟨tObjParam, objects⟩ tr r)
    (hwhole : ∀ y ∈ tr, y.input.Whole)
    (hcontained : ∀ (a : MsgArrival) i, a.interface tObjParam = some i → i.Contained) (k : κ) :
    ∃ turns : List (AnswerStep κ σ),
      Run (fun x => x.1.answer tObjParam.maxMsgSize x.2) (objects k) turns (r.objects k) ∧
      List.Forall₂ (MsgStep.Turn tObjParam) (tr.filter (MsgStep.isFor tObjParam k)) turns := by
  refine Run.restrict hrun (fun y => y ∈ tr) (fun _ hy => hy) (fun r => r.objects k)
    (MsgStep.isFor tObjParam k) (MsgStep.Turn tObjParam) ?_ ?_
  · intro y _ hy hfor
    obtain ⟨i, hi, rfl⟩ := (MsgStep.isFor_iff tObjParam k y).mp hfor
    obtain ⟨hrouted, hroutes⟩ := MsgRun.routed hrun hwhole hy
    obtain ⟨answer, hanswer, hresult, -⟩ :=
      hrouted.turn hroutes (hwhole y hy) hi (hcontained _ i hi)
    exact ⟨(i, y.input.bytes), answer, hanswer, hi, rfl, hresult⟩
  · intro y _ hy hfor
    obtain ⟨hrouted, hroutes⟩ := MsgRun.routed hrun hwhole hy
    cases hi : y.input.interface tObjParam with
    | none =>
      obtain ⟨-, -, hobjects⟩ := hrouted.refused_of_none hroutes hi
      rw [hobjects]
    | some i =>
      obtain ⟨answer, -, -, hothers⟩ :=
        hrouted.turn hroutes (hwhole y hy) hi (hcontained _ i hi)
      exact hothers k fun hk => hfor ((MsgStep.isFor_iff tObjParam k y).mpr ⟨i, hi, hk.symm⟩)

section Registered

variable {numContextIds maxMsgSize : UInt32} {contextIds : Option (Nat → UInt32)}
  {msgContextInterface : Nat → Option (TApiMsgSendInterface κ σ)}
  {msgRxInterface : Option TApiMsgDriverRecvInterface} {priorIds : ContextIdx → UInt32}
  {priorContext : ContextIdx → Option (TApiMsgSendInterface κ σ)} {mem : Option Mem}
  {tObjParam : TApiMsgIntObj κ σ} {objects objects' : κ → σ} {tr tr' : List (MsgStep κ σ)}
  {r r' : MsgRouter κ σ}

/-- Each context runs as if it were alone, on its own messages in their order, each in
a buffer of its own. Every call relays the answer of the context that its message is
for; a message for no context reaches none and gets no reply. -/
theorem contexts_served_apart
    (hinit : skSwldTapiMessageInterfaceInit numContextIds contextIds msgContextInterface
      msgRxInterface maxMsgSize priorIds priorContext mem = .ok tObjParam)
    (hcontained : ∀ n < numContextIds.toNat, ∀ i, msgContextInterface n = some i → i.Contained)
    (hrun : MsgRun ⟨tObjParam, objects⟩ tr r) (hwhole : ∀ y ∈ tr, y.input.Whole) :
    (∀ k, ∃ turns : List (AnswerStep κ σ),
      Run (fun x => x.1.answer tObjParam.maxMsgSize x.2) (objects k) turns (r.objects k) ∧
      List.Forall₂ (MsgStep.Turn tObjParam) (tr.filter (MsgStep.isFor tObjParam k)) turns) ∧
    ∀ y ∈ tr, y.input.interface tObjParam = none →
      y.result.1 ≠ skErrorSuccess ∧ y.result.2 = [] ∧ y.post.objects = y.pre.objects := by
  constructor
  · intro k
    exact MsgRun.turns hrun hwhole (contained_of_init hinit hcontained) k
  · intro y hy hi
    obtain ⟨hrouted, hroutes⟩ := MsgRun.routed hrun hwhole hy
    exact hrouted.refused_of_none hroutes hi

/-- What a context replies, and what becomes of its object, is the same in two runs in
which it gets the same messages, whatever the other contexts get. -/
theorem context_undisturbed
    (hinit : skSwldTapiMessageInterfaceInit numContextIds contextIds msgContextInterface
      msgRxInterface maxMsgSize priorIds priorContext mem = .ok tObjParam)
    (hcontained : ∀ n < numContextIds.toNat, ∀ i, msgContextInterface n = some i → i.Contained)
    (hrun : MsgRun ⟨tObjParam, objects⟩ tr r) (hwhole : ∀ y ∈ tr, y.input.Whole)
    (hrun' : MsgRun ⟨tObjParam, objects'⟩ tr' r') (hwhole' : ∀ y ∈ tr', y.input.Whole) {k : κ}
    (hobject : objects k = objects' k)
    (hinputs : (tr.filter (MsgStep.isFor tObjParam k)).map Step.input =
      (tr'.filter (MsgStep.isFor tObjParam k)).map Step.input) :
    (tr.filter (MsgStep.isFor tObjParam k)).map Step.result =
        (tr'.filter (MsgStep.isFor tObjParam k)).map Step.result ∧
      r.objects k = r'.objects k := by
  have hinterface := contained_of_init hinit hcontained
  obtain ⟨turns, hturns, hrel⟩ := MsgRun.turns hrun hwhole hinterface k
  obtain ⟨turns', hturns', hrel'⟩ := MsgRun.turns hrun' hwhole' hinterface k
  rw [← hobject] at hturns'
  obtain ⟨rfl, hend⟩ := hturns.unique hturns' (MsgStep.Turn.inputs_eq hrel hrel' hinputs)
  exact ⟨MsgStep.Turn.results_eq hrel hrel' hinputs, hend⟩

end Registered

/-! ## Two contexts -/

/-- A context that replies how many messages it has got. -/
def countingContext (k : Bool) : TApiMsgSendInterface Bool Nat where
  mObj := k
  tapiSendMsgToContext := some fun n msg _ => (0, msg, n + 1)
  tapiRecvMsgFromContext := some fun n msg _ => (0, msg.write 0 [UInt8.ofNat n], 1, n)

theorem contained_countingContext (k : Bool) : (countingContext k).Contained := by
  constructor
  · intro f hf n len m m' h
    cases hf
    exact ⟨rfl, rfl, h⟩
  · intro g hg n len m m'
    cases hg
    refine ⟨rfl, rfl, ?_⟩
    exact (Mem.read_write_eq m 0 1 _ rfl).trans (Mem.read_write_eq m' 0 1 _ rfl).symm

def sampleMsgInt : TApiMsgIntObj Bool Nat where
  numContextIds := 2
  contextIds := fun i => if i.val < 2 then if i.val = 0 then 7 else 9 else 0
  miSendContext := fun i => if i.val < 2 then some (countingContext (i.val == 0)) else none
  miRxIntf := ⟨true⟩
  maxMsgSize := 64
  msg := fun _ => 0
  numContextIds_le := by decide

theorem init_sampleMsgInt : skSwldTapiMessageInterfaceInit 2 (some fun n => if n = 0 then 7 else 9)
    (fun n => some (countingContext (n == 0))) (some ⟨true⟩) 64 (fun _ => 0) (fun _ => none)
    (some fun _ => 0) = .ok sampleMsgInt := rfl

theorem contained_sampleMsgInt : ∀ n < (2 : UInt32).toNat, ∀ i,
    some (countingContext (n == 0)) = some i → i.Contained := by
  intro n _ i hi
  cases hi
  exact contained_countingContext _

def sampleArrival (contextId : UInt8) : MsgArrival :=
  ⟨0, [0, 0, 0, contextId, 0, 0, 0, 0, 0, 0, 0, 0], 12, 0, ⟨0, 0, 0⟩⟩

theorem whole_sampleArrival {tr : List (MsgStep Bool Nat)} {ids : List UInt8}
    (h : tr.map Step.input = ids.map sampleArrival) : ∀ y ∈ tr, y.input.Whole := by
  intro y hy
  have hmem : y.input ∈ ids.map sampleArrival := h ▸ List.mem_map_of_mem hy
  obtain ⟨contextId, -, hin⟩ := List.mem_map.mp hmem
  rw [← hin]
  intro _
  rfl

theorem sampleMsgRun (ids : List UInt8) (results : List (SkStatus × List (List UInt8)))
    (h : (execute skSwldTapiMessageInterfaceProcess (ids.map sampleArrival)
      ⟨sampleMsgInt, fun _ => 0⟩).any (fun p => decide (p.1.map Step.result = results)) = true) :
    ∃ tr r, MsgRun ⟨sampleMsgInt, fun _ => 0⟩ tr r ∧ tr.map Step.input = ids.map sampleArrival ∧
      tr.map Step.result = results :=
  exists_run_of_execute _ _ _ (fun tr _ => tr.map Step.result = results) h

/-- Messages for the two contexts in turn. -/
theorem contexts_served_apart_two : ∃ tr r, MsgRun ⟨sampleMsgInt, fun _ => 0⟩ tr r ∧
    tr.map Step.result = [(0, [[1]]), (0, [[1]]), (0, [[2]])] ∧
    ∃ turns : List (AnswerStep Bool Nat),
      Run (fun x => x.1.answer sampleMsgInt.maxMsgSize x.2) 0 turns (r.objects true) ∧
      List.Forall₂ (MsgStep.Turn sampleMsgInt)
        (tr.filter (MsgStep.isFor sampleMsgInt true)) turns := by
  obtain ⟨tr, r, hrun, hinputs, hresults⟩ :=
    sampleMsgRun [7, 9, 7] [(0, [[1]]), (0, [[1]]), (0, [[2]])] (by decide)
  have hapart := contexts_served_apart init_sampleMsgInt contained_sampleMsgInt hrun
    (whole_sampleArrival hinputs)
  exact ⟨tr, r, hrun, hresults, hapart.1 true⟩

theorem inputs_isFor {tr : List (MsgStep Bool Nat)} {ids : List UInt8}
    (h : tr.map Step.input = ids.map sampleArrival) (k : Bool) :
    (tr.filter (MsgStep.isFor sampleMsgInt k)).map Step.input =
      (ids.map sampleArrival).filter fun a =>
        (a.interface sampleMsgInt).any fun i => decide (i.mObj = k) := by
  rw [← h, List.filter_map]
  rfl

/-- The second message of the first context, with and without one for the other context
in between. -/
theorem context_undisturbed_two : ∃ tr tr' r r', MsgRun ⟨sampleMsgInt, fun _ => 0⟩ tr r ∧
    MsgRun ⟨sampleMsgInt, fun _ => 0⟩ tr' r' ∧ tr.length = 3 ∧ tr'.length = 2 ∧
    (tr.filter (MsgStep.isFor sampleMsgInt true)).map Step.result =
        (tr'.filter (MsgStep.isFor sampleMsgInt true)).map Step.result ∧
      r.objects true = r'.objects true := by
  obtain ⟨tr, r, hrun, hinputs, -⟩ :=
    sampleMsgRun [7, 9, 7] [(0, [[1]]), (0, [[1]]), (0, [[2]])] (by decide)
  obtain ⟨tr', r', hrun', hinputs', -⟩ :=
    sampleMsgRun [7, 7] [(0, [[1]]), (0, [[2]])] (by decide)
  have hlen : tr.length = 3 := by simpa using congrArg List.length hinputs
  have hlen' : tr'.length = 2 := by simpa using congrArg List.length hinputs'
  have hsame : (tr.filter (MsgStep.isFor sampleMsgInt true)).map Step.input =
      (tr'.filter (MsgStep.isFor sampleMsgInt true)).map Step.input := by
    rw [inputs_isFor hinputs, inputs_isFor hinputs']
    rfl
  exact ⟨tr, tr', r, r', hrun, hrun', hlen, hlen',
    context_undisturbed init_sampleMsgInt contained_sampleMsgInt hrun
      (whole_sampleArrival hinputs) hrun' (whole_sampleArrival hinputs') rfl hsame⟩

end Runs

end SkSdk
