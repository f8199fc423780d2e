import SkSdk.Nwld.Tapi

/-!
What one call of the driver can do. `withConnection_run`, `withSession_run` and
`withReply_cases` take the shared parts apart once; `CallOutcome` then lists every
way a call returns, with the tables it leaves.
-/

namespace SkSdk
open ByteMemory FaultState Format

/-! ## Table searches -/

theorem firstUnused_eq_some {used : Nat → Bool} {n i : Nat} :
    firstUnused used n = some i ↔ i < n ∧ used i = false ∧ ∀ j < i, used j = true := by
  rw [firstUnused, List.find?_range_eq_some]
  simp only [Bool.not_eq_eq_eq_not, Bool.not_true, List.mem_range, Bool.not_not]
  tauto

theorem firstUnused_eq_none {used : Nat → Bool} {n : Nat} :
    firstUnused used n = none ↔ ∀ i < n, used i = true := by
  simp [firstUnused, List.find?_eq_none]

theorem firstSlot_eq_none {p : IdSlot → Bool} : firstSlot p = none ↔ ∀ i, p i = false := by
  simp [firstSlot, List.find?_eq_none]

theorem of_firstSlot {p : IdSlot → Bool} {i : IdSlot} (h : firstSlot p = some i) : p i = true :=
  List.find?_some h

/-- A table size below 2^32 keeps the index of an entry away from -1. -/
theorem ofNat_ne_noHandle {n : UInt32} {i : Nat} (h : i < n.toNat) : Int32.ofNat i ≠ -1 := by
  intro heq
  have hn := n.toNat_lt
  have hmod : ((i : Int).bmod Int32.size) = (-1 : Int32).toInt := by
    rw [← Int32.toInt_ofNat', heq]
  have hsize : ((Int32.size : Nat) : Int) = 4294967296 := rfl
  have hneg : (-1 : Int32).toInt = -1 := rfl
  rw [hneg, Int.bmod_def, hsize] at hmod
  omega

/-- A signed handle that is no negative number is the index it was made from. -/
theorem tableIndex_ofNat {n : UInt32} {i : Nat} (h : i < n.toNat) (s : Nwld) :
    tableIndex (Int32.ofNat i) s = if i < 2 ^ 31 then .ok (i, s) else .error .outOfRange := by
  have hn := n.toNat_lt
  have hsize : ((Int32.size : Nat) : Int) = 4294967296 := rfl
  have hint : (Int32.ofNat i).toInt = (i : Int).bmod Int32.size := Int32.toInt_ofNat'
  rw [Int.bmod_def, hsize] at hint
  unfold tableIndex
  by_cases hi : i < 2 ^ 31
  · have hval : (Int32.ofNat i).toInt = i := Int32.toInt_ofNat_of_lt hi
    rw [if_pos hi, require_bind_of (by omega), hval]
    rfl
  · rw [if_neg hi, require_bind_of_not (by omega)]

theorem toNat_ofNat {n : UInt32} {i : Nat} (h : i < n.toNat) :
    (Int32.ofNat i).toUInt32.toNat = i := by
  have hn := n.toNat_lt
  change (UInt32.ofNat i).toNat = i
  exact UInt32.toNat_ofNat_of_lt' (Nat.lt_trans h hn)

/-! ## The start -/

/-- The tables that a start leaves, whatever could be allocated. -/
structure Nwld.Fresh (maxSessions : UInt32) (s : Nwld) : Prop where
  info : ∀ i, (s.tapi.info i).used = false ∧ (s.tapi.info i).contextIdCnt = 0
  ids : s.tapi.numContextId = 0
  connections : s.tapi.numConnections = 0
  unused : ∀ h, (s.tapi.clist h).used = false
  array : ∀ h p, (s.tapi.clist h).s = some p → h = 0 ∧ p = 0 ∧
    (s.tapi.clist h).maxSessions = maxSessions ∧ (s.tapi.clist h).numSessions = 0 ∧
    ∀ k, (s.sessions p k).used = false

theorem fresh_init (alloc : InitAlloc) (s : Nwld) (maxConnections maxSessions smId : UInt32)
    (commObj : Nat) (hmax : maxConnections ≠ 0) :
    (skNwldTapiInit alloc s maxConnections maxSessions smId commObj).2.Fresh maxSessions := by
  unfold skNwldTapiInit
  rw [if_neg hmax]
  simp only
  split
  · exact ⟨fun _ => ⟨rfl, rfl⟩, rfl, rfl, fun _ => rfl, fun _ _ hp => by cases hp⟩
  split
  · exact ⟨fun _ => ⟨rfl, rfl⟩, rfl, rfl, fun _ => rfl, fun _ _ hp => by cases hp⟩
  · refine ⟨fun _ => ⟨rfl, rfl⟩, rfl, rfl, fun h => ?_, fun h p hp => ?_⟩
    · simp only [Function.update_apply]
      split <;> rfl
    · by_cases hh : h = 0
      · subst hh
        simp only [Function.update_self, Option.some.injEq] at hp ⊢
        subst hp
        exact ⟨trivial, rfl, trivial, rfl, fun k => by rw [Function.update_self]; rfl⟩
      · simp only [Function.update_of_ne hh] at hp
        cases hp

/-! ## The shared parts -/

section Shared

variable {α : Type} {env : NwldEnv} {s s' : Nwld} {r : SkStatus × α}

theorem withConnection_cases {contextHandle : UInt32} {user : α}
    {k : SkNwldTapi → TSkSysConnection → NwldM (SkStatus × α)}
    (h : withConnection env contextHandle user k s = .ok (r, s')) :
    (∃ err, err ≠ skErrorSuccess ∧ r = (err, user) ∧ s' = s) ∨
    ∃ pconn, s.tapi.connection contextHandle = some pconn ∧ k s.tapi pconn s = .ok (r, s') := by
  unfold withConnection at h
  by_cases hinv : env.invalidParam = true
  · rw [if_pos hinv] at h
    cases h
    exact Or.inl ⟨_, by decide, rfl, rfl⟩
  · rw [if_neg hinv, get_bind_run] at h
    cases hconn : s.tapi.connection contextHandle with
    | none =>
      rw [hconn] at h
      cases h
      exact Or.inl ⟨_, by decide, rfl, rfl⟩
    | some pconn =>
      rw [hconn] at h
      exact Or.inr ⟨pconn, rfl, h⟩

theorem withSession_cases {pconn : TSkSysConnection} {sessionHandle : UInt32} {user : α}
    {k : Nat → TSkSysSession → NwldM (SkStatus × α)}
    (h : withSession pconn sessionHandle user k s = .ok (r, s')) :
    (∃ err, err ≠ skErrorSuccess ∧ r = (err, user) ∧ s' = s) ∨
    ∃ p, pconn.s = some p ∧ sessionHandle < pconn.maxSessions ∧
      (s.sessions p sessionHandle.toNat).used = true ∧
      k p (s.sessions p sessionHandle.toNat) s = .ok (r, s') := by
  unfold withSession at h
  by_cases hmax : sessionHandle ≥ pconn.maxSessions
  · rw [if_pos hmax] at h
    cases h
    exact Or.inl ⟨_, by decide, rfl, rfl⟩
  · rw [if_neg hmax] at h
    cases hs : pconn.s with
    | none =>
      rw [hs] at h
      cases h
    | some p =>
      rw [hs] at h
      change (if (s.sessions p sessionHandle.toNat).used = false then
        return (skErrorSessionHandleNotFound, user)
        else k p (s.sessions p sessionHandle.toNat) : NwldM (SkStatus × α)) s = _ at h
      by_cases hused : (s.sessions p sessionHandle.toNat).used = false
      · rw [if_pos hused] at h
        cases h
        exact Or.inl ⟨_, by decide, rfl, rfl⟩
      · rw [if_neg hused] at h
        exact Or.inr ⟨p, rfl, UInt32.not_le.mp hmax, by simpa using hused, h⟩

/-- The exchange as the driver records it. -/
def exchangeOf (env : NwldEnv) (s : Nwld) (comm : IdSlot) (request : List UInt8)
    (op : Option SkOperation) : NwldExchange :=
  ⟨comm, request, op, env.commProc (s.tapi.info comm).comm request op⟩

def Nwld.record (s : Nwld) (e : NwldExchange) : Nwld := { s with exchanges := s.exchanges ++ [e] }

@[simp] theorem Nwld.tapi_record (s : Nwld) (e : NwldExchange) : (s.record e).tapi = s.tapi := rfl

@[simp] theorem Nwld.sessions_record (s : Nwld) (e : NwldExchange) :
    (s.record e).sessions = s.sessions := rfl

theorem exchange_of_lt {comm : Option IdSlot} {req resp : Layout} {cmd : UInt32}
    {status : SkMsgType → Int32} {op : Option SkOperation} {msg : SkMsg}
    (h : env.sendBufferSize < req.wireLength) :
    exchange env comm req resp cmd status op msg s = .ok ((.error skErrorCommFailed, op), s) := by
  rw [exchange, req.pack_of_lt _ _ _ h]
  rfl

theorem exchange_null {req resp : Layout} {cmd : UInt32} {status : SkMsgType → Int32}
    {op : Option SkOperation} {msg : SkMsg} (h : req.wireLength ≤ env.sendBufferSize) :
    exchange env none req resp cmd status op msg s = .error .nullDeref := by
  rw [exchange, req.pack_of_le _ _ _ h]
  rfl

theorem exchange_of_le {c : IdSlot} {req resp : Layout} {cmd : UInt32}
    {status : SkMsgType → Int32} {op : Option SkOperation} {msg : SkMsg}
    (h : req.wireLength ≤ env.sendBufferSize) :
    let e := exchangeOf env s c (req.format.enc (req.fields msg)) op
    exchange env (some c) req resp cmd status op msg s =
      .ok ((checkReply resp cmd status msg e.reply, e.reply.op), s.record e) := by
  have hread : (env.sendBuffer.write 0 (req.format.enc (req.fields msg))).read 0
      req.wireLength = req.format.enc (req.fields msg) :=
    Mem.read_write_eq _ _ _ _ (req.format.length_enc _)
  rw [exchange, req.pack_of_le _ _ _ h]
  simp only [hread]
  rfl

theorem withReply_cases {comm : Option IdSlot} {req resp : Layout} {cmd : UInt32}
    {status : SkMsgType → Int32} {op : Option SkOperation} {msg : SkMsg}
    {user : Option SkOperation → α} {k : SkMsg → Option SkOperation → NwldM (SkStatus × α)}
    (h : withReply env comm req resp cmd status op msg user k s = .ok (r, s')) :
    (env.sendBufferSize < req.wireLength ∧ r = (skErrorCommFailed, user op) ∧ s' = s) ∨
    ∃ c e, req.wireLength ≤ env.sendBufferSize ∧ comm = some c ∧
      e = exchangeOf env s c (req.format.enc (req.fields msg)) op ∧
      ((∃ err, checkReply resp cmd status msg e.reply = .error err ∧
        r = (err, user e.reply.op) ∧ s' = s.record e) ∨
      ∃ m, checkReply resp cmd status msg e.reply = .ok m ∧
        k m e.reply.op (s.record e) = .ok (r, s')) := by
  unfold withReply at h
  rcases Nat.lt_or_ge env.sendBufferSize req.wireLength with hlen | hlen
  · rw [bind_of_ok (exchange_of_lt hlen)] at h
    cases h
    exact Or.inl ⟨hlen, rfl, rfl⟩
  · right
    cases comm with
    | none =>
      rw [bind_of_error (exchange_null hlen)] at h
      cases h
    | some c =>
      rw [bind_of_ok (exchange_of_le hlen)] at h
      refine ⟨c, _, hlen, rfl, rfl, ?_⟩
      cases hcheck : checkReply resp cmd status msg
          (exchangeOf env s c (req.format.enc (req.fields msg)) op).reply with
      | error err =>
        simp only [hcheck] at h
        cases h
        exact Or.inl ⟨err, rfl, rfl, rfl⟩
      | ok m =>
        simp only [hcheck] at h
        exact Or.inr ⟨m, rfl, h⟩

theorem withReply_run {c : IdSlot} {req resp : Layout} {cmd : UInt32} {status : SkMsgType → Int32}
    {op : Option SkOperation} {msg m : SkMsg} {user : Option SkOperation → α}
    {k : SkMsg → Option SkOperation → NwldM (SkStatus × α)}
    (hlen : req.wireLength ≤ env.sendBufferSize)
    (hcheck : checkReply resp cmd status msg
      (exchangeOf env s c (req.format.enc (req.fields msg)) op).reply = .ok m) :
    let e := exchangeOf env s c (req.format.enc (req.fields msg)) op
    withReply env (some c) req resp cmd status op msg user k s =
      k m e.reply.op (s.record e) := by
  intro e
  rw [withReply, bind_of_ok (exchange_of_le hlen)]
  simp only [hcheck]
  rfl

end Shared

theorem SkNwldTapi.connection_eq_some {tapi : SkNwldTapi} {contextHandle : UInt32}
    {pconn : TSkSysConnection} (h : tapi.connection contextHandle = some pconn) :
    contextHandle.toNat < tapi.maxConnections.toNat ∧ pconn.used = true ∧
      pconn = tapi.clist contextHandle.toNat := by
  unfold connection at h
  simp only at h
  split at h
  · cases h
  · next hnot =>
    rw [not_or] at hnot
    cases h
    exact ⟨UInt32.lt_iff_toNat_lt.mp (UInt32.not_le.mp hnot.1), by simpa using hnot.2, rfl⟩

/-! ## Replies -/

namespace Layout

/-- The status among the members of a response. -/
def statusOf : (l : Layout) → l.Fields → Int32
  | openContextResp, (_, status) | openSessionResp, (_, status) => status
  | registerMemoryResp, (_, _, status) => status
  | closeContextResp, status | closeSessionResp, status | invokeCommandResp, status
  | unregisterMemoryResp, status | checkResp, status | sysTapi, status => status
  | _, _ => skTapiPackErrSuccess

end Layout

/-- A reply of the right kind that reports success. -/
def CommReply.Accepted (reply : CommReply) (resp : Layout) (cmd : UInt32) : Prop :=
  reply.err = skErrorSuccess ∧ resp.wireLength ≤ reply.recvBufLen ∧
    (resp.format.get reply.recvBuf 0).1.cmd = cmd ∧
    resp.statusOf (resp.format.get reply.recvBuf 0).2 = skTapiPackErrSuccess

instance CommReply.decidableAccepted (reply : CommReply) (resp : Layout) (cmd : UInt32) :
    Decidable (reply.Accepted resp cmd) := inferInstanceAs (Decidable (_ ∧ _))

section Reply

variable {resp : Layout} {cmd : UInt32} {status : SkMsgType → Int32} {msg : SkMsg}
  {reply : CommReply}

theorem checkReply_of_accepted (hcmd : cmd ≠ skTapiSystem)
    (hstatus : ∀ m : SkMsg, status m.type = resp.statusOf (resp.fields m).2)
    (h : reply.Accepted resp cmd) :
    checkReply resp cmd status msg reply = .ok (resp.decoded reply.recvBuf msg) := by
  obtain ⟨herr, hlen, hc, hst⟩ := h
  have hfields := resp.fields_decoded reply.recvBuf msg
  have hhdr : (resp.decoded reply.recvBuf msg).hdr.cmd = cmd := by
    rw [← hc, ← hfields]
    rfl
  have hok : status (resp.decoded reply.recvBuf msg).type = skTapiPackErrSuccess := by
    rw [hstatus, hfields, hst]
  unfold checkReply
  rw [resp.unpack_of_le _ _ _ hlen]
  simp only [herr, hhdr, hok, hcmd, ne_eq, not_true_eq_false, ↓reduceIte]
  rfl

theorem checkReply_of_not_accepted
    (hstatus : ∀ m : SkMsg, status m.type = resp.statusOf (resp.fields m).2)
    (h : ¬ reply.Accepted resp cmd) :
    ∃ err, err ≠ skErrorSuccess ∧ checkReply resp cmd status msg reply = .error err := by
  unfold checkReply
  by_cases herr : reply.err = skErrorSuccess
  · rcases Nat.lt_or_ge reply.recvBufLen resp.wireLength with hlen | hlen
    · have hfail := resp.unpack_of_lt reply.recvBuf reply.recvBufLen msg hlen
      simp only [herr, ne_eq, not_true_eq_false, ↓reduceIte, hfail, not_false_eq_true]
      exact ⟨_, by decide, rfl⟩
    · have hfields := resp.fields_decoded reply.recvBuf msg
      rw [resp.unpack_of_le _ _ _ hlen]
      simp only [herr, ne_eq, not_true_eq_false, ↓reduceIte]
      by_cases hsys : (resp.decoded reply.recvBuf msg).hdr.cmd = skTapiSystem
      · simp only [hsys, ↓reduceIte]
        exact ⟨_, by decide, rfl⟩
      by_cases hc : (resp.decoded reply.recvBuf msg).hdr.cmd = cmd
      · have hst : status (resp.decoded reply.recvBuf msg).type ≠ skTapiPackErrSuccess := by
          intro hst
          refine h ⟨herr, hlen, ?_, ?_⟩
          · rw [← hfields]
            exact hc
          · rw [← hfields, ← hstatus, hst]
        have hne : cmd ≠ skTapiSystem := hc ▸ hsys
        simp only [hc, hne, hst, ↓reduceIte, not_true_eq_false, not_false_eq_true]
        exact ⟨_, by decide, rfl⟩
      · simp only [hsys, hc, ↓reduceIte, not_false_eq_true]
        exact ⟨_, by decide, rfl⟩
  · simp only [herr, ne_eq, not_false_eq_true, ↓reduceIte]
    exact ⟨_, by decide, rfl⟩

end Reply

/-! ## What tells the operations apart -/

namespace SkTeecUserInfo

abbrev reqLayout : SkTeecUserInfo → Layout
  | openContext _ => .openContextReq
  | closeContext _ => .closeContextReq
  | openSession _ => .openSessionReq
  | closeSession _ => .closeSessionReq
  | invokeCmd _ => .invokeCommandReq
  | regMem _ => .registerMemoryReq
  | unregMem _ => .unregisterMemoryReq

abbrev respLayout : SkTeecUserInfo → Layout
  | openContext _ => .openContextResp
  | closeContext _ => .closeContextResp
  | openSession _ => .openSessionResp
  | closeSession _ => .closeSessionResp
  | invokeCmd _ => .invokeCommandResp
  | regMem _ => .registerMemoryResp
  | unregMem _ => .unregisterMemoryResp

abbrev cmd : SkTeecUserInfo → UInt32
  | openContext _ => skTapiOpenContext
  | closeContext _ => skTapiCloseContext
  | openSession _ => skTapiOpenSession
  | closeSession _ => skTapiCloseSession
  | invokeCmd _ => skTapiInvokeCommand
  | regMem _ => skTapiRegisterMemory
  | unregMem _ => skTapiUnregisterMemory

/-- The connection that an operation is called on. -/
def contextHandle : SkTeecUserInfo → Option UInt32
  | openContext _ => none
  | closeContext pcc => some pcc.contextHandle
  | openSession pos => some pos.contextHandle
  | closeSession pcs => some pcs.contextHandle
  | invokeCmd pic => some pic.contextHandle
  | regMem rm => some rm.contextHandle
  | unregMem urm => some urm.contextHandle

/-- The session that an operation is called on. -/
def sessionHandle : SkTeecUserInfo → Option UInt32
  | closeSession pcs => some pcs.sessionHandle
  | invokeCmd pic => some pic.sessionHandle
  | _ => none

def op : SkTeecUserInfo → Option SkOperation
  | invokeCmd pic => some pic.op
  | _ => none

/-- The arguments with `op` as the platform left it. -/
def withOp (op : Option SkOperation) : SkTeecUserInfo → SkTeecUserInfo
  | invokeCmd pic => .invokeCmd { pic with op := op.getD pic.op }
  | info => info

/-- The members of the request, for a connection and a session of these handles. -/
def fields (context session : Handle) : (info : SkTeecUserInfo) → info.reqLayout.Fields
  | openContext poc => poc.contextId
  | closeContext _ => context
  | openSession pos => (context, pos.taid)
  | closeSession _ => (context, session)
  | invokeCmd pic => (context, session, pic.cmd)
  | regMem rm => (context, rm.memorySize, rm.flag, rm.addr)
  | unregMem urm => (context, urm.memoryId)

def request (info : SkTeecUserInfo) (contextId smId : UInt32) (context session : Handle) :
    List UInt8 :=
  info.reqLayout.format.enc (⟨contextId, smId, info.cmd⟩, info.fields context session)

/-- The reply is one that the operation takes for success. -/
def Accepts (info : SkTeecUserInfo) (reply : CommReply) : Prop :=
  reply.Accepted info.respLayout info.cmd

instance decidableAccepts (info : SkTeecUserInfo) (reply : CommReply) :
    Decidable (info.Accepts reply) :=
  inferInstanceAs (Decidable (reply.Accepted info.respLayout info.cmd))

end SkTeecUserInfo

/-- The sixteen bytes behind the header of a reply. -/
def CommReply.handle (reply : CommReply) : Handle := reply.recvBuf.blk 12 16

theorem openContextResp_handle (reply : CommReply) (msg : SkMsg) :
    (Layout.openContextResp.decoded reply.recvBuf msg).type.openContext.resp.contextHandle =
      reply.handle :=
  get_blk reply.recvBuf 12 16

theorem openSessionResp_handle (reply : CommReply) (msg : SkMsg) :
    (Layout.openSessionResp.decoded reply.recvBuf msg).type.openSession.resp.sessionHandle =
      reply.handle :=
  get_blk reply.recvBuf 12 16

/-! ## Context ids -/

namespace Nwld

/-- Slot `i` taken for a context id and registered. -/
def added (env : NwldEnv) (s : Nwld) (i : IdSlot) (contextId : UInt32) : Nwld :=
  (s.claimed i contextId).setComm i
    (env.commRegister (s.tapi.info i).comm contextId s.tapi.smId).2

/-- Slot `i` without its last connection, the comm object of `c` unregistered. -/
def unregistered (env : NwldEnv) (s : Nwld) (i c : IdSlot) : Nwld :=
  (s.unshared i).setComm c (env.commUnregister (s.tapi.info c).comm).2

@[simp] theorem comm_claimed (s : Nwld) (i c : IdSlot) (contextId : UInt32) :
    ((s.claimed i contextId).tapi.info c).comm = (s.tapi.info c).comm := by
  simp only [claimed, info_updInfo]
  split
  · next hc => rw [hc]
  · rfl

@[simp] theorem comm_unshared (s : Nwld) (i c : IdSlot) :
    ((s.unshared i).tapi.info c).comm = (s.tapi.info c).comm := by
  simp only [unshared, info_updInfo]
  split
  · next hc => rw [hc]
  · rfl

@[simp] theorem used_setComm (s : Nwld) (c d : IdSlot) (comm : SkNwldTeecComm) :
    ((s.setComm c comm).tapi.info d).used = (s.tapi.info d).used := by
  simp only [setComm, info_updInfo]
  split
  · next hd => rw [hd]
  · rfl

@[simp] theorem contextId_setComm (s : Nwld) (c d : IdSlot) (comm : SkNwldTeecComm) :
    ((s.setComm c comm).tapi.info d).contextId = (s.tapi.info d).contextId := by
  simp only [setComm, info_updInfo]
  split
  · next hd => rw [hd]
  · rfl

@[simp] theorem contextIdCnt_setComm (s : Nwld) (c d : IdSlot) (comm : SkNwldTeecComm) :
    ((s.setComm c comm).tapi.info d).contextIdCnt = (s.tapi.info d).contextIdCnt := by
  simp only [setComm, info_updInfo]
  split
  · next hd => rw [hd]
  · rfl

@[simp] theorem contextIdCnt_unshared (s : Nwld) (i : IdSlot) :
    ((s.unshared i).tapi.info i).contextIdCnt = (s.tapi.info i).contextIdCnt - 1 := by
  simp [unshared]

end Nwld

/-- How the slot of a context id is found, or not. -/
inductive Claim (env : NwldEnv) (contextId : UInt32) (s : Nwld) :
    Except SkStatus IdSlot → Nwld → Prop
  | shared {i : IdSlot} : (s.tapi.info i).used = true → (s.tapi.info i).contextId = contextId →
      Claim env contextId s (.ok i) (s.shared i)
  | full : (∀ i, (s.tapi.info i).used = true → (s.tapi.info i).contextId ≠ contextId) →
      skTapiMaxContextIds ≤ s.tapi.numContextId → Claim env contextId s (.error skErrorOpenContext) s
  | added {i : IdSlot} : contextId ≠ 0 →
      (∀ i, (s.tapi.info i).used = true → (s.tapi.info i).contextId ≠ contextId) →
      s.tapi.numContextId < skTapiMaxContextIds → (s.tapi.info i).used = false →
      (env.commRegister (s.tapi.info i).comm contextId s.tapi.smId).1 = skErrorSuccess →
      Claim env contextId s (.ok i) (s.added env i contextId)
  | unregistered {i : IdSlot} : contextId ≠ 0 →
      (∀ i, (s.tapi.info i).used = true → (s.tapi.info i).contextId ≠ contextId) →
      s.tapi.numContextId < skTapiMaxContextIds → (s.tapi.info i).used = false →
      (env.commRegister (s.tapi.info i).comm contextId s.tapi.smId).1 ≠ skErrorSuccess →
      Claim env contextId s (.error skErrorOpenFailed) (s.added env i contextId)

/-- How the slot of a closed connection loses its reference. -/
inductive Release (env : NwldEnv) (pconn : TSkSysConnection) (s : Nwld) : SkStatus → Nwld → Prop
  | kept : 0 < (s.tapi.info pconn.contextIdIndex).contextIdCnt →
      (s.tapi.info pconn.contextIdIndex).contextIdCnt - 1 ≠ 0 →
      Release env pconn s skErrorSuccess (s.unshared pconn.contextIdIndex)
  | failed {c : IdSlot} : (s.tapi.info pconn.contextIdIndex).contextIdCnt - 1 = 0 →
      pconn.comm = some c →
      (env.commUnregister (s.tapi.info c).comm).1 ≠ skErrorSuccess →
      Release env pconn s skErrorCommFailed
        (s.unregistered env pconn.contextIdIndex c)
  | freed {c : IdSlot} : (s.tapi.info pconn.contextIdIndex).contextIdCnt - 1 = 0 →
      pconn.comm = some c →
      (env.commUnregister (s.tapi.info c).comm).1 = skErrorSuccess →
      0 < s.tapi.numContextId →
      Release env pconn s skErrorSuccess
        ((s.unregistered env pconn.contextIdIndex c).freed pconn.contextIdIndex)

/-- The slot found for a context id is one that carries it. -/
theorem Claim.slot {env : NwldEnv} {contextId : UInt32} {s t : Nwld} {i : IdSlot}
    (h : Claim env contextId s (.ok i) t) :
    (t.tapi.info i).used = true ∧ (t.tapi.info i).contextId = contextId := by
  cases h with
  | shared hused hid => simp [Nwld.shared, hused, hid]
  | added _ _ _ _ _ => simp [Nwld.added, Nwld.claimed, Nwld.setComm]

/-- A claim edits neither connections nor sessions and sends nothing. -/
theorem Claim.frame {env : NwldEnv} {contextId : UInt32} {s t : Nwld}
    {r : Except SkStatus IdSlot} (h : Claim env contextId s r t) :
    t.tapi.clist = s.tapi.clist ∧ t.tapi.maxConnections = s.tapi.maxConnections ∧
      t.tapi.smId = s.tapi.smId ∧ t.sessions = s.sessions ∧ t.exchanges = s.exchanges := by
  cases h <;> exact ⟨rfl, rfl, rfl, rfl, rfl⟩

theorem Claim.error_ne {env : NwldEnv} {contextId : UInt32} {s t : Nwld} {err : SkStatus}
    (h : Claim env contextId s (.error err) t) : err ≠ skErrorSuccess := by
  cases h <;> decide

theorem Release.frame {env : NwldEnv} {pconn : TSkSysConnection} {s t : Nwld} {err : SkStatus}
    (h : Release env pconn s err t) :
    t.tapi.clist = s.tapi.clist ∧ t.tapi.maxConnections = s.tapi.maxConnections ∧
      t.tapi.smId = s.tapi.smId ∧ t.sessions = s.sessions ∧ t.exchanges = s.exchanges := by
  cases h <;> exact ⟨rfl, rfl, rfl, rfl, rfl⟩

theorem skNwldTapiPrvFindContextId_cases {contextId : UInt32} {s s' : Nwld} {r : Option IdSlot}
    (h : skNwldTapiPrvFindContextId contextId s = .ok (r, s')) :
    contextId ≠ 0 ∧ s' = s ∧
      r = firstSlot fun i => (s.tapi.info i).used && (s.tapi.info i).contextId == contextId := by
  unfold skNwldTapiPrvFindContextId at h
  rw [get_bind_run] at h
  by_cases hid : contextId ≠ 0
  · rw [require_bind_of hid] at h
    cases h
    exact ⟨hid, rfl, rfl⟩
  · rw [require_bind_of_not hid] at h
    cases h

theorem claimContextId_cases {env : NwldEnv} {contextId : UInt32} {s s' : Nwld}
    {r : Except SkStatus IdSlot} (h : claimContextId env contextId s = .ok (r, s')) :
    Claim env contextId s r s' := by
  unfold claimContextId at h
  cases hfind : skNwldTapiPrvFindContextId contextId s with
  | error e =>
    rw [bind_of_error hfind] at h
    cases h
  | ok p =>
    obtain ⟨found, t⟩ := p
    rw [bind_of_ok hfind] at h
    obtain ⟨hid, rfl, hfound⟩ := skNwldTapiPrvFindContextId_cases hfind
    cases found with
    | some i =>
      have hi := of_firstSlot hfound.symm
      simp only [Bool.and_eq_true, beq_iff_eq] at hi
      cases h
      exact .shared hi.1 hi.2
    | none =>
      have hnew : ∀ i, (t.tapi.info i).used = true → (t.tapi.info i).contextId ≠ contextId := by
        intro i hused hc
        have := firstSlot_eq_none.mp hfound.symm i
        simp [hused, hc] at this
      simp only at h
      rw [get_bind_run] at h
      by_cases hnum : t.tapi.numContextId < skTapiMaxContextIds
      · rw [if_pos hnum] at h
        cases hslot : firstSlot fun i => !(t.tapi.info i).used with
        | none =>
          rw [hslot] at h
          cases h
        | some i =>
          have hunused := of_firstSlot hslot
          simp only [Bool.not_eq_eq_eq_not, Bool.not_true] at hunused
          rw [hslot] at h
          simp only at h
          rw [require_bind_of (by omega), modify_bind_run, get_bind_run, modify_bind_run] at h
          simp only [Nwld.comm_claimed] at h
          by_cases herr :
              (env.commRegister (t.tapi.info i).comm contextId t.tapi.smId).1 = skErrorSuccess
          · rw [if_neg (not_not_intro herr)] at h
            cases h
            exact .added hid hnew hnum hunused herr
          · rw [if_pos herr] at h
            cases h
            exact .unregistered hid hnew hnum hunused herr
      · rw [if_neg hnum] at h
        cases h
        exact .full hnew (by omega)

theorem releaseContextId_cases {env : NwldEnv} {pconn : TSkSysConnection} {s s' : Nwld}
    {err : SkStatus} (h : releaseContextId env pconn s = .ok (err, s')) :
    Release env pconn s err s' := by
  unfold releaseContextId at h
  simp only at h
  rw [get_bind_run] at h
  by_cases hcnt : 0 < (s.tapi.info pconn.contextIdIndex).contextIdCnt
  · rw [require_bind_of hcnt, modify_bind_run, get_bind_run, Nwld.contextIdCnt_unshared] at h
    by_cases hlast : (s.tapi.info pconn.contextIdIndex).contextIdCnt - 1 = 0
    · rw [if_pos hlast] at h
      cases hcomm : pconn.comm with
      | none =>
        rw [hcomm] at h
        cases h
      | some c =>
        rw [hcomm] at h
        rw [deref_some_bind_run, get_bind_run, modify_bind_run] at h
        simp only [Nwld.comm_unshared] at h
        by_cases herr : (env.commUnregister (s.tapi.info c).comm).1 = skErrorSuccess
        · rw [if_neg (not_not_intro herr), get_bind_run] at h
          change (do
            require .assert (0 < s.tapi.numContextId)
            modify (·.freed pconn.contextIdIndex)
            return skErrorSuccess : NwldM SkStatus)
              (s.unregistered env pconn.contextIdIndex c) = _ at h
          by_cases hnum : 0 < s.tapi.numContextId
          · rw [require_bind_of hnum] at h
            cases h
            exact .freed hlast hcomm herr hnum
          · rw [require_bind_of_not hnum] at h
            cases h
        · rw [if_pos herr] at h
          cases h
          exact .failed hlast hcomm herr
    · rw [if_neg hlast] at h
      cases h
      exact .kept hcnt hlast
  · rw [require_bind_of_not hcnt] at h
    cases h

/-! ## Outcomes -/

/-- `e` is the exchange of a call on connection `hd`; for an operation on a
session, `session` is the handle stored in the entry that it names. -/
structure Sends (call : Call) (s : Nwld) (hd : UInt32) (pconn : TSkSysConnection) (session : Handle)
    (e : NwldExchange) : Prop where
  handle : call.info.contextHandle = some hd
  connection : s.tapi.connection hd = some pconn
  entry : ∀ sh, call.info.sessionHandle = some sh → ∃ p, pconn.s = some p ∧
    sh < pconn.maxSessions ∧ (s.sessions p sh.toNat).used = true ∧
    (s.sessions p sh.toNat).session = session
  exchange : ∃ c, pconn.comm = some c ∧
    e = exchangeOf call.env s c
      (call.info.request pconn.contextId s.tapi.smId pconn.context session) call.info.op

/-- `e` is the exchange of an open_context call whose context id has slot `i`. -/
def SendsOpen (call : Call) (s : Nwld) (i : IdSlot) (e : NwldExchange) : Prop :=
  e = exchangeOf call.env s i
    (call.info.request (s.tapi.info i).contextId s.tapi.smId (Blk.zero 16) (Blk.zero 16)) none

/-- Every way in which a call returns. -/
inductive CallOutcome (call : Call) (s : Nwld) : SkStatus × SkTeecUserInfo → Nwld → Prop
  | refused {err : SkStatus} : err ≠ skErrorSuccess → CallOutcome call s (err, call.info) s
  | unclaimed {poc : SkTeecUserOpenContext} {err : SkStatus} {t : Nwld} :
      call.info = .openContext poc → Claim call.env poc.contextId s (.error err) t →
      CallOutcome call s (err, call.info) t
  | unsent {poc : SkTeecUserOpenContext} {i : IdSlot} {t : Nwld} :
      call.info = .openContext poc → Claim call.env poc.contextId s (.ok i) t →
      CallOutcome call s (skErrorCommFailed, call.info) t
  | unopened {poc : SkTeecUserOpenContext} {i : IdSlot} {t : Nwld} {e : NwldExchange}
      {err : SkStatus} :
      call.info = .openContext poc → Claim call.env poc.contextId s (.ok i) t →
      SendsOpen call t i e → err ≠ skErrorSuccess →
      (call.info.Accepts e.reply → ∀ h < t.tapi.maxConnections.toNat, (t.tapi.clist h).used = true) →
      CallOutcome call s (err, call.info) (t.record e)
  | openedContext {poc : SkTeecUserOpenContext} {i : IdSlot} {t : Nwld} {e : NwldExchange} {h : Nat} :
      call.info = .openContext poc →
      Claim call.env poc.contextId s (.ok i) t →
      SendsOpen call t i e → call.info.Accepts e.reply →
      firstUnused (fun j => (t.tapi.clist j).used) t.tapi.maxConnections.toNat = some h →
      h < 2 ^ 31 →
      CallOutcome call s
        (skErrorSuccess, .openContext { poc with contextHandle := (Int32.ofNat h).toUInt32 })
        ((t.record e).connected h i e.reply.handle)
  | rejected {hd : UInt32} {pconn : TSkSysConnection} {session : Handle} {e : NwldExchange}
      {err : SkStatus} :
      Sends call s hd pconn session e → ¬ call.info.Accepts e.reply → err ≠ skErrorSuccess →
      CallOutcome call s (err, call.info.withOp e.reply.op) (s.record e)
  | unreleased {pcc : SkTeecUserCloseContext} {pconn : TSkSysConnection} {session : Handle}
      {e : NwldExchange} {err : SkStatus} {t : Nwld} :
      call.info = .closeContext pcc → Sends call s pcc.contextHandle pconn session e →
      call.info.Accepts e.reply → Release call.env pconn (s.record e) err t →
      err ≠ skErrorSuccess → CallOutcome call s (err, call.info) t
  | closedContext {pcc : SkTeecUserCloseContext} {pconn : TSkSysConnection} {session : Handle}
      {e : NwldExchange} {t : Nwld} :
      call.info = .closeContext pcc → Sends call s pcc.contextHandle pconn session e →
      call.info.Accepts e.reply → Release call.env pconn (s.record e) skErrorSuccess t →
      t.tapi.numConnections ≠ 0 →
      CallOutcome call s (skErrorSuccess, call.info) (t.disconnected pcc.contextHandle.toNat)
  | sessionsFull {pos : SkTeecUserOpenSession} {pconn : TSkSysConnection} {session : Handle}
      {e : NwldExchange} {p : Nat} :
      call.info = .openSession pos → Sends call s pos.contextHandle pconn session e →
      call.info.Accepts e.reply → pconn.s = some p →
      (∀ k < pconn.maxSessions.toNat, (s.sessions p k).used = true) →
      CallOutcome call s (skErrorSessionHandleNotFound, call.info) (s.record e)
  | openedSession {pos : SkTeecUserOpenSession} {pconn : TSkSysConnection} {session : Handle}
      {e : NwldExchange} {p k : Nat} :
      call.info = .openSession pos → Sends call s pos.contextHandle pconn session e →
      call.info.Accepts e.reply → pconn.s = some p →
      firstUnused (fun j => (s.sessions p j).used) pconn.maxSessions.toNat = some k →
      k < 2 ^ 31 →
      CallOutcome call s
        (skErrorSuccess, .openSession { pos with sessionHandle := (Int32.ofNat k).toUInt32 })
        ((s.record e).attached pos.contextHandle.toNat p k e.reply.handle)
  | closedSession {pcs : SkTeecUserCloseSession} {pconn : TSkSysConnection} {session : Handle}
      {e : NwldExchange} {p : Nat} :
      call.info = .closeSession pcs → Sends call s pcs.contextHandle pconn session e →
      call.info.Accepts e.reply → pconn.s = some p → pconn.numSessions ≠ 0 →
      CallOutcome call s (skErrorSuccess, call.info)
        ((s.record e).detached pcs.contextHandle.toNat p pcs.sessionHandle.toNat)
  | invoked {pic : SkTeecUserInvokeCmd} {pconn : TSkSysConnection} {session : Handle}
      {e : NwldExchange} :
      call.info = .invokeCmd pic → Sends call s pic.contextHandle pconn session e →
      call.info.Accepts e.reply →
      CallOutcome call s (skErrorSuccess, call.info.withOp e.reply.op) (s.record e)
  | registered {rm rm' : SkTeecUserRegisterMemory} {pconn : TSkSysConnection} {session : Handle}
      {e : NwldExchange} {err : SkStatus} :
      call.info = .regMem rm → Sends call s rm.contextHandle pconn session e →
      call.info.Accepts e.reply → rm'.contextHandle = rm.contextHandle →
      CallOutcome call s (err, .regMem rm') (s.record e)
  | unregistered {urm : SkTeecUserUnregisterMemory} {pconn : TSkSysConnection} {session : Handle}
      {e : NwldExchange} {err : SkStatus} :
      call.info = .unregMem urm → Sends call s urm.contextHandle pconn session e →
      call.info.Accepts e.reply →
      CallOutcome call s (err, .unregMem urm) (s.record e)

section Cases

variable {env : NwldEnv} {s s' : Nwld}

theorem SkTeecUserInfo.cmd_ne_system (info : SkTeecUserInfo) : info.cmd ≠ skTapiSystem := by
  cases info with
  | openContext _ => exact (by decide : skTapiOpenContext ≠ skTapiSystem)
  | closeContext _ => exact (by decide : skTapiCloseContext ≠ skTapiSystem)
  | openSession _ => exact (by decide : skTapiOpenSession ≠ skTapiSystem)
  | closeSession _ => exact (by decide : skTapiCloseSession ≠ skTapiSystem)
  | invokeCmd _ => exact (by decide : skTapiInvokeCommand ≠ skTapiSystem)
  | regMem _ => exact (by decide : skTapiRegisterMemory ≠ skTapiSystem)
  | unregMem _ => exact (by decide : skTapiUnregisterMemory ≠ skTapiSystem)

/-- `withReply` where the message is the request of a call on a connection. -/
theorem sends_cases {α : Type} (call : Call) (session : Handle) {r : SkStatus × α} {hd : UInt32}
    {pconn : TSkSysConnection} {status : SkMsgType → Int32} {msg : SkMsg}
    {user : Option SkOperation → α}
    {k : SkMsg → Option SkOperation → NwldM (SkStatus × α)}
    (hhandle : call.info.contextHandle = some hd) (hconn : s.tapi.connection hd = some pconn)
    (hentry : ∀ sh, call.info.sessionHandle = some sh → ∃ p, pconn.s = some p ∧
      sh < pconn.maxSessions ∧ (s.sessions p sh.toNat).used = true ∧
      (s.sessions p sh.toNat).session = session)
    (hmsg : call.info.reqLayout.fields msg =
      (⟨pconn.contextId, s.tapi.smId, call.info.cmd⟩, call.info.fields pconn.context session))
    (hstatus : ∀ m : SkMsg, status m.type =
      call.info.respLayout.statusOf (call.info.respLayout.fields m).2)
    (h : withReply call.env pconn.comm call.info.reqLayout call.info.respLayout call.info.cmd status
      call.info.op msg user k s = .ok (r, s')) :
    (r = (skErrorCommFailed, user call.info.op) ∧ s' = s) ∨
    ∃ e, Sends call s hd pconn session e ∧
      ((¬ call.info.Accepts e.reply ∧ ∃ err, err ≠ skErrorSuccess ∧
        r = (err, user e.reply.op) ∧ s' = s.record e) ∨
      (call.info.Accepts e.reply ∧
        k (call.info.respLayout.decoded e.reply.recvBuf msg) e.reply.op (s.record e) =
          .ok (r, s'))) := by
  rcases withReply_cases h with ⟨-, hr, hs⟩ | ⟨c, e, -, hcomm, he, hres⟩
  · exact Or.inl ⟨hr, hs⟩
  · rw [hmsg] at he
    refine Or.inr ⟨e, ⟨hhandle, hconn, hentry, c, hcomm, he⟩, ?_⟩
    by_cases hacc : call.info.Accepts e.reply
    · right
      have hcheck : checkReply call.info.respLayout call.info.cmd status msg e.reply = _ :=
        checkReply_of_accepted call.info.cmd_ne_system hstatus hacc
      rcases hres with ⟨err, herr, -, -⟩ | ⟨m, hm, hk⟩
      · rw [hcheck] at herr
        cases herr
      · rw [hcheck] at hm
        cases hm
        exact ⟨hacc, hk⟩
    · left
      have hcheck : ∃ err, err ≠ skErrorSuccess ∧
          checkReply call.info.respLayout call.info.cmd status msg e.reply = .error err :=
        checkReply_of_not_accepted hstatus hacc
      obtain ⟨err, hne, hcheck⟩ := hcheck
      rcases hres with ⟨err', herr, hr, hs⟩ | ⟨m, hm, -⟩
      · rw [hcheck] at herr
        cases herr
        exact ⟨hacc, err, hne, hr, hs⟩
      · rw [hcheck] at hm
        cases hm

private theorem no_entry {pconn : TSkSysConnection} {session : Handle} (sh : UInt32)
    (h : (none : Option UInt32) = some sh) : ∃ p, pconn.s = some p ∧
      sh < pconn.maxSessions ∧ (s.sessions p sh.toNat).used = true ∧
      (s.sessions p sh.toNat).session = session := by
  cases h

theorem skNwldTapiGetConnHandle_cases {n : UInt32} {table : Nat → TSkSysConnection}
    {chndle : Int32} (h : skNwldTapiGetConnHandle table n s = .ok (chndle, s')) :
    s' = s ∧ match firstUnused (fun i => (table i).used) n.toNat with
      | some i => chndle = Int32.ofNat i
      | none => chndle = skDrvNoHandleConnections := by
  unfold skNwldTapiGetConnHandle at h
  by_cases hn : n ≠ 0
  · rw [require_bind_of hn] at h
    generalize firstUnused (fun i => (table i).used) n.toNat = found at h ⊢
    cases found <;> (
      cases h
      exact ⟨rfl, rfl⟩)
  · rw [require_bind_of_not hn] at h
    cases h

theorem skNwldTapiGetSessionHandle_cases {n : UInt32} {sess : Option Nat} {shndle : Int32}
    (h : skNwldTapiGetSessionHandle sess n s = .ok (shndle, s')) :
    s' = s ∧ ∃ p, sess = some p ∧
      match firstUnused (fun i => (s.sessions p i).used) n.toNat with
      | some i => shndle = Int32.ofNat i
      | none => shndle = skDrvNoHandleSessions := by
  unfold skNwldTapiGetSessionHandle at h
  cases sess with
  | none => cases h
  | some p =>
    rw [require_bind_of Option.isSome_some] at h
    by_cases hn : n ≠ 0
    · rw [require_bind_of hn, deref_some_bind_run, get_bind_run] at h
      cases hfound : firstUnused (fun i => (s.sessions p i).used) n.toNat with
      | some i =>
        rw [hfound] at h
        cases h
        exact ⟨rfl, p, rfl, by rw [hfound]⟩
      | none =>
        rw [hfound] at h
        cases h
        exact ⟨rfl, p, rfl, by rw [hfound]⟩
    · rw [require_bind_of_not hn] at h
      cases h

/-- The end of an open whose reply is accepted: the connection goes to the first
unused slot. -/
theorem connect_cases {table : Nat → TSkSysConnection} {n : UInt32} {poc : SkTeecUserOpenContext}
    {i : IdSlot} {context : Handle} {r : SkStatus × SkTeecUserOpenContext}
    (h : (do
      let chndle ← skNwldTapiGetConnHandle table n
      if chndle = skDrvNoHandleConnections then return (skErrorCommFailed, poc)
      let h ← tableIndex chndle
      modify (·.connected h i context)
      return (skErrorSuccess, { poc with contextHandle := chndle.toUInt32 }) :
        NwldM (SkStatus × SkTeecUserOpenContext)) s = .ok (r, s')) :
    match firstUnused (fun j => (table j).used) n.toNat with
    | none => r = (skErrorCommFailed, poc) ∧ s' = s
    | some j => j < 2 ^ 31 ∧
      r = (skErrorSuccess, { poc with contextHandle := (Int32.ofNat j).toUInt32 }) ∧
      s' = s.connected j i context := by
  cases hget : skNwldTapiGetConnHandle table n s with
  | error f =>
    rw [bind_of_error hget] at h
    cases h
  | ok v =>
    obtain ⟨chndle, t⟩ := v
    obtain ⟨rfl, hchndle⟩ := skNwldTapiGetConnHandle_cases hget
    rw [bind_of_ok hget] at h
    cases hfound : firstUnused (fun j => (table j).used) n.toNat with
    | none =>
      simp only [hfound] at hchndle
      rw [if_pos hchndle] at h
      cases h
      exact ⟨rfl, rfl⟩
    | some j =>
      simp only [hfound] at hchndle
      subst hchndle
      have hj := (firstUnused_eq_some.mp hfound).1
      have hindex := tableIndex_ofNat hj t
      rw [if_neg (ofNat_ne_noHandle hj)] at h
      by_cases hsmall : j < 2 ^ 31
      · rw [if_pos hsmall] at hindex
        rw [bind_of_ok hindex, modify_bind_run] at h
        cases h
        exact ⟨hsmall, rfl, rfl⟩
      · rw [if_neg hsmall] at hindex
        rw [bind_of_error hindex] at h
        cases h

theorem openContext_cases {poc : SkTeecUserOpenContext} {r : SkStatus × SkTeecUserOpenContext}
    (h : skNwldTapiOpenContext env poc s = .ok (r, s')) :
    CallOutcome ⟨.openContext poc, env⟩ s (Prod.map id .openContext r) s' := by
  unfold skNwldTapiOpenContext at h
  by_cases hinv : env.invalidParam = true
  · rw [if_pos hinv] at h
    cases h
    exact .refused (by decide)
  rw [if_neg hinv] at h
  by_cases hzero : poc.contextId = 0
  · rw [if_pos hzero] at h
    cases h
    exact .refused (by decide)
  rw [if_neg hzero] at h
  cases hclaim : claimContextId env poc.contextId s with
  | error f =>
    rw [bind_of_error hclaim] at h
    cases h
  | ok v =>
    obtain ⟨claim, t⟩ := v
    have hcases := claimContextId_cases hclaim
    rw [bind_of_ok hclaim] at h
    cases claim with
    | error err =>
      cases h
      exact .unclaimed rfl hcases
    | ok i =>
      simp only at h
      rw [get_bind_run] at h
      rcases withReply_cases h with ⟨-, rfl, rfl⟩ | ⟨c, e, -, hc, he, hres⟩
      · exact .unsent rfl hcases
      cases hc
      have hsends : SendsOpen ⟨.openContext poc, env⟩ t i e := by
        rw [SendsOpen, he, hcases.slot.2]
        rfl
      by_cases hacc : (SkTeecUserInfo.openContext poc).Accepts e.reply
      · have hcheck (msg : SkMsg) : checkReply .openContextResp skTapiOpenContext
            (·.openContext.resp.status) msg e.reply =
              .ok (Layout.openContextResp.decoded e.reply.recvBuf msg) :=
          checkReply_of_accepted (by decide) (fun _ => rfl) hacc
        rcases hres with ⟨err, herr, -, -⟩ | ⟨m, hm, h⟩
        · rw [hcheck] at herr
          cases herr
        rw [hcheck] at hm
        cases hm
        have hconnect := connect_cases h
        cases hfound : firstUnused (fun j => (t.tapi.clist j).used)
            t.tapi.maxConnections.toNat with
        | none =>
          simp only [hfound] at hconnect
          obtain ⟨rfl, rfl⟩ := hconnect
          exact .unopened rfl hcases hsends (by decide) fun _ => firstUnused_eq_none.mp hfound
        | some j =>
          simp only [hfound] at hconnect
          obtain ⟨hsmall, rfl, rfl⟩ := hconnect
          rw [openContextResp_handle]
          exact .openedContext rfl hcases hsends hacc hfound hsmall
      · have hcheck (msg : SkMsg) : ∃ err, err ≠ skErrorSuccess ∧ checkReply .openContextResp
            skTapiOpenContext (·.openContext.resp.status) msg e.reply = .error err :=
          checkReply_of_not_accepted (fun _ => rfl) hacc
        rcases hres with ⟨err, herr, rfl, rfl⟩ | ⟨m, hm, -⟩
        · obtain ⟨_, hne, hcheck⟩ := hcheck _
          rw [hcheck] at herr
          cases herr
          exact .unopened rfl hcases hsends hne fun hacc' => absurd hacc' hacc
        · obtain ⟨_, -, hcheck⟩ := hcheck _
          rw [hcheck] at hm
          cases hm

theorem closeContext_cases {pcc : SkTeecUserCloseContext} {r : SkStatus × SkTeecUserCloseContext}
    (h : skNwldTapiCloseContext env pcc s = .ok (r, s')) :
    CallOutcome ⟨.closeContext pcc, env⟩ s (Prod.map id .closeContext r) s' := by
  rcases withConnection_cases h with ⟨err, hne, rfl, rfl⟩ | ⟨pconn, hconn, h⟩
  · exact .refused hne
  rcases sends_cases ⟨.closeContext pcc, env⟩ (Blk.zero 16) rfl hconn no_entry rfl (fun _ => rfl)
      h with ⟨rfl, rfl⟩ | ⟨e, hsends, ⟨hacc, err, hne, rfl, rfl⟩ | ⟨hacc, h⟩⟩
  · exact .refused (by decide)
  · exact .rejected hsends hacc hne
  · cases hrel : releaseContextId env pconn (s.record e) with
    | error f =>
      rw [bind_of_error hrel] at h
      cases h
    | ok p =>
      obtain ⟨err, t⟩ := p
      have hrelease := releaseContextId_cases hrel
      rw [bind_of_ok hrel] at h
      by_cases herr : err = skErrorSuccess
      · subst herr
        rw [if_neg (by decide), get_bind_run] at h
        by_cases hnum : t.tapi.numConnections ≠ 0
        · rw [require_bind_of hnum] at h
          cases h
          exact .closedContext rfl hsends hacc hrelease hnum
        · rw [require_bind_of_not hnum] at h
          cases h
      · rw [if_pos herr] at h
        cases h
        exact .unreleased rfl hsends hacc hrelease herr

theorem openSession_cases {pos : SkTeecUserOpenSession} {r : SkStatus × SkTeecUserOpenSession}
    (h : skNwldTapiOpenSession env pos s = .ok (r, s')) :
    CallOutcome ⟨.openSession pos, env⟩ s (Prod.map id .openSession r) s' := by
  rcases withConnection_cases h with ⟨err, hne, rfl, rfl⟩ | ⟨pconn, hconn, h⟩
  · exact .refused hne
  rcases sends_cases ⟨.openSession pos, env⟩ (Blk.zero 16) rfl hconn no_entry rfl (fun _ => rfl)
      h with ⟨rfl, rfl⟩ | ⟨e, hsends, ⟨hacc, err, hne, rfl, rfl⟩ | ⟨hacc, h⟩⟩
  · exact .refused (by decide)
  · exact .rejected hsends hacc hne
  · cases hget : skNwldTapiGetSessionHandle pconn.s pconn.maxSessions (s.record e) with
    | error f =>
      rw [bind_of_error hget] at h
      cases h
    | ok v =>
      obtain ⟨shndle, t⟩ := v
      obtain ⟨rfl, p, hp, hshndle⟩ := skNwldTapiGetSessionHandle_cases hget
      rw [bind_of_ok hget] at h
      cases hfound : firstUnused (fun i => (s.sessions p i).used) pconn.maxSessions.toNat with
      | none =>
        simp only [Nwld.sessions_record, hfound] at hshndle
        rw [if_pos hshndle] at h
        cases h
        exact .sessionsFull rfl hsends hacc hp (firstUnused_eq_none.mp hfound)
      | some k =>
        simp only [Nwld.sessions_record, hfound] at hshndle
        subst hshndle
        have hk := (firstUnused_eq_some.mp hfound).1
        rw [if_neg (ofNat_ne_noHandle hk), hp, deref_some_bind_run] at h
        by_cases hsmall : k < 2 ^ 31
        · have hindex := tableIndex_ofNat hk (s.record e)
          rw [if_pos hsmall] at hindex
          rw [bind_of_ok hindex, modify_bind_run, openSessionResp_handle] at h
          cases h
          exact .openedSession rfl hsends hacc hp hfound hsmall
        · have hindex := tableIndex_ofNat hk (s.record e)
          rw [if_neg hsmall] at hindex
          rw [bind_of_error hindex] at h
          cases h

theorem closeSession_cases {pcs : SkTeecUserCloseSession} {r : SkStatus × SkTeecUserCloseSession}
    (h : skNwldTapiCloseSession env pcs s = .ok (r, s')) :
    CallOutcome ⟨.closeSession pcs, env⟩ s (Prod.map id .closeSession r) s' := by
  rcases withConnection_cases h with ⟨err, hne, rfl, rfl⟩ | ⟨pconn, hconn, h⟩
  · exact .refused hne
  rcases withSession_cases h with ⟨err, hne, rfl, rfl⟩ | ⟨p, hp, hlt, hused, h⟩
  · exact .refused hne
  have hentry : ∀ sh, some pcs.sessionHandle = some sh → ∃ q, pconn.s = some q ∧
      sh < pconn.maxSessions ∧ (s.sessions q sh.toNat).used = true ∧
      (s.sessions q sh.toNat).session = (s.sessions p pcs.sessionHandle.toNat).session := by
    rintro sh ⟨⟩
    exact ⟨p, hp, hlt, hused, rfl⟩
  rcases sends_cases ⟨.closeSession pcs, env⟩ _ rfl hconn hentry rfl (fun _ => rfl) h with
    ⟨rfl, rfl⟩ | ⟨e, hsends, ⟨hacc, err, hne, rfl, rfl⟩ | ⟨hacc, h⟩⟩
  · exact .refused (by decide)
  · exact .rejected hsends hacc hne
  · by_cases hnum : pconn.numSessions ≠ 0
    · rw [require_bind_of hnum] at h
      cases h
      exact .closedSession rfl hsends hacc hp hnum
    · rw [require_bind_of_not hnum] at h
      cases h

theorem invokeCommand_cases {pic : SkTeecUserInvokeCmd} {r : SkStatus × SkTeecUserInvokeCmd}
    (h : skNwldTapiInvokeCommand env pic s = .ok (r, s')) :
    CallOutcome ⟨.invokeCmd pic, env⟩ s (Prod.map id .invokeCmd r) s' := by
  rcases withConnection_cases h with ⟨err, hne, rfl, rfl⟩ | ⟨pconn, hconn, h⟩
  · exact .refused hne
  rcases withSession_cases h with ⟨err, hne, rfl, rfl⟩ | ⟨p, hp, hlt, hused, h⟩
  · exact .refused hne
  have hentry : ∀ sh, some pic.sessionHandle = some sh → ∃ q, pconn.s = some q ∧
      sh < pconn.maxSessions ∧ (s.sessions q sh.toNat).used = true ∧
      (s.sessions q sh.toNat).session = (s.sessions p pic.sessionHandle.toNat).session := by
    rintro sh ⟨⟩
    exact ⟨p, hp, hlt, hused, rfl⟩
  rcases sends_cases ⟨.invokeCmd pic, env⟩ _ rfl hconn hentry rfl (fun _ => rfl) h with
    ⟨rfl, rfl⟩ | ⟨e, hsends, ⟨hacc, err, hne, rfl, rfl⟩ | ⟨hacc, h⟩⟩
  · exact .refused (by decide)
  · exact .rejected hsends hacc hne
  · cases h
    exact .invoked rfl hsends hacc

theorem registerMemory_cases {rm : SkTeecUserRegisterMemory}
    {r : SkStatus × SkTeecUserRegisterMemory}
    (h : skNwldTapiRegisterMemory env rm s = .ok (r, s')) :
    CallOutcome ⟨.regMem rm, env⟩ s (Prod.map id .regMem r) s' := by
  rcases withConnection_cases h with ⟨err, hne, rfl, rfl⟩ | ⟨pconn, hconn, h⟩
  · exact .refused hne
  rcases sends_cases ⟨.regMem rm, env⟩ (Blk.zero 16) rfl hconn no_entry rfl (fun _ => rfl)
      h with ⟨rfl, rfl⟩ | ⟨e, hsends, ⟨hacc, err, hne, rfl, rfl⟩ | ⟨hacc, h⟩⟩
  · exact .refused (by decide)
  · exact .rejected hsends hacc hne
  · simp only at h
    split at h
    · cases h
      exact .registered rfl hsends hacc rfl
    · cases h
      exact .registered rfl hsends hacc rfl

theorem unregisterMemory_cases {urm : SkTeecUserUnregisterMemory}
    {r : SkStatus × SkTeecUserUnregisterMemory}
    (h : skNwldTapiUnregisterMemory env urm s = .ok (r, s')) :
    CallOutcome ⟨.unregMem urm, env⟩ s (Prod.map id .unregMem r) s' := by
  rcases withConnection_cases h with ⟨err, hne, rfl, rfl⟩ | ⟨pconn, hconn, h⟩
  · exact .refused hne
  rcases sends_cases ⟨.unregMem urm, env⟩ (Blk.zero 16) rfl hconn no_entry rfl (fun _ => rfl)
      h with ⟨rfl, rfl⟩ | ⟨e, hsends, ⟨hacc, err, hne, rfl, rfl⟩ | ⟨hacc, h⟩⟩
  · exact .refused (by decide)
  · exact .rejected hsends hacc hne
  · simp only at h
    split at h
    · cases h
      exact .unregistered rfl hsends hacc
    · cases h
      exact .unregistered rfl hsends hacc

/-- A call starts with no exchange made and ends in one of the outcomes. -/
theorem nwldStep_cases {call : Call} {r : SkStatus × SkTeecUserInfo}
    (h : nwldStep call s = .ok (r, s')) : CallOutcome call { s with exchanges := [] } r s' := by
  obtain ⟨info, env⟩ := call
  change perform env info { s with exchanges := [] } = _ at h
  cases info with
  | openContext poc =>
    obtain ⟨a, ha, rfl⟩ := map_eq_ok h
    exact openContext_cases ha
  | closeContext pcc =>
    obtain ⟨a, ha, rfl⟩ := map_eq_ok h
    exact closeContext_cases ha
  | openSession pos =>
    obtain ⟨a, ha, rfl⟩ := map_eq_ok h
    exact openSession_cases ha
  | closeSession pcs =>
    obtain ⟨a, ha, rfl⟩ := map_eq_ok h
    exact closeSession_cases ha
  | invokeCmd pic =>
    obtain ⟨a, ha, rfl⟩ := map_eq_ok h
    exact invokeCommand_cases ha
  | regMem rm =>
    obtain ⟨a, ha, rfl⟩ := map_eq_ok h
    exact registerMemory_cases ha
  | unregMem urm =>
    obtain ⟨a, ha, rfl⟩ := map_eq_ok h
    exact unregisterMemory_cases ha

end Cases

abbrev NwldStep := Step Call Nwld (SkStatus × SkTeecUserInfo)

end SkSdk
