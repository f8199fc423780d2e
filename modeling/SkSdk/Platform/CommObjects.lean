import SkSdk.Library.Format
import SkSdk.Nwld.FailedOpen

/-!
The platform's comm objects under the driver. The driver is given an array of
them as an opaque pointer and steps through it byte by byte; the platform reads
and writes whole objects where these pointers lead. Only the first is its own.
-/

namespace SkSdk
open ByteMemory FaultState

/-! ## The objects in memory -/

/-- The size of the TCP platform's object. -/
abbrev sizeofTSkSysCltCommOffTargetObj : Nat := 16

/-- The system calls of one operation: the sockets they give and take, and what
the other end of a socket answers. -/
structure TcpOs where
  socket : Int32
  bind : Bool
  connect : UInt32 → UInt32 → Bool
  transfer : Int32 → List UInt8 → Option SkOperation → CommReply
  commErr : UInt32

section Platform

-- a 32-bit word as it lies in memory
variable (word : Format UInt32 4)

/-- The members of the object at an address. -/
def objSocket (mem : Mem) (myObj : Nat) : Int32 := (word.get mem myObj).toInt32
def objAddress (mem : Mem) (myObj : Nat) : UInt32 := word.get mem (myObj + 4)
def objPort (mem : Mem) (myObj : Nat) : UInt32 := word.get mem (myObj + 8)

def setSocket (mem : Mem) (myObj : Nat) (socket : Int32) : Mem :=
  mem.write myObj (word.enc socket.toUInt32)

def setCommErr (mem : Mem) (myObj : Nat) (commErr : UInt32) : Mem :=
  mem.write (myObj + 12) (word.enc commErr)

/-- `my_sk_drv_nwld_comm_init`. -/
def mySkDrvNwldCommInit (os : TcpOs) (myObj : Nat) (address port : UInt32) (mem : Mem) :
    SkStatus × Mem :=
  let mem := setSocket word mem myObj os.socket
  if os.socket ≤ 0 then (-1, mem)
  else if os.bind = false then (-2, mem)
  else if os.connect address port = false then (-3, mem)
  else (skErrorSuccess, mem)

def skNwldPlatformCommRegister (os : TcpOs) (obj : SkNwldTeecComm) (contextId smId : UInt32)
    (mem : Mem) : SkStatus × SkNwldTeecComm × Mem :=
  let obj := { obj with contextId, smId, regInit := 1 }
  let address := objAddress word mem obj.myObj
  let port := objPort word mem obj.myObj
  let result := mySkDrvNwldCommInit word os obj.myObj address port mem
  (if result.1 ≠ skErrorSuccess then skErrorOpenFailed else skErrorSuccess, obj, result.2)

/-- The socket is closed, the object stays. -/
def skNwldPlatformCommUnregister (obj : SkNwldTeecComm) : SkStatus × SkNwldTeecComm :=
  (skErrorSuccess, obj)

/-- The array that `sk_nwld_platform_tapi_ioctl_init` makes and hands to the driver. -/
def gtCommObjs (gtCommObj : Nat) (address port : UInt32) (mem : Mem) : Mem :=
  let size := sizeofTSkSysCltCommOffTargetObj
  (List.range skTapiMaxContextIds).foldl (fun mem i =>
      (mem.write (gtCommObj + i * size + 4) (word.enc address)).write (gtCommObj + i * size + 8)
        (word.enc (port + UInt32.ofNat i)))
    (mem.write gtCommObj (List.replicate (skTapiMaxContextIds * size) 0))

/-! ## The driver on the platform -/

/-- The driver, the memory of the objects, and beside them the socket that the
last registration of a context id has opened. `used` belongs to the call in
progress: the socket that its exchange went through. -/
structure TcpNwld where
  nwld : Nwld
  mem : Mem
  opened : UInt32 → Option Int32
  used : Option Int32

/-- One call; what the platform does follows from the objects and `os`. -/
structure TcpCall extends Call where
  os : TcpOs

/-- The slot that a call registers, and the context id. -/
def Call.registers (call : Call) (s : Nwld) : Option (IdSlot × UInt32) :=
  match call.info with
  | .openContext poc =>
    if call.env.invalidParam ∨ poc.contextId = 0 then none else
    match s.slotOf poc.contextId with
    | some _ => none
    | none =>
      if s.tapi.numContextId < skTapiMaxContextIds then s.freeSlot.map (·, poc.contextId)
      else none
  | _ => none

/-- The registration of slot `i` for a context id. -/
def TcpCall.registration (call : TcpCall) (w : TcpNwld) (i : IdSlot) (contextId : UInt32) :
    SkStatus × SkNwldTeecComm × Mem :=
  skNwldPlatformCommRegister word call.os (w.nwld.tapi.info i).comm contextId w.nwld.tapi.smId w.mem

/-- What the call's registration, if it makes one, leaves. -/
def TcpCall.registered (call : TcpCall) (w : TcpNwld) : Mem × (UInt32 → Option Int32) :=
  match call.registers w.nwld with
  | none => (w.mem, w.opened)
  | some (i, contextId) =>
    let result := call.registration word w i contextId
    (result.2.2, Function.update w.opened contextId
      (if result.1 = skErrorSuccess then some call.os.socket else none))

/-- The call with the platform's functions in place, `mem` before the
registration and `mem'` behind it. -/
def TcpCall.over (call : TcpCall) (mem mem' : Mem) : Call where
  info := call.info
  env := { call.env with
    commRegister := fun obj contextId smId =>
      let result := skNwldPlatformCommRegister word call.os obj contextId smId mem
      (result.1, result.2.1)
    commUnregister := skNwldPlatformCommUnregister
    commProc := fun obj request op =>
      call.os.transfer (objSocket word mem' obj.myObj) request op }

def tcpStep (call : TcpCall) : Prog TcpNwld NwldFault (SkStatus × SkTeecUserInfo) := fun w =>
  let (mem, opened) := call.registered word w
  match nwldStep (call.over word w.mem mem) w.nwld with
  | .error e => .error e
  | .ok (r, nwld) =>
    match nwld.exchanges with
    | [] => .ok (r, ⟨nwld, mem, opened, none⟩)
    | e :: _ =>
      let myObj := (nwld.tapi.info e.comm).comm.myObj
      .ok (r, ⟨nwld, setCommErr word mem myObj call.os.commErr, opened,
        some (objSocket word mem myObj)⟩)

abbrev TcpStep := Step TcpCall TcpNwld (SkStatus × SkTeecUserInfo)

/-- The context id that a call is about. -/
def Call.contextId (call : Call) (s : Nwld) : Option UInt32 :=
  match call.info with
  | .openContext poc => some poc.contextId
  | info => info.contextHandle.bind fun h => (s.tapi.connection h).map (·.contextId)

/-- Socket, address and port of the object at an address. -/
def objFields (mem : Mem) (myObj : Nat) : Int32 × UInt32 × UInt32 :=
  (objSocket word mem myObj, objAddress word mem myObj, objPort word mem myObj)

/-- A step that registers or unregisters the transport of one slot leaves the
elements of the other slots as they are. -/
def KeepsOthers (base : Nat) (x : TcpStep) : Prop :=
  ∀ i j : IdSlot, i ≠ j →
    (x.pre.nwld.tapi.info i).used ≠ (x.post.nwld.tapi.info i).used →
    let element := base + j * sizeofTSkSysCltCommOffTargetObj
    objFields word x.post.mem element = objFields word x.pre.mem element

/-- An exchange goes through the socket that the registration of its context id has opened. -/
def UsesOwnSocket (x : TcpStep) : Prop :=
  ∀ socket, x.post.used = some socket →
    ∃ contextId, x.input.contextId x.pre.nwld = some contextId ∧
      x.post.opened contextId = some socket

/-- The call registers no slot but the first, and with success; no count is at its maximum. -/
structure FirstOnly (call : TcpCall) (w : TcpNwld) : Prop where
  single : ∀ i contextId, call.registers w.nwld = some (i, contextId) →
    i.val = 0 ∧ (call.registration word w i contextId).1 = skErrorSuccess
  counts : CountsBelow (2 ^ 31 - 2) w.nwld

/-! ## Memory -/

section Memory

variable {word} (mem : Mem) (p q : Nat)

theorem objFields_write {bs : List UInt8} (h : p + 12 ≤ q ∨ q + bs.length ≤ p) :
    objFields word (mem.write q bs) p = objFields word mem p := by
  simp only [objFields, objSocket, objAddress, objPort, Format.get]
  rw [Mem.read_write_disjoint _ _ _ _ _ (by omega), Mem.read_write_disjoint _ _ _ _ _ (by omega),
    Mem.read_write_disjoint _ _ _ _ _ (by omega)]

@[simp] theorem objSocket_setSocket (socket : Int32) :
    objSocket word (setSocket word mem p socket) p = socket := by
  rw [objSocket, setSocket, Format.get_write]
  simp

@[simp] theorem objSocket_setCommErr (commErr : UInt32) :
    objSocket word (setCommErr word mem p commErr) p = objSocket word mem p :=
  congrArg Prod.fst (objFields_write mem p (p + 12) (Or.inl (Nat.le_refl _)))

theorem objFields_setSocket (socket : Int32) (h : p + 12 ≤ q ∨ q + 4 ≤ p) :
    objFields word (setSocket word mem q socket) p = objFields word mem p :=
  objFields_write mem p q (by rwa [word.length_enc])

theorem objFields_setCommErr (commErr : UInt32) (h : p ≤ q ∨ q + 16 ≤ p) :
    objFields word (setCommErr word mem q commErr) p = objFields word mem p :=
  objFields_write mem p (q + 12) (by rw [word.length_enc]; omega)

end Memory

variable {word}

/-- A registration writes the socket and nothing else, and keeps the pointer. -/
theorem registration_writes (os : TcpOs) (obj : SkNwldTeecComm) (contextId smId : UInt32)
    (mem : Mem) :
    (skNwldPlatformCommRegister word os obj contextId smId mem).2.1.myObj = obj.myObj ∧
    (skNwldPlatformCommRegister word os obj contextId smId mem).2.2 =
      setSocket word mem obj.myObj os.socket := by
  refine ⟨rfl, ?_⟩
  simp only [skNwldPlatformCommRegister, mySkDrvNwldCommInit]
  split
  · rfl
  split
  · rfl
  split
  · rfl
  · rfl

theorem tcpStep_cases {call : TcpCall} {w w' : TcpNwld} {r : SkStatus × SkTeecUserInfo}
    (h : tcpStep word call w = .ok (r, w')) :
    let mem := (call.registered word w).1
    nwldStep (call.over word w.mem mem) w.nwld = .ok (r, w'.nwld) ∧
    w'.opened = (call.registered word w).2 ∧
    ((w'.mem = mem ∧ w'.used = none) ∨
      ∃ e ∈ w'.nwld.exchanges,
        w'.mem = setCommErr word mem (w'.nwld.tapi.info e.comm).comm.myObj call.os.commErr ∧
        w'.used = some (objSocket word mem (w'.nwld.tapi.info e.comm).comm.myObj)) := by
  intro mem
  unfold tcpStep at h
  dsimp only at h
  cases hstep : nwldStep (call.over word w.mem (call.registered word w).1) w.nwld with
  | error e =>
    rw [hstep] at h
    cases h
  | ok p =>
    obtain ⟨r', nwld⟩ := p
    simp only [hstep] at h
    split at h
    · cases h
      exact ⟨rfl, rfl, Or.inl ⟨rfl, rfl⟩⟩
    · next e rest hexchanges =>
      cases h
      refine ⟨rfl, rfl, Or.inr ⟨e, ?_, rfl, rfl⟩⟩
      rw [hexchanges]
      exact List.mem_cons_self ..

/-! ## Slots -/

/-- Slots are only given back, with their comm objects unchanged. -/
def FewerSlots (s t : Nwld) : Prop :=
  ∀ i, (t.tapi.info i).comm = (s.tapi.info i).comm ∧ ((t.tapi.info i).used = true →
    (s.tapi.info i).used = true ∧ (t.tapi.info i).contextId = (s.tapi.info i).contextId)

theorem FewerSlots.of_info {s t : Nwld} (h : t.tapi.info = s.tapi.info) : FewerSlots s t := by
  intro i
  rw [h]
  exact ⟨rfl, fun hused => ⟨hused, rfl⟩⟩

theorem Release.fewerSlots {env : NwldEnv} {pconn : TSkSysConnection} {s t : Nwld} {err : SkStatus}
    (hunreg : ∀ obj, env.commUnregister obj = (skErrorSuccess, obj))
    (h : Release env pconn s err t) : FewerSlots s t := by
  have hunregistered (i c d : IdSlot) :
      ((s.unregistered env i c).tapi.info d).comm = (s.tapi.info d).comm ∧
      ((s.unregistered env i c).tapi.info d).used = (s.tapi.info d).used ∧
      ((s.unregistered env i c).tapi.info d).contextId = (s.tapi.info d).contextId := by
    rcases eq_or_ne d c with rfl | hdc
    · rcases eq_or_ne d i with rfl | hdi <;>
        simp [Nwld.unregistered, Nwld.setComm, Nwld.unshared, *]
    · rcases eq_or_ne d i with rfl | hdi <;>
        simp [Nwld.unregistered, Nwld.setComm, Nwld.unshared, *]
  intro d
  cases h with
  | kept _ _ =>
    rcases eq_or_ne d pconn.contextIdIndex with rfl | hd <;> simp [Nwld.unshared, *]
  | @failed c _ _ _ =>
    obtain ⟨hcomm, hused, hid⟩ := hunregistered pconn.contextIdIndex c d
    exact ⟨hcomm, fun h => ⟨hused ▸ h, hid⟩⟩
  | @freed c _ _ _ _ =>
    obtain ⟨hcomm, hused, hid⟩ := hunregistered pconn.contextIdIndex c d
    rcases eq_or_ne d pconn.contextIdIndex with rfl | hd
    · simp [Nwld.freed, hcomm]
    · simp [Nwld.freed, hd, hcomm, hused, hid]

/-- A call that opens no context registers nothing, and sends on a connection. -/
theorem CallOutcome.fewerSlots {call : Call} {s t : Nwld} {r : SkStatus × SkTeecUserInfo}
    (h : CallOutcome call s r t) (hs : s.exchanges = [])
    (hunreg : ∀ obj, call.env.commUnregister obj = (skErrorSuccess, obj))
    (hopen : ∀ poc, call.info ≠ .openContext poc) :
    FewerSlots s t ∧
      ∀ e ∈ t.exchanges, ∃ hd pconn session, Sends call s hd pconn session e := by
  have hsent {e : NwldExchange} {hd : UInt32} {pconn : TSkSysConnection} {session : Handle}
      (hsends : Sends call s hd pconn session e) :
      ∀ e' ∈ s.exchanges ++ [e], ∃ hd pconn session, Sends call s hd pconn session e' := by
    intro e' he'
    rw [hs, List.nil_append, List.mem_singleton] at he'
    exact ⟨hd, pconn, session, he' ▸ hsends⟩
  cases h with
  | refused _ => exact ⟨.of_info rfl, by simp [hs]⟩
  | unclaimed hcall _ => exact absurd hcall (hopen _)
  | unsent hcall _ => exact absurd hcall (hopen _)
  | unopened hcall _ _ _ _ => exact absurd hcall (hopen _)
  | openedContext hcall _ _ _ _ _ => exact absurd hcall (hopen _)
  | rejected hsends _ _ => exact ⟨.of_info rfl, hsent hsends⟩
  | unreleased _ hsends _ hrelease _ =>
    exact ⟨fun i => hrelease.fewerSlots hunreg i, hrelease.frame.2.2.2.2 ▸ hsent hsends⟩
  | closedContext _ hsends _ hrelease _ =>
    exact ⟨fun i => hrelease.fewerSlots hunreg i, hrelease.frame.2.2.2.2 ▸ hsent hsends⟩
  | sessionsFull _ hsends _ _ _ => exact ⟨.of_info rfl, hsent hsends⟩
  | openedSession _ hsends _ _ _ _ => exact ⟨.of_info rfl, hsent hsends⟩
  | closedSession _ hsends _ _ _ => exact ⟨.of_info rfl, hsent hsends⟩
  | invoked _ hsends _ => exact ⟨.of_info rfl, hsent hsends⟩
  | registered _ hsends _ _ => exact ⟨.of_info rfl, hsent hsends⟩
  | unregistered _ hsends _ => exact ⟨.of_info rfl, hsent hsends⟩

/-- Of an open_context call only the claim edits the slots, and the exchange
goes through the slot that was claimed. -/
theorem openContext_slots {env : NwldEnv} {poc : SkTeecUserOpenContext} {s t : Nwld}
    {r : SkStatus × SkTeecUserOpenContext} (hs : s.exchanges = [])
    (h : skNwldTapiOpenContext env poc s = .ok (r, t)) :
    ((env.invalidParam = true ∨ poc.contextId = 0) ∧ t = s) ∨
    (¬ (env.invalidParam = true ∨ poc.contextId = 0) ∧ ∃ c u,
      claimContextId env poc.contextId s = .ok (c, u) ∧ t.tapi.info = u.tapi.info ∧
      ∀ e ∈ t.exchanges, c = .ok e.comm) := by
  unfold skNwldTapiOpenContext at h
  by_cases hinv : env.invalidParam = true
  · rw [if_pos hinv] at h
    cases h
    exact Or.inl ⟨Or.inl hinv, rfl⟩
  rw [if_neg hinv] at h
  by_cases hid : poc.contextId = 0
  · rw [if_pos hid] at h
    cases h
    exact Or.inl ⟨Or.inr hid, rfl⟩
  rw [if_neg hid] at h
  refine Or.inr ⟨not_or.mpr ⟨hinv, hid⟩, ?_⟩
  cases hclaim : claimContextId env poc.contextId s with
  | error f =>
    rw [bind_of_error hclaim] at h
    cases h
  | ok v =>
    obtain ⟨claim, u⟩ := v
    have hempty : u.exchanges = [] := (claimContextId_cases hclaim).frame.2.2.2.2.trans hs
    refine ⟨claim, u, rfl, ?_⟩
    rw [bind_of_ok hclaim] at h
    cases claim with
    | error err =>
      cases h
      exact ⟨rfl, by simp [hempty]⟩
    | ok i =>
      simp only at h
      rw [get_bind_run] at h
      rcases withReply_cases h with ⟨-, -, rfl⟩ | ⟨c, e, -, hc, he, hres⟩
      · exact ⟨rfl, by simp [hempty]⟩
      have hsent : ∀ e' ∈ (u.record e).exchanges, Except.ok (ε := SkStatus) i = .ok e'.comm := by
        intro e' he'
        rw [Nwld.record, hempty, List.nil_append, List.mem_singleton] at he'
        rw [he', he, Option.some.inj hc]
        rfl
      rcases hres with ⟨err, -, -, rfl⟩ | ⟨m, -, h⟩
      · exact ⟨rfl, hsent⟩
      cases hget : skNwldTapiGetConnHandle u.tapi.clist u.tapi.maxConnections (u.record e) with
      | error f =>
        rw [bind_of_error hget] at h
        cases h
      | ok v =>
        obtain ⟨chndle, t'⟩ := v
        obtain ⟨rfl, -⟩ := skNwldTapiGetConnHandle_cases hget
        rw [bind_of_ok hget] at h
        by_cases hnone : chndle = skDrvNoHandleConnections
        · rw [if_pos hnone] at h
          cases h
          exact ⟨rfl, hsent⟩
        rw [if_neg hnone, tableIndex] at h
        by_cases hindex : 0 ≤ chndle.toInt
        · rw [bind_of_ok (bind_of_ok (require_of hindex _ _) _), modify_bind_run] at h
          cases h
          exact ⟨rfl, hsent⟩
        · rw [bind_of_error (bind_of_error (require_of_not hindex _ _) _)] at h
          cases h

/-! ## One slot -/

section FirstSlot

variable (word)

/-- The first slot is the only one in use, and its object holds the socket of its id. -/
structure FirstSlot (base : Nat) (w : TcpNwld) : Prop where
  table : TableInvariant w.nwld
  pointer : ∀ i, (w.nwld.tapi.info i).comm.myObj = base + i
  first : ∀ i, (w.nwld.tapi.info i).used = true → i.val = 0 ∧
    w.opened (w.nwld.tapi.info i).contextId = some (objSocket word w.mem base)

/-- What a call has done before its exchange: the slots, the sockets on record
and the memory `mem` in which the exchange finds the objects. -/
structure Prepared (base : Nat) (call : TcpCall) (w : TcpNwld) (nwld : Nwld) : Prop where
  pointer : ∀ i, (nwld.tapi.info i).comm.myObj = base + i
  first : ∀ i, (nwld.tapi.info i).used = true → i.val = 0 ∧
    (call.registered word w).2 (nwld.tapi.info i).contextId =
      some (objSocket word (call.registered word w).1 base)
  exchange : ∀ e ∈ nwld.exchanges, e.comm.val = 0 ∧ ∃ contextId,
    call.contextId w.nwld = some contextId ∧
    (call.registered word w).2 contextId = some (objSocket word (call.registered word w).1 base)
  others : ∀ j : IdSlot, j.val ≠ 0 →
    objFields word (call.registered word w).1 (base + j * sizeofTSkSysCltCommOffTargetObj) =
      objFields word w.mem (base + j * sizeofTSkSysCltCommOffTargetObj)

end FirstSlot

variable {base : Nat} {w w' : TcpNwld}

theorem prepared_unregistered {call : TcpCall} {nwld : Nwld} (h : FirstSlot word base w)
    (hnone : call.registers w.nwld = none) (hfewer : FewerSlots w.nwld nwld)
    (hexchange : ∀ e ∈ nwld.exchanges, (w.nwld.tapi.info e.comm).used = true ∧
      call.contextId w.nwld = some (w.nwld.tapi.info e.comm).contextId) :
    Prepared word base call w nwld := by
  have hregistered : call.registered word w = (w.mem, w.opened) := by
    rw [TcpCall.registered, hnone]
  refine ⟨fun i => ?_, fun i hi => ?_, fun e he => ?_, fun j _ => ?_⟩
  · rw [(hfewer i).1, h.pointer]
  · obtain ⟨hused, hid⟩ := (hfewer i).2 hi
    rw [hregistered, hid]
    exact h.first i hused
  · obtain ⟨hused, hid⟩ := hexchange e he
    obtain ⟨hzero, hopened⟩ := h.first _ hused
    rw [hregistered]
    exact ⟨hzero, _, hid, hopened⟩
  · rw [hregistered]

theorem prepared_added {call : TcpCall} {nwld : Nwld} {i : IdSlot} {contextId : UInt32}
    {mem' : Mem} (h : FirstSlot word base w)
    (hregisters : call.registers w.nwld = some (i, contextId)) (hzero : i.val = 0)
    (hok : (call.registration word w i contextId).1 = skErrorSuccess)
    (hid : call.contextId w.nwld = some contextId)
    (hinfo : nwld.tapi.info = (Nwld.added (call.over word w.mem mem').env
      { w.nwld with exchanges := [] } i contextId).tapi.info)
    (hexchange : ∀ e ∈ nwld.exchanges, e.comm = i) : Prepared word base call w nwld := by
  have hwrites := @registration_writes word call.os (w.nwld.tapi.info i).comm contextId
    w.nwld.tapi.smId w.mem
  have hpointer : (w.nwld.tapi.info i).comm.myObj = base := by rw [h.pointer, hzero, Nat.add_zero]
  have hregistered : call.registered word w = (setSocket word w.mem base call.os.socket,
      Function.update w.opened contextId (some call.os.socket)) := by
    rw [TcpCall.registered, hregisters]
    dsimp only
    rw [if_pos hok, TcpCall.registration, hwrites.2, hpointer]
  have hself : (nwld.tapi.info i).comm.myObj = base + i ∧
      (nwld.tapi.info i).contextId = contextId := by
    rw [hinfo, hzero, Nat.add_zero, ← hpointer]
    simp [Nwld.added, Nwld.claimed, Nwld.setComm, TcpCall.over, hwrites.1]
  have hother (j : IdSlot) (hj : j ≠ i) : nwld.tapi.info j = w.nwld.tapi.info j := by
    rw [hinfo]
    simp [Nwld.added, Nwld.claimed, Nwld.setComm, hj]
  refine ⟨fun j => ?_, fun j hj => ?_, fun e he => ?_, fun j hj => ?_⟩
  · rcases eq_or_ne j i with rfl | hne
    · exact hself.1
    · rw [hother j hne, h.pointer]
  · rcases eq_or_ne j i with rfl | hne
    · rw [hregistered, hself.2]
      simp [hzero]
    · rw [hother j hne] at hj
      exact absurd (Fin.ext ((h.first j hj).1.trans hzero.symm)) hne
  · rw [hexchange e he, hregistered]
    exact ⟨hzero, contextId, hid, by simp⟩
  · rw [hregistered]
    have hsize : (j : Nat) * sizeofTSkSysCltCommOffTargetObj = j * 16 := rfl
    exact objFields_setSocket _ _ _ _ (Or.inr (by omega))

theorem prepared_open {call : TcpCall} {poc : SkTeecUserOpenContext} {mem' : Mem} {nwld : Nwld}
    {r : SkStatus × SkTeecUserOpenContext} (hcall : call.info = .openContext poc)
    (h : FirstSlot word base w) (hc : FirstOnly word call w)
    (hstep : skNwldTapiOpenContext (call.over word w.mem mem').env poc
      { w.nwld with exchanges := [] } = .ok (r, nwld)) : Prepared word base call w nwld := by
  have hregisters : call.registers w.nwld =
      if call.env.invalidParam ∨ poc.contextId = 0 then none else
      match w.nwld.slotOf poc.contextId with
      | some _ => none
      | none => if w.nwld.tapi.numContextId < skTapiMaxContextIds then
          w.nwld.freeSlot.map (·, poc.contextId) else none := by
    rw [Call.registers, hcall]
  have hid : call.contextId w.nwld = some poc.contextId := by rw [Call.contextId, hcall]
  rcases openContext_slots rfl hstep with ⟨hrefused, rfl⟩ | ⟨hvalid, c, u, hclaim, hinfo, hexchange⟩
  · rw [if_pos (show call.env.invalidParam = true ∨ _ from hrefused)] at hregisters
    exact prepared_unregistered h hregisters (.of_info rfl) (by simp)
  rw [if_neg (show ¬ (call.env.invalidParam = true ∨ _) from hvalid)] at hregisters
  have hrun : claimContextId (call.over word w.mem mem').env poc.contextId
    { w.nwld with exchanges := [] } = _ := claimContextId_run (not_or.mp hvalid).2
  rw [hclaim] at hrun
  cases hslot : w.nwld.slotOf poc.contextId with
  | some i =>
    rw [hslot] at hregisters
    rw [show Nwld.slotOf { w.nwld with exchanges := [] } poc.contextId = some i from hslot] at hrun
    cases hrun
    have hi := of_firstSlot hslot
    simp only [Bool.and_eq_true, beq_iff_eq] at hi
    refine prepared_unregistered h hregisters (fun j => ?_) fun e he => ?_
    · rw [hinfo]
      rcases eq_or_ne j i with rfl | hj <;> simp [Nwld.shared, *]
    · cases hexchange e he
      exact ⟨hi.1, hid.trans (congrArg some hi.2.symm)⟩
  | none =>
    rw [hslot] at hregisters
    rw [show Nwld.slotOf { w.nwld with exchanges := [] } poc.contextId = none from hslot] at hrun
    dsimp only at hrun hregisters
    by_cases hnum : w.nwld.tapi.numContextId < skTapiMaxContextIds
    · rw [if_pos hnum] at hrun hregisters
      cases hfree : w.nwld.freeSlot with
      | none =>
        rw [show Nwld.freeSlot { w.nwld with exchanges := [] } = none from hfree] at hrun
        cases hrun
      | some i =>
        rw [hfree] at hregisters
        rw [show Nwld.freeSlot { w.nwld with exchanges := [] } = some i from hfree] at hrun
        dsimp only at hrun
        obtain ⟨hzero, hok⟩ := hc.single i poc.contextId hregisters
        rw [if_pos (show ((call.over word w.mem mem').env.commRegister (w.nwld.tapi.info i).comm
          poc.contextId w.nwld.tapi.smId).1 = skErrorSuccess from hok)] at hrun
        cases hrun
        exact prepared_added h hregisters hzero hok hid hinfo fun e he => by
          cases hexchange e he
          rfl
    · rw [if_neg hnum] at hrun hregisters
      cases hrun
      exact prepared_unregistered h hregisters (.of_info hinfo) fun e he => by cases hexchange e he

theorem prepared_of_step {call : TcpCall} {mem' : Mem} {nwld : Nwld}
    {r : SkStatus × SkTeecUserInfo} (h : FirstSlot word base w) (hc : FirstOnly word call w)
    (hstep : nwldStep (call.over word w.mem mem') w.nwld = .ok (r, nwld)) :
    Prepared word base call w nwld := by
  by_cases hopen : ∃ poc, call.info = .openContext poc
  · obtain ⟨poc, hcall⟩ := hopen
    have hperform : perform (call.over word w.mem mem').env (.openContext poc)
        { w.nwld with exchanges := [] } = .ok (r, nwld) := by
      rw [← hcall]
      exact hstep
    obtain ⟨a, ha, -⟩ := map_eq_ok hperform
    exact prepared_open hcall h hc ha
  · have hopen' : ∀ poc, (call.over word w.mem mem').info ≠ .openContext poc :=
      fun poc hcall => hopen ⟨poc, hcall⟩
    have hnone : call.registers w.nwld = none := by
      unfold Call.registers
      split
      · next poc hcall => exact absurd ⟨poc, hcall⟩ hopen
      · rfl
    obtain ⟨hfewer, hexchange⟩ :=
      (nwldStep_cases hstep).fewerSlots rfl (fun _ => rfl) hopen'
    refine prepared_unregistered h hnone hfewer fun e he => ?_
    obtain ⟨hd, pconn, session, hsends⟩ := hexchange e he
    obtain ⟨hmem, rfl⟩ := hsends.mem_usedConns
    obtain ⟨hused, hid, hcomm⟩ := h.table.referenced _ hmem
    obtain ⟨c, hc', he'⟩ := hsends.exchange
    have hslot : e.comm = (w.nwld.tapi.clist hd.toNat).contextIdIndex := by
      rw [he']
      exact Option.some.inj (hc'.symm.trans hcomm)
    have hcontext : call.contextId w.nwld = some (w.nwld.tapi.clist hd.toNat).contextId := by
      have hhandle : call.info.contextHandle = some hd := hsends.handle
      have hconnection : w.nwld.tapi.connection hd = some _ := hsends.connection
      unfold Call.contextId
      split
      · next poc hcall => exact absurd ⟨poc, hcall⟩ hopen
      · rw [hhandle, Option.bind_some, hconnection]
        rfl
    rw [hslot]
    exact ⟨hused, hcontext.trans (congrArg some hid.symm)⟩

/-- While only the first slot is used, every call finds its own object. -/
theorem FirstSlot.step {call : TcpCall} {r : SkStatus × SkTeecUserInfo} (h : FirstSlot word base w)
    (hc : FirstOnly word call w) (hstep : tcpStep word call w = .ok (r, w')) :
    FirstSlot word base w' ∧ KeepsOthers word base ⟨call, w, r, w'⟩ ∧
      UsesOwnSocket ⟨call, w, r, w'⟩ := by
  obtain ⟨hnwld, hopened, hmem⟩ := tcpStep_cases hstep
  have hprepared := prepared_of_step h hc hnwld
  have htable : TableInvariant w'.nwld :=
    (h.table.step hc.counts (by decide) (fun _ => rfl) hnwld).1
  -- the exchange writes to the first object, and there only behind its port
  have hleft : objSocket word w'.mem base = objSocket word (call.registered word w).1 base ∧
      ∀ j : IdSlot, j.val ≠ 0 →
        objFields word w'.mem (base + j * sizeofTSkSysCltCommOffTargetObj) =
          objFields word w.mem (base + j * sizeofTSkSysCltCommOffTargetObj) := by
    rcases hmem with ⟨hmem, -⟩ | ⟨e, he, hmem, -⟩
    · rw [hmem]
      exact ⟨rfl, hprepared.others⟩
    · rw [hmem, hprepared.pointer, (hprepared.exchange e he).1, Nat.add_zero]
      refine ⟨objSocket_setCommErr .., fun j hj => ?_⟩
      have hsize : (j : Nat) * sizeofTSkSysCltCommOffTargetObj = j * 16 := rfl
      rw [objFields_setCommErr _ _ _ _ (Or.inr (by omega))]
      exact hprepared.others j hj
  refine ⟨⟨htable, hprepared.pointer, fun i hi => ?_⟩, fun i j hij hused => ?_, fun socket hs => ?_⟩
  · obtain ⟨hzero, hsocket⟩ := hprepared.first i hi
    rw [hopened, hleft.1]
    exact ⟨hzero, hsocket⟩
  · have hi : i.val = 0 := by
      by_contra hne
      have hpre : (w.nwld.tapi.info i).used = false :=
        Bool.eq_false_iff.mpr fun hu => hne (h.first i hu).1
      have hpost : (w'.nwld.tapi.info i).used = false :=
        Bool.eq_false_iff.mpr fun hu => hne (hprepared.first i hu).1
      exact hused (hpre.trans hpost.symm)
    exact hleft.2 j fun hj => hij (Fin.ext (hi.trans hj.symm))
  · rcases hmem with ⟨-, hnone⟩ | ⟨e, he, -, hsome⟩
    · rw [show w'.used = some socket from hs] at hnone
      cases hnone
    · obtain ⟨hzero, contextId, hid, hown⟩ := hprepared.exchange e he
      rw [hprepared.pointer, hzero, Nat.add_zero, show w'.used = some socket from hs] at hsome
      refine ⟨contextId, hid, ?_⟩
      rw [Option.some.inj hsome]
      exact hopened ▸ hown

/-- Of the array passed at the start only the first element is designated by its
slot. A run that takes no other slot keeps the transports apart. -/
theorem comm_objects {alloc : InitAlloc} {s₀ s₁ : Nwld}
    {maxConnections maxSessions smId : UInt32} (base : Nat)
    (hinit : skNwldTapiInit alloc s₀ maxConnections maxSessions smId base = (skErrorSuccess, s₁))
    (mem : Mem) :
    (∀ size, 1 < size → ∀ i : IdSlot,
      (s₁.tapi.info i).comm.myObj = base + i * size ↔ i.val = 0) ∧
    ∀ tr w, Run (tcpStep word) ⟨s₁, mem, fun _ => none, none⟩ tr w →
      (∀ x ∈ tr, FirstOnly word x.input x.pre) →
      ∀ x ∈ tr, KeepsOthers word base x ∧ UsesOwnSocket x := by
  have hmax : maxConnections ≠ 0 := by
    rintro rfl
    cases hinit
  obtain ⟨htable, -⟩ := tableInvariant_of_fresh
    (fresh_init alloc s₀ maxConnections maxSessions smId base hmax)
  rw [hinit] at htable
  have hstart (i : IdSlot) : (s₁.tapi.info i).comm.myObj = base + i ∧
      (s₁.tapi.info i).used = false := by
    unfold skNwldTapiInit at hinit
    rw [if_neg hmax] at hinit
    simp only at hinit
    split at hinit
    · cases hinit
    split at hinit
    · cases hinit
    · cases hinit
      exact ⟨rfl, rfl⟩
  refine ⟨fun size hsize i => ?_, fun tr w hrun hfirst => ?_⟩
  · rw [(hstart i).1]
    constructor
    · intro h
      by_contra hne
      have := Nat.mul_lt_mul_of_pos_left hsize (Nat.pos_of_ne_zero hne)
      omega
    · intro h
      rw [h, Nat.zero_mul]
  · have hslots : FirstSlot word base ⟨s₁, mem, fun _ => none, none⟩ :=
      ⟨htable, fun i => (hstart i).1, fun i hi => by simp [(hstart i).2] at hi⟩
    have hinv := hrun.invariant_of (fun x => FirstOnly word x.input x.pre) hfirst
      (fun tr w => FirstSlot word base w ∧
        ∀ x ∈ tr, KeepsOthers word base x ∧ UsesOwnSocket x)
      ⟨hslots, by simp⟩ (by
        rintro tr w call r w' ⟨hw, htr⟩ hstep hc
        obtain ⟨hw', hkeeps, huses⟩ := hw.step hc hstep
        refine ⟨hw', fun x hx => ?_⟩
        rcases List.mem_append.mp hx with hx | hx
        · exact htr x hx
        · rw [List.mem_singleton.mp hx]
          exact ⟨hkeeps, huses⟩)
    exact hinv.2

end Platform

/-! ## Sample data -/

/-- A call whose registration opens `socket` and whose exchange is answered as the call's own. -/
def Call.onTcp (call : Call) (socket : Int32) : TcpCall where
  toCall := call
  os := {
    socket
    bind := true
    connect := fun _ _ => true
    transfer := fun _ request op => call.env.commProc .zero request op
    commErr := 4 }

/-- The driver on an array of four objects at address 0. -/
def sampleTcpNwld : TcpNwld :=
  ⟨sampleNwld, gtCommObjs Format.le32 0 2130706433 9000 (Mem.ofList []), fun _ => none, none⟩

def sampleOpen (contextId : UInt32) : Call :=
  .answered (.openContext ⟨contextId, 0⟩) (fun _ => 5, skErrorSuccess)

/-- Two context ids, one after the other. -/
theorem comm_objects_turns : ∃ tr w, Run (tcpStep Format.le32) sampleTcpNwld tr w ∧
    tr.map (·.post.used) = [some 3, some 3, some 4] ∧
    ∀ x ∈ tr, KeepsOthers Format.le32 0 x ∧ UsesOwnSocket x := by
  obtain ⟨tr, w, hrun, -, hused, hfirst⟩ :=
    exists_run_of_execute (tcpStep Format.le32) sampleTcpNwld
    [(sampleOpen 1).onTcp 3, (sampleNwldCloseContext 0).onTcp 0, (sampleOpen 2).onTcp 4]
    (fun tr _ => tr.map (·.post.used) = [some 3, some 3, some 4] ∧
      ∀ x ∈ tr, ((x.input.registers x.pre.nwld).all fun p => p.1.val = 0 ∧
        (x.input.registration Format.le32 x.pre p.1 p.2).1 = skErrorSuccess) ∧
        ∀ i, (x.pre.nwld.tapi.info i).contextIdCnt.toInt ≤ (2 ^ 31 - 2 : Nat))
    (by decide +kernel)
  have hinit : skNwldTapiInit ⟨true, true⟩ _ 2 2 2 0 = (skErrorSuccess, sampleNwld) := rfl
  refine ⟨tr, w, hrun, hused, (comm_objects 0 hinit _).2 tr w hrun fun x hx => ?_⟩
  refine ⟨fun i contextId h => ?_, (hfirst x hx).2⟩
  exact of_decide_eq_true ((Option.all_eq_true _ _).mp (hfirst x hx).1 (i, contextId) h)

/-- Two context ids at a time: the pointer of the second slot leads into the
first element, the registration of the second id changes the socket of the first,
and the first goes on with a socket that nobody has opened. -/
theorem comm_objects_shared :
    (sampleNwld.tapi.info ⟨1, by decide⟩).comm.myObj ≠ 1 * sizeofTSkSysCltCommOffTargetObj ∧
    ∃ tr w, Run (tcpStep Format.le32) sampleTcpNwld tr w ∧
      (∃ x ∈ tr, ¬ KeepsOthers Format.le32 0 x) ∧ ∃ x ∈ tr, ¬ UsesOwnSocket x := by
  refine ⟨by decide, ?_⟩
  obtain ⟨tr, w, hrun, -, ⟨x, hx, hregistered, hchanged⟩, y, hy, hused, hid, hopened⟩ :=
    exists_run_of_execute (tcpStep Format.le32) sampleTcpNwld
      [(sampleOpen 1).onTcp 3, (sampleOpen 2).onTcp 4, (sampleNwldCloseContext 0).onTcp 0]
      (fun tr _ => (∃ x ∈ tr,
          (x.pre.nwld.tapi.info ⟨1, by decide⟩).used ≠ (x.post.nwld.tapi.info ⟨1, by decide⟩).used ∧
          objFields Format.le32 x.post.mem 0 ≠ objFields Format.le32 x.pre.mem 0) ∧
        ∃ y ∈ tr, y.post.used = some 1027 ∧ y.input.contextId y.pre.nwld = some 1 ∧
          y.post.opened 1 ≠ some 1027) (by decide +kernel)
  refine ⟨tr, w, hrun, ⟨x, hx, fun hkeeps => ?_⟩, y, hy, fun huses => ?_⟩
  · exact hchanged (hkeeps ⟨1, by decide⟩ ⟨0, by decide⟩ (by decide) hregistered)
  · obtain ⟨contextId, hown, hsocket⟩ := huses 1027 hused
    cases hid.symm.trans hown
    exact hopened hsocket

end SkSdk
