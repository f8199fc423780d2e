import SkSdk.Nwld.TapiCalls

/-!
The client library (`sk_teec_api.c`) over the ioctl layer of the driver
(`sk_drv_nwld_tapi_ioctl.c`). A pointer to an object of the program is its number,
the null pointer is `none`. Every request is sent with the union member that the
driver reads for it, so the request number is left to the member.
-/

namespace SkSdk
open ByteMemory FaultState

abbrev skErrorDriverOpenFailed : SkStatus := -52

/-! ## The objects of a program -/

structure SkteecContext where
  device : Int32
  handle : UInt32
  deriving DecidableEq

structure SkteecSession where
  handle : UInt32
  context : Option Nat
  deriving DecidableEq

structure SkteecSharedMemory where
  memorySize : UInt32
  flag : UInt32
  buffer : UInt32
  id : MemoryId

structure SkteecOperation where
  numParam : UInt32
  param : Fin skMaximumOperations → Option Nat

/-- The driver and the objects that the programs using it hold. -/
structure SkClient where
  nwld : Nwld
  contexts : Nat → SkteecContext
  sessions : Nat → SkteecSession
  shared : Nat → SkteecSharedMemory

/-- What one call meets: the driver's surroundings and the prior bytes of the
local that is handed to it. -/
structure TeecEnv where
  nwld : NwldEnv
  word : UInt32
  op : SkOperation
  memoryId : MemoryId

/-- `nullDeref` is a null pointer followed by the library or the ioctl layer. -/
inductive TeecFault
  | driver (fault : NwldFault)
  | nullDeref
  | assert
  deriving DecidableEq

abbrev TeecM := Prog SkClient TeecFault

namespace SkClient

def setContext (s : SkClient) (p : Nat) (x : SkteecContext) : SkClient :=
  { s with contexts := Function.update s.contexts p x }

def setSession (s : SkClient) (q : Nat) (x : SkteecSession) : SkClient :=
  { s with sessions := Function.update s.sessions q x }

def setShared (s : SkClient) (m : Nat) (x : SkteecSharedMemory) : SkClient :=
  { s with shared := Function.update s.shared m x }

end SkClient

/-! ## The ioctl layer -/

/-- `commObj` is the first of the comm objects that it allocates. -/
def skNwldPlatformTapiIoctlInit (alloc : InitAlloc) (commObj : Nat)
    (maxConnections maxSessions smId : UInt32) (s : SkClient) : SkStatus × SkClient :=
  let (err, nwld) := skNwldTapiInit alloc s.nwld maxConnections maxSessions smId commObj
  (if err ≠ skErrorSuccess then skErrorFailed else err, { s with nwld })

/-- `SK_DRV_MAX_MSGBUFFER_SIZE`, the size of `sk_msg`. -/
abbrev skDrvMaxMsgbufferSize : Nat := 48

theorem wireLength_le_msgbuffer (l : Layout) : l.wireLength ≤ skDrvMaxMsgbufferSize := by
  cases l <;> decide

/-- The buffers that `sk_nwld_platform_tapi_ioctl_proc` gives to the driver. -/
def NwldEnv.ioctl (env : NwldEnv) : NwldEnv :=
  { env with
    nullArgument := false
    sendBufferSize := skDrvMaxMsgbufferSize
    recvBufferSize := skDrvMaxMsgbufferSize }

/-- `logs`: the build has logging. An error is then logged through `tapi`, which
is null. -/
def skNwldPlatformTapiIoctlProc (logs : Bool) (env : NwldEnv) (arg : SkTeecUserInfo) :
    Prog Nwld TeecFault (SkStatus × SkTeecUserInfo) := fun s =>
  match nwldStep ⟨arg, env.ioctl⟩ s with
  | .error fault => .error (.driver fault)
  | .ok (r, s') =>
    if r.1 ≠ skErrorSuccess ∧ logs = true then .error .nullDeref else .ok (r, s')

/-- `sysv_ioctl_1` in the normal world, on any device. -/
def sysvIoctl1 (logs : Bool) (env : NwldEnv) (arg : SkTeecUserInfo) :
    TeecM (SkStatus × SkTeecUserInfo) :=
  onPart SkClient.nwld (fun nwld s => { s with nwld }) (skNwldPlatformTapiIoctlProc logs env arg)

/-- `sysv_open` of both platforms. -/
def sysvOpen (_pathname : String) : Int32 := 0

namespace SkTeecUserInfo

/-- The handle that an opening has stored in its arguments. -/
def opened : SkTeecUserInfo → UInt32
  | openContext oc => oc.contextHandle
  | openSession os => os.sessionHandle
  | _ => 0

/-- The address and the identifier in the arguments of a registration. -/
def memory : SkTeecUserInfo → UInt32 × MemoryId
  | regMem rm => (rm.addr, rm.memoryId)
  | _ => (0, Blk.zero 16)

end SkTeecUserInfo

/-! ## The calls -/

section Calls

variable (logs : Bool) (env : TeecEnv)

def skteecOpenContext (context : Option Nat) (deviceName : Option String) (contextId : UInt32) :
    TeecM SkStatus :=
  match context, deviceName with
  | some p, some name => do
    modify (·.setContext p ⟨0, 0⟩)
    modify (·.setContext p ⟨sysvOpen name, 0⟩)
    if ((← get).contexts p).device = -1 then return skErrorDriverOpenFailed
    let (err, oc) ← sysvIoctl1 logs env.nwld (.openContext ⟨contextId, env.word⟩)
    if err ≠ 0 then return skErrorSendToDriver
    modify fun s => s.setContext p { s.contexts p with handle := oc.opened }
    return err
  | _, _ => return skErrorInvalidParam

def skteecCloseContext (context : Option Nat) : TeecM SkStatus :=
  match context with
  | some p => do
    let cc := .closeContext ⟨((← get).contexts p).handle⟩
    let (err, _) ← sysvIoctl1 logs env.nwld cc
    if err ≠ 0 then return skErrorSendToDriver
    modify (·.setContext p ⟨0, 0⟩)
    return err
  | none => return skErrorInvalidParam

def skteecOpenSession (context session : Option Nat) (taid : Option SkTaid) : TeecM SkStatus :=
  match context, session, taid with
  | some p, some q, some taid => do
    modify (·.setSession q ⟨0, none⟩)
    let os := .openSession ⟨((← get).contexts p).handle, taid, env.word⟩
    let (err, os) ← sysvIoctl1 logs env.nwld os
    if err ≠ 0 then return skErrorSendToDriver
    modify (·.setSession q ⟨os.opened, some p⟩)
    return err
  | _, _, _ => return skErrorInvalidParam

def skteecCloseSession (session : Option Nat) : TeecM SkStatus :=
  match session with
  | some q => do
    let p ← deref .nullDeref ((← get).sessions q).context
    let cs := .closeSession ⟨((← get).contexts p).handle, ((← get).sessions q).handle⟩
    let (err, _) ← sysvIoctl1 logs env.nwld cs
    if err ≠ 0 then return skErrorSendToDriver
    return err
  | none => return skErrorInvalidParam

/-- The parameters of an operation copied into `ic.op`. -/
def copyParams (operation : SkteecOperation) :
    List (Fin skMaximumOperations) → SkOperation → TeecM SkOperation
  | [], op => return op
  | i :: is, op => do
    let m ← deref .nullDeref (operation.param i)
    let mem := (← get).shared m
    copyParams operation is
      { op with
        param := Function.update op.param i ⟨mem.memorySize, mem.flag, mem.buffer, mem.id⟩ }

def skteecInvokeCommand (session : Option Nat) (commandId : UInt32)
    (operation : Option SkteecOperation) : TeecM SkStatus :=
  match session, operation with
  | some q, some operation => do
    if operation.numParam.toNat > skMaximumOperations then return skErrorInvalidParam
    let p ← deref .nullDeref ((← get).sessions q).context
    let op ← copyParams operation
      ((List.finRange skMaximumOperations).take operation.numParam.toNat)
      { env.op with numParam := operation.numParam }
    let ic := .invokeCmd
      ⟨((← get).contexts p).handle, ((← get).sessions q).handle, commandId, op⟩
    let (err, _) ← sysvIoctl1 logs env.nwld ic
    if err ≠ 0 then return skErrorSendToDriver
    return err
  | _, _ => return skErrorInvalidParam

def skteecAllocateSharedMemory (context memInfo : Option Nat) : TeecM SkStatus :=
  match context, memInfo with
  | some p, some m => do
    let rm := .regMem
      ⟨((← get).contexts p).handle, ((← get).shared m).memorySize, skTeecMemAllocate, env.word,
        env.memoryId⟩
    let (err, rm) ← sysvIoctl1 logs env.nwld rm
    if err ≠ 0 then return skErrorSendToDriver
    modify fun s => s.setShared m { s.shared m with buffer := rm.memory.1, id := rm.memory.2 }
    return err
  | _, _ => return skErrorInvalidParam

def skteecRegisterMemory (context memInfo : Option Nat) : TeecM SkStatus :=
  match context, memInfo with
  | some p, some m => do
    let mem := (← get).shared m
    let rm := .regMem
      ⟨((← get).contexts p).handle, mem.memorySize, mem.flag, mem.buffer, env.memoryId⟩
    let (err, rm) ← sysvIoctl1 logs env.nwld rm
    if err ≠ 0 then return skErrorSendToDriver
    require .assert (rm.memory.1 = mem.buffer)
    modify fun s => s.setShared m { s.shared m with id := rm.memory.2 }
    return err
  | _, _ => return skErrorInvalidParam

def skteecUnregisterMemory (context memInfo : Option Nat) : TeecM SkStatus :=
  match context, memInfo with
  | some p, some m => do
    let unrm := .unregMem ⟨((← get).contexts p).handle, ((← get).shared m).id⟩
    let (err, _) ← sysvIoctl1 logs env.nwld unrm
    if err ≠ 0 then return skErrorSendToDriver
    return err
  | _, _ => return skErrorInvalidParam

end Calls

/-- A call of the library with its arguments. -/
inductive TeecCall
  | openContext (context : Option Nat) (deviceName : Option String) (contextId : UInt32)
  | closeContext (context : Option Nat)
  | openSession (context session : Option Nat) (taid : Option SkTaid)
  | closeSession (session : Option Nat)
  | invokeCommand (session : Option Nat) (commandId : UInt32) (operation : Option SkteecOperation)
  | allocateSharedMemory (context memInfo : Option Nat)
  | registerMemory (context memInfo : Option Nat)
  | unregisterMemory (context memInfo : Option Nat)

/-- A call of a program, with what it meets. -/
structure TeecRequest where
  call : TeecCall
  env : TeecEnv

def teecStep (logs : Bool) (x : TeecRequest) : TeecM SkStatus :=
  match x.call with
  | .openContext context deviceName contextId =>
    skteecOpenContext logs x.env context deviceName contextId
  | .closeContext context => skteecCloseContext logs x.env context
  | .openSession context session taid => skteecOpenSession logs x.env context session taid
  | .closeSession session => skteecCloseSession logs x.env session
  | .invokeCommand session commandId operation =>
    skteecInvokeCommand logs x.env session commandId operation
  | .allocateSharedMemory context memInfo => skteecAllocateSharedMemory logs x.env context memInfo
  | .registerMemory context memInfo => skteecRegisterMemory logs x.env context memInfo
  | .unregisterMemory context memInfo => skteecUnregisterMemory logs x.env context memInfo

abbrev TeecStep := Step TeecRequest SkClient SkStatus

/-! ## What a call does -/

/-- The request that a call hands to the driver. -/
inductive TeecCall.Asks (env : TeecEnv) (s : SkClient) : TeecCall → SkTeecUserInfo → Prop
  | openContext {p : Nat} {name : String} {contextId : UInt32} :
      Asks env s (.openContext (some p) (some name) contextId) (.openContext ⟨contextId, env.word⟩)
  | closeContext {p : Nat} :
      Asks env s (.closeContext (some p)) (.closeContext ⟨(s.contexts p).handle⟩)
  | openSession {p q : Nat} {taid : SkTaid} :
      Asks env s (.openSession (some p) (some q) (some taid))
        (.openSession ⟨(s.contexts p).handle, taid, env.word⟩)
  | closeSession {p q : Nat} : (s.sessions q).context = some p →
      Asks env s (.closeSession (some q))
        (.closeSession ⟨(s.contexts p).handle, (s.sessions q).handle⟩)
  | invokeCommand {p q : Nat} {commandId : UInt32} {operation : SkteecOperation}
      {op : SkOperation} : (s.sessions q).context = some p →
      operation.numParam.toNat ≤ skMaximumOperations →
      Asks env s (.invokeCommand (some q) commandId (some operation))
        (.invokeCmd ⟨(s.contexts p).handle, (s.sessions q).handle, commandId, op⟩)
  | allocateSharedMemory {p m : Nat} :
      Asks env s (.allocateSharedMemory (some p) (some m))
        (.regMem ⟨(s.contexts p).handle, (s.shared m).memorySize, skTeecMemAllocate, env.word,
          env.memoryId⟩)
  | registerMemory {p m : Nat} :
      Asks env s (.registerMemory (some p) (some m))
        (.regMem ⟨(s.contexts p).handle, (s.shared m).memorySize, (s.shared m).flag,
          (s.shared m).buffer, env.memoryId⟩)
  | unregisterMemory {p m : Nat} :
      Asks env s (.unregisterMemory (some p) (some m))
        (.unregMem ⟨(s.contexts p).handle, (s.shared m).id⟩)

theorem TeecCall.Asks.congr {call : TeecCall} {env env' : TeecEnv} {s : SkClient}
    {info : SkTeecUserInfo} (h : call.Asks env s info) (hword : env.word = env'.word)
    (hid : env.memoryId = env'.memoryId) : call.Asks env' s info := by
  cases h with
  | openContext =>
    rw [hword]
    exact .openContext
  | closeContext => exact .closeContext
  | openSession =>
    rw [hword]
    exact .openSession
  | closeSession hq => exact .closeSession hq
  | invokeCommand hq hnum => exact .invokeCommand hq hnum
  | allocateSharedMemory =>
    rw [hword, hid]
    exact .allocateSharedMemory
  | registerMemory =>
    rw [hid]
    exact .registerMemory
  | unregisterMemory => exact .unregisterMemory

/-- The objects that a call clears before it asks the driver. -/
def TeecCall.prepare (s : SkClient) : TeecCall → SkClient
  | openContext (some p) (some _) _ => s.setContext p ⟨0, 0⟩
  | openSession (some _) (some q) (some _) => s.setSession q ⟨0, none⟩
  | _ => s

/-- The objects that a call writes when the driver has succeeded. -/
def TeecCall.settle (arg : SkTeecUserInfo) (s : SkClient) : TeecCall → SkClient
  | openContext (some p) _ _ => s.setContext p { s.contexts p with handle := arg.opened }
  | closeContext (some p) => s.setContext p ⟨0, 0⟩
  | openSession (some p) (some q) _ => s.setSession q ⟨arg.opened, some p⟩
  | allocateSharedMemory _ (some m) =>
    s.setShared m { s.shared m with buffer := arg.memory.1, id := arg.memory.2 }
  | registerMemory _ (some m) => s.setShared m { s.shared m with id := arg.memory.2 }
  | _ => s

/-- Every way in which a call of the library returns. -/
inductive TeecOutcome (logs : Bool) (x : TeecRequest) (s : SkClient) : SkStatus → SkClient → Prop
  | invalid : (∀ info, ¬ x.call.Asks x.env s info) → TeecOutcome logs x s skErrorInvalidParam s
  | failed {info arg : SkTeecUserInfo} {err : SkStatus} {nwld : Nwld} :
      x.call.Asks x.env s info → logs = false →
      nwldStep ⟨info, x.env.nwld.ioctl⟩ s.nwld = .ok ((err, arg), nwld) → err ≠ skErrorSuccess →
      TeecOutcome logs x s skErrorSendToDriver { x.call.prepare s with nwld }
  | done {info arg : SkTeecUserInfo} {nwld : Nwld} :
      x.call.Asks x.env s info →
      nwldStep ⟨info, x.env.nwld.ioctl⟩ s.nwld = .ok ((skErrorSuccess, arg), nwld) →
      TeecOutcome logs x s skErrorSuccess (x.call.settle arg { x.call.prepare s with nwld })

section Outcome

variable {logs : Bool} {x : TeecRequest} {s s' : SkClient} {status : SkStatus}

theorem wp_sysvIoctl1 {env : NwldEnv} {arg : SkTeecUserInfo}
    {Q : SkStatus × SkTeecUserInfo → SkClient → Prop}
    (h : ∀ r nwld, nwldStep ⟨arg, env.ioctl⟩ s.nwld = .ok (r, nwld) →
      (r.1 ≠ skErrorSuccess → logs = false) → Q r { s with nwld }) :
    wp (sysvIoctl1 logs env arg) Q (fun _ => True) s := by
  rw [sysvIoctl1, wp_onPart]
  refine wp_of_returns fun r nwld hrun => ?_
  unfold skNwldPlatformTapiIoctlProc at hrun
  split at hrun
  · cases hrun
  · rename_i r' nwld' hstep
    split at hrun
    · cases hrun
    · rename_i hlogs
      cases hrun
      refine h r nwld hstep fun herr => ?_
      simpa [herr] using hlogs

/-- The last part of every call: the request and what follows it. -/
private theorem outcome_of_asked (x : TeecRequest) (s : SkClient) {info : SkTeecUserInfo}
    {k : SkStatus → SkTeecUserInfo → TeecM SkStatus} {t : SkClient}
    (hasks : x.call.Asks x.env s info) (ht : t = x.call.prepare s) (hnwld : t.nwld = s.nwld)
    (hk : ∀ arg nwld, wp (k skErrorSuccess arg) (fun err s' => err = skErrorSuccess ∧
      s' = x.call.settle arg { t with nwld }) (fun _ => True) { t with nwld }) :
    wp (do
      let (err, arg) ← sysvIoctl1 logs x.env.nwld info
      if err ≠ 0 then return skErrorSendToDriver
      k err arg) (TeecOutcome logs x s) (fun _ => True) t := by
  subst ht
  rw [wp_bind]
  refine wp_sysvIoctl1 fun ⟨err, arg⟩ nwld hstep hlogs => ?_
  rw [hnwld] at hstep
  dsimp only
  split
  · rename_i herr
    exact .failed hasks (hlogs herr) hstep herr
  · rename_i herr
    rw [not_not] at herr
    subst herr
    refine wp_mono (fun err s' hend => ?_) (fun _ _ => trivial) (hk arg nwld)
    rw [hend.1, hend.2]
    exact .done hasks hstep

private theorem copyParams_cases {operation : SkteecOperation}
    (is : List (Fin skMaximumOperations)) (op : SkOperation) :
    wp (copyParams operation is op) (fun _ s' => s' = s) (fun _ => True) s := by
  induction is generalizing op with
  | nil => rfl
  | cons i is ih =>
    rw [copyParams, wp_bind]
    cases operation.param i with
    | none => trivial
    | some m => exact ih _

variable (env : TeecEnv)

private theorem skteecOpenContext_outcome (context : Option Nat) (deviceName : Option String)
    (contextId : UInt32) :
    wp (skteecOpenContext logs env context deviceName contextId)
      (TeecOutcome logs ⟨.openContext context deviceName contextId, env⟩ s) (fun _ => True) s := by
  cases context with
  | none => exact .invalid (by rintro _ ⟨⟩)
  | some p =>
    cases deviceName with
    | none => exact .invalid (by rintro _ ⟨⟩)
    | some name =>
      have hopened : (s.setContext p ⟨0, 0⟩).setContext p ⟨sysvOpen name, 0⟩ =
          s.setContext p ⟨0, 0⟩ := by
        simp [SkClient.setContext, sysvOpen]
      have hdevice : ((s.setContext p ⟨0, 0⟩).contexts p).device ≠ -1 := by
        simp [SkClient.setContext]
      rw [skteecOpenContext, wp_bind, wp_modify, wp_bind, wp_modify, hopened, wp_bind, wp_get,
        if_neg hdevice]
      exact outcome_of_asked ⟨.openContext (some p) (some name) contextId, env⟩ s
        (k := fun err oc => do
          modify fun s => s.setContext p { s.contexts p with handle := oc.opened }
          return err) .openContext rfl rfl fun arg nwld => ⟨rfl, rfl⟩

private theorem skteecCloseContext_outcome (context : Option Nat) :
    wp (skteecCloseContext logs env context) (TeecOutcome logs ⟨.closeContext context, env⟩ s)
      (fun _ => True) s := by
  cases context with
  | none => exact .invalid (by rintro _ ⟨⟩)
  | some p =>
    rw [skteecCloseContext, wp_bind, wp_get]
    exact outcome_of_asked ⟨.closeContext (some p), env⟩ s
      (k := fun err _ => do modify (·.setContext p ⟨0, 0⟩); return err)
      .closeContext rfl rfl fun arg nwld => ⟨rfl, rfl⟩

private theorem skteecOpenSession_outcome (context session : Option Nat) (taid : Option SkTaid) :
    wp (skteecOpenSession logs env context session taid)
      (TeecOutcome logs ⟨.openSession context session taid, env⟩ s) (fun _ => True) s := by
  cases context with
  | none => exact .invalid (by rintro _ ⟨⟩)
  | some p =>
    cases session with
    | none => exact .invalid (by rintro _ ⟨⟩)
    | some q =>
      cases taid with
      | none => exact .invalid (by rintro _ ⟨⟩)
      | some taid =>
        rw [skteecOpenSession, wp_bind, wp_modify, wp_bind, wp_get]
        exact outcome_of_asked ⟨.openSession (some p) (some q) (some taid), env⟩ s
          (k := fun err os => do
            modify (·.setSession q ⟨os.opened, some p⟩)
            return err) .openSession rfl rfl fun arg nwld => ⟨rfl, rfl⟩

private theorem skteecCloseSession_outcome (session : Option Nat) :
    wp (skteecCloseSession logs env session) (TeecOutcome logs ⟨.closeSession session, env⟩ s)
      (fun _ => True) s := by
  cases session with
  | none => exact .invalid (by rintro _ ⟨⟩)
  | some q =>
    rw [skteecCloseSession, wp_bind, wp_get, wp_bind]
    cases hp : (s.sessions q).context with
    | none => trivial
    | some p =>
      rw [wp_deref_some, wp_bind, wp_get, wp_bind, wp_get]
      exact outcome_of_asked ⟨.closeSession (some q), env⟩ s (k := fun err _ => return err)
        (.closeSession hp) rfl rfl fun arg nwld => ⟨rfl, rfl⟩

private theorem skteecInvokeCommand_outcome (session : Option Nat) (commandId : UInt32)
    (operation : Option SkteecOperation) :
    wp (skteecInvokeCommand logs env session commandId operation)
      (TeecOutcome logs ⟨.invokeCommand session commandId operation, env⟩ s)
      (fun _ => True) s := by
  cases session with
  | none => exact .invalid (by rintro _ ⟨⟩)
  | some q =>
    cases operation with
    | none => exact .invalid (by rintro _ ⟨⟩)
    | some operation =>
      rw [skteecInvokeCommand]
      split
      · rename_i hnum
        refine .invalid fun info hasks => ?_
        cases hasks with
        | invokeCommand _ hle => exact absurd hle (Nat.not_le.mpr hnum)
      · rename_i hnum
        rw [wp_bind, wp_get, wp_bind]
        cases hp : (s.sessions q).context with
        | none => trivial
        | some p =>
          rw [wp_deref_some, wp_bind]
          refine wp_mono (fun op s' hs' => ?_) (fun _ _ => trivial) (copyParams_cases _ _)
          subst hs'
          rw [wp_bind, wp_get, wp_bind, wp_get]
          exact outcome_of_asked ⟨.invokeCommand (some q) commandId (some operation), env⟩ s'
            (k := fun err _ => return err) (.invokeCommand hp (Nat.not_lt.mp hnum)) rfl rfl
            fun arg nwld => ⟨rfl, rfl⟩

private theorem skteecAllocateSharedMemory_outcome (context memInfo : Option Nat) :
    wp (skteecAllocateSharedMemory logs env context memInfo)
      (TeecOutcome logs ⟨.allocateSharedMemory context memInfo, env⟩ s) (fun _ => True) s := by
  cases context with
  | none => exact .invalid (by rintro _ ⟨⟩)
  | some p =>
    cases memInfo with
    | none => exact .invalid (by rintro _ ⟨⟩)
    | some m =>
      rw [skteecAllocateSharedMemory, wp_bind, wp_get, wp_bind, wp_get]
      exact outcome_of_asked ⟨.allocateSharedMemory (some p) (some m), env⟩ s
        (k := fun err rm => do
          modify fun s => s.setShared m { s.shared m with buffer := rm.memory.1, id := rm.memory.2 }
          return err) .allocateSharedMemory rfl rfl fun arg nwld => ⟨rfl, rfl⟩

private theorem skteecRegisterMemory_outcome (context memInfo : Option Nat) :
    wp (skteecRegisterMemory logs env context memInfo)
      (TeecOutcome logs ⟨.registerMemory context memInfo, env⟩ s) (fun _ => True) s := by
  cases context with
  | none => exact .invalid (by rintro _ ⟨⟩)
  | some p =>
    cases memInfo with
    | none => exact .invalid (by rintro _ ⟨⟩)
    | some m =>
      rw [skteecRegisterMemory, wp_bind, wp_get, wp_bind, wp_get]
      refine outcome_of_asked ⟨.registerMemory (some p) (some m), env⟩ s
        (k := fun err rm => do
          require .assert (rm.memory.1 = (s.shared m).buffer)
          modify fun s => s.setShared m { s.shared m with id := rm.memory.2 }
          return err) .registerMemory rfl rfl fun arg nwld => ?_
      rw [wp_bind, wp_require]
      by_cases haddr : arg.memory.1 = (s.shared m).buffer
      · exact .inl ⟨haddr, rfl, rfl⟩
      · exact .inr ⟨haddr, trivial⟩

private theorem skteecUnregisterMemory_outcome (context memInfo : Option Nat) :
    wp (skteecUnregisterMemory logs env context memInfo)
      (TeecOutcome logs ⟨.unregisterMemory context memInfo, env⟩ s) (fun _ => True) s := by
  cases context with
  | none => exact .invalid (by rintro _ ⟨⟩)
  | some p =>
    cases memInfo with
    | none => exact .invalid (by rintro _ ⟨⟩)
    | some m =>
      rw [skteecUnregisterMemory, wp_bind, wp_get, wp_bind, wp_get]
      exact outcome_of_asked ⟨.unregisterMemory (some p) (some m), env⟩ s
        (k := fun err _ => return err) .unregisterMemory rfl rfl
        fun arg nwld => ⟨rfl, rfl⟩

theorem teecStep_cases (h : teecStep logs x s = .ok (status, s')) :
    TeecOutcome logs x s status s' := by
  have hcall : wp (teecStep logs x) (TeecOutcome logs x s) (fun _ => True) s := by
    obtain ⟨call, env⟩ := x
    cases call with
    | openContext context deviceName contextId =>
      exact skteecOpenContext_outcome env context deviceName contextId
    | closeContext context => exact skteecCloseContext_outcome env context
    | openSession context session taid => exact skteecOpenSession_outcome env context session taid
    | closeSession session => exact skteecCloseSession_outcome env session
    | invokeCommand session commandId operation =>
      exact skteecInvokeCommand_outcome env session commandId operation
    | allocateSharedMemory context memInfo =>
      exact skteecAllocateSharedMemory_outcome env context memInfo
    | registerMemory context memInfo => exact skteecRegisterMemory_outcome env context memInfo
    | unregisterMemory context memInfo => exact skteecUnregisterMemory_outcome env context memInfo
  exact of_wp hcall h

theorem nwld_settle (call : TeecCall) (arg : SkTeecUserInfo) (s : SkClient) :
    (call.settle arg s).nwld = s.nwld := by
  unfold TeecCall.settle
  split <;> rfl

/-- The library refuses a call and changes nothing, or the driver has taken it. -/
theorem teecStep_driver (h : teecStep logs x s = .ok (status, s')) :
    status = skErrorInvalidParam ∧ s' = s ∨ status ≠ skErrorInvalidParam ∧
      ∃ info r, x.call.Asks x.env s info ∧ (status = skErrorSuccess ↔ r.1 = skErrorSuccess) ∧
        nwldStep ⟨info, x.env.nwld.ioctl⟩ s.nwld = .ok (r, s'.nwld) := by
  cases teecStep_cases h with
  | invalid _ => exact .inl ⟨rfl, rfl⟩
  | failed hasks _ hstep herr =>
    have hfailed : skErrorSendToDriver ≠ skErrorSuccess := by decide
    exact .inr ⟨(by decide : skErrorSendToDriver ≠ skErrorInvalidParam), _, _, hasks,
      iff_of_false hfailed herr, hstep⟩
  | @done info arg nwld hasks hstep =>
    refine .inr ⟨(by decide : skErrorSuccess ≠ skErrorInvalidParam), info, (skErrorSuccess, arg),
      hasks, iff_of_true rfl rfl, ?_⟩
    rw [nwld_settle]
    exact hstep

end Outcome

end SkSdk
