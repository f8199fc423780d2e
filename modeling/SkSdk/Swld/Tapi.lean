import SkSdk.Both.Tapi
import SkSdk.Library.DoublyLinked
import SkSdk.Library.FaultState

/-!
The state of the secure-world server (`sk_swld_tapi.h`) and what surrounds it.
Pointers into the two fixed tables are slot numbers, the null pointer is
`none`. `context_handle` and `session_handle` always point to the bytes of
their own slot in `cthandles` and `sthandles`, so they are read there.
-/

namespace SkSdk
open ByteMemory FaultState DoublyLinked

abbrev CSlot := Fin skTapiMaxConnectionsPerContext
abbrev SSlot := Fin skTapiMaxSessionsPerContext

/-- `sk_swld_tapp_instance`; `archObj` is a pointer of the loader. -/
structure SkSwldTappInstance where
  archObj : Option Nat
  deriving DecidableEq

structure TApiRegMemory where
  id : MemoryId
  flag : UInt32
  memorySize : UInt32
  memPtr : UInt32
  info : Nat
  next : Option Nat
  prev : Option Nat

structure TApiRegMemoryTable where
  m : Option Nat
  memRegionCount : Int

@[ext] structure TApiSessionTable where
  active : Bool
  taid : SkTaid
  idx : Nat
  timeAccess : UInt32
  tapp : SkSwldTappInstance
  next : Option SSlot
  prev : Option SSlot

@[ext] structure TApiContextTable where
  active : Bool
  pid : Int32
  start : Option SSlot
  numConnectedSessions : Nat
  timeAccess : UInt32

@[ext] structure TApiConnectionTable where
  ctable : CSlot → TApiContextTable
  cthandles : Mem
  numCtableElements : Nat
  stable : SSlot → TApiSessionTable
  sthandles : Mem
  numStableElements : Nat

structure SkSwldTapi where
  contextId : UInt32
  smId : UInt32
  msend : Mem
  msendSize : Nat
  maxMsendSize : Nat
  mrecv : Mem
  mrecvSize : Nat
  maxMrecvSize : Nat
  op : SkOperation
  rmem : TApiRegMemoryTable
  conn : TApiConnectionTable

/-- The two build-time timeouts. -/
structure Config where
  sessionTimeoutMs : UInt32
  contextTimeoutMs : UInt32

/-- What one request meets outside the server: the prior bytes of the locals
`req_msg` and `resp_msg`, the clock, the key stream of the handle generator,
the allocator, the TApp interface and the memory driver. The functions of the
TApp interface are given by what they return where they do; that they follow
`arch_obj`, which may be null, is modelled with the heap of the loader. -/
structure Env where
  reqMsg : SkMsg
  respMsg : SkMsg
  /-- The n-th reading of the secure timer. -/
  timer : Nat → UInt32
  timerDiff : UInt32 → UInt32 → Int32
  keystream : Handle
  /-- The bytes of a fresh node, or a failed allocation. -/
  malloc : Option TApiRegMemory
  tappLoad : SkTaid → SkSwldTappInstance → SkStatus × SkSwldTappInstance
  tappInit : SkSwldTappInstance → SkStatus
  tappPull : SkSwldTappInstance → UInt32 → SkOperation → SkStatus
  tappClose : SkSwldTappInstance → SkStatus
  tappUnload : SkSwldTappInstance → SkStatus × SkSwldTappInstance
  /-- Address, size, flag, identifier and its length, `info`. -/
  allocateMemory : UInt32 → UInt32 → UInt32 → MemoryId → Nat → Nat → SkStatus × MemoryId × Nat
  freeMemory : UInt32 → Nat → SkStatus

/-- The calls that leave the server, in the order they are made. -/
inductive Event
  | generate (handle : Handle)
  | load (taid : SkTaid) (err : SkStatus) (tapp : SkSwldTappInstance)
  | init (tapp : SkSwldTappInstance)
  | pull (tapp : SkSwldTappInstance) (cmd : UInt32) (op : SkOperation)
  | close (tapp : SkSwldTappInstance)
  | unload (tapp : SkSwldTappInstance)

/-- The server with the nodes of its heap. `clk` and `events` belong to the
request in progress: the timer readings taken and the calls made so far. -/
structure Server where
  tObj : SkSwldTapi
  heap : Nat → Option TApiRegMemory
  heapNext : Nat
  clk : Nat
  events : List Event

/-- The ways a run ends early. `assertActive` is a failed
`SYSV_ASSERT(... active == 1)`, `assert` any other assertion. -/
inductive Fault
  | assert
  | assertActive
  | nullDeref
  | outOfRange
  | diverge
  deriving DecidableEq

abbrev ConnM := Prog TApiConnectionTable Fault
abbrev ServerM := Prog Server Fault

namespace TApiConnectionTable

def updContext (conn : TApiConnectionTable) (c : CSlot)
    (f : TApiContextTable → TApiContextTable) : TApiConnectionTable :=
  { conn with ctable := Function.update conn.ctable c (f (conn.ctable c)) }

def updSession (conn : TApiConnectionTable) (s : SSlot)
    (f : TApiSessionTable → TApiSessionTable) : TApiConnectionTable :=
  { conn with stable := Function.update conn.stable s (f (conn.stable s)) }

/-- The session table as an arena of linked nodes. -/
def links (conn : TApiConnectionTable) : Links SSlot where
  next s := (conn.stable s).next
  prev s := (conn.stable s).prev

@[simp] theorem links_next (conn : TApiConnectionTable) (s : SSlot) :
    conn.links.next s = (conn.stable s).next := rfl

@[simp] theorem links_prev (conn : TApiConnectionTable) (s : SSlot) :
    conn.links.prev s = (conn.stable s).prev := rfl

section Update

variable (conn : TApiConnectionTable) (c c' : CSlot) (s s' : SSlot)
  (f : TApiContextTable → TApiContextTable) (g : TApiSessionTable → TApiSessionTable)

@[simp] theorem ctable_updContext :
    (conn.updContext c f).ctable c' = if c' = c then f (conn.ctable c) else conn.ctable c' := by
  simp [updContext, Function.update_apply]

@[simp] theorem stable_updContext : (conn.updContext c f).stable = conn.stable := rfl

@[simp] theorem cthandles_updContext : (conn.updContext c f).cthandles = conn.cthandles := rfl

@[simp] theorem sthandles_updContext : (conn.updContext c f).sthandles = conn.sthandles := rfl

@[simp] theorem numCtableElements_updContext :
    (conn.updContext c f).numCtableElements = conn.numCtableElements := rfl

@[simp] theorem numStableElements_updContext :
    (conn.updContext c f).numStableElements = conn.numStableElements := rfl

@[simp] theorem stable_updSession :
    (conn.updSession s g).stable s' = if s' = s then g (conn.stable s) else conn.stable s' := by
  simp [updSession, Function.update_apply]

@[simp] theorem ctable_updSession : (conn.updSession s g).ctable = conn.ctable := rfl

@[simp] theorem cthandles_updSession : (conn.updSession s g).cthandles = conn.cthandles := rfl

@[simp] theorem sthandles_updSession : (conn.updSession s g).sthandles = conn.sthandles := rfl

@[simp] theorem numCtableElements_updSession :
    (conn.updSession s g).numCtableElements = conn.numCtableElements := rfl

@[simp] theorem numStableElements_updSession :
    (conn.updSession s g).numStableElements = conn.numStableElements := rfl

end Update

end TApiConnectionTable

/-! ## Steps on the server -/

def onConn {α : Type} (m : ConnM α) : ServerM α :=
  onPart (fun s => s.tObj.conn) (fun conn s => { s with tObj := { s.tObj with conn } }) m

def modifyConn (f : TApiConnectionTable → TApiConnectionTable) : ServerM Unit :=
  modify fun s => { s with tObj := { s.tObj with conn := f s.tObj.conn } }

def emit (e : Event) : ServerM Unit := modify fun s => { s with events := s.events ++ [e] }

theorem modifyConn_bind_run {α : Type} (f : TApiConnectionTable → TApiConnectionTable)
    (k : ServerM α) (s : Server) :
    (do modifyConn f; k) s = k { s with tObj := { s.tObj with conn := f s.tObj.conn } } := rfl

theorem emit_bind_run {α : Type} (e : Event) (k : ServerM α) (s : Server) :
    (do emit e; k) s = k { s with events := s.events ++ [e] } := rfl

/-- `sk_drv_swld_secure_timer_get`. -/
def skDrvSwldSecureTimerGet (env : Env) : ServerM UInt32 := do
  let s ← get
  set { s with clk := s.clk + 1 }
  return env.timer s.clk

theorem timer_bind_run {α : Type} (env : Env) (k : UInt32 → ServerM α) (s : Server) :
    (do let t ← skDrvSwldSecureTimerGet env; k t) s =
      k (env.timer s.clk) { s with clk := s.clk + 1 } := rfl

end SkSdk
