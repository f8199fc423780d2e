import Mathlib.Data.List.FinRange
import SkSdk.Swld.Tapi

/-!
The handle generator plugin (`my_tapi_handle_generator_plugin.c`) and the
functions of `tapi.c` that look up and edit the connection table.
-/

namespace SkSdk
open ByteMemory FaultState DoublyLinked

/-! ## Handle generator -/

/-- The bytes of handle slot `i` of a linear handle table. -/
def handleAt (table : Mem) (i : Nat) : Handle := table.blk (i * 16) 16

def setHandleAt (table : Mem) (i : Nat) (handle : Handle) : Mem :=
  table.write (i * 16) (List.ofFn handle)

/-- Both lookups of the plugin; the result is the byte offset of the match. -/
def findHandle {n : Nat} (tableSize : Nat) (table : Mem) (handle : Blk n) : Option Nat :=
  ((List.range tableSize).find? fun i => table.blk (i * n) n = handle).map fun i => i * n

def skSwldTapiHandleGeneratorPluginFindContextHandle (tableSize : Nat) (table : Mem)
    (contextHandle : Handle) : Option Nat := findHandle tableSize table contextHandle

def skSwldTapiHandleGeneratorPluginFindSessionHandle (tableSize : Nat) (table : Mem)
    (sessionHandle : Handle) : Option Nat := findHandle tableSize table sessionHandle

/-- `my_rc4_prng_read` combines the key stream with what the buffer held and
returns the number of bytes asked for. -/
def generateHandle (env : Env) (handle : Handle) : Int32 × Handle :=
  (16, Blk.xor handle env.keystream)

def skSwldTapiHandleGeneratorPluginGenerateContextHandle (env : Env) (handle : Handle) :
    Int32 × Handle := generateHandle env handle

def skSwldTapiHandleGeneratorPluginGenerateSessionHandle (env : Env) (handle : Handle) :
    Int32 × Handle := generateHandle env handle

/-! ## Connection table -/

/-- A table index that an assertion bounds. -/
def slot {σ : Type} {n : Nat} (fault : Fault) (i : Nat) : Prog σ Fault (Fin n) :=
  if h : i < n then pure ⟨i, h⟩ else throw fault

/-- The first slot whose `active` is 0. -/
def firstFree {n : Nat} (active : Fin n → Bool) : Option (Fin n) :=
  (List.finRange n).find? fun i => !active i

def skSwldTapiFindObjects (contextHandle sessionHandle : Handle) :
    ConnM (Except SkStatus (CSlot × SSlot)) := do
  let conn ← get
  require .assert (conn.numCtableElements ≤ skTapiMaxConnectionsPerContext)
  require .assert (conn.numStableElements ≤ skTapiMaxSessionsPerContext)
  match skSwldTapiHandleGeneratorPluginFindContextHandle skTapiMaxConnectionsPerContext
      conn.cthandles contextHandle with
  | none => return .error skErrorContextHandleNotFound
  | some cIdx =>
    let cIdx : CSlot ← slot .assert (cIdx / skTapiContextHandleSize)
    require .assertActive ((conn.ctable cIdx).active = true)
    match skSwldTapiHandleGeneratorPluginFindSessionHandle skTapiMaxSessionsPerContext
        conn.sthandles sessionHandle with
    | none => return .error skErrorSessionHandleNotFound
    | some sIdx =>
      let sIdx : SSlot ← slot .assert (sIdx / skTapiSessionHandleSize)
      require .assertActive ((conn.stable sIdx).active = true)
      -- verify the session is attached to the context
      match findFrom conn.links.next (· == sIdx) skTapiMaxSessionsPerContext
          (conn.ctable cIdx).start with
      | none => throw .diverge
      | some none => return .error skErrorVerifyFailed
      | some (some _) => return .ok (cIdx, sIdx)

def skSwldTapiRemoveSession (context : CSlot) (session : Option SSlot) :
    ConnM (Option SSlot) := do
  let s ← deref .assert session
  let conn ← get
  let sNext := (conn.stable s).next
  let setNext (a : SSlot) (v : Option SSlot) : ConnM Unit :=
    modify fun conn => conn.updSession a fun t => { t with next := v }
  let setPrev (a : SSlot) (v : Option SSlot) : ConnM Unit :=
    modify fun conn => conn.updSession a fun t => { t with prev := v }
  let setStart (v : Option SSlot) : ConnM Unit :=
    modify fun conn => conn.updContext context fun t => { t with start := v }
  if (conn.ctable context).start = some s then
    match sNext with
    | some n => do
      setStart (some n)
      setPrev n none
    | none => setStart none
  else
    let p ← deref .nullDeref (conn.stable s).prev
    setNext p sNext
    match sNext with
    | some n => setPrev n (conn.stable s).prev
    | none => pure ()
  modify fun conn => conn.updSession s fun t =>
    { t with active := false, next := none, prev := none, taid := Blk.zero 16 }
  require .assert (0 < ((← get).ctable context).numConnectedSessions)
  modify fun conn => conn.updContext context fun t =>
    { t with numConnectedSessions := t.numConnectedSessions - 1 }
  require .assert (0 < (← get).numStableElements)
  modify fun conn => { conn with numStableElements := conn.numStableElements - 1 }
  return sNext

/-- `while (sk_swld_tapi_remove_session(tObj, context, context->start) != 0);` -/
def removeSessions (context : CSlot) : Nat → ConnM Unit
  | 0 => throw .diverge
  | k + 1 => do
    match ← skSwldTapiRemoveSession context ((← get).ctable context).start with
    | some _ => removeSessions context k
    | none => pure ()

def skSwldTapiRemoveContext (context : CSlot) (forceShutdown : Bool) : ConnM SkStatus := do
  let n := ((← get).ctable context).numConnectedSessions
  if 0 < n then
    if forceShutdown then
      -- each round takes one off a count that is asserted to be positive
      removeSessions context (n + 1)
    else
      return skErrorFailed
  require .assert (((← get).ctable context).start = none)
  modify fun conn => conn.updContext context fun t =>
    { t with active := false, pid := 0, start := none, numConnectedSessions := 0 }
  return skErrorSuccess

/-- The part of `sk_swld_tapi_open_session_nw` that links slot `i` to the context. -/
def attachSession (cIdx : CSlot) (i : SSlot) (taid : SkTaid) : ConnM Unit := do
  modify fun conn => conn.updSession i fun t =>
    { t with active := true, taid, next := none, prev := none }
  let conn ← get
  match (conn.ctable cIdx).start with
  | some st =>
    match lastFrom conn.links.next skTapiMaxSessionsPerContext st with
    | none => throw .diverge
    | some st => do
      modify fun conn => conn.updSession st fun t => { t with next := some i }
      modify fun conn => conn.updSession i fun t => { t with prev := some st }
  | none => modify fun conn => conn.updContext cIdx fun t => { t with start := some i }
  require .assert (((← get).ctable cIdx).numConnectedSessions < skTapiMaxSessionsPerContext)
  modify fun conn => conn.updContext cIdx fun t =>
    { t with numConnectedSessions := t.numConnectedSessions + 1 }
  require .assert ((← get).numStableElements < skTapiMaxSessionsPerContext)
  modify fun conn => { conn with numStableElements := conn.numStableElements + 1 }

/-- The connection table after `sk_swld_tapi_init`. -/
def TApiConnectionTable.init : TApiConnectionTable where
  ctable _ := ⟨false, 0, none, 0, 0⟩
  cthandles _ := 0
  numCtableElements := 0
  stable i := ⟨false, Blk.zero 16, i, 0, ⟨none⟩, none, none⟩
  sthandles _ := 0
  numStableElements := 0

end SkSdk
