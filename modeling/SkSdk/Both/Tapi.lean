import SkSdk.Library.ByteMemory

/-!
Constants and message types shared by the normal and the secure world
(`sk_both.h`, `sk_both_tapi.h`). A message keeps one record for each member of
the source's union: every function reads only what it wrote through the same
member, so the overlay is never observed.
-/

namespace SkSdk
open ByteMemory

abbrev SkStatus := Int32
abbrev Status := Int32

abbrev skErrorSuccess : SkStatus := 0
abbrev skErrorFailed : SkStatus := -1
abbrev skErrorInvalidCmd : SkStatus := -2
abbrev skErrorInvalidParam : SkStatus := -3
abbrev skErrorOpenComm : SkStatus := -4
abbrev skErrorOpenContext : SkStatus := -6
abbrev skErrorCloseContext : SkStatus := -7
abbrev skErrorOpenSession : SkStatus := -8
abbrev skErrorCloseSession : SkStatus := -9
abbrev skErrorInvCmd : SkStatus := -10
abbrev skErrorRegmemCmd : SkStatus := -11
abbrev skErrorUnregmemCmd : SkStatus := -12
abbrev skErrorRecvComm : SkStatus := -13
abbrev skErrorSendComm : SkStatus := -14
abbrev skErrorFailedGenHandle : SkStatus := -15
abbrev skErrorContextHandleNotFound : SkStatus := -16
abbrev skErrorSessionHandleNotFound : SkStatus := -17
abbrev skErrorVerifyFailed : SkStatus := -18
abbrev skErrorNoMemory : SkStatus := -23
abbrev skErrorBadContextId : SkStatus := -26
abbrev skErrorBadSmId : SkStatus := -27
abbrev skErrorOutOfRange : SkStatus := -28
abbrev skErrorRecvFromContext : SkStatus := -29
abbrev skErrorSendToDriver : SkStatus := -30
abbrev skErrorFailedSharedMemoryReq : SkStatus := -33
abbrev skErrorCheckCmd : SkStatus := -34
abbrev skErrorTappLoad : SkStatus := -35
abbrev skErrorTappCall : SkStatus := -38
abbrev skErrorTappTimeout : SkStatus := -39
abbrev skErrorTimeout : SkStatus := -40
abbrev skErrorOpenFailed : SkStatus := -41
abbrev skErrorReadFailed : SkStatus := -42
abbrev skErrorHeaderFailed : SkStatus := -43
abbrev skErrorInvalidCookie : SkStatus := -44
abbrev skErrorEntryFailed : SkStatus := -45
abbrev skErrorEntryNotFound : SkStatus := -46
abbrev skErrorLoadFailed : SkStatus := -47
abbrev skErrorUnloadFailed : SkStatus := -48
abbrev skErrorCommReadFailed : SkStatus := -49
abbrev skErrorCommSendFailed : SkStatus := -50
abbrev skErrorCommFailed : SkStatus := -51

abbrev skTapiPackErrSuccess : Status := 0
abbrev skTapiPackErrFailed : Status := -1
abbrev skTapiPackErrInvalidParams : Status := -2

abbrev skTapiOpenContext : UInt32 := 0
abbrev skTapiCloseContext : UInt32 := 1
abbrev skTapiOpenSession : UInt32 := 2
abbrev skTapiCloseSession : UInt32 := 3
abbrev skTapiInvokeCommand : UInt32 := 4
abbrev skTapiRegisterMemory : UInt32 := 5
abbrev skTapiUnregisterMemory : UInt32 := 6
abbrev skTapiCheck : UInt32 := 7
abbrev skTapiSystem : UInt32 := 8

abbrev skTapiMaxContextIds : Nat := 4
abbrev skTapiContextHandleSize : Nat := 16
abbrev skTapiSessionHandleSize : Nat := 16
abbrev skTapiSessionTaidSize : Nat := 16
abbrev skTapiMaxConnectionsPerContext : Nat := 128
abbrev skTapiMaxSessionsPerContext : Nat := 128
abbrev skTapiMemoryIdLength : Nat := 16

abbrev skTapiMsgReqType : UInt8 := 0
abbrev skTapiMsgRespType : UInt8 := 1

abbrev skTeecMemrefIn : UInt32 := 0
abbrev skTeecMemrefOut : UInt32 := 1
abbrev skTeecMemrefInout : UInt32 := 2
abbrev skTeecMemAllocate : UInt32 := 3

abbrev Handle := Blk 16
abbrev SkTaid := Blk 16
abbrev MemoryId := Blk 16

abbrev skMaximumOperations : Nat := 4

structure SkOpMeminfo where
  memorySize : UInt32
  flag : UInt32
  addr : UInt32
  id : MemoryId

structure SkOperation where
  numParam : UInt32
  param : Fin skMaximumOperations → SkOpMeminfo

structure SkHeader where
  contextId : UInt32
  smId : UInt32
  cmd : UInt32
  deriving DecidableEq

structure SkOpenContextReq where
  contextId : UInt32
  pid : Int32
structure SkOpenContextResp where
  contextHandle : Handle
  status : Int32
structure SkOpenContext where
  req : SkOpenContextReq
  resp : SkOpenContextResp

structure SkCloseContextReq where
  contextHandle : Handle
structure SkCloseContextResp where
  status : Int32
structure SkCloseContext where
  req : SkCloseContextReq
  resp : SkCloseContextResp

structure SkOpenSessionReq where
  contextHandle : Handle
  taid : SkTaid
structure SkOpenSessionResp where
  sessionHandle : Handle
  status : Int32
structure SkOpenSession where
  req : SkOpenSessionReq
  resp : SkOpenSessionResp

structure SkCloseSessionReq where
  contextHandle : Handle
  sessionHandle : Handle
structure SkCloseSessionResp where
  status : Int32
structure SkCloseSession where
  req : SkCloseSessionReq
  resp : SkCloseSessionResp

structure SkInvokeCmdReq where
  contextHandle : Handle
  sessionHandle : Handle
  cmd : UInt32
structure SkInvokeCmdResp where
  status : Int32
structure SkInvokeCmd where
  req : SkInvokeCmdReq
  resp : SkInvokeCmdResp

structure SkRegisterMemoryReq where
  contextHandle : Handle
  memorySize : UInt32
  flag : UInt32
  addr : UInt32
structure SkRegisterMemoryResp where
  addr : UInt32
  memoryId : MemoryId
  status : Int32
structure SkRegisterMemory where
  req : SkRegisterMemoryReq
  resp : SkRegisterMemoryResp

structure SkUnregisterMemoryReq where
  contextHandle : Handle
  memoryId : MemoryId
structure SkUnregisterMemoryResp where
  status : Int32
structure SkUnregisterMemory where
  req : SkUnregisterMemoryReq
  resp : SkUnregisterMemoryResp

structure SkCheckResp where
  status : Int32
/-- The request half of `sk_check` is empty. -/
structure SkCheck where
  resp : SkCheckResp

structure SkTapiResp where
  status : Int32
structure SkTapi where
  resp : SkTapiResp

structure SkMsgType where
  openContext : SkOpenContext
  closeContext : SkCloseContext
  openSession : SkOpenSession
  closeSession : SkCloseSession
  invokeCmd : SkInvokeCmd
  registerMemory : SkRegisterMemory
  unregisterMemory : SkUnregisterMemory
  sysCheck : SkCheck
  sysTapi : SkTapi

structure SkMsg where
  hdr : SkHeader
  type : SkMsgType

/-- A message of zero bytes. -/
def SkMsg.zero : SkMsg where
  hdr := ⟨0, 0, 0⟩
  type :=
    { openContext := ⟨⟨0, 0⟩, ⟨Blk.zero 16, 0⟩⟩
      closeContext := ⟨⟨Blk.zero 16⟩, ⟨0⟩⟩
      openSession := ⟨⟨Blk.zero 16, Blk.zero 16⟩, ⟨Blk.zero 16, 0⟩⟩
      closeSession := ⟨⟨Blk.zero 16, Blk.zero 16⟩, ⟨0⟩⟩
      invokeCmd := ⟨⟨Blk.zero 16, Blk.zero 16, 0⟩, ⟨0⟩⟩
      registerMemory := ⟨⟨Blk.zero 16, 0, 0, 0⟩, ⟨0, Blk.zero 16, 0⟩⟩
      unregisterMemory := ⟨⟨Blk.zero 16, Blk.zero 16⟩, ⟨0⟩⟩
      sysCheck := ⟨⟨0⟩⟩
      sysTapi := ⟨⟨0⟩⟩ }

end SkSdk
