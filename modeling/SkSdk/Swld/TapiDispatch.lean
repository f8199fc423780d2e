import SkSdk.Swld.TapiProcess

/-!
The loop of `sk_swld_tapi_dispatch`: receive a message, process it and send
what is in `msend`. The loop ends at the first status other than success.
-/

namespace SkSdk
open ByteMemory FaultState

/-- What one pass of the loop meets: the message, the results of `tapi_recv_msg`
and `tapi_send_msg`, and the prior bytes of the local `msg`. -/
structure Exchange where
  request : Request
  recv : SkStatus
  send : SkStatus
  msg : SkMsg

/-- A message handed to `tapi_send_msg`. -/
structure Sent where
  bytes : List UInt8
  op : SkOperation

def Server.outgoing (s : Server) : Sent := ⟨s.tObj.msend.read 0 s.tObj.msendSize, s.tObj.op⟩

/-- The reply to a message that is not for this server. `err` is overwritten
before the `switch` looks at it, and the type is not the one that
`sk_tapi_sys_tapi_pack` takes. -/
def replySystem (msg : SkMsg) : ServerM SkStatus := do
  let tObj := (← get).tObj
  let unpacked := skTapiHeaderUnpack tObj.mrecv tObj.mrecvSize msg.hdr
  let err := unpacked.status
  if err ≠ skTapiPackErrSuccess then return skErrorInvalidParam
  let msg := { msg with hdr := { unpacked.out with cmd := skTapiSystem } }
  let msg :=
    if err = skErrorBadContextId then
      { msg with type.sysTapi.resp.status := skErrorBadContextId }
    else if err = skErrorBadSmId then
      { msg with type.sysTapi.resp.status := skErrorBadSmId }
    else msg
  respond fun pack packLen => skTapiSysTapiPack msg pack packLen skTapiMsgRespType

/-- One pass of the loop: the status it ends with and what it sends. -/
def dispatchOnce (cfg : Config) (e : Exchange) : ServerM (SkStatus × List Sent) := do
  modify fun s => { s with tObj := { s.tObj with op := { s.tObj.op with numParam := 0 } } }
  modify (receive e.request)
  if e.recv ≠ 0 then return (skErrorRecvComm, [])
  let err ← skSwldTapiProcess cfg e.request.env
  if err ≠ skErrorSuccess then return (err, [])
  let tObj := (← get).tObj
  require .assert (tObj.msendSize ≤ tObj.maxMsendSize)
  -- never so, since `err` is `SK_ERROR_SUCCESS` here
  if err = skErrorBadContextId ∨ err = skErrorBadSmId then
    let err ← replySystem e.msg
    if err ≠ skTapiPackErrSuccess then return (err, [])
  let sent := (← get).outgoing
  if e.send ≠ 0 then return (skErrorSendComm, [sent])
  return (skErrorSuccess, [sent])

/-- The loop over the messages that arrive; without a status it waits for more. -/
def skSwldTapiDispatch (cfg : Config) : List Exchange → ServerM (Option SkStatus × List Sent)
  | [] => return (none, [])
  | e :: es => do
    let (err, sent) ← dispatchOnce cfg e
    if err ≠ skErrorSuccess then return (some err, sent)
    let (last, rest) ← skSwldTapiDispatch cfg es
    return (last, sent ++ rest)

variable {cfg : Config} {e : Exchange} {s s' : Server}

private theorem dispatchOnce_eq (hrecv : e.recv = 0) :
    dispatchOnce cfg e s = (do
      let err ← handleRequest cfg e.request
      if err ≠ skErrorSuccess then return (err, [])
      let tObj := (← get).tObj
      require .assert (tObj.msendSize ≤ tObj.maxMsendSize)
      if err = skErrorBadContextId ∨ err = skErrorBadSmId then
        let err ← replySystem e.msg
        if err ≠ skTapiPackErrSuccess then return (err, [])
      let sent := (← get).outgoing
      if e.send ≠ 0 then return (skErrorSendComm, [sent])
      return (skErrorSuccess, [sent]) : ServerM (SkStatus × List Sent)) s := by
  refine (modify_bind_run _ _ _).trans ?_
  refine (modify_bind_run _ _ _).trans ?_
  rw [if_neg (not_not.mpr hrecv)]
  rfl

/-- A request that is refused is not answered, and the loop ends. -/
theorem dispatchOnce_of_refused (hrecv : e.recv = 0) {err : SkStatus} (herr : err ≠ skErrorSuccess)
    (h : handleRequest cfg e.request s = .ok (err, s')) :
    dispatchOnce cfg e s = .ok ((err, []), s') := by
  rw [dispatchOnce_eq hrecv, bind_of_ok h, if_pos herr]
  rfl

/-- A request that is processed is answered with what is in `msend`. -/
theorem dispatchOnce_of_processed (hrecv : e.recv = 0)
    (h : handleRequest cfg e.request s = .ok (skErrorSuccess, s'))
    (hfit : s'.tObj.msendSize ≤ s'.tObj.maxMsendSize) :
    dispatchOnce cfg e s =
      .ok ((if e.send ≠ 0 then skErrorSendComm else skErrorSuccess, [s'.outgoing]), s') := by
  rw [dispatchOnce_eq hrecv, bind_of_ok h, if_neg (not_not.mpr rfl)]
  refine (get_bind_run _ _).trans ?_
  refine (require_bind_of hfit _ _ _).trans ?_
  refine (get_bind_run _ _).trans ?_
  by_cases hsend : e.send ≠ 0
  · rw [if_pos hsend, if_pos hsend]
    rfl
  · rw [if_neg hsend, if_neg hsend]
    rfl

/-- Whatever is sent answers a request that was processed. -/
theorem dispatchOnce_sent (hrecv : e.recv = 0) {err : SkStatus} {sent : Sent}
    (h : dispatchOnce cfg e s = .ok ((err, [sent]), s')) :
    handleRequest cfg e.request s = .ok (skErrorSuccess, s') ∧ sent = s'.outgoing := by
  cases hrun : handleRequest cfg e.request s with
  | error f =>
    rw [dispatchOnce_eq hrecv, bind_of_error hrun] at h
    cases h
  | ok r =>
    obtain ⟨status, t⟩ := r
    by_cases hstatus : status = skErrorSuccess
    · subst hstatus
      by_cases hfit : t.tObj.msendSize ≤ t.tObj.maxMsendSize
      · rw [dispatchOnce_of_processed hrecv hrun hfit] at h
        cases h
        exact ⟨rfl, rfl⟩
      · rw [dispatchOnce_eq hrecv, bind_of_ok hrun, if_neg (not_not.mpr rfl)] at h
        have hassert := (get_bind_run _ _).symm.trans h
        cases (require_bind_of_not hfit _ _ _).symm.trans hassert
    · rw [dispatchOnce_of_refused hrecv hstatus hrun] at h
      cases h

/-! ## The operation of an invoke_command -/

/-- The reply leaves the received operation alone. -/
theorem wp_reply_op (l : Layout) (v : SkHeader × l.Fields) (s : Server) :
    wp (reply l v) (fun _ s' => s'.tObj.op = s.tObj.op) (fun _ => True) s :=
  wp_of_returns fun _ _ h => by
    rw [answer_ok ((reply_run l v s).symm.trans h)]
    rfl

theorem wp_onConn_op {α : Type} (m : ConnM α) (s : Server) :
    wp (onConn m) (fun _ s' => s'.tObj.op = s.tObj.op) (fun _ => True) s :=
  (wp_onPart _ _ m _ _ s).mpr (wp_of_returns fun _ _ _ => rfl)

theorem pullCommand_op (env : Env) (hdr : SkHeader) (cmd : UInt32) (c : CSlot) (i : SSlot)
    (s : Server) :
    wp (pullCommand env hdr cmd c i) (fun _ s' => s'.tObj.op = s.tObj.op) (fun _ => True) s := by
  rw [pullCommand]
  change wp (if _ then if _ then _ else _ else _ : ServerM SkStatus) _ _ _
  split
  · split
    · exact wp_reply_op _ _ _
    · exact wp_reply_op _ _ _
  · exact wp_reply_op _ _ _

/-- invoke_command leaves the received operation alone. -/
theorem serveInvokeCommand_op (env : Env) (hdr : SkHeader) (contextHandle sessionHandle : Handle)
    (cmd : UInt32) (s : Server) :
    wp (serveInvokeCommand env hdr contextHandle sessionHandle cmd)
      (fun _ s' => s'.tObj.op = s.tObj.op) (fun _ => True) s := by
  rw [serveInvokeCommand, wp_bind]
  refine wp_mono (fun r s' hop => ?_) (fun _ h => h) (wp_onConn_op _ s)
  rw [← hop]
  rcases r with err | ⟨c, i⟩
  · dsimp only
    split
    · exact wp_reply_op _ _ _
    · rfl
  · exact pullCommand_op _ _ _ _ _ _

theorem handleRequest_invoke_op {req : Request} {status : SkStatus}
    (hcmd : req.hdr.cmd = skTapiInvokeCommand)
    (h : handleRequest cfg req s = .ok (status, s')) : s'.tObj.op = req.op := by
  have hcommand : Command.ofCmd skTapiInvokeCommand = some .invokeCommand := rfl
  rw [handleRequest_eq, hcmd, hcommand] at h
  dsimp only at h
  split at h
  · cases h
  split at h
  · cases h
    rfl
  split at h
  · cases h
    rfl
  split at h
  · cases h
    rfl
  split at h
  · cases h
  split at h
  · cases h
    rfl
  · have hop : wp (Command.invokeCommand.serve cfg req.env (req.decode .invokeCommandReq))
        (fun _ t => t.tObj.op = req.op) (fun _ => True) (receive req s) :=
      serveInvokeCommand_op req.env _ _ _ _ _
    cases hserve : Command.invokeCommand.serve cfg req.env (req.decode .invokeCommandReq)
        (receive req s) with
    | error e =>
      rw [hserve] at h
      cases h
    | ok r =>
      rw [hserve] at h
      cases h
      exact (wp_of_ok hserve _ _).mp hop

/-- The reply to an invoke_command goes out with the operation that came in. -/
theorem dispatchOnce_invoke_op (hrecv : e.recv = 0)
    (hcmd : e.request.hdr.cmd = skTapiInvokeCommand) {err : SkStatus} {sent : Sent}
    (h : dispatchOnce cfg e s = .ok ((err, [sent]), s')) : sent.op = e.request.op := by
  obtain ⟨hrun, rfl⟩ := dispatchOnce_sent hrecv h
  exact handleRequest_invoke_op hcmd hrun

end SkSdk
