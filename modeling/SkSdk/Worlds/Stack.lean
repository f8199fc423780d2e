import SkSdk.Nwld.ClientContexts
import SkSdk.Library.Refinement
import SkSdk.Worlds.Agreement

/-!
The whole stack: the client library over the driver, and the server behind it. A
call of the library is a step. Seen from the programs it is a step of the library,
seen from the driver and the server it is a call between the two worlds, or nothing
where the library refuses it.
-/

namespace SkSdk
open ByteMemory FaultState NameTable

structure Stack where
  client : SkClient
  swld : Server

def Stack.worlds (w : Stack) : Worlds := ⟨w.client.nwld, w.swld⟩

/-- One call of a program, with what the layers meet while it is carried out. As in
`WorldsCall` the transport takes the place of `commProc`. -/
structure StackCall where
  call : TeecCall
  env : TeecEnv
  recvBuf : Mem
  swldEnv : Env
  /-- The prior bytes of the server's local `msg`. -/
  msg : SkMsg

namespace StackCall

/-- The call of the driver that goes with the arguments `info`. -/
def worldsCall (x : StackCall) (info : SkTeecUserInfo) : WorldsCall :=
  ⟨info, x.env.nwld.ioctl, x.recvBuf, x.swldEnv, x.msg⟩

/-- The call as the library sees it. The transport is the same for all arguments. -/
def request (cfg : Config) (x : StackCall) (swld : Server) : TeecRequest where
  call := x.call
  env := { x.env with
    nwld := { x.env.nwld with
      commProc := fun _ request op =>
        (x.worldsCall (.closeContext ⟨0⟩)).transport cfg swld request op } }

end StackCall

inductive StackFault
  | teec (fault : TeecFault)
  | noReply
  deriving DecidableEq

/-- A call and, if it sends a request, the server's pass that answers it. -/
def stackStep (cfg : Config) (logs : Bool) (x : StackCall) : Prog Stack StackFault SkStatus :=
  fun w =>
    match teecStep logs (x.request cfg w.swld) w.client with
    | .error fault => .error (.teec fault)
    | .ok (status, client) =>
      match if status = skErrorInvalidParam then [] else client.nwld.exchanges with
      | [] => .ok (status, ⟨client, w.swld⟩)
      | e :: _ =>
        match dispatchOnce cfg
            ((x.worldsCall (.closeContext ⟨0⟩)).arrives w.swld e.request e.op) w.swld with
        | .ok ((_, [_]), swld) => .ok (status, ⟨client, swld⟩)
        | _ => .error .noReply

abbrev StackStep := Step StackCall Stack SkStatus

/-- The part of a step that the programs see. -/
def StackStep.teec (cfg : Config) (y : StackStep) : TeecStep :=
  ⟨y.input.request cfg y.pre.swld, y.pre.client, y.result, y.post.client⟩

/-- The part of a step between the two worlds. -/
inductive BetweenWorlds (cfg : Config) (y : StackStep) : Prop
  | silent : y.post.worlds = y.pre.worlds → BetweenWorlds cfg y
  | call {info : SkTeecUserInfo} {r : SkStatus × SkTeecUserInfo} :
      y.input.call.Asks y.input.env y.pre.client info →
      worldsStep cfg (y.input.worldsCall info) y.pre.worlds = .ok (r, y.post.worlds) →
      BetweenWorlds cfg y

section Step

variable {cfg : Config} {logs : Bool} {x : StackCall} {w w' : Stack} {status : SkStatus}

theorem stackStep_teec (h : stackStep cfg logs x w = .ok (status, w')) :
    teecStep logs (x.request cfg w.swld) w.client = .ok (status, w'.client) := by
  unfold stackStep at h
  split at h
  · cases h
  · rename_i hteec
    rw [hteec]
    split at h
    · cases h
      rfl
    · split at h
      · cases h
        rfl
      · cases h

/-- The driver's part of a call, with the pass of the server that went with it. -/
theorem worldsStep_of_nwldStep {info : SkTeecUserInfo} {r : SkStatus × SkTeecUserInfo}
    (hstatus : status ≠ skErrorInvalidParam)
    (hdriver : nwldStep ⟨info, (x.request cfg w.swld).env.nwld.ioctl⟩ w.client.nwld =
      .ok (r, w'.client.nwld)) (h : stackStep cfg logs x w = .ok (status, w')) :
    worldsStep cfg (x.worldsCall info) w.worlds = .ok (r, w'.worlds) := by
  have hcall : (x.worldsCall info).toCall cfg w.swld =
      ⟨info, (x.request cfg w.swld).env.nwld.ioctl⟩ := rfl
  have hteec := stackStep_teec h
  obtain ⟨client, swld⟩ := w'
  unfold stackStep at h
  simp only [hteec, if_neg hstatus] at h
  unfold worldsStep
  simp only [Stack.worlds, hcall, hdriver]
  cases hes : client.nwld.exchanges with
  | nil =>
    rw [hes] at h
    cases h
    rfl
  | cons e es =>
    rw [hes] at h
    dsimp only at h ⊢
    split at h
    · rename_i hserved
      cases h
      have harrives : (x.worldsCall info).arrives w.swld e.request e.op =
        (x.worldsCall (.closeContext ⟨0⟩)).arrives w.swld e.request e.op := rfl
      rw [harrives, hserved]
    · cases h

theorem stackStep_cases (h : stackStep cfg logs x w = .ok (status, w')) :
    BetweenWorlds cfg ⟨x, w, status, w'⟩ := by
  have hteec := stackStep_teec h
  rcases teecStep_driver hteec with ⟨rfl, hclient⟩ | ⟨hstatus, info, r, hasks, -, hdriver⟩
  · refine .silent ?_
    unfold stackStep at h
    simp only [hteec, if_true] at h
    obtain ⟨client, swld⟩ := w'
    cases h
    exact congrArg (fun c : SkClient => Worlds.mk c.nwld w.swld) hclient
  · exact .call (hasks.congr rfl rfl) (worldsStep_of_nwldStep hstatus hdriver h)

theorem lossless_worldsCall (x : StackCall) (info : SkTeecUserInfo) :
    (x.worldsCall info).Lossless :=
  wireLength_le_msgbuffer info.respLayout

end Step

/-! ## What is open on both ends -/

/-- The driver and the server agree, and the driver can name what it uses. -/
structure StackInvariant (w : Stack) : Prop where
  sound : w.swld.Sound
  paired : Paired w.client.nwld w.swld.tObj.conn
  below : ∀ h, (w.client.nwld.tapi.clist h).used = true → h < 2 ^ 32

theorem CallOutcome.used_below {call : Call} {s t : Nwld} {r : SkStatus × SkTeecUserInfo}
    (hout : CallOutcome call s r t) (h : ∀ x, (s.tapi.clist x).used = true → x < 2 ^ 32) :
    ∀ x, (t.tapi.clist x).used = true → x < 2 ^ 32 := by
  have hkept (ht : ∀ x, (t.tapi.clist x).used = true → (s.tapi.clist x).used = true) :
      ∀ x, (t.tapi.clist x).used = true → x < 2 ^ 32 := fun x hx => h x (ht x hx)
  have hclist (ht : t.tapi.clist = s.tapi.clist) :
      ∀ x, (t.tapi.clist x).used = true → x < 2 ^ 32 := by
    rw [ht]
    exact h
  cases hout with
  | refused _ => exact hclist rfl
  | unclaimed _ hclaim => exact hclist hclaim.frame.1
  | unsent _ hclaim => exact hclist hclaim.frame.1
  | unopened _ hclaim _ _ _ => exact hclist hclaim.frame.1
  | @openedContext _ _ u _ y _ hclaim _ _ hfree _ =>
    have hmax : y < 2 ^ 32 :=
      (firstUnused_eq_some.mp hfree).1.trans (UInt32.toNat_lt _)
    intro x hx
    rcases eq_or_ne x y with rfl | hne
    · exact hmax
    · refine h x ?_
      simpa [Nwld.connected, hne, Nwld.record, hclaim.frame.1] using hx
  | rejected _ _ _ => exact hclist rfl
  | unreleased _ _ _ hrelease _ => exact hclist hrelease.frame.1
  | @closedContext pcc _ _ _ u _ _ _ hrelease _ =>
    refine hkept fun x hx => ?_
    rcases eq_or_ne x pcc.contextHandle.toNat with rfl | hne
    · simp [Nwld.disconnected, TSkSysConnection.zero] at hx
    · simpa [Nwld.disconnected, hne, hrelease.frame.1] using hx
  | sessionsFull _ _ _ _ _ => exact hclist rfl
  | @openedSession pos _ _ e p k _ _ _ _ _ _ =>
    refine hkept fun x hx => ?_
    rcases eq_or_ne x pos.contextHandle.toNat with rfl | hne
    · simpa [Nwld.attached] using hx
    · simpa [Nwld.attached, hne] using hx
  | @closedSession pcs _ _ e p _ _ _ _ _ =>
    refine hkept fun x hx => ?_
    rcases eq_or_ne x pcs.contextHandle.toNat with rfl | hne
    · simpa [Nwld.detached] using hx
    · simpa [Nwld.detached, hne] using hx
  | invoked _ _ _ => exact hclist rfl
  | registered _ _ _ _ => exact hclist rfl
  | unregistered _ _ _ => exact hclist rfl

/-- Every request of a step is one that needs no rollback. -/
def StackStep.NoRollback (y : StackStep) : Prop :=
  ∀ info, y.input.call.Asks y.input.env y.pre.client info →
    y.pre.worlds.NoRollback (y.input.worldsCall info)

theorem StackInvariant.step {cfg : Config} {y : StackStep} (h : StackInvariant y.pre)
    (hy : BetweenWorlds cfg y) (hcond : y.NoRollback) : StackInvariant y.post := by
  cases hy with
  | silent hsame =>
    have hnwld : y.post.client.nwld = y.pre.client.nwld := congrArg Worlds.nwld hsame
    have hswld : y.post.swld = y.pre.swld := congrArg Worlds.swld hsame
    obtain ⟨hsound, hpaired, hbelow⟩ := h
    constructor
    · rwa [hswld]
    · rwa [hnwld, hswld]
    · rwa [hnwld]
  | @call info r hasks hstep =>
    obtain ⟨hsound, hpaired⟩ := Paired.step (w := y.pre.worlds) h.paired h.sound
      (lossless_worldsCall y.input info) (hcond info hasks) hstep
    exact ⟨hsound, hpaired, (worldsStep_cases hstep).1.used_below h.below⟩

section Runs

variable {cfg : Config} {logs : Bool} {w₀ w : Stack} {tr : List StackStep}

theorem StackInvariant.run (h₀ : StackInvariant w₀) (hrun : Run (stackStep cfg logs) w₀ tr w)
    (hcond : ∀ y ∈ tr, y.NoRollback) : StackInvariant w :=
  hrun.invariant_of StackStep.NoRollback hcond (fun _ w => StackInvariant w) h₀
    fun _ _ _ _ _ h hstep hcond => h.step (stackStep_cases hstep) hcond

theorem StackInvariant.of_init {swld : Server} (hstart : Started swld) {alloc : InitAlloc}
    {commObj : Nat} {s₀ : SkClient} {maxConnections maxSessions smId : UInt32}
    (hmax : maxConnections ≠ 0) : StackInvariant
      ⟨(skNwldPlatformTapiIoctlInit alloc commObj maxConnections maxSessions smId s₀).2, swld⟩ := by
  have hfresh : Nwld.Fresh maxSessions
      (skNwldPlatformTapiIoctlInit alloc commObj maxConnections maxSessions smId s₀).2.nwld :=
    fresh_init alloc s₀.nwld maxConnections maxSessions smId commObj hmax
  refine ⟨hstart.sound, ?_, fun h hused => ?_⟩
  · rw [hstart.conn]
    exact .of_fresh hfresh
  · rw [hfresh.unused] at hused
    cases hused

/-- What the programs see of a run is a run of the library. -/
theorem run_teec (hrun : Run (stackStep cfg logs) w₀ tr w) :
    Run (teecStep logs) w₀.client (tr.map (StackStep.teec cfg)) w.client :=
  hrun.project Stack.client (StackStep.teec cfg) (fun _ => rfl) (fun _ => rfl)
    fun _ hstep => stackStep_teec hstep

end Runs

end SkSdk
