import SkSdk.Nwld.TableInvariant

/-!
An open_context call that fails. The slot of the context id, its count and the
number of ids are committed before the registration and the exchange, and
nothing takes them back.
-/

namespace SkSdk
open ByteMemory FaultState

/-- The tables of `t` are those of `s`. -/
structure SameTables (s t : Nwld) : Prop where
  info : ∀ i, (t.tapi.info i).used = (s.tapi.info i).used ∧
    (t.tapi.info i).contextId = (s.tapi.info i).contextId ∧
    (t.tapi.info i).contextIdCnt = (s.tapi.info i).contextIdCnt
  ids : t.tapi.numContextId = s.tapi.numContextId
  clist : t.tapi.clist = s.tapi.clist
  connections : t.tapi.numConnections = s.tapi.numConnections

theorem SameTables.of_tapi {s t : Nwld} (h : t.tapi = s.tapi) : SameTables s t := by
  refine ⟨fun i => ?_, ?_, ?_, ?_⟩
  · rw [h]
    exact ⟨rfl, rfl, rfl⟩
  all_goals rw [h]

/-- A call that returns an error leaves the tables as they were. -/
def FailsUnchanged (call : Call) (s : Nwld) : Prop :=
  ∀ r t, nwldStep call s = .ok (r, t) → r.1 ≠ skErrorSuccess → SameTables s t

/-- The slot that carries a context id. -/
def Nwld.slotOf (s : Nwld) (contextId : UInt32) : Option IdSlot :=
  firstSlot fun i => (s.tapi.info i).used && (s.tapi.info i).contextId == contextId

/-- The first slot that carries none. -/
def Nwld.freeSlot (s : Nwld) : Option IdSlot := firstSlot fun i => !(s.tapi.info i).used

/-- The call is refused with its arguments, or the driver carries all the ids it can. -/
def OpenRefused (env : NwldEnv) (poc : SkTeecUserOpenContext) (s : Nwld) : Prop :=
  env.invalidParam = true ∨ poc.contextId = 0 ∨
    (s.slotOf poc.contextId = none ∧ skTapiMaxContextIds ≤ s.tapi.numContextId)

/-- The comm object of the context id, registered before or by this call. -/
def Registered (env : NwldEnv) (contextId : UInt32) (s : Nwld) (comm : SkNwldTeecComm) : Prop :=
  (∃ i, s.slotOf contextId = some i ∧ (s.tapi.info i).comm = comm) ∨
  (s.slotOf contextId = none ∧ ∃ i, s.freeSlot = some i ∧
    env.commRegister (s.tapi.info i).comm contextId s.tapi.smId = (skErrorSuccess, comm))

/-- The request fits, the platform brings back an acceptable reply, and a connection is free. -/
def Exchanges (env : NwldEnv) (poc : SkTeecUserOpenContext) (s : Nwld) (comm : SkNwldTeecComm) :
    Prop :=
  let info := SkTeecUserInfo.openContext poc
  info.reqLayout.wireLength ≤ env.sendBufferSize ∧
  info.Accepts (env.commProc comm
    (info.request poc.contextId s.tapi.smId (Blk.zero 16) (Blk.zero 16)) none) ∧
  ∃ h < s.tapi.maxConnections.toNat, (s.tapi.clist h).used = false

/-- Nothing that the call meets fails it. -/
def OpenServed (env : NwldEnv) (poc : SkTeecUserOpenContext) (s : Nwld) : Prop :=
  ∃ comm, Registered env poc.contextId s comm ∧ Exchanges env poc s comm

/-! ## The free slots -/

/-- The number of ids counts the slots in use, and a slot out of use has no references. -/
structure SlotsCounted (s : Nwld) : Prop where
  ids : s.tapi.numContextId = s.usedSlots.card
  unused : ∀ i, (s.tapi.info i).used = false → (s.tapi.info i).contextIdCnt = 0

namespace SlotsCounted

variable {s t : Nwld}

theorem recount (h : SlotsCounted s) (hnum : t.tapi.numContextId = s.tapi.numContextId)
    (hused : ∀ c, (t.tapi.info c).used = (s.tapi.info c).used)
    (hcnt : ∀ c, (s.tapi.info c).used = false →
      (t.tapi.info c).contextIdCnt = (s.tapi.info c).contextIdCnt) : SlotsCounted t := by
  refine ⟨?_, fun c hc => ?_⟩
  · rw [hnum, h.ids, Nwld.usedSlots, Nwld.usedSlots]
    simp only [hused]
  · rw [hused] at hc
    rw [hcnt c hc, h.unused c hc]

theorem of_tapi (h : SlotsCounted s) (ht : t.tapi = s.tapi) : SlotsCounted t :=
  h.recount (by rw [ht]) (fun c => by rw [ht]) fun c _ => by rw [ht]

/-- A slot in use may change its count. -/
theorem counted (h : SlotsCounted s) {i : IdSlot} (hi : (s.tapi.info i).used = true)
    (f : Int32 → Int32) :
    SlotsCounted (s.updInfo i fun u => { u with contextIdCnt := f u.contextIdCnt }) := by
  refine h.recount rfl (fun c => ?_) fun c hc => ?_
  · by_cases hci : c = i
    · simp [hci]
    · simp [hci]
  · have hci : c ≠ i := by
      rintro rfl
      rw [hi] at hc
      cases hc
    simp [hci]

theorem setComm (h : SlotsCounted s) (c : IdSlot) (comm : SkNwldTeecComm) :
    SlotsCounted (s.setComm c comm) :=
  h.recount rfl (fun d => Nwld.used_setComm s c d comm) fun d _ =>
    Nwld.contextIdCnt_setComm s c d comm

theorem claimed (h : SlotsCounted s) {i : IdSlot} (hi : (s.tapi.info i).used = false)
    (contextId : UInt32) : SlotsCounted (s.claimed i contextId) := by
  refine ⟨?_, fun c hc => ?_⟩
  · rw [Nwld.usedSlots_claimed, Finset.card_insert_of_notMem (by simp [Nwld.mem_usedSlots, hi])]
    exact congrArg (· + 1) h.ids
  · have hci : c ≠ i := by
      rintro rfl
      simp [Nwld.claimed] at hc
    simp only [Nwld.claimed, Nwld.info_updInfo, if_neg hci] at hc ⊢
    exact h.unused c hc

theorem freed (h : SlotsCounted s) {i : IdSlot} (hi : (s.tapi.info i).used = true)
    (hcnt : (s.tapi.info i).contextIdCnt = 0) : SlotsCounted (s.freed i) := by
  refine ⟨?_, fun c hc => ?_⟩
  · rw [Nwld.usedSlots_freed, Finset.card_erase_of_mem (Nwld.mem_usedSlots.mpr hi)]
    exact congrArg (· - 1) h.ids
  · by_cases hci : c = i
    · subst hci
      simpa [Nwld.freed] using hcnt
    · simp only [Nwld.freed, Nwld.info_updInfo, if_neg hci] at hc ⊢
      exact h.unused c hc

theorem claim (h : SlotsCounted s) {env : NwldEnv} {contextId : UInt32}
    {r : Except SkStatus IdSlot} (hc : Claim env contextId s r t) : SlotsCounted t := by
  cases hc with
  | shared hused _ => exact h.counted hused (· + 1)
  | full _ _ => exact h
  | added _ _ _ hunused _ => exact (h.claimed hunused contextId).setComm _ _
  | unregistered _ _ _ hunused _ => exact (h.claimed hunused contextId).setComm _ _

theorem release (h : SlotsCounted s) {env : NwldEnv} {pconn : TSkSysConnection} {err : SkStatus}
    (hr : Release env pconn s err t) : SlotsCounted t := by
  have hused : (s.tapi.info pconn.contextIdIndex).contextIdCnt ≠ 0 →
      (s.tapi.info pconn.contextIdIndex).used = true := by
    intro hne
    by_contra hfalse
    exact hne (h.unused _ (Bool.eq_false_iff.mpr hfalse))
  have hlast : (s.tapi.info pconn.contextIdIndex).contextIdCnt - 1 = 0 →
      (s.tapi.info pconn.contextIdIndex).used = true := by
    intro hone
    refine hused fun hzero => ?_
    rw [hzero] at hone
    exact absurd hone (by decide)
  cases hr with
  | kept hpos _ =>
    have hi := hused fun hzero => by
      rw [hzero] at hpos
      exact absurd hpos (by decide)
    exact h.counted hi (· - 1)
  | failed hone _ _ => exact (h.counted (hlast hone) (· - 1)).setComm _ _
  | @freed c hone _ _ _ =>
    have hi := hlast hone
    refine SlotsCounted.freed ((h.counted hi (· - 1)).setComm c _) ?_ ?_
    · simp [hi]
    · simp [hone]

theorem outcome (h : SlotsCounted s) {call : Call} {r : SkStatus × SkTeecUserInfo}
    (hout : CallOutcome call s r t) : SlotsCounted t := by
  cases hout with
  | refused _ => exact h
  | unclaimed _ hclaim => exact h.claim hclaim
  | unsent _ hclaim => exact h.claim hclaim
  | unopened _ hclaim _ _ _ => exact (h.claim hclaim).of_tapi rfl
  | openedContext _ hclaim _ _ _ _ =>
    exact (h.claim hclaim).recount rfl (fun _ => rfl) fun _ _ => rfl
  | unreleased _ _ _ hrelease _ => exact (h.of_tapi (Nwld.tapi_record ..)).release hrelease
  | closedContext _ _ _ hrelease _ =>
    exact ((h.of_tapi (Nwld.tapi_record ..)).release hrelease).recount rfl (fun _ => rfl)
      fun _ _ => rfl
  | openedSession _ _ _ _ _ _ => exact h.recount rfl (fun _ => rfl) fun _ _ => rfl
  | closedSession _ _ _ _ _ => exact h.recount rfl (fun _ => rfl) fun _ _ => rfl
  | _ => exact h.of_tapi rfl

/-- While the driver carries fewer ids than it can, a slot is free. -/
theorem exists_freeSlot (h : SlotsCounted s) (hnum : s.tapi.numContextId < skTapiMaxContextIds) :
    ∃ i, s.freeSlot = some i := by
  cases hfree : s.freeSlot with
  | some i => exact ⟨i, rfl⟩
  | none =>
    have hall : s.usedSlots = Finset.univ := by
      refine Finset.filter_true_of_mem fun i _ => ?_
      simpa using firstSlot_eq_none.mp hfree i
    rw [h.ids, hall, Finset.card_univ, Fintype.card_fin] at hnum
    exact absurd hnum (Nat.lt_irrefl _)

end SlotsCounted

theorem maxConnections_outcome {s t : Nwld} {call : Call} {r : SkStatus × SkTeecUserInfo}
    (hout : CallOutcome call s r t) : t.tapi.maxConnections = s.tapi.maxConnections := by
  cases hout with
  | unclaimed _ hclaim => exact hclaim.frame.2.1
  | unsent _ hclaim => exact hclaim.frame.2.1
  | unopened _ hclaim _ _ _ => exact hclaim.frame.2.1
  | openedContext _ hclaim _ _ _ _ => exact hclaim.frame.2.1
  | unreleased _ _ _ hrelease _ => exact hrelease.frame.2.1
  | closedContext _ _ _ hrelease _ => exact hrelease.frame.2.1
  | _ => rfl

/-- After a successful start the slots are counted and there is room for a connection. -/
theorem slotsCounted_run {alloc : InitAlloc} {s₀ s₁ s : Nwld}
    {maxConnections maxSessions smId : UInt32} {commObj : Nat}
    (hinit : skNwldTapiInit alloc s₀ maxConnections maxSessions smId commObj =
      (skErrorSuccess, s₁)) {tr : List NwldStep} (hrun : Run nwldStep s₁ tr s) :
    SlotsCounted s ∧ s.tapi.maxConnections ≠ 0 := by
  have hmax : maxConnections ≠ 0 := by
    rintro rfl
    cases hinit
  have hstart := tableInvariant_of_fresh
    (fresh_init alloc s₀ maxConnections maxSessions smId commObj hmax)
  rw [hinit] at hstart
  have hroom : s₁.tapi.maxConnections = maxConnections := by
    unfold skNwldTapiInit at hinit
    rw [if_neg hmax] at hinit
    simp only at hinit
    split at hinit
    · cases hinit
    split at hinit
    · cases hinit
    · cases hinit
      rfl
  refine hrun.invariant (fun s => SlotsCounted s ∧ s.tapi.maxConnections ≠ 0)
    ⟨⟨hstart.1.contextIds, hstart.1.unused⟩, hroom.symm ▸ hmax⟩ fun call s hs => ?_
  refine wp_of_returns fun r t hstep => ?_
  have hout := nwldStep_cases hstep
  have hclear : SlotsCounted { s with exchanges := [] } := hs.1.of_tapi rfl
  exact ⟨hclear.outcome hout, (maxConnections_outcome hout).symm ▸ hs.2⟩

/-! ## One call -/

section Call

variable {env : NwldEnv} {poc : SkTeecUserOpenContext} {s : Nwld}

/-- How the slot of a non-zero context id is found, or not. -/
theorem claimContextId_run {contextId : UInt32} (hid : contextId ≠ 0) :
    claimContextId env contextId s =
      match s.slotOf contextId with
      | some i => .ok (.ok i, s.shared i)
      | none =>
        if s.tapi.numContextId < skTapiMaxContextIds then
          match s.freeSlot with
          | none => .error .assert
          | some i => .ok (if (env.commRegister (s.tapi.info i).comm contextId s.tapi.smId).1 =
              skErrorSuccess then .ok i else .error skErrorOpenFailed, s.added env i contextId)
        else .ok (.error skErrorOpenContext, s) := by
  have hfind : skNwldTapiPrvFindContextId contextId s = .ok (s.slotOf contextId, s) := by
    unfold skNwldTapiPrvFindContextId
    rw [get_bind_run, require_bind_of hid]
    rfl
  rw [claimContextId, bind_of_ok hfind]
  cases s.slotOf contextId with
  | some i => rfl
  | none =>
    dsimp only
    rw [get_bind_run]
    split
    · next hnum =>
      change (match s.freeSlot with
        | none => _
        | some i => _ : NwldM (Except SkStatus IdSlot)) s = _
      cases s.freeSlot with
      | none => rfl
      | some i =>
        dsimp only
        rw [require_bind_of (by omega), modify_bind_run, get_bind_run, modify_bind_run]
        simp only [Nwld.comm_claimed]
        split
        · rfl
        · next hok =>
          rw [if_pos (not_not.mp hok)]
          rfl
    · rfl

/-- A context id that no call before the failed one has registered is registered
by the next, unless the driver carries all the ids it can. -/
theorem SameTables.registers_again {t t' : Nwld} {contextId : UInt32}
    {r : Except SkStatus IdSlot} (h : SameTables s t) (hslot : s.slotOf contextId = none)
    (hclaim : claimContextId env contextId t = .ok (r, t')) :
    (r = .error skErrorOpenContext ∧ t' = t) ∨ ∃ i, t' = t.added env i contextId := by
  cases claimContextId_cases hclaim with
  | @shared i hused hid =>
    obtain ⟨hused', hid', -⟩ := h.info i
    have hnone := firstSlot_eq_none.mp hslot i
    rw [← hused', ← hid', hused, hid] at hnone
    simp at hnone
  | full _ _ => exact Or.inl ⟨rfl, rfl⟩
  | added _ _ _ _ _ => exact Or.inr ⟨_, rfl⟩
  | unregistered _ _ _ _ _ => exact Or.inr ⟨_, rfl⟩

theorem skNwldTapiGetConnHandle_run {n : UInt32} (hn : n ≠ 0) (table : Nat → TSkSysConnection) :
    skNwldTapiGetConnHandle table n s = .ok
      (match firstUnused (fun i => (table i).used) n.toNat with
      | some i => Int32.ofNat i
      | none => skDrvNoHandleConnections, s) := by
  unfold skNwldTapiGetConnHandle
  rw [require_bind_of hn]
  cases firstUnused (fun i => (table i).used) n.toNat <;> rfl

/-- Once it has its slot, the call ends well exactly if the exchange does; else
the tables stay as the claim left them. -/
theorem openContext_claimed {t : Nwld} {i : IdSlot} (hvalid : env.invalidParam = false)
    (hid : poc.contextId ≠ 0) (hclaim : claimContextId env poc.contextId s = .ok (.ok i, t))
    (hmax : s.tapi.maxConnections ≠ 0) :
    (Exchanges env poc s (t.tapi.info i).comm ∧
      ∀ r s', skNwldTapiOpenContext env poc s = .ok (r, s') → r.1 = skErrorSuccess) ∨
    (¬ Exchanges env poc s (t.tapi.info i).comm ∧
      ∃ err s', err ≠ skErrorSuccess ∧ skNwldTapiOpenContext env poc s = .ok ((err, poc), s') ∧
        s'.tapi = t.tapi) := by
  have hslot := (claimContextId_cases hclaim).slot.2
  obtain ⟨hclist, hconns, hsm, -, -⟩ := (claimContextId_cases hclaim).frame
  have hrun : skNwldTapiOpenContext env poc s = withReply env (some i) .openContextReq
      .openContextResp skTapiOpenContext (·.openContext.resp.status) none
      { env.msg with
        hdr := ⟨poc.contextId, s.tapi.smId, skTapiOpenContext⟩
        type.openContext.req.contextId := poc.contextId } (fun _ => poc) (fun msg _ => do
          let chndle ← skNwldTapiGetConnHandle s.tapi.clist s.tapi.maxConnections
          if chndle = skDrvNoHandleConnections then return (skErrorCommFailed, poc)
          let h ← tableIndex chndle
          modify (·.connected h i msg.type.openContext.resp.contextHandle)
          return (skErrorSuccess, { poc with contextHandle := chndle.toUInt32 })) t := by
    rw [skNwldTapiOpenContext, if_neg (by simp [hvalid]), if_neg hid, bind_of_ok hclaim]
    dsimp only
    rw [get_bind_run, hslot, hclist, hconns, hsm]
  rw [hrun]
  rcases Nat.lt_or_ge env.sendBufferSize Layout.openContextReq.wireLength with hlen | hlen
  · refine Or.inr ⟨fun h => absurd h.1 (Nat.not_le.mpr hlen), skErrorCommFailed, t, by decide, ?_,
      rfl⟩
    unfold withReply
    rw [bind_of_ok (exchange_of_lt hlen)]
    rfl
  generalize hmsg : ({ env.msg with
    hdr := ⟨poc.contextId, s.tapi.smId, skTapiOpenContext⟩
    type.openContext.req.contextId := poc.contextId } : SkMsg) = msg
  -- the request holds nothing but the context id and the header
  have hreq : Layout.openContextReq.format.enc (Layout.openContextReq.fields msg) =
      (SkTeecUserInfo.openContext poc).request poc.contextId s.tapi.smId (Blk.zero 16)
        (Blk.zero 16) := by
    rw [← hmsg]
    rfl
  by_cases hacc : (SkTeecUserInfo.openContext poc).Accepts (env.commProc (t.tapi.info i).comm
      ((SkTeecUserInfo.openContext poc).request poc.contextId s.tapi.smId (Blk.zero 16)
        (Blk.zero 16)) none)
  · rw [withReply_run hlen (checkReply_of_accepted (by decide) (fun _ => rfl)
      (by rw [exchangeOf, hreq]; exact hacc))]
    cases hfree : firstUnused (fun j => (s.tapi.clist j).used) s.tapi.maxConnections.toNat with
    | none =>
      rw [bind_of_ok (skNwldTapiGetConnHandle_run hmax s.tapi.clist), hfree]
      refine Or.inr ⟨fun h => ?_, skErrorCommFailed, _, by decide, rfl, rfl⟩
      obtain ⟨-, -, j, hj, hunused⟩ := h
      rw [firstUnused_eq_none.mp hfree j hj] at hunused
      cases hunused
    | some j =>
      obtain ⟨hj, hunused, -⟩ := firstUnused_eq_some.mp hfree
      refine Or.inl ⟨⟨hlen, hacc, j, hj, hunused⟩, fun r s' hok => ?_⟩
      have hconnect := connect_cases hok
      simp only [hfree] at hconnect
      obtain ⟨-, rfl, -⟩ := hconnect
      rfl
  · refine Or.inr ⟨fun h => hacc h.2.1, ?_⟩
    have hrefused : ∃ err, err ≠ skErrorSuccess ∧ checkReply .openContextResp skTapiOpenContext
        (·.openContext.resp.status) msg (env.commProc (t.tapi.info i).comm
          ((SkTeecUserInfo.openContext poc).request poc.contextId s.tapi.smId (Blk.zero 16)
            (Blk.zero 16)) none) = .error err :=
      checkReply_of_not_accepted (fun _ => rfl) hacc
    obtain ⟨err, herr, hcheck⟩ := hrefused
    refine ⟨err, t.record (exchangeOf env t i
      (Layout.openContextReq.format.enc (Layout.openContextReq.fields msg)) none), herr, ?_, rfl⟩
    unfold withReply
    rw [bind_of_ok (exchange_of_le hlen), exchangeOf, hreq]
    dsimp only
    rw [hcheck]
    rfl

/-- A claim that has found a slot leaves its mark on it. -/
theorem Claim.not_same {contextId : UInt32} {t s' : Nwld} {r : Except SkStatus IdSlot}
    (h : Claim env contextId s r t) (hr : r ≠ .error skErrorOpenContext) (hs : s'.tapi = t.tapi) :
    ¬ SameTables s s' := by
  intro hsame
  have hinfo := hsame.info
  rw [hs] at hinfo
  have hused (i : IdSlot) : ((s.added env i contextId).tapi.info i).used = true := by
    simp [Nwld.added, Nwld.claimed, Nwld.setComm]
  cases h with
  | @shared i _ _ =>
    have hcnt := (hinfo i).2.2
    simp only [Nwld.shared, Nwld.info_updInfo, if_true] at hcnt
    exact absurd hcnt (by simp)
  | full _ _ => exact hr rfl
  | @added i _ _ _ hunused _ =>
    have := (hinfo i).1
    rw [hused, hunused] at this
    cases this
  | @unregistered i _ _ _ hunused _ =>
    have := (hinfo i).1
    rw [hused, hunused] at this
    cases this

theorem failsUnchanged_iff : FailsUnchanged ⟨.openContext poc, env⟩ s ↔
    ∀ r t, skNwldTapiOpenContext env poc { s with exchanges := [] } = .ok (r, t) →
      r.1 ≠ skErrorSuccess → SameTables s t := by
  have hmap (r : SkStatus × SkTeecUserOpenContext) (t : Nwld)
      (h : skNwldTapiOpenContext env poc { s with exchanges := [] } = .ok (r, t)) :
      nwldStep ⟨.openContext poc, env⟩ s = .ok (Prod.map id .openContext r, t) :=
    map_of_ok h _
  constructor
  · intro h r t hrun herr
    exact h _ t (hmap r t hrun) herr
  · intro h r t hrun herr
    obtain ⟨a, ha, rfl⟩ := map_eq_ok (hrun : (Prod.map id SkTeecUserInfo.openContext <$>
      skNwldTapiOpenContext env poc) { s with exchanges := [] } = .ok (r, t))
    exact h a t ha herr

/-- Once the slot is claimed, a failure of the exchange shows. -/
theorem failsUnchanged_claimed {t : Nwld} {i : IdSlot} (hvalid : env.invalidParam = false)
    (hid : poc.contextId ≠ 0) (hmax : s.tapi.maxConnections ≠ 0)
    (hclaim : claimContextId env poc.contextId { s with exchanges := [] } = .ok (.ok i, t)) :
    FailsUnchanged ⟨.openContext poc, env⟩ s ↔ Exchanges env poc s (t.tapi.info i).comm := by
  rw [failsUnchanged_iff]
  rcases openContext_claimed hvalid hid hclaim hmax with
    ⟨hex, hok⟩ | ⟨hnot, err, s', herr, hrun, hs'⟩
  · exact iff_of_true (fun r t hrun hne => absurd (hok r t hrun) hne) hex
  · refine iff_of_false (fun h => ?_) hnot
    have hsame := h _ _ hrun herr
    exact (claimContextId_cases hclaim).not_same (by simp) hs'
      ⟨hsame.info, hsame.ids, hsame.clist, hsame.connections⟩

theorem failsUnchanged_of_refused (h : OpenRefused env poc s) :
    FailsUnchanged ⟨.openContext poc, env⟩ s := by
  have hrun : ∃ err, skNwldTapiOpenContext env poc { s with exchanges := [] } =
      .ok ((err, poc), { s with exchanges := [] }) := by
    unfold skNwldTapiOpenContext
    by_cases hinv : env.invalidParam = true
    · rw [if_pos hinv]
      exact ⟨_, rfl⟩
    rw [if_neg hinv]
    by_cases hid : poc.contextId = 0
    · rw [if_pos hid]
      exact ⟨_, rfl⟩
    rw [if_neg hid]
    rcases h with h | h | ⟨hslot, hfull⟩
    · exact absurd h hinv
    · exact absurd h hid
    · have hclaim : claimContextId env poc.contextId { s with exchanges := [] } = _ :=
        claimContextId_run hid
      rw [show Nwld.slotOf { s with exchanges := [] } poc.contextId = none from hslot] at hclaim
      dsimp only at hclaim
      rw [if_neg (Nat.not_lt.mpr hfull)] at hclaim
      rw [bind_of_ok hclaim]
      exact ⟨_, rfl⟩
  obtain ⟨err, hrun⟩ := hrun
  refine failsUnchanged_iff.mpr fun r t hrun' _ => ?_
  cases hrun.symm.trans hrun'
  exact .of_tapi rfl

/-- A context id that has a slot shares its comm object. -/
theorem failsUnchanged_shared (hvalid : env.invalidParam = false) (hid : poc.contextId ≠ 0)
    (hmax : s.tapi.maxConnections ≠ 0) {i : IdSlot} (hslot : s.slotOf poc.contextId = some i) :
    FailsUnchanged ⟨.openContext poc, env⟩ s ↔ OpenServed env poc s := by
  have hclaim : claimContextId env poc.contextId { s with exchanges := [] } = _ :=
    claimContextId_run hid
  rw [show Nwld.slotOf { s with exchanges := [] } poc.contextId = some i from hslot] at hclaim
  have hcomm : ((Nwld.shared { s with exchanges := [] } i).tapi.info i).comm =
      (s.tapi.info i).comm := by simp [Nwld.shared]
  rw [failsUnchanged_claimed hvalid hid hmax hclaim, hcomm]
  constructor
  · exact fun hex => ⟨_, Or.inl ⟨i, hslot, rfl⟩, hex⟩
  · rintro ⟨comm, ⟨j, hj, rfl⟩ | ⟨hnone, -⟩, hex⟩
    · obtain rfl := Option.some.inj (hslot.symm.trans hj)
      exact hex
    · exact absurd (hslot.symm.trans hnone) (by simp)

/-- A new context id takes a slot, and keeps it when the registration fails. -/
theorem failsUnchanged_added (hvalid : env.invalidParam = false) (hid : poc.contextId ≠ 0)
    (hmax : s.tapi.maxConnections ≠ 0) (hslot : s.slotOf poc.contextId = none)
    (hnum : s.tapi.numContextId < skTapiMaxContextIds) {i : IdSlot} (hfree : s.freeSlot = some i) :
    FailsUnchanged ⟨.openContext poc, env⟩ s ↔ OpenServed env poc s := by
  have hclaim : claimContextId env poc.contextId { s with exchanges := [] } = _ :=
    claimContextId_run hid
  rw [show Nwld.slotOf { s with exchanges := [] } poc.contextId = none from hslot] at hclaim
  dsimp only at hclaim
  rw [if_pos hnum, show Nwld.freeSlot { s with exchanges := [] } = some i from hfree] at hclaim
  dsimp only at hclaim
  have hserved : OpenServed env poc s ↔
      (env.commRegister (s.tapi.info i).comm poc.contextId s.tapi.smId).1 = skErrorSuccess ∧
      Exchanges env poc s (env.commRegister (s.tapi.info i).comm poc.contextId s.tapi.smId).2 := by
    constructor
    · rintro ⟨comm, ⟨j, hj, -⟩ | ⟨-, j, hj, hreg⟩, hex⟩
      · exact absurd (hslot.symm.trans hj) (by simp)
      · obtain rfl := Option.some.inj (hfree.symm.trans hj)
        rw [hreg]
        exact ⟨rfl, hex⟩
    · exact fun ⟨hreg, hex⟩ => ⟨_, Or.inr ⟨hslot, i, hfree, Prod.ext hreg rfl⟩, hex⟩
  rw [hserved]
  by_cases hreg : (env.commRegister (s.tapi.info i).comm poc.contextId s.tapi.smId).1 =
      skErrorSuccess
  · rw [if_pos hreg] at hclaim
    have hcomm : ((Nwld.added env { s with exchanges := [] } i poc.contextId).tapi.info i).comm =
        (env.commRegister (s.tapi.info i).comm poc.contextId s.tapi.smId).2 := by
      simp [Nwld.added, Nwld.setComm]
    rw [failsUnchanged_claimed hvalid hid hmax hclaim, hcomm, and_iff_right hreg]
  · rw [if_neg hreg] at hclaim
    refine iff_of_false (fun h => ?_) fun h => hreg h.1
    have hrun : skNwldTapiOpenContext env poc { s with exchanges := [] } =
        .ok ((skErrorOpenFailed, poc),
          Nwld.added env { s with exchanges := [] } i poc.contextId) := by
      rw [skNwldTapiOpenContext, if_neg (by simp [hvalid]), if_neg hid, bind_of_ok hclaim]
      rfl
    have hsame := failsUnchanged_iff.mp h _ _ hrun
      (show skErrorOpenFailed ≠ skErrorSuccess by decide)
    exact (claimContextId_cases hclaim).not_same (by simp) rfl
      ⟨hsame.info, hsame.ids, hsame.clist, hsame.connections⟩

end Call

/-- A failed open_context call leaves the tables alone exactly if it was refused
before it had a slot; from there on only a call that succeeds does no damage. After
a failure that leaves them alone, the next call registers the id, if it was not. -/
theorem failed_open_unchanged_iff {alloc : InitAlloc} {s₀ s₁ s : Nwld}
    {maxConnections maxSessions smId : UInt32} {commObj : Nat}
    (hinit : skNwldTapiInit alloc s₀ maxConnections maxSessions smId commObj =
      (skErrorSuccess, s₁)) {tr : List NwldStep} (hrun : Run nwldStep s₁ tr s)
    (env : NwldEnv) (poc : SkTeecUserOpenContext) :
    (FailsUnchanged ⟨.openContext poc, env⟩ s ↔ OpenRefused env poc s ∨ OpenServed env poc s) ∧
    (FailsUnchanged ⟨.openContext poc, env⟩ s → s.slotOf poc.contextId = none →
      ∀ r t, nwldStep ⟨.openContext poc, env⟩ s = .ok (r, t) → r.1 ≠ skErrorSuccess →
      ∀ env' r' t', claimContextId env' poc.contextId t = .ok (r', t') →
        (r' = .error skErrorOpenContext ∧ t' = t) ∨ ∃ i, t' = t.added env' i poc.contextId) := by
  refine ⟨?_, fun hfails hslot r t hstep hr env' r' t' hclaim =>
    (hfails r t hstep hr).registers_again hslot hclaim⟩
  obtain ⟨hslots, hmax⟩ := slotsCounted_run hinit hrun
  by_cases hrefused : OpenRefused env poc s
  · exact iff_of_true (failsUnchanged_of_refused hrefused) (Or.inl hrefused)
  have hvalid : env.invalidParam = false := Bool.eq_false_iff.mpr fun h => hrefused (Or.inl h)
  have hid : poc.contextId ≠ 0 := fun h => hrefused (Or.inr (Or.inl h))
  rw [or_iff_right hrefused]
  cases hslot : s.slotOf poc.contextId with
  | some i => exact failsUnchanged_shared hvalid hid hmax hslot
  | none =>
    have hnum : s.tapi.numContextId < skTapiMaxContextIds :=
      Nat.not_le.mp fun hfull => hrefused (Or.inr (Or.inr ⟨hslot, hfull⟩))
    obtain ⟨i, hfree⟩ := hslots.exists_freeSlot hnum
    exact failsUnchanged_added hvalid hid hmax hslot hnum hfree

/-- A call without a send buffer. -/
def sampleInvalidOpen : Call :=
  { sampleNwldOpenContext with
    env := { sampleNwldOpenContext.env with sendBufferSize := 0 } }

/-- A call that meets a full table of context ids, and one without a send buffer, after
which the next one registers the id. -/
theorem failed_open_unchanged_full :
    (∃ tr s, Run nwldStep sampleNwld tr s ∧ s.tapi.numContextId = skTapiMaxContextIds ∧
      FailsUnchanged (.answered (.openContext ⟨9, 0⟩) (fun _ => 5, skErrorSuccess)) s) ∧
    FailsUnchanged sampleInvalidOpen sampleNwld ∧
    ∃ r t r' t' i, nwldStep sampleInvalidOpen sampleNwld = .ok (r, t) ∧ r.1 ≠ skErrorSuccess ∧
      claimContextId sampleNwldOpenContext.env 1 t = .ok (r', t') ∧
      t' = t.added sampleNwldOpenContext.env i 1 := by
  have hinit : skNwldTapiInit ⟨true, true⟩ _ 2 2 2 0 = (skErrorSuccess, sampleNwld) := rfl
  have hrefused := failed_open_unchanged_iff hinit .start sampleInvalidOpen.env ⟨1, 0⟩
  have hunchanged := hrefused.1.mpr (.inl (.inl rfl))
  obtain ⟨tr, s, hrun, -, hfull, hnone⟩ := exists_run_of_execute nwldStep sampleNwld
    ((List.range skTapiMaxContextIds).map fun n =>
      .answered (.openContext ⟨UInt32.ofNat (n + 1), 0⟩) (fun _ => 5, skErrorSuccess))
    (fun _ s => s.tapi.numContextId = skTapiMaxContextIds ∧ s.slotOf 9 = none)
    (by decide +kernel)
  refine ⟨⟨tr, s, hrun, hfull, (failed_open_unchanged_iff hinit hrun _ ⟨9, 0⟩).1.mpr
    (.inl (.inr (.inr ⟨hnone, Nat.le_of_eq hfull.symm⟩)))⟩, hunchanged, ?_⟩
  have hstep : nwldStep sampleInvalidOpen sampleNwld = .ok
      ((skErrorInvalidParam, sampleInvalidOpen.info), { sampleNwld with exchanges := [] }) := rfl
  obtain ⟨i, t', hclaim⟩ : ∃ i t', claimContextId sampleNwldOpenContext.env 1
      { sampleNwld with exchanges := [] } = .ok (.ok i, t') := ⟨_, _, rfl⟩
  rcases hrefused.2 hunchanged rfl _ _ hstep (by decide) _ _ _ hclaim with ⟨herr, _⟩ | ⟨j, hadded⟩
  · cases herr
  · exact ⟨_, _, _, t', j, hstep, by decide, hclaim, hadded⟩

/-- A platform that cannot open a transport. -/
def sampleUnregisteredOpen : Call :=
  { sampleNwldOpenContext with
    env := { sampleNwldOpenContext.env with
      commRegister := fun comm _ _ => (skErrorFailed, comm) } }

/-- The call that fails to register the transport keeps the slot, and the next
one for the same context id does not register it either. -/
theorem failed_open_changed : ¬ FailsUnchanged sampleUnregisteredOpen sampleNwld ∧
    ∃ tr s, Run nwldStep sampleNwld tr s ∧
      tr.map Step.input = [sampleUnregisteredOpen, sampleUnregisteredOpen] ∧
      tr.map (·.result.1) = [skErrorOpenFailed, skErrorSuccess] := by
  obtain ⟨tr, s, hrun, hinputs, hresults, hused⟩ := exists_run_of_execute nwldStep sampleNwld
    [sampleUnregisteredOpen, sampleUnregisteredOpen]
    (fun tr _ => tr.map (·.result.1) = [skErrorOpenFailed, skErrorSuccess] ∧
      ∀ x ∈ tr.head?, (x.post.tapi.info 0).used = true) (by decide +kernel)
  refine ⟨fun hfails => ?_, tr, s, hrun, hinputs, hresults⟩
  match tr, hinputs, hresults, hused, hrun with
  | x :: tr, hinputs, hresults, hused, hrun =>
    have htr : x :: tr = [] ++ x :: tr := rfl
    obtain ⟨hpre, hstep⟩ := hrun.split htr
    rw [hpre.eq_of_nil, (List.cons.inj hinputs).1] at hstep
    have hfailed : x.result.1 = skErrorOpenFailed := (List.cons.inj hresults).1
    have hsame := hfails _ _ hstep (by rw [hfailed]; decide)
    have hinfo := (hsame.info 0).1
    rw [hused x rfl] at hinfo
    exact absurd hinfo (by decide)

end SkSdk
