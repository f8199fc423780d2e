import Mathlib.Data.Finset.Card
import Mathlib.Data.Fintype.Fin
import SkSdk.Nwld.TapiCalls

/-!
The tables of the driver over whole runs. The reference count of a slot rises
before the exchange and the connection is recorded behind it, so the count is
only bounded below by the connections that refer to the slot.
-/

namespace SkSdk
open ByteMemory FaultState

namespace Nwld

def usedConns (s : Nwld) : Finset Nat :=
  (Finset.range s.tapi.maxConnections.toNat).filter fun h => (s.tapi.clist h).used = true

/-- The used connections that refer to slot `i`. -/
def users (s : Nwld) (i : IdSlot) : Finset Nat :=
  s.usedConns.filter fun h => (s.tapi.clist h).contextIdIndex = i

def usedSlots (s : Nwld) : Finset IdSlot := Finset.univ.filter fun i => (s.tapi.info i).used = true

theorem mem_usedSlots {s : Nwld} {i : IdSlot} :
    i ∈ s.usedSlots ↔ (s.tapi.info i).used = true := by
  simp [usedSlots]

theorem usedSlots_claimed (s : Nwld) (i : IdSlot) (contextId : UInt32) :
    (s.claimed i contextId).usedSlots = insert i s.usedSlots := by
  ext c
  by_cases hc : c = i
  · simp [usedSlots, claimed, hc]
  · simp [usedSlots, claimed, hc]

theorem usedSlots_freed (s : Nwld) (i : IdSlot) :
    (s.freed i).usedSlots = s.usedSlots.erase i := by
  ext c
  by_cases hc : c = i
  · simp [usedSlots, freed, hc]
  · simp [usedSlots, freed, hc]

end Nwld

/-- The tables agree with each other. -/
structure TableInvariant (s : Nwld) : Prop where
  connections : s.tapi.numConnections = s.usedConns.card
  contextIds : s.tapi.numContextId = s.usedSlots.card
  bounded : s.tapi.numContextId ≤ skTapiMaxContextIds
  nonzero : ∀ i, (s.tapi.info i).used = true → (s.tapi.info i).contextId ≠ 0
  distinct : ∀ i j, (s.tapi.info i).used = true → (s.tapi.info j).used = true →
    (s.tapi.info i).contextId = (s.tapi.info j).contextId → i = j
  unused : ∀ i, (s.tapi.info i).used = false → (s.tapi.info i).contextIdCnt = 0
  referenced : ∀ h ∈ s.usedConns,
    (s.tapi.info (s.tapi.clist h).contextIdIndex).used = true ∧
    (s.tapi.info (s.tapi.clist h).contextIdIndex).contextId = (s.tapi.clist h).contextId ∧
    (s.tapi.clist h).comm = some (s.tapi.clist h).contextIdIndex
  counted : ∀ i, ((s.users i).card : Int) ≤ (s.tapi.info i).contextIdCnt.toInt

/-! ## Reference counts -/

private theorem toInt_add_one {c : Int32} (h₀ : 0 ≤ c.toInt) (h : c.toInt < 2 ^ 31 - 1) :
    (c + 1).toInt = c.toInt + 1 := by
  have hone : (1 : Int32).toInt = 1 := rfl
  rw [Int32.toInt_add, hone, Int.bmod_def]
  omega

private theorem toInt_sub_one {c : Int32} (h : 0 < c.toInt) : (c - 1).toInt = c.toInt - 1 := by
  have hone : (1 : Int32).toInt = 1 := rfl
  have hlt := c.toInt_lt
  rw [Int32.toInt_sub, hone, Int.bmod_def]
  omega

/-- No reference count is above `n`. -/
def CountsBelow (n : Nat) (s : Nwld) : Prop := ∀ i, (s.tapi.info i).contextIdCnt.toInt ≤ n

theorem TableInvariant.count_nonneg {s : Nwld} (h : TableInvariant s) (i : IdSlot) :
    0 ≤ (s.tapi.info i).contextIdCnt.toInt := by
  have := h.counted i
  omega

section Edits

variable {s t : Nwld} {n : Nat}

/-- Only the fields named matter. -/
theorem TableInvariant.congr (h : TableInvariant s) (hinfo : t.tapi.info = s.tapi.info)
    (hnum : t.tapi.numContextId = s.tapi.numContextId)
    (hconns : t.tapi.numConnections = s.tapi.numConnections)
    (hmax : t.tapi.maxConnections = s.tapi.maxConnections)
    (hclist : ∀ x, (t.tapi.clist x).used = (s.tapi.clist x).used ∧
      (t.tapi.clist x).contextIdIndex = (s.tapi.clist x).contextIdIndex ∧
      (t.tapi.clist x).contextId = (s.tapi.clist x).contextId ∧
      (t.tapi.clist x).comm = (s.tapi.clist x).comm) : TableInvariant t := by
  have hused : t.usedConns = s.usedConns := by
    simp only [Nwld.usedConns, hmax, fun x => (hclist x).1]
  have husers (i : IdSlot) : t.users i = s.users i := by
    simp only [Nwld.users, hused, fun x => (hclist x).2.1]
  have hslots : t.usedSlots = s.usedSlots := by
    simp only [Nwld.usedSlots, hinfo]
  constructor
  · rw [hconns, hused]
    exact h.connections
  · rw [hnum, hslots]
    exact h.contextIds
  · rw [hnum]
    exact h.bounded
  · rw [hinfo]
    exact h.nonzero
  · rw [hinfo]
    exact h.distinct
  · rw [hinfo]
    exact h.unused
  · intro x hx
    obtain ⟨-, hindex, hid, hcomm⟩ := hclist x
    rw [hinfo, hindex, hid, hcomm]
    exact h.referenced x (hused ▸ hx)
  · intro i
    rw [husers, hinfo]
    exact h.counted i

/-- The connections stay and so do the slots, all but their counts. -/
theorem TableInvariant.recount (h : TableInvariant s)
    (hslot : ∀ c, (t.tapi.info c).used = (s.tapi.info c).used ∧
      (t.tapi.info c).contextId = (s.tapi.info c).contextId)
    (hclist : t.tapi.clist = s.tapi.clist) (hmax : t.tapi.maxConnections = s.tapi.maxConnections)
    (hconns : t.tapi.numConnections = s.tapi.numConnections)
    (hnum : t.tapi.numContextId = s.tapi.numContextId)
    (hunused : ∀ c, (s.tapi.info c).used = false → (t.tapi.info c).contextIdCnt = 0)
    (hcnt : ∀ c, ((s.users c).card : Int) ≤ (t.tapi.info c).contextIdCnt.toInt) :
    TableInvariant t := by
  have hused : t.usedConns = s.usedConns := by
    simp only [Nwld.usedConns, hclist, hmax]
  have husers (c : IdSlot) : t.users c = s.users c := by
    simp only [Nwld.users, hused, hclist]
  constructor
  · rw [hconns, hused]
    exact h.connections
  · have hslots : t.usedSlots = s.usedSlots := by
      simp only [Nwld.usedSlots, fun c => (hslot c).1]
    rw [hnum, hslots]
    exact h.contextIds
  · rw [hnum]
    exact h.bounded
  · intro c hc
    rw [(hslot c).1] at hc
    rw [(hslot c).2]
    exact h.nonzero c hc
  · intro c d hc hd
    rw [(hslot c).1] at hc
    rw [(hslot d).1] at hd
    rw [(hslot c).2, (hslot d).2]
    exact h.distinct c d hc hd
  · intro c hc
    rw [(hslot c).1] at hc
    exact hunused c hc
  · intro x hx
    rw [hused] at hx
    rw [hclist, (hslot _).1, (hslot _).2]
    exact h.referenced x hx
  · intro c
    rw [husers]
    exact hcnt c

theorem TableInvariant.shared (h : TableInvariant s) (hbelow : CountsBelow n s)
    (hn : n < 2 ^ 31 - 1) {i : IdSlot} (hused : (s.tapi.info i).used = true) :
    TableInvariant (s.shared i) ∧ CountsBelow (n + 1) (s.shared i) ∧
      (((s.shared i).users i).card : Int) < ((s.shared i).tapi.info i).contextIdCnt.toInt := by
  have hsucc : ((s.tapi.info i).contextIdCnt + 1).toInt = (s.tapi.info i).contextIdCnt.toInt + 1 :=
    toInt_add_one (h.count_nonneg i) (by have := hbelow i; omega)
  have hcnt (c : IdSlot) : ((s.shared i).tapi.info c).contextIdCnt.toInt =
      (s.tapi.info c).contextIdCnt.toInt + if c = i then 1 else 0 := by
    by_cases hc : c = i
    · subst hc
      simpa [Nwld.shared] using hsucc
    · simp [Nwld.shared, hc]
  refine ⟨h.recount ?_ rfl rfl rfl rfl ?_ ?_, ?_, ?_⟩
  · intro c
    by_cases hc : c = i
    · subst hc
      simp [Nwld.shared]
    · simp [Nwld.shared, hc]
  · intro c hc
    have hne : c ≠ i := by
      rintro rfl
      rw [hused] at hc
      cases hc
    simpa [Nwld.shared, hne] using h.unused c hc
  · intro c
    have := h.counted c
    rw [hcnt c]
    split <;> omega
  · intro c
    have := hbelow c
    rw [hcnt c]
    push_cast
    split <;> omega
  · have hle : ((s.users i).card : Int) ≤ _ := h.counted i
    have husers : (s.shared i).users i = s.users i := rfl
    rw [husers, hcnt i, if_pos rfl]
    omega

theorem TableInvariant.setComm (h : TableInvariant s) (c : IdSlot) (comm : SkNwldTeecComm) :
    TableInvariant (s.setComm c comm) := by
  refine h.recount (fun d => ⟨?_, ?_⟩) rfl rfl rfl rfl (fun d hd => ?_) fun d => ?_
  · exact Nwld.used_setComm s c d comm
  · exact Nwld.contextId_setComm s c d comm
  · rw [Nwld.contextIdCnt_setComm, h.unused d hd]
  · rw [Nwld.contextIdCnt_setComm]
    exact h.counted d

theorem TableInvariant.claimed (h : TableInvariant s) {i : IdSlot} {contextId : UInt32}
    (hid : contextId ≠ 0)
    (hnew : ∀ i, (s.tapi.info i).used = true → (s.tapi.info i).contextId ≠ contextId)
    (hnum : s.tapi.numContextId < skTapiMaxContextIds) (hunused : (s.tapi.info i).used = false) :
    TableInvariant (s.claimed i contextId) := by
  have hself : ((s.claimed i contextId).tapi.info i).contextId = contextId := by
    simp [Nwld.claimed]
  have hother (c : IdSlot) (hc : c ≠ i) : (s.claimed i contextId).tapi.info c = s.tapi.info c := by
    simp [Nwld.claimed, hc]
  constructor
  · exact h.connections
  · rw [Nwld.usedSlots_claimed, Finset.card_insert_of_notMem (by simp [Nwld.mem_usedSlots, hunused])]
    exact congrArg (· + 1) h.contextIds
  · exact hnum
  · intro c hc
    by_cases hci : c = i
    · subst hci
      rwa [hself]
    · rw [hother c hci] at hc ⊢
      exact h.nonzero c hc
  · intro c d hc hd heq
    by_cases hci : c = i <;> by_cases hdi : d = i
    · rw [hci, hdi]
    · subst hci
      rw [hother d hdi] at hd heq
      rw [hself] at heq
      exact absurd heq.symm (hnew d hd)
    · subst hdi
      rw [hother c hci] at hc heq
      rw [hself] at heq
      exact absurd heq (hnew c hc)
    · rw [hother c hci] at hc heq
      rw [hother d hdi] at hd heq
      exact h.distinct c d hc hd heq
  · intro c hc
    by_cases hci : c = i
    · simp [Nwld.claimed, hci] at hc
    · rw [hother c hci] at hc ⊢
      exact h.unused c hc
  · intro x hx
    obtain ⟨hused, hrest⟩ := h.referenced x hx
    have hne : (s.tapi.clist x).contextIdIndex ≠ i := by
      intro heq
      rw [heq, hunused] at hused
      cases hused
    have hclist : (s.claimed i contextId).tapi.clist = s.tapi.clist := rfl
    rw [hclist, hother _ hne]
    exact ⟨hused, hrest⟩
  · intro c
    have husers : (s.claimed i contextId).users c = s.users c := rfl
    have hle := h.counted c
    rw [husers]
    by_cases hci : c = i
    · subst hci
      rw [h.unused c hunused] at hle
      simp only [Nwld.claimed, Nwld.info_updInfo, if_true, h.unused c hunused]
      exact Int.le_trans hle (by decide)
    · rwa [hother c hci]

theorem TableInvariant.added (h : TableInvariant s) (hbelow : CountsBelow n s)
    (env : NwldEnv) {i : IdSlot} {contextId : UInt32} (hid : contextId ≠ 0)
    (hnew : ∀ i, (s.tapi.info i).used = true → (s.tapi.info i).contextId ≠ contextId)
    (hnum : s.tapi.numContextId < skTapiMaxContextIds) (hunused : (s.tapi.info i).used = false) :
    TableInvariant (s.added env i contextId) ∧ CountsBelow (n + 1) (s.added env i contextId) ∧
      (((s.added env i contextId).users i).card : Int) <
        ((s.added env i contextId).tapi.info i).contextIdCnt.toInt := by
  have hself : ((s.added env i contextId).tapi.info i).contextIdCnt.toInt = 1 := by
    simp only [Nwld.added, Nwld.contextIdCnt_setComm, Nwld.claimed, Nwld.info_updInfo, if_true,
      h.unused i hunused]
    rfl
  refine ⟨(h.claimed hid hnew hnum hunused).setComm i _, fun c => ?_, ?_⟩
  · by_cases hc : c = i
    · rw [hc, hself]
      omega
    · have hother : (s.added env i contextId).tapi.info c = s.tapi.info c := by
        simp [Nwld.added, Nwld.claimed, Nwld.setComm, hc]
      have := hbelow c
      rw [hother]
      push_cast
      omega
  · have hle := h.counted i
    have hzero : (0 : Int32).toInt = 0 := rfl
    have husers : (s.added env i contextId).users i = s.users i := rfl
    rw [h.unused i hunused] at hle
    rw [husers, hself]
    omega

/-- A claim leaves its slot with a count that no connection has used up yet. -/
theorem TableInvariant.claim (h : TableInvariant s) (hbelow : CountsBelow n s)
    (hn : n < 2 ^ 31 - 1) {env : NwldEnv} {contextId : UInt32} {r : Except SkStatus IdSlot}
    (hc : Claim env contextId s r t) :
    TableInvariant t ∧ CountsBelow (n + 1) t ∧
      ∀ i, r = .ok i → ((t.users i).card : Int) < (t.tapi.info i).contextIdCnt.toInt := by
  have hweaken : CountsBelow (n + 1) s := by
    intro c
    have := hbelow c
    push_cast
    omega
  cases hc with
  | shared hused _ =>
    obtain ⟨hinv, hcnt, hlt⟩ := h.shared hbelow hn hused
    exact ⟨hinv, hcnt, fun j hj => by cases hj; exact hlt⟩
  | full _ _ => exact ⟨h, hweaken, fun _ hj => by cases hj⟩
  | added hid hnew hnum hunused _ =>
    obtain ⟨hinv, hcnt, hlt⟩ := h.added hbelow env hid hnew hnum hunused
    exact ⟨hinv, hcnt, fun j hj => by cases hj; exact hlt⟩
  | unregistered hid hnew hnum hunused _ =>
    obtain ⟨hinv, hcnt, -⟩ := h.added hbelow env hid hnew hnum hunused
    exact ⟨hinv, hcnt, fun _ hj => by cases hj⟩

theorem TableInvariant.connected (h : TableInvariant s) {x : Nat} {i : IdSlot} (context : Handle)
    (hused : (s.tapi.info i).used = true)
    (hlt : ((s.users i).card : Int) < (s.tapi.info i).contextIdCnt.toInt)
    (hx : x < s.tapi.maxConnections.toNat) (hfree : (s.tapi.clist x).used = false) :
    TableInvariant (s.connected x i context) := by
  have hinfo : (s.connected x i context).tapi.info = s.tapi.info := rfl
  have hother (y : Nat) (hy : y ≠ x) :
      (s.connected x i context).tapi.clist y = s.tapi.clist y := by
    simp [Nwld.connected, hy]
  have hnot : x ∉ s.usedConns := by simp [Nwld.usedConns, hfree]
  have hconns : (s.connected x i context).usedConns = insert x s.usedConns := by
    ext y
    by_cases hy : y = x
    · subst hy
      simp [Nwld.usedConns, Nwld.connected, hx]
    · simp [Nwld.usedConns, hy, Nwld.connected]
  have husers (c : IdSlot) (y : Nat) : y ∈ (s.connected x i context).users c ↔
      (y = x ∧ c = i) ∨ y ∈ s.users c := by
    rw [Nwld.users, Finset.mem_filter, hconns, Finset.mem_insert, Nwld.users, Finset.mem_filter]
    by_cases hy : y = x
    · subst hy
      simp [Nwld.connected, hnot, eq_comm]
    · simp [hother y hy, hy]
  constructor
  · rw [hconns, Finset.card_insert_of_notMem hnot]
    exact congrArg (· + 1) h.connections
  · exact h.contextIds
  · exact h.bounded
  · exact h.nonzero
  · exact h.distinct
  · exact h.unused
  · intro y hy
    rw [hinfo]
    by_cases hyx : y = x
    · subst hyx
      simp [Nwld.connected, hused]
    · rw [hconns, Finset.mem_insert] at hy
      rw [hother y hyx]
      exact h.referenced y (hy.resolve_left hyx)
  · intro c
    rw [hinfo]
    by_cases hc : c = i
    · subst hc
      have hset : (s.connected x c context).users c = insert x (s.users c) := by
        ext y
        rw [husers, Finset.mem_insert]
        simp
      have hnew : x ∉ s.users c := fun hmem => hnot (Finset.mem_filter.mp hmem).1
      rw [hset, Finset.card_insert_of_notMem hnew]
      push_cast
      omega
    · have hset : (s.connected x i context).users c = s.users c := by
        ext y
        rw [husers]
        simp [hc]
      rw [hset]
      exact h.counted c

theorem TableInvariant.disconnected (h : TableInvariant s) {x : Nat} (hx : x ∈ s.usedConns) :
    TableInvariant (s.disconnected x) ∧
      (((s.disconnected x).users (s.tapi.clist x).contextIdIndex).card : Int) <
        (s.tapi.info (s.tapi.clist x).contextIdIndex).contextIdCnt.toInt := by
  have hother (y : Nat) (hy : y ≠ x) : (s.disconnected x).tapi.clist y = s.tapi.clist y := by
    simp [Nwld.disconnected, hy]
  have hself : ((s.disconnected x).tapi.clist x).used = false := by
    simp [Nwld.disconnected, TSkSysConnection.zero]
  have hconns : (s.disconnected x).usedConns = s.usedConns.erase x := by
    ext y
    by_cases hy : y = x
    · subst hy
      simp [Nwld.usedConns, hself]
    · simp [Nwld.usedConns, hy, Nwld.disconnected]
  have husers (c : IdSlot) : (s.disconnected x).users c = (s.users c).erase x := by
    ext y
    rw [Nwld.users, Finset.mem_filter, hconns, Finset.mem_erase, Finset.mem_erase, Nwld.users,
      Finset.mem_filter]
    by_cases hy : y = x
    · simp [hy]
    · simp [hother y hy, hy]
  constructor
  · constructor
    · rw [hconns, Finset.card_erase_of_mem hx]
      exact congrArg (· - 1) h.connections
    · exact h.contextIds
    · exact h.bounded
    · exact h.nonzero
    · exact h.distinct
    · exact h.unused
    · intro y hy
      rw [hconns, Finset.mem_erase] at hy
      rw [hother y hy.1]
      exact h.referenced y hy.2
    · intro c
      rw [husers]
      exact Int.le_trans (Int.ofNat_le.mpr (Finset.card_le_card (Finset.erase_subset _ _)))
        (h.counted c)
  · have hmem : x ∈ s.users (s.tapi.clist x).contextIdIndex := Finset.mem_filter.mpr ⟨hx, rfl⟩
    have hle := h.counted (s.tapi.clist x).contextIdIndex
    have hcard := Finset.card_erase_lt_of_mem hmem
    rw [husers]
    omega

/-- A slot that keeps a count of at least one. -/
theorem TableInvariant.unshared (h : TableInvariant s) (hbelow : CountsBelow n s) {i : IdSlot}
    (hlt : ((s.users i).card : Int) < (s.tapi.info i).contextIdCnt.toInt) :
    TableInvariant (s.unshared i) ∧ CountsBelow n (s.unshared i) := by
  have hpred : ((s.tapi.info i).contextIdCnt - 1).toInt = (s.tapi.info i).contextIdCnt.toInt - 1 :=
    toInt_sub_one (by omega)
  have hcnt (c : IdSlot) : ((s.unshared i).tapi.info c).contextIdCnt.toInt =
      (s.tapi.info c).contextIdCnt.toInt - if c = i then 1 else 0 := by
    by_cases hc : c = i
    · subst hc
      simpa [Nwld.unshared] using hpred
    · simp [Nwld.unshared, hc]
  constructor
  · refine h.recount ?_ rfl rfl rfl rfl ?_ ?_
    · intro c
      by_cases hc : c = i
      · subst hc
        simp [Nwld.unshared]
      · simp [Nwld.unshared, hc]
    · intro c hc
      have hne : c ≠ i := by
        rintro rfl
        have hzero : (0 : Int32).toInt = 0 := rfl
        rw [h.unused c hc] at hlt
        omega
      simpa [Nwld.unshared, hne] using h.unused c hc
    · intro c
      have hle := h.counted c
      rw [hcnt c]
      by_cases hc : c = i
      · subst hc
        rw [if_pos rfl]
        omega
      · rw [if_neg hc]
        omega
  · intro c
    have := hbelow c
    rw [hcnt c]
    split <;> omega

/-- A slot without references is given back. -/
theorem TableInvariant.freed (h : TableInvariant s) {i : IdSlot}
    (hused : (s.tapi.info i).used = true) (hcnt : (s.tapi.info i).contextIdCnt = 0) :
    TableInvariant (s.freed i) := by
  have hself : ((s.freed i).tapi.info i).used = false := by simp [Nwld.freed]
  have hcounts (c : IdSlot) :
      ((s.freed i).tapi.info c).contextIdCnt = (s.tapi.info c).contextIdCnt := by
    by_cases hc : c = i
    · simp [Nwld.freed, hc]
    · simp [Nwld.freed, hc]
  have hother (c : IdSlot) (hc : ((s.freed i).tapi.info c).used = true) :
      (s.freed i).tapi.info c = s.tapi.info c := by
    have hne : c ≠ i := by
      rintro rfl
      rw [hself] at hc
      cases hc
    simp [Nwld.freed, hne]
  constructor
  · exact h.connections
  · rw [Nwld.usedSlots_freed, Finset.card_erase_of_mem (Nwld.mem_usedSlots.mpr hused)]
    exact congrArg (· - 1) h.contextIds
  · exact Nat.le_trans (Nat.sub_le _ 1) h.bounded
  · intro c hc
    have hsame := hother c hc
    rw [hsame] at hc ⊢
    exact h.nonzero c hc
  · intro c d hc hd heq
    have hsame := hother c hc
    have hsame' := hother d hd
    rw [hsame] at hc heq
    rw [hsame'] at hd heq
    exact h.distinct c d hc hd heq
  · intro c hc
    rw [hcounts]
    by_cases hci : c = i
    · rw [hci, hcnt]
    · exact h.unused c (by simpa [Nwld.freed, hci] using hc)
  · intro y hy
    have hempty : s.users i = ∅ := by
      have hle := h.counted i
      have hzero : (0 : Int32).toInt = 0 := rfl
      rw [hcnt, hzero] at hle
      exact Finset.card_eq_zero.mp (by omega)
    have hne : (s.tapi.clist y).contextIdIndex ≠ i := by
      intro heq
      have hmem : y ∈ s.users i := Finset.mem_filter.mpr ⟨hy, heq⟩
      rw [hempty] at hmem
      cases hmem
    have hclist : (s.freed i).tapi.clist = s.tapi.clist := rfl
    have hinfo : (s.freed i).tapi.info (s.tapi.clist y).contextIdIndex =
        s.tapi.info (s.tapi.clist y).contextIdIndex := by
      simp [Nwld.freed, hne]
    rw [hclist, hinfo]
    exact h.referenced y hy
  · intro c
    rw [hcounts]
    exact h.counted c

/-- The last connection that refers to a slot gives it back. -/
theorem TableInvariant.released (h : TableInvariant s) (hbelow : CountsBelow n s) (env : NwldEnv)
    {i : IdSlot} (c : IdSlot) (hused : (s.tapi.info i).used = true)
    (hlt : ((s.users i).card : Int) < (s.tapi.info i).contextIdCnt.toInt)
    (hlast : (s.tapi.info i).contextIdCnt - 1 = 0) :
    TableInvariant ((s.unregistered env i c).freed i) ∧
      CountsBelow n ((s.unregistered env i c).freed i) := by
  obtain ⟨hunshared, hcounts⟩ := h.unshared hbelow hlt
  constructor
  · refine (hunshared.setComm c _).freed ?_ ?_
    · rw [Nwld.used_setComm]
      simpa [Nwld.unshared] using hused
    · rw [Nwld.contextIdCnt_setComm, Nwld.contextIdCnt_unshared, hlast]
  · intro d
    have hd : ((((s.unregistered env i c).freed i).tapi.info d).contextIdCnt) =
        ((s.unshared i).tapi.info d).contextIdCnt := by
      by_cases hdi : d = i
      · simp [Nwld.freed, Nwld.unregistered, hdi]
      · simp [Nwld.freed, Nwld.unregistered, hdi]
    rw [hd]
    exact hcounts d

end Edits

/-! ## Runs -/

section Runs

variable {s t : Nwld} {n : Nat}

theorem TableInvariant.of_tapi (h : TableInvariant s) (ht : t.tapi = s.tapi) :
    TableInvariant t := by
  refine h.congr ?_ ?_ ?_ ?_ ?_ <;> rw [ht]
  exact fun _ => ⟨rfl, rfl, rfl, rfl⟩

theorem CountsBelow.of_info (h : CountsBelow n s) (ht : t.tapi.info = s.tapi.info) :
    CountsBelow (n + 1) t := by
  intro i
  have := h i
  rw [ht]
  push_cast
  omega

/-- What a call leaves that only edits sessions. -/
theorem TableInvariant.updConn (h : TableInvariant s) (x : Nat)
    {f : TSkSysConnection → TSkSysConnection}
    (hf : ∀ u, (f u).used = u.used ∧ (f u).contextIdIndex = u.contextIdIndex ∧
      (f u).contextId = u.contextId ∧ (f u).comm = u.comm) : TableInvariant (s.updConn x f) := by
  refine h.congr rfl rfl rfl rfl fun y => ?_
  rw [Nwld.clist_updConn]
  split
  · next hy =>
    rw [hy]
    exact hf _
  · exact ⟨rfl, rfl, rfl, rfl⟩

theorem Sends.mem_usedConns {call : Call} {hd : UInt32} {pconn : TSkSysConnection}
    {session : Handle} {e : NwldExchange} (h : Sends call s hd pconn session e) :
    hd.toNat ∈ s.usedConns ∧ pconn = s.tapi.clist hd.toNat := by
  obtain ⟨hlt, hused, heq⟩ := SkNwldTapi.connection_eq_some h.connection
  refine ⟨Finset.mem_filter.mpr ⟨Finset.mem_range.mpr hlt, ?_⟩, heq⟩
  rw [← heq]
  exact hused

theorem TableInvariant.outcome (h : TableInvariant s) (hbelow : CountsBelow n s)
    (hn : n < 2 ^ 31 - 1) {call : Call} {r : SkStatus × SkTeecUserInfo}
    (hunreg : ∀ comm, (call.env.commUnregister comm).1 = skErrorSuccess)
    (hout : CallOutcome call s r t) : TableInvariant t ∧ CountsBelow (n + 1) t := by
  have hsame {u : Nwld} (hu : u.tapi = s.tapi) : TableInvariant u ∧ CountsBelow (n + 1) u :=
    ⟨h.of_tapi hu, hbelow.of_info (by rw [hu])⟩
  cases hout with
  | refused _ => exact hsame rfl
  | unclaimed _ hclaim =>
    obtain ⟨hinv, hcnt, -⟩ := h.claim hbelow hn hclaim
    exact ⟨hinv, hcnt⟩
  | unsent _ hclaim =>
    obtain ⟨hinv, hcnt, -⟩ := h.claim hbelow hn hclaim
    exact ⟨hinv, hcnt⟩
  | unopened _ hclaim _ _ _ =>
    obtain ⟨hinv, hcnt, -⟩ := h.claim hbelow hn hclaim
    exact ⟨hinv.of_tapi rfl, hcnt⟩
  | @openedContext _ i u e x _ hclaim _ _ hfree _ =>
    obtain ⟨hinv, hcnt, hlt⟩ := h.claim hbelow hn hclaim
    obtain ⟨hmax, hunused, -⟩ := firstUnused_eq_some.mp hfree
    have hrec : TableInvariant (u.record e) := hinv.of_tapi rfl
    exact ⟨hrec.connected _ hclaim.slot.1 (hlt i rfl) hmax hunused, hcnt⟩
  | rejected _ _ _ => exact hsame rfl
  | unreleased _ _ _ hrelease herr =>
    cases hrelease with
    | kept _ _ => exact absurd rfl herr
    | failed _ _ hfailed => exact absurd (hunreg _) hfailed
    | freed _ _ _ _ => exact absurd rfl herr
  | @closedContext pcc pconn _ e u _ hsends _ hrelease _ =>
    obtain ⟨hmem, rfl⟩ := hsends.mem_usedConns
    have hrec : TableInvariant (s.record e) := h.of_tapi rfl
    obtain ⟨hdis, hlt⟩ := hrec.disconnected hmem
    have hcnt : CountsBelow (n + 1) ((s.record e).disconnected pcc.contextHandle.toNat) :=
      hbelow.of_info rfl
    have hused := (hrec.referenced _ hmem).1
    -- wiping the connection and editing its slot commute
    cases hrelease with
    | kept _ _ => exact hdis.unshared hcnt hlt
    | freed hlast _ _ _ => exact hdis.released hcnt call.env _ hused hlt hlast
  | sessionsFull _ _ _ _ _ => exact hsame rfl
  | @openedSession pos _ _ _ _ _ _ _ _ _ _ _ =>
    have hconn : TableInvariant (s.updConn pos.contextHandle.toNat fun u =>
        { u with numSessions := u.numSessions + 1 }) := h.updConn _ fun _ => ⟨rfl, rfl, rfl, rfl⟩
    exact ⟨hconn.of_tapi rfl, hbelow.of_info rfl⟩
  | @closedSession pcs _ _ _ _ _ _ _ _ _ =>
    have hconn : TableInvariant (s.updConn pcs.contextHandle.toNat fun u =>
        { u with numSessions := u.numSessions - 1 }) := h.updConn _ fun _ => ⟨rfl, rfl, rfl, rfl⟩
    exact ⟨hconn.of_tapi rfl, hbelow.of_info rfl⟩
  | invoked _ _ _ => exact hsame rfl
  | registered _ _ _ _ => exact hsame rfl
  | unregistered _ _ _ => exact hsame rfl

theorem TableInvariant.step (h : TableInvariant s) (hbelow : CountsBelow n s)
    (hn : n < 2 ^ 31 - 1) {call : Call} {r : SkStatus × SkTeecUserInfo}
    (hunreg : ∀ comm, (call.env.commUnregister comm).1 = skErrorSuccess)
    (hstep : nwldStep call s = .ok (r, t)) : TableInvariant t ∧ CountsBelow (n + 1) t := by
  have hstart : TableInvariant { s with exchanges := [] } := h.of_tapi rfl
  exact hstart.outcome hbelow hn hunreg (nwldStep_cases hstep)

/-- Tables in which nothing is in use. -/
theorem tableInvariant_of_fresh {maxSessions : UInt32} (h : s.Fresh maxSessions) :
    TableInvariant s ∧ CountsBelow 0 s := by
  have hempty : s.usedConns = ∅ := Finset.filter_eq_empty_iff.mpr fun x _ => by simp [h.unused x]
  have hslots : s.usedSlots = ∅ := Finset.filter_eq_empty_iff.mpr fun i _ => by simp [h.info i]
  refine ⟨⟨?_, ?_, ?_, ?_, ?_, ?_, ?_, ?_⟩, ?_⟩
  · rw [h.connections, hempty, Finset.card_empty]
  · rw [h.ids, hslots, Finset.card_empty]
  · rw [h.ids]
    exact Nat.zero_le _
  · intro i hi
    rw [(h.info i).1] at hi
    cases hi
  · intro i j hi
    rw [(h.info i).1] at hi
    cases hi
  · exact fun i _ => (h.info i).2
  · intro x hx
    rw [hempty] at hx
    cases hx
  · intro i
    rw [Nwld.users, hempty, Finset.filter_empty, (h.info i).2]
    decide
  · intro i
    rw [(h.info i).2]
    decide

theorem TableInvariant.run {s₀ : Nwld} {tr : List NwldStep}
    (h : TableInvariant s₀) (hbelow : CountsBelow 0 s₀) (hrun : Run nwldStep s₀ tr s)
    (hunreg : ∀ x ∈ tr, ∀ comm, (x.input.env.commUnregister comm).1 = skErrorSuccess)
    (hlen : tr.length < 2 ^ 31) : TableInvariant s := by
  have hinv := hrun.invariant_of
    (fun x => ∀ comm, (x.input.env.commUnregister comm).1 = skErrorSuccess) hunreg
    (fun tr s => tr.length < 2 ^ 31 → TableInvariant s ∧ CountsBelow tr.length s)
    (fun _ => ⟨h, hbelow⟩)
    (by
      intro tr s call r t ih hstep hcond hlong
      rw [List.length_append, List.length_singleton] at hlong ⊢
      obtain ⟨hprev, hcnt⟩ := ih (by omega)
      exact hprev.step hcnt (by omega) hcond hstep)
  exact (hinv hlen).1

end Runs

/-! ## Sample data -/

/-- The platform of a server that answers `bytes`. -/
def sampleNwldEnv (bytes : List UInt8) : NwldEnv where
  nullArgument := false
  sendBuffer := Mem.ofList []
  sendBufferSize := 64
  recvBufferSize := 64
  msg := .zero
  commRegister comm _ _ := (skErrorSuccess, comm)
  commUnregister comm := (skErrorSuccess, comm)
  commProc _ _ op := ⟨skErrorSuccess, Mem.ofList bytes, bytes.length, op⟩
  openMemory _ := skErrorSuccess
  closeMemory _ := skErrorSuccess

/-- A call that is answered with the members `v` of its response. -/
def Call.answered (info : SkTeecUserInfo) (v : info.respLayout.Fields) : Call :=
  ⟨info, sampleNwldEnv (info.respLayout.format.enc (⟨1, 2, info.cmd⟩, v))⟩

/-- Two connections, the session array of the first with two entries. -/
def sampleNwld : Nwld :=
  (skNwldTapiInit ⟨true, true⟩ ⟨⟨fun _ => .zero, fun _ => .zero, 0, 0, 0, 0⟩,
    fun _ _ => .zero, []⟩ 2 2 2 0).2

def sampleNwldOpenContext : Call :=
  .answered (.openContext ⟨1, 0⟩) (fun _ => 5, skErrorSuccess)

def sampleNwldOpenSession (h : UInt32) : Call :=
  .answered (.openSession ⟨h, fun _ => 3, 0⟩) (fun _ => 7, skErrorSuccess)

def sampleNwldCloseContext (h : UInt32) : Call :=
  .answered (.closeContext ⟨h⟩) skErrorSuccess

/-- After any run of fewer than 2^31 calls the tables agree with each other,
and no call gave back the slot of a connection that is in use. -/
theorem nwld_table_invariant (alloc : InitAlloc) (s₀ : Nwld)
    (maxConnections maxSessions smId : UInt32) (commObj : Nat) (hmax : maxConnections ≠ 0)
    {tr : List NwldStep} {s : Nwld}
    (hrun : Run nwldStep
      (skNwldTapiInit alloc s₀ maxConnections maxSessions smId commObj).2 tr s)
    (hunreg : ∀ x ∈ tr, ∀ comm, (x.input.env.commUnregister comm).1 = skErrorSuccess)
    (hlen : tr.length < 2 ^ 31) :
    TableInvariant s ∧
      ∀ x ∈ tr, ∀ i, (x.pre.tapi.info i).used = true → (x.post.tapi.info i).used = false →
        ∀ h ∈ x.post.usedConns, (x.post.tapi.clist h).contextIdIndex ≠ i := by
  obtain ⟨hinit, hbelow⟩ :=
    tableInvariant_of_fresh (fresh_init alloc s₀ maxConnections maxSessions smId commObj hmax)
  refine ⟨hinit.run hbelow hrun hunreg hlen, ?_⟩
  intro x hx i _ hreleased h hh heq
  obtain ⟨before, after, rfl⟩ := List.append_of_mem hx
  obtain ⟨hpre, hstep⟩ := hrun.split rfl
  have hpost : TableInvariant x.post := by
    refine hinit.run hbelow (hpre.next hstep) ?_ ?_
    · intro y hy
      refine hunreg y ?_
      rcases List.mem_append.mp hy with hy | hy
      · exact List.mem_append_left _ hy
      · rw [List.mem_singleton.mp hy]
        exact hx
    · simp only [List.length_append, List.length_cons, List.length_nil] at hlen ⊢
      omega
  have hused := (hpost.referenced h hh).1
  rw [heq, hreleased] at hused
  cases hused

/-- Two connections to one context id, one of them closed again. -/
theorem nwld_table_invariant_shared : ∃ tr s, Run nwldStep sampleNwld tr s ∧
    (s.tapi.info 0).contextIdCnt = 1 ∧ TableInvariant s := by
  obtain ⟨tr, s, hrun, hinputs, hcnt⟩ := exists_run_of_execute nwldStep sampleNwld
    [sampleNwldOpenContext, sampleNwldOpenContext, sampleNwldCloseContext 0]
    (fun _ s => (s.tapi.info 0).contextIdCnt = 1) (by decide +kernel)
  have hlen : tr.length = 3 := by
    rw [← List.length_map Step.input, hinputs]
    rfl
  refine ⟨tr, s, hrun, hcnt,
    (nwld_table_invariant ⟨true, true⟩ _ 2 2 2 0 (by decide) hrun ?_ (by omega)).1⟩
  intro x hx comm
  have hcall := List.mem_map_of_mem (f := Step.input) hx
  rw [hinputs] at hcall
  simp only [List.mem_cons, List.not_mem_nil, or_false] at hcall
  rcases hcall with h | h | h <;> (
    rw [h]
    rfl)

end SkSdk
