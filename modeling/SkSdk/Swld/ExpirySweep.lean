import SkSdk.Swld.Accounting

/-!
What an expiry sweep leaves: of every context that does not expire, the sessions
before the first expired one and, whatever their age, those behind it.
-/

namespace SkSdk
open ByteMemory FaultState DoublyLinked

section Sweep

variable (cfg : Config) (env : Env) {conn conn' : TApiConnectionTable}

/-- The sessions of `l` that a pass from reading `k` on leaves. -/
def leftByPass (conn : TApiConnectionTable) : List SSlot → Nat → List SSlot
  | [], _ => []
  | s :: l, k => if sessionExpired cfg env conn s k then l else s :: leftByPass conn l (k + 1)

/-- The sessions of `l` that the pass does not look at. -/
def behindExpired (conn : TApiConnectionTable) : List SSlot → Nat → List SSlot
  | [], _ => []
  | s :: l, k => if sessionExpired cfg env conn s k then l else behindExpired conn l (k + 1)

/-- The reading that the pass over the chain of `c` starts from, when a sweep of
`cs` starts from reading `k`. -/
def passStart (conn : TApiConnectionTable) (c : CSlot) : List CSlot → Nat → Nat
  | [], k => k
  | c' :: cs, k =>
    if c' = c then k
    else passStart conn c cs
      (if (conn.ctable c').active = true then passEnd cfg env conn (conn.chain c') k + 1 else k)

/-- The reading after a sweep of `cs`. -/
def sweepEnd (conn : TApiConnectionTable) : List CSlot → Nat → Nat
  | [], k => k
  | c :: cs, k => sweepEnd conn cs
      (if (conn.ctable c).active = true then passEnd cfg env conn (conn.chain c) k + 1 else k)

/-! ## Passes -/

theorem leftByPass_sublist (conn : TApiConnectionTable) (l : List SSlot) (k : Nat) :
    (leftByPass cfg env conn l k).Sublist l := by
  induction l generalizing k with
  | nil => exact .slnil
  | cons s l ih =>
    rw [leftByPass]
    split
    · exact List.sublist_cons_self s l
    · exact (ih (k + 1)).cons_cons s

theorem mem_leftByPass_of_behind {l : List SSlot} {k : Nat} {x : SSlot}
    (hx : x ∈ behindExpired cfg env conn l k) : x ∈ leftByPass cfg env conn l k := by
  induction l generalizing k with
  | nil => exact hx
  | cons s l ih =>
    rw [behindExpired] at hx
    rw [leftByPass]
    split at hx
    · rwa [if_pos ‹_›]
    · rw [if_neg ‹_›]
      exact List.mem_cons_of_mem _ (ih hx)

theorem behindExpired_mem {l : List SSlot} {k : Nat} {x : SSlot}
    (hx : x ∈ behindExpired cfg env conn l k) : x ∈ l :=
  (leftByPass_sublist cfg env conn l k).subset (mem_leftByPass_of_behind cfg env hx)

theorem le_passEnd (conn : TApiConnectionTable) (l : List SSlot) (k : Nat) :
    k ≤ passEnd cfg env conn l k := by
  induction l generalizing k with
  | nil => exact Nat.le_refl k
  | cons s l ih =>
    rw [passEnd]
    split
    · exact Nat.le_add_right k 2
    · exact Nat.le_of_succ_le (ih (k + 1))

/-- A session that the pass looks at stays exactly if it has not expired then. -/
theorem leftByPass_decides {l : List SSlot} (hl : l.Nodup) {k : Nat} {x : SSlot} (hx : x ∈ l)
    (hbehind : x ∉ behindExpired cfg env conn l k) :
    ∃ m, k ≤ m ∧ m < passEnd cfg env conn l k ∧
      (x ∈ leftByPass cfg env conn l k ↔ ¬sessionExpired cfg env conn x m) := by
  induction l generalizing k with
  | nil => simp at hx
  | cons s l ih =>
    obtain ⟨hs, hl⟩ := List.nodup_cons.mp hl
    rw [behindExpired] at hbehind
    rw [passEnd, leftByPass]
    split at hbehind
    · rename_i hexp
      rw [if_pos hexp, if_pos hexp]
      obtain rfl : x = s := (List.mem_cons.mp hx).resolve_right hbehind
      exact ⟨k, Nat.le_refl k, by omega, by simp [hs, hexp]⟩
    · rename_i hexp
      rw [if_neg hexp, if_neg hexp]
      rcases List.mem_cons.mp hx with rfl | hx
      · have hend := le_passEnd cfg env conn l (k + 1)
        exact ⟨k, Nat.le_refl k, by omega, by simp [hexp]⟩
      · obtain ⟨m, hle, hlt, hiff⟩ := ih hl hx hbehind
        have hne : x ≠ s := fun he => hs (he ▸ hx)
        exact ⟨m, by omega, hlt, by simpa [hne] using hiff⟩

/-- What a pass removes and what it leaves. -/
theorem sweepSessions_left {l : List SSlot} (hl : l.Nodup) {k m : Nat} {r : Option SSlot}
    (h : sweepSessions cfg env conn l k = some (r, m)) :
    r.elim l l.erase = leftByPass cfg env conn l k := by
  induction l generalizing k with
  | nil => simp [sweepSessions] at h
  | cons s l ih =>
    obtain ⟨hs, hl⟩ := List.nodup_cons.mp hl
    rw [sweepSessions] at h
    rw [leftByPass]
    split at h
    · rename_i hexp
      rw [if_pos hexp]
      split at h
      · simp at h
      · simp only [Option.some.injEq, Prod.mk.injEq] at h
        rw [← h.1]
        simp
    · rename_i hexp
      rw [if_neg hexp]
      split at h
      · rename_i hnil
        simp only [Option.some.injEq, Prod.mk.injEq] at h
        rw [← h.1, hnil]
        rfl
      · have hrest := ih hl h
        rw [← hrest]
        cases r with
        | none => rfl
        | some a =>
          have hne : s ≠ a := fun he => hs (he ▸ sweepSessions_mem cfg env h)
          simp [List.erase_cons_tail, hne]

theorem leftByPass_congr {c : CSlot} (h : SameElsewhere c conn conn') (l : List SSlot) (k : Nat) :
    leftByPass cfg env conn' l k = leftByPass cfg env conn l k := by
  induction l generalizing k with
  | nil => rfl
  | cons s l ih => simp only [leftByPass, sessionExpired_congr cfg env h, ih]

/-! ## Readings -/

theorem passStart_congr {c c' : CSlot} (h : SameElsewhere c conn conn') {cs : List CSlot}
    (hcs : c ∉ cs) (k : Nat) :
    passStart cfg env conn' c' cs k = passStart cfg env conn c' cs k := by
  induction cs generalizing k with
  | nil => rfl
  | cons d cs ih =>
    rw [List.mem_cons, not_or] at hcs
    have hd : d ≠ c := fun he => hcs.1 he.symm
    simp only [passStart, h.active d hd, h.chain d hd, passEnd_congr cfg env h, ih hcs.2]

theorem sweepEnd_congr {c : CSlot} (h : SameElsewhere c conn conn') {cs : List CSlot}
    (hcs : c ∉ cs) (k : Nat) : sweepEnd cfg env conn' cs k = sweepEnd cfg env conn cs k := by
  induction cs generalizing k with
  | nil => rfl
  | cons d cs ih =>
    rw [List.mem_cons, not_or] at hcs
    have hd : d ≠ c := fun he => hcs.1 he.symm
    simp only [sweepEnd, h.active d hd, h.chain d hd, passEnd_congr cfg env h, ih hcs.2]

theorem le_sweepEnd (conn : TApiConnectionTable) (cs : List CSlot) (k : Nat) :
    k ≤ sweepEnd cfg env conn cs k := by
  induction cs generalizing k with
  | nil => exact Nat.le_refl k
  | cons c cs ih =>
    refine Nat.le_trans ?_ (ih _)
    have hend := le_passEnd cfg env conn (conn.chain c) k
    split <;> omega

/-- The pass over an active context lies within the sweep. -/
theorem passStart_within {c : CSlot} (hactive : (conn.ctable c).active = true) {cs : List CSlot}
    (hc : c ∈ cs) (k : Nat) :
    k ≤ passStart cfg env conn c cs k ∧
      passEnd cfg env conn (conn.chain c) (passStart cfg env conn c cs k) <
        sweepEnd cfg env conn cs k := by
  induction cs generalizing k with
  | nil => simp at hc
  | cons d cs ih =>
    rw [passStart, sweepEnd]
    by_cases hd : d = c
    · subst hd
      rw [if_pos rfl, if_pos hactive]
      exact ⟨Nat.le_refl k, le_sweepEnd cfg env conn cs _⟩
    · rw [if_neg hd]
      obtain ⟨hle, hlt⟩ := ih ((List.mem_cons.mp hc).resolve_left fun he => hd he.symm)
        (if (conn.ctable d).active = true then passEnd cfg env conn (conn.chain d) k + 1 else k)
      refine ⟨Nat.le_trans ?_ hle, hlt⟩
      have hend := le_passEnd cfg env conn (conn.chain d) k
      split <;> omega

/-! ## Contexts -/

/-- What a sweep makes of an active context whose pass starts from reading `k`. -/
def SweptContext (conn conn' : TApiConnectionTable) (c : CSlot) (k : Nat) : Prop :=
  if contextExpired cfg env conn c (passEnd cfg env conn (conn.chain c) k) then
    (conn'.ctable c).active = false ∧ conn'.chain c = []
  else (conn'.ctable c).active = true ∧ conn'.chain c = leftByPass cfg env conn (conn.chain c) k

theorem SweptContext.closed {cfg : Config} {env : Env} {c : CSlot} {k : Nat}
    (h : SweptContext cfg env conn conn' c k)
    (hexp : contextExpired cfg env conn c (passEnd cfg env conn (conn.chain c) k)) :
    (conn'.ctable c).active = false ∧ conn'.chain c = [] := by
  rwa [SweptContext, if_pos hexp] at h

theorem SweptContext.kept {cfg : Config} {env : Env} {c : CSlot} {k : Nat}
    (h : SweptContext cfg env conn conn' c k)
    (hexp : ¬contextExpired cfg env conn c (passEnd cfg env conn (conn.chain c) k)) :
    (conn'.ctable c).active = true ∧
      conn'.chain c = leftByPass cfg env conn (conn.chain c) k := by
  rwa [SweptContext, if_neg hexp] at h

theorem dropContext_closed {c : CSlot} (h : conn.Consistent)
    (hactive : (conn.ctable c).active = true) :
    ((dropContext conn c).ctable c).active = false ∧ (dropContext conn c).chain c = [] := by
  have hclosed : ((dropContext conn c).ctable c).active = false := by
    simp [dropContext, TApiConnectionTable.deactivate]
  exact ⟨hclosed, ((dropContext_performs h hactive).consistent h).closed c hclosed⟩

theorem dropSession_chain {c : CSlot} {r : Option SSlot} (h : conn.Consistent)
    (hr : ∀ a, r = some a → a ∈ conn.chain c) :
    (dropSession conn c r).Consistent ∧
      (dropSession conn c r).chain c = r.elim (conn.chain c) (conn.chain c).erase ∧
      ((dropSession conn c r).ctable c).active = (conn.ctable c).active ∧
      ((dropSession conn c r).ctable c).timeAccess = (conn.ctable c).timeAccess := by
  cases r with
  | none => exact ⟨h, rfl, rfl, rfl⟩
  | some a =>
    have hremove := h.remove (hr a rfl)
    have hchain := hremove.chain_eq c
    rw [Function.update_self] at hchain
    exact ⟨hremove.consistent, hchain, by simp [dropSession, TApiConnectionTable.remove],
      by simp [dropSession, TApiConnectionTable.remove]⟩

theorem sweepContext_swept {c : CSlot} {k k' : Nat} (h : conn.Consistent)
    (hactive : (conn.ctable c).active = true)
    (hsweep : sweepContext cfg env c conn k = some (conn', k')) :
    SweptContext cfg env conn conn' c k := by
  rw [sweepContext, if_pos hactive] at hsweep
  cases hpass : sweepSessions cfg env conn (conn.chain c) k with
  | none => simp [hpass] at hsweep
  | some p =>
    obtain ⟨r, m⟩ := p
    have hend := passEnd_of_sweepSessions cfg env hpass
    have hleft := sweepSessions_left cfg env (h.linked c).nodup hpass
    obtain ⟨hdrop, hchain, hactive', htime⟩ := dropSession_chain (r := r) h
      fun a ha => sweepSessions_mem cfg env (ha ▸ hpass)
    have hexp : contextExpired cfg env (dropSession conn c r) c m ↔
        contextExpired cfg env conn c (passEnd cfg env conn (conn.chain c) k) := by
      rw [contextExpired, contextExpired, htime, hend]
    simp only [hpass, Option.some.injEq, Prod.mk.injEq] at hsweep
    rw [SweptContext, ← hsweep.1]
    by_cases hcexp : contextExpired cfg env conn c (passEnd cfg env conn (conn.chain c) k)
    · rw [if_pos hcexp, if_pos (hexp.mpr hcexp)]
      exact dropContext_closed hdrop (hactive'.trans hactive)
    · rw [if_neg hcexp, if_neg fun he => hcexp (hexp.mp he)]
      exact ⟨hactive'.trans hactive, hchain.trans hleft⟩

theorem sweptContext_congr {conn₁ conn₂ : TApiConnectionTable} {c c' : CSlot}
    (h : SameElsewhere c conn conn₁) (hc' : c' ≠ c) (k : Nat) :
    SweptContext cfg env conn₁ conn₂ c' k ↔ SweptContext cfg env conn conn₂ c' k := by
  simp only [SweptContext, h.chain c' hc', passEnd_congr cfg env h, contextExpired_congr cfg env h,
    leftByPass_congr cfg env h]

/-- What a sweep does to each context, and the reading it ends with. -/
structure SweptContexts (conn conn' : TApiConnectionTable) (cs : List CSlot) (k k' : Nat) :
    Prop where
  consistent : conn'.Consistent
  clock : k' = sweepEnd cfg env conn cs k
  count : conn'.numCtableElements = conn.numCtableElements
  frame : ∀ c, c ∉ cs ∨ (conn.ctable c).active = false →
    (conn'.ctable c).active = (conn.ctable c).active ∧ conn'.chain c = conn.chain c
  swept : ∀ c ∈ cs, (conn.ctable c).active = true →
    SweptContext cfg env conn conn' c (passStart cfg env conn c cs k)

/-- A sweep counts no context out. -/
theorem numCtableElements_of_expires {ops : List TableOp} (hops : Performs conn ops conn')
    (h : conn.Consistent) (hexpires : ∀ op ∈ ops, Expires op) :
    conn'.numCtableElements = conn.numCtableElements := by
  refine hops.preserves h (·.numCtableElements = conn.numCtableElements) rfl ?_
  intro op hop conn₁ _ _ hcount
  have hexp := hexpires op hop
  rw [TableOp.numCtableElements_apply]
  cases op with
  | expireSession c s => exact hcount
  | expireContext c => exact hcount
  | _ => exact hexp.elim

theorem sweepContexts_swept {cs : List CSlot} {k k' : Nat} (h : conn.Consistent) (hcs : cs.Nodup)
    (hsweep : sweepContexts cfg env cs conn k = some (conn', k')) :
    SweptContexts cfg env conn conn' cs k k' := by
  induction cs generalizing conn k with
  | nil =>
    simp only [sweepContexts, Option.some.injEq, Prod.mk.injEq] at hsweep
    obtain ⟨rfl, rfl⟩ := hsweep
    exact ⟨h, rfl, rfl, fun _ _ => ⟨rfl, rfl⟩, by simp⟩
  | cons c cs ih =>
    obtain ⟨hc, hcs⟩ := List.nodup_cons.mp hcs
    rw [sweepContexts] at hsweep
    cases hfirst : sweepContext cfg env c conn k with
    | none => simp [hfirst] at hsweep
    | some p =>
      obtain ⟨conn₁, k₁⟩ := p
      simp only [hfirst] at hsweep
      obtain ⟨ops, hops, hexpires, _, hk⟩ := sweepContext_performs cfg env h hfirst
      have hsame := sameElsewhere_of_performs hops h hexpires
      have hrest := ih (hops.consistent h) hcs hsweep
      have hcount := numCtableElements_of_expires hops h fun op hop => (hexpires op hop).expires
      refine ⟨hrest.consistent, ?_, hrest.count.trans hcount, ?_, ?_⟩
      · rw [hrest.clock, sweepEnd, sweepEnd_congr cfg env hsame hc, hk]
      · intro d hd
        by_cases hdc : d = c
        · subst hdc
          have hidle : (conn.ctable d).active = false :=
            hd.resolve_left fun hnot => hnot (List.mem_cons_self ..)
          have hfirst' := hrest.frame d (Or.inl hc)
          rw [sweepContext, if_neg (by simp [hidle])] at hfirst
          simp only [Option.some.injEq, Prod.mk.injEq] at hfirst
          rwa [← hfirst.1] at hfirst'
        · rw [← hsame.active d hdc, ← hsame.chain d hdc]
          refine hrest.frame d (hd.imp (fun hnot hmem => hnot (List.mem_cons_of_mem _ hmem)) ?_)
          exact fun hidle => (hsame.active d hdc).trans hidle
      · intro d hd hactive
        by_cases hdc : d = c
        · subst hdc
          have hswept := sweepContext_swept cfg env h hactive hfirst
          obtain ⟨hactive', hchain'⟩ := hrest.frame d (Or.inl hc)
          rw [passStart, if_pos rfl, SweptContext, hactive', hchain']
          exact hswept
        · have hmem := (List.mem_cons.mp hd).resolve_left hdc
          have hswept := hrest.swept d hmem ((hsame.active d hdc).trans hactive)
          rw [sweptContext_congr cfg env hsame hdc, passStart_congr cfg env hsame hc] at hswept
          rw [passStart, if_neg (Ne.symm hdc), ← hk]
          exact hswept

/-- The passes of a sweep, context by context. -/
theorem atReadings_iff {P : CSlot → Nat → Prop} {cs : List CSlot} (hcs : cs.Nodup) (k : Nat) :
    AtReadings cfg env conn P cs k ↔
      ∀ c ∈ cs, (conn.ctable c).active = true → P c (passStart cfg env conn c cs k) := by
  induction cs generalizing k with
  | nil => simp [AtReadings]
  | cons c cs ih =>
    obtain ⟨hc, hcs⟩ := List.nodup_cons.mp hcs
    have hstep : AtReadings cfg env conn P (c :: cs) k ↔
        ((conn.ctable c).active = true → P c k) ∧ AtReadings cfg env conn P cs
          (if (conn.ctable c).active = true then passEnd cfg env conn (conn.chain c) k + 1
            else k) := by
      rw [AtReadings]
      by_cases hactive : (conn.ctable c).active = true <;> simp [hactive]
    rw [hstep, ih hcs, List.forall_mem_cons, passStart, if_pos rfl]
    refine and_congr_right fun _ => forall₂_congr fun d hd => ?_
    have hne : c ≠ d := fun he => hc (he ▸ hd)
    rw [passStart, if_neg hne]

end Sweep

/-! ## The request -/

variable (cfg : Config) (env : Env)

/-- The readings of the sweep that a check request starts in state `s`: where
the pass over the chain of `c` starts, where it ends, and where the sweep does. -/
def Server.passStart (s : Server) (c : CSlot) : Nat :=
  SkSdk.passStart cfg env s.tObj.conn c (List.finRange skTapiMaxConnectionsPerContext) s.clk

def Server.passEnd (s : Server) (c : CSlot) : Nat :=
  SkSdk.passEnd cfg env s.tObj.conn (s.tObj.conn.chain c) (s.passStart cfg env c)

def Server.sweepEnd (s : Server) : Nat :=
  SkSdk.sweepEnd cfg env s.tObj.conn (List.finRange skTapiMaxConnectionsPerContext) s.clk

/-- What becomes of the active context `c`, for some readings of the timer
between `s` and `s'`: one for the context, and one for each of its sessions. -/
def ExactFor (s s' : Server) (c : CSlot) : Prop :=
  ∃ m, s.clk ≤ m ∧ m < s'.clk ∧
    (contextExpired cfg env s.tObj.conn c m →
      (s'.tObj.conn.ctable c).active = false ∧ s'.tObj.conn.chain c = []) ∧
    (¬contextExpired cfg env s.tObj.conn c m →
      (s'.tObj.conn.ctable c).active = true ∧
        (s'.tObj.conn.chain c).Sublist (s.tObj.conn.chain c) ∧
        ∀ x ∈ s.tObj.conn.chain c, ∃ m', s.clk ≤ m' ∧ m' < s'.clk ∧
          (x ∈ s'.tObj.conn.chain c ↔ ¬sessionExpired cfg env s.tObj.conn x m'))

/-- Exactly what has expired is gone, and the counters are right. -/
structure SweptExactly (s s' : Server) : Prop where
  contexts : ∀ c, (s.tObj.conn.ctable c).active = true → ExactFor cfg env s s' c
  idle : ∀ c, (s.tObj.conn.ctable c).active = false →
    (s'.tObj.conn.ctable c).active = false ∧ s'.tObj.conn.chain c = []
  sessions : ∀ c, (s'.tObj.conn.ctable c).numConnectedSessions = (s'.tObj.conn.chain c).length
  total : s'.tObj.conn.numStableElements = s'.tObj.conn.activeSessions.card
  accounted : s'.tObj.conn.Accounted

/-- The sweep runs through, whatever it does not look at has not expired, and
the counter of contexts counts those that do not expire. -/
structure SweepsExactly (s : Server) : Prop where
  safe : ∀ c, (s.tObj.conn.ctable c).active = true → s.tObj.conn.chain c ≠ [] ∧
    PassSafe cfg env s.tObj.conn (s.tObj.conn.chain c) (s.passStart cfg env c)
  behind : ∀ c, (s.tObj.conn.ctable c).active = true →
    ¬contextExpired cfg env s.tObj.conn c (s.passEnd cfg env c) →
    ∀ x ∈ behindExpired cfg env s.tObj.conn (s.tObj.conn.chain c) (s.passStart cfg env c),
      ∃ m, s.clk ≤ m ∧ m < s.sweepEnd cfg env ∧ ¬sessionExpired cfg env s.tObj.conn x m
  counted : s.tObj.conn.numCtableElements = (s.tObj.conn.activeContexts.filter fun c =>
    ¬contextExpired cfg env s.tObj.conn c (s.passEnd cfg env c)).card

variable {s s' : Server}

private theorem exactFor_iff (h : s.tObj.conn.Consistent)
    (hswept : SweptContexts cfg env s.tObj.conn s'.tObj.conn
      (List.finRange skTapiMaxConnectionsPerContext) s.clk s'.clk) {c : CSlot}
    (hactive : (s.tObj.conn.ctable c).active = true) :
    ExactFor cfg env s s' c ↔ (¬contextExpired cfg env s.tObj.conn c (s.passEnd cfg env c) →
      ∀ x ∈ behindExpired cfg env s.tObj.conn (s.tObj.conn.chain c) (s.passStart cfg env c),
        ∃ m, s.clk ≤ m ∧ m < s.sweepEnd cfg env ∧ ¬sessionExpired cfg env s.tObj.conn x m) := by
  have hmem : c ∈ List.finRange skTapiMaxConnectionsPerContext := List.mem_finRange c
  have hc := hswept.swept c hmem hactive
  have hend : s'.clk = s.sweepEnd cfg env := hswept.clock
  obtain ⟨hstart, hwithin⟩ := passStart_within cfg env hactive hmem s.clk
  have hpass := le_passEnd cfg env s.tObj.conn (s.tObj.conn.chain c) (s.passStart cfg env c)
  rw [← hend]
  constructor
  · rintro ⟨m, _, _, hexpired, hkept⟩ hnot x hx
    obtain ⟨hactive', hchain⟩ := hc.kept hnot
    by_cases hm : contextExpired cfg env s.tObj.conn c m
    · have hclosed := (hexpired hm).1
      rw [hactive'] at hclosed
      simp at hclosed
    · obtain ⟨m', hle, hlt, hiff⟩ := (hkept hm).2.2 x (behindExpired_mem cfg env hx)
      refine ⟨m', hle, hlt, hiff.mp ?_⟩
      rw [hchain]
      exact mem_leftByPass_of_behind cfg env hx
  · intro hbehind
    refine ⟨s.passEnd cfg env c, Nat.le_trans hstart hpass, hend ▸ hwithin, fun hexp => ?_,
      fun hnot => ?_⟩
    · exact hc.closed hexp
    · obtain ⟨hactive', hchain⟩ := hc.kept hnot
      rw [hchain]
      refine ⟨hactive', leftByPass_sublist cfg env _ _ _, fun x hx => ?_⟩
      by_cases hb : x ∈ behindExpired cfg env s.tObj.conn (s.tObj.conn.chain c)
          (s.passStart cfg env c)
      · obtain ⟨m, hle, hlt, hnotexp⟩ := hbehind hnot x hb
        exact ⟨m, hle, hlt, iff_of_true (mem_leftByPass_of_behind cfg env hb) hnotexp⟩
      · obtain ⟨m, hle, hlt, hiff⟩ := leftByPass_decides cfg env (h.linked c).nodup hx hb
        exact ⟨m, Nat.le_trans hstart hle, Nat.lt_trans hlt (hend ▸ hwithin), hiff⟩

private theorem activeContexts_swept
    (hswept : SweptContexts cfg env s.tObj.conn s'.tObj.conn
      (List.finRange skTapiMaxConnectionsPerContext) s.clk s'.clk) :
    s'.tObj.conn.activeContexts = s.tObj.conn.activeContexts.filter fun c =>
      ¬contextExpired cfg env s.tObj.conn c (s.passEnd cfg env c) := by
  ext c
  simp only [TApiConnectionTable.activeContexts, Finset.mem_filter, Finset.mem_univ, true_and]
  cases hactive : (s.tObj.conn.ctable c).active with
  | false => simp [(hswept.frame c (Or.inr hactive)).1, hactive]
  | true =>
    have hc := hswept.swept c (List.mem_finRange c) hactive
    by_cases hexp : contextExpired cfg env s.tObj.conn c (s.passEnd cfg env c)
    · simp [(hc.closed hexp).1, hexp]
    · simp [(hc.kept hexp).1, hexp]

private theorem skSwldTapiCheckNw_run (h : s.tObj.conn.Consistent)
    (hmsg : Layout.checkReq.wireLength ≤ s.tObj.mrecvSize) :
    ∃ hdr, skSwldTapiCheckNw cfg env s =
      match sweepContexts cfg env (List.finRange skTapiMaxConnectionsPerContext) s.tObj.conn
          s.clk with
      | none => .error .nullDeref
      | some (conn, k) => answer .checkResp (hdr, skErrorSuccess) (s.sweptTo conn k) := by
  rw [skSwldTapiCheckNw_eq]
  refine ⟨(Layout.checkReq.format.get s.tObj.mrecv 0).1, Eq.trans ?_ (serveCheck_run cfg env _ h)⟩
  change (if s.tObj.mrecvSize < Layout.checkReq.wireLength then _ else _ : ServerM SkStatus) s = _
  rw [if_neg (Nat.not_lt.mpr hmsg)]
  rfl

/-- On a complete check request the sweep is exact exactly under this condition. -/
theorem check_sweeps_exactly_iff (h : s.tObj.conn.Consistent)
    (hmsg : Layout.checkReq.wireLength ≤ s.tObj.mrecvSize) :
    (∃ status s', skSwldTapiCheckNw cfg env s = .ok (status, s') ∧ SweptExactly cfg env s s') ↔
      SweepsExactly cfg env s := by
  obtain ⟨hdr, hrun⟩ := skSwldTapiCheckNw_run cfg env h hmsg
  have hnone := sweepContexts_eq_none cfg env (k := s.clk) h
    (List.nodup_finRange skTapiMaxConnectionsPerContext)
  rw [atReadings_iff cfg env (List.nodup_finRange _)] at hnone
  cases hsweep : sweepContexts cfg env (List.finRange skTapiMaxConnectionsPerContext) s.tObj.conn
      s.clk with
  | none =>
    rw [hsweep] at hrun
    refine ⟨?_, fun hmeets => ?_⟩
    · rintro ⟨status, s', hrun', _⟩
      simp [hrun] at hrun'
    · exact absurd (fun c _ hactive => hmeets.safe c hactive) (hnone.mp hsweep)
  | some p =>
    obtain ⟨conn', k'⟩ := p
    have hsafe := not_not.mp (hnone.not.mp (by simp [hsweep]))
    rw [hsweep] at hrun
    have hswept := sweepContexts_swept cfg env h (List.nodup_finRange _) hsweep
    let s' := (s.sweptTo conn' k').replied .checkResp (hdr, skErrorSuccess)
    have hstate : SweptContexts cfg env s.tObj.conn s'.tObj.conn
      (List.finRange skTapiMaxConnectionsPerContext) s.clk s'.clk := hswept
    have hcontexts := activeContexts_swept cfg env hstate
    have haccounted : s'.tObj.conn.Accounted ↔ s.tObj.conn.numCtableElements =
        (s.tObj.conn.activeContexts.filter fun c =>
          ¬contextExpired cfg env s.tObj.conn c (s.passEnd cfg env c)).card := by
      rw [TApiConnectionTable.Accounted, hcontexts, hstate.count]
    constructor
    · rintro ⟨status, s'', hrun', hexact⟩
      rw [hrun] at hrun'
      obtain rfl := answer_ok hrun'
      refine ⟨fun c hactive => hsafe c (List.mem_finRange c) hactive, fun c hactive => ?_,
        haccounted.mp hexact.accounted⟩
      exact (exactFor_iff cfg env h hstate hactive).mp (hexact.contexts c hactive)
    · intro hmeets
      refine ⟨_, s', hrun, ?_, ?_, ?_, ?_, haccounted.mpr hmeets.counted⟩
      · intro c hactive
        exact (exactFor_iff cfg env h hstate hactive).mpr (hmeets.behind c hactive)
      · intro c hidle
        have hactive' := ((hstate.frame c (Or.inr hidle)).1).trans hidle
        exact ⟨hactive', hstate.consistent.closed c hactive'⟩
      · exact hstate.consistent.count
      · exact hstate.consistent.total

/-! ## Samples -/

def sampleCheck : Request := .of .checkReq (⟨1, 2, skTapiCheck⟩, ()) (sampleEnv 0)

private theorem not_gt_sampleConfig (a : UInt32) : ¬a > sampleConfig.sessionTimeoutMs := by
  have hlt := a.toNat_lt
  rw [gt_iff_lt, UInt32.lt_iff_toNat_lt]
  change ¬4294967295 < a.toNat
  omega

/-- With the longest timeouts nothing expires. -/
private theorem passSafe_sampleConfig (conn : TApiConnectionTable) (l : List SSlot) (k : Nat) :
    PassSafe sampleConfig env conn l k ∧ behindExpired sampleConfig env conn l k = [] := by
  induction l generalizing k with
  | nil => exact ⟨trivial, rfl⟩
  | cons x l ih =>
    have hx : ¬sessionExpired sampleConfig env conn x k := not_gt_sampleConfig _
    rw [PassSafe, behindExpired, if_neg hx, if_neg hx]
    exact ih (k + 1)

/-- A sweep of one context with one session, neither of them expired. -/
theorem check_sweeps_exactly_session : ∃ s status s', s.tObj.conn.activeSessions.card = 1 ∧
    skSwldTapiCheckNw sampleConfig (sampleEnv 0) s = .ok (status, s') ∧
    SweptExactly sampleConfig (sampleEnv 0) s s' := by
  obtain ⟨tr, s, hrun, hcard, hchain, hcount⟩ := exists_run sampleConfig (sampleServer_started 64)
    [sampleOpenContext, sampleOpenSession]
    (fun _ s => s.tObj.conn.activeSessions.card = 1 ∧
      (∀ c, (s.tObj.conn.ctable c).active = true → s.tObj.conn.chain c ≠ []) ∧
      s.tObj.conn.Accounted) (by decide +kernel)
  have htable : (receive sampleCheck s).tObj.conn.Consistent :=
    ((Reachable.sound ⟨tr, hrun⟩).receive sampleCheck).table
  have hmeets : SweepsExactly sampleConfig (sampleEnv 0) (receive sampleCheck s) := by
    refine ⟨fun c hactive => ⟨hchain c hactive, (passSafe_sampleConfig _ _ _ _).1⟩,
      fun c _ _ x hx => ?_, ?_⟩
    · rw [(passSafe_sampleConfig _ _ _ _).2] at hx
      simp at hx
    · exact hcount.trans (congrArg Finset.card (Finset.filter_true_of_mem fun c _ =>
        not_gt_sampleConfig _).symm)
  have hmsg : Layout.checkReq.wireLength ≤ sampleCheck.bytes.length := by decide
  obtain ⟨status, s', hcheck, hexact⟩ :=
    (check_sweeps_exactly_iff sampleConfig (sampleEnv 0) htable hmsg).mpr hmeets
  exact ⟨receive sampleCheck s, status, s', hcard, hcheck, hexact⟩

/-- A context without a session stops the sweep. -/
theorem check_sweeps_exactly_false : ∃ s, s.tObj.conn.Consistent ∧
    Layout.checkReq.wireLength ≤ s.tObj.mrecvSize ∧
    skSwldTapiCheckNw sampleConfig (sampleEnv 0) s = .error .nullDeref ∧
    ¬∃ status s', skSwldTapiCheckNw sampleConfig (sampleEnv 0) s = .ok (status, s') ∧
      SweptExactly sampleConfig (sampleEnv 0) s s' := by
  obtain ⟨tr, s, hrun, hactive, hchain⟩ := exists_run sampleConfig (sampleServer_started 64)
    [sampleOpenContext]
    (fun _ s => (s.tObj.conn.ctable 0).active = true ∧ s.tObj.conn.chain 0 = [])
    (by decide +kernel)
  have htable : (receive sampleCheck s).tObj.conn.Consistent :=
    ((Reachable.sound ⟨tr, hrun⟩).receive sampleCheck).table
  have hmsg : Layout.checkReq.wireLength ≤ sampleCheck.bytes.length := by decide
  obtain ⟨hdr, hcheck⟩ := skSwldTapiCheckNw_run sampleConfig (sampleEnv 0) htable hmsg
  have hnone := sweepContexts_eq_none sampleConfig (sampleEnv 0)
    (k := (receive sampleCheck s).clk) htable (List.nodup_finRange skTapiMaxConnectionsPerContext)
  rw [atReadings_iff _ _ (List.nodup_finRange _)] at hnone
  rw [hnone.mpr fun hsafe => (hsafe 0 (List.mem_finRange 0) hactive).1 hchain] at hcheck
  refine ⟨_, htable, hmsg, hcheck, ?_⟩
  rintro ⟨status, s', hok, _⟩
  simp [hcheck] at hok

end SkSdk
