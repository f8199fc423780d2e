import SkSdk.Swld.TapiRuns

/-!
The expiry sweep of the check request. It reads the timer once for every
session it passes and once for every active context, so which reading decides
about whom depends on all chains before; `AtReadings` says which.
-/

namespace SkSdk
open ByteMemory FaultState DoublyLinked

section Sweep

variable (cfg : Config) (env : Env)

/-- Session `s` has timed out at reading `k`. -/
def sessionExpired (conn : TApiConnectionTable) (s : SSlot) (k : Nat) : Prop :=
  diffTime env (conn.stable s).timeAccess (env.timer k) > cfg.sessionTimeoutMs

def contextExpired (conn : TApiConnectionTable) (c : CSlot) (k : Nat) : Prop :=
  diffTime env (conn.ctable c).timeAccess (env.timer k) > cfg.contextTimeoutMs

instance (conn : TApiConnectionTable) (s : SSlot) (k : Nat) :
    Decidable (sessionExpired cfg env conn s k) := inferInstanceAs (Decidable (_ < _))

instance (conn : TApiConnectionTable) (c : CSlot) (k : Nat) :
    Decidable (contextExpired cfg env conn c k) := inferInstanceAs (Decidable (_ < _))

/-- The session that a pass over the chain `l` removes, if any, and the reading
reached. The pass ends at the first expired session, which is looked at twice;
there is no result where the null pointer is followed. -/
def sweepSessions (conn : TApiConnectionTable) : List SSlot → Nat → Option (Option SSlot × Nat)
  | [], _ => none
  | s :: l, k =>
    if sessionExpired cfg env conn s k then
      if sessionExpired cfg env conn s (k + 1) then none else some (some s, k + 2)
    else if l = [] then some (none, k + 1)
    else sweepSessions conn l (k + 1)

/-- The table without the session a pass has removed. -/
def dropSession (conn : TApiConnectionTable) (c : CSlot) : Option SSlot → TApiConnectionTable
  | some s => conn.remove c s
  | none => conn

def dropContext (conn : TApiConnectionTable) (c : CSlot) : TApiConnectionTable :=
  (conn.removeAll c (conn.chain c)).deactivate c

def sweepContext (c : CSlot) (conn : TApiConnectionTable) (k : Nat) :
    Option (TApiConnectionTable × Nat) :=
  if (conn.ctable c).active = true then
    match sweepSessions cfg env conn (conn.chain c) k with
    | none => none
    | some (r, k) =>
      let conn := dropSession conn c r
      some (if contextExpired cfg env conn c k then dropContext conn c else conn, k + 1)
  else some (conn, k)

def sweepContexts : List CSlot → TApiConnectionTable → Nat → Option (TApiConnectionTable × Nat)
  | [], conn, k => some (conn, k)
  | c :: cs, conn, k =>
    match sweepContext cfg env c conn k with
    | none => none
    | some (conn, k) => sweepContexts cs conn k

/-! ## Readings

What a sweep does to one context does not bear on another, so the readings can
be told from the table that it starts from. -/

/-- The reading after a pass over the chain `l` that starts at reading `k`. -/
def passEnd (conn : TApiConnectionTable) : List SSlot → Nat → Nat
  | [], k => k
  | s :: l, k => if sessionExpired cfg env conn s k then k + 2 else passEnd conn l (k + 1)

/-- The first session of `l` found expired is not found expired again. -/
def PassSafe (conn : TApiConnectionTable) : List SSlot → Nat → Prop
  | [], _ => True
  | s :: l, k =>
    if sessionExpired cfg env conn s k then ¬sessionExpired cfg env conn s (k + 1)
    else PassSafe conn l (k + 1)

/-- `P` holds of every active context of `cs` and the reading that the pass over
its chain starts from. -/
def AtReadings (conn : TApiConnectionTable) (P : CSlot → Nat → Prop) : List CSlot → Nat → Prop
  | [], _ => True
  | c :: cs, k =>
    if (conn.ctable c).active = true then
      P c k ∧ AtReadings conn P cs (passEnd cfg env conn (conn.chain c) k + 1)
    else AtReadings conn P cs k

/-- A sweep of all contexts from reading `k` lets none of them expire. -/
def KeepsContexts (conn : TApiConnectionTable) (k : Nat) : Prop :=
  AtReadings cfg env conn
    (fun c k => ¬contextExpired cfg env conn c (passEnd cfg env conn (conn.chain c) k))
    (List.finRange skTapiMaxConnectionsPerContext) k

/-- Every active context has a session, and no session is found expired twice. -/
def SweepSafe (conn : TApiConnectionTable) (k : Nat) : Prop :=
  AtReadings cfg env conn
    (fun c k => conn.chain c ≠ [] ∧ PassSafe cfg env conn (conn.chain c) k)
    (List.finRange skTapiMaxConnectionsPerContext) k

end Sweep

/-- The server after a sweep that has come to reading `k`. -/
def Server.sweptTo (s : Server) (conn : TApiConnectionTable) (k : Nat) : Server :=
  { s with tObj := { s.tObj with conn }, clk := k }

section Runs

variable (cfg : Config) (env : Env) {s : Server}

private theorem checkSessions_some (c : CSlot) (fuel : Nat) (a : SSlot) (s : Server) :
    checkSessions cfg env c (fuel + 1) (some a) s =
      if sessionExpired cfg env s.tObj.conn a s.clk then
        (do
          let _ ← onConn (skSwldTapiRemoveSession c (some a))
          checkSessions cfg env c fuel (some a)) (s.sweptTo s.tObj.conn (s.clk + 1))
      else match (s.tObj.conn.stable a).next with
        | some n => checkSessions cfg env c fuel (some n) (s.sweptTo s.tObj.conn (s.clk + 1))
        | none => .ok ((), s.sweptTo s.tObj.conn (s.clk + 1)) := by
  rw [checkSessions]
  change (if sessionExpired cfg env s.tObj.conn a s.clk then _ else _ : ServerM Unit)
    (s.sweptTo s.tObj.conn (s.clk + 1)) = _
  split
  · rfl
  · refine (get_bind_run _ _).trans ?_
    change (match (s.tObj.conn.stable a).next with
      | some n => checkSessions cfg env c fuel (some n)
      | none => pure ()) _ = _
    cases (s.tObj.conn.stable a).next with
    | none => rfl
    | some n => rfl

private theorem checkSessions_run {c : CSlot} {ch : CSlot → List SSlot} {l : List SSlot}
    {p : Option SSlot} {fuel : Nat} (h : s.tObj.conn.Represents ch) (hsub : ∀ x ∈ l, x ∈ ch c)
    (hseg : Seg s.tObj.conn.links p l.head? l none) (hfuel : l.length < fuel) :
    checkSessions cfg env c fuel l.head? s =
      match sweepSessions cfg env s.tObj.conn l s.clk with
      | none => .error .nullDeref
      | some (r, k) => .ok ((), s.sweptTo (dropSession s.tObj.conn c r) k) := by
  induction l generalizing s p fuel with
  | nil =>
    cases fuel with
    | zero => simp at hfuel
    | succ fuel => rfl
  | cons a l ih =>
    cases fuel with
    | zero => simp at hfuel
    | succ fuel =>
      have hmem : a ∈ ch c := hsub a (by simp)
      rw [List.head?_cons, checkSessions_some, sweepSessions]
      by_cases hexp : sessionExpired cfg env s.tObj.conn a s.clk
      · rw [if_pos hexp, if_pos hexp]
        have hremove := onConn_of_ok (s := s.sweptTo s.tObj.conn (s.clk + 1))
          (skSwldTapiRemoveSession_run h hmem)
        rw [bind_of_ok hremove]
        obtain ⟨fuel, rfl⟩ := Nat.exists_eq_succ_of_ne_zero (n := fuel) (by simp at hfuel; omega)
        rw [Nat.succ_eq_add_one, checkSessions_some]
        have hagain : sessionExpired cfg env (s.tObj.conn.remove c a) a (s.clk + 1) =
            sessionExpired cfg env s.tObj.conn a (s.clk + 1) := by
          simp [sessionExpired, TApiConnectionTable.remove]
        by_cases hexp' : sessionExpired cfg env s.tObj.conn a (s.clk + 1)
        · -- the session is on no chain any more
          have hstart : ((s.tObj.conn.remove c a).ctable c).start ≠ some a := by
            have hhead := ((h.remove hmem).linked c).start_eq
            rw [Function.update_self] at hhead
            rw [hhead]
            intro he
            exact ((h.linked c).nodup.mem_erase_iff.mp (List.mem_of_mem_head? he)).1 rfl
          have hprev : ((s.tObj.conn.remove c a).stable a).prev = none := by
            simp [TApiConnectionTable.remove]
          rw [if_pos hexp']
          refine (if_pos (hagain ▸ hexp')).trans ?_
          exact bind_of_error (onConn_of_error (skSwldTapiRemoveSession_unlinked hstart hprev)) _
        · have hnext : ((s.tObj.conn.remove c a).stable a).next = none := by
            simp [TApiConnectionTable.remove]
          rw [if_neg hexp']
          refine (if_neg (hagain ▸ hexp')).trans ?_
          rw [Server.withConn_conn, hnext]
          rfl
      · rw [if_neg hexp, if_neg hexp]
        cases l with
        | nil =>
          have hnext : (s.tObj.conn.stable a).next = none := hseg.2.2
          rw [hnext, if_pos rfl]
          rfl
        | cons b l =>
          have hnext : (s.tObj.conn.stable a).next = some b := hseg.2.2.1
          have hrest : Seg s.tObj.conn.links (some a) (some b) (b :: l) none := by
            rw [← hnext]
            exact hseg.2.2
          rw [hnext, if_neg (by simp)]
          exact ih (s := s.sweptTo s.tObj.conn (s.clk + 1)) h
            (fun x hx => hsub x (List.mem_cons_of_mem _ hx)) hrest (by simpa using hfuel)

/-! ## What a sweep performs -/

/-- The operations of a sweep. -/
def Expires : TableOp → Prop
  | .expireSession _ _ | .expireContext _ => True
  | _ => False

/-- The operations of a sweep on context `c`. -/
def ExpiresIn (c : CSlot) (op : TableOp) : Prop :=
  (∃ s, op = .expireSession c s) ∨ op = .expireContext c

theorem ExpiresIn.expires {c : CSlot} {op : TableOp} (h : ExpiresIn c op) : Expires op := by
  rcases h with ⟨s, rfl⟩ | rfl <;> trivial

/-- What the readings of the contexts other than `c` depend on is the same in
both tables. -/
structure SameElsewhere (c : CSlot) (conn conn' : TApiConnectionTable) : Prop where
  active : ∀ c', c' ≠ c → (conn'.ctable c').active = (conn.ctable c').active
  chain : ∀ c', c' ≠ c → conn'.chain c' = conn.chain c'
  contextTime : ∀ c', (conn'.ctable c').timeAccess = (conn.ctable c').timeAccess
  sessionTime : ∀ s, (conn'.stable s).timeAccess = (conn.stable s).timeAccess

private theorem sameElsewhere_step {c : CSlot} {conn conn' : TApiConnectionTable} {op : TableOp}
    (hexp : ExpiresIn c op) (h : conn'.Consistent) (hop : op.Enabled conn')
    (hsame : SameElsewhere c conn conn') : SameElsewhere c conn (op.apply conn') := by
  have hchain := TableOp.chain_apply h hop
  have hactive := TableOp.active_apply conn' op
  rcases hexp with ⟨s, rfl⟩ | rfl
  · refine ⟨fun c' hc' => ?_, fun c' hc' => ?_, fun c' => ?_, fun s' => ?_⟩
    · rw [hactive]
      exact hsame.active c' hc'
    · rw [hchain, ← hsame.chain c' hc']
      exact Function.update_of_ne hc' _ _
    · rw [← hsame.contextTime]
      by_cases hc : c' = c <;> simp [TableOp.apply, TApiConnectionTable.remove, hc]
    · rw [← hsame.sessionTime]
      by_cases hs : s' = s <;> simp [TableOp.apply, TApiConnectionTable.remove, hs]
  · refine ⟨fun c' hc' => ?_, fun c' hc' => ?_, fun c' => ?_, fun s' => ?_⟩
    · rw [hactive]
      simpa [hc'] using hsame.active c' hc'
    · rw [hchain]
      exact hsame.chain c' hc'
    · rw [← hsame.contextTime]
      by_cases hc : c' = c <;> simp [TableOp.apply, TApiConnectionTable.deactivate, hc]
    · exact hsame.sessionTime s'

theorem sameElsewhere_of_performs {c : CSlot} {conn conn' : TApiConnectionTable}
    {ops : List TableOp} (hops : Performs conn ops conn') (h : conn.Consistent)
    (hexp : ∀ op ∈ ops, ExpiresIn c op) : SameElsewhere c conn conn' :=
  hops.preserves h (SameElsewhere c conn)
    ⟨fun _ _ => rfl, fun _ _ => rfl, fun _ => rfl, fun _ => rfl⟩
    fun op hop _ hcons henabled hsame => sameElsewhere_step (hexp op hop) hcons henabled hsame

theorem sessionExpired_congr {c : CSlot} {conn conn' : TApiConnectionTable}
    (h : SameElsewhere c conn conn') (s : SSlot) (k : Nat) :
    sessionExpired cfg env conn' s k ↔ sessionExpired cfg env conn s k := by
  rw [sessionExpired, sessionExpired, h.sessionTime]

theorem passEnd_congr {c : CSlot} {conn conn' : TApiConnectionTable}
    (h : SameElsewhere c conn conn') (l : List SSlot) (k : Nat) :
    passEnd cfg env conn' l k = passEnd cfg env conn l k := by
  induction l generalizing k with
  | nil => rfl
  | cons s l ih => simp only [passEnd, sessionExpired_congr cfg env h, ih]

theorem passSafe_congr {c : CSlot} {conn conn' : TApiConnectionTable}
    (h : SameElsewhere c conn conn') (l : List SSlot) (k : Nat) :
    PassSafe cfg env conn' l k ↔ PassSafe cfg env conn l k := by
  induction l generalizing k with
  | nil => rfl
  | cons s l ih => simp only [PassSafe, sessionExpired_congr cfg env h, ih]

private theorem atReadings_congr {c : CSlot} {conn conn' : TApiConnectionTable}
    (h : SameElsewhere c conn conn') {P P' : CSlot → Nat → Prop}
    (hP : ∀ c', c' ≠ c → ∀ k, P' c' k ↔ P c' k) {cs : List CSlot} (hcs : c ∉ cs) (k : Nat) :
    AtReadings cfg env conn' P' cs k ↔ AtReadings cfg env conn P cs k := by
  induction cs generalizing k with
  | nil => rfl
  | cons c' cs ih =>
    rw [List.mem_cons, not_or] at hcs
    have hc' : c' ≠ c := fun he => hcs.1 he.symm
    simp only [AtReadings, h.active c' hc', h.chain c' hc', hP c' hc', ih hcs.2,
      passEnd_congr cfg env h]

private theorem sweepSessions_eq_none {conn : TApiConnectionTable} {l : List SSlot} {k : Nat} :
    sweepSessions cfg env conn l k = none ↔ l = [] ∨ ¬PassSafe cfg env conn l k := by
  induction l generalizing k with
  | nil => simp [sweepSessions]
  | cons s l ih =>
    rw [sweepSessions, PassSafe]
    by_cases hexp : sessionExpired cfg env conn s k
    · by_cases hagain : sessionExpired cfg env conn s (k + 1) <;> simp [hexp, hagain]
    · rw [if_neg hexp, if_neg hexp]
      cases l with
      | nil => simp [PassSafe]
      | cons b l => simpa using ih

theorem passEnd_of_sweepSessions {conn : TApiConnectionTable} {l : List SSlot}
    {k m : Nat} {r : Option SSlot} (h : sweepSessions cfg env conn l k = some (r, m)) :
    m = passEnd cfg env conn l k := by
  induction l generalizing k with
  | nil => simp [sweepSessions] at h
  | cons s l ih =>
    rw [sweepSessions] at h
    rw [passEnd]
    split at h
    · rename_i hexp
      split at h
      · simp at h
      · simp only [Option.some.injEq, Prod.mk.injEq] at h
        rw [if_pos hexp, h.2]
    · rename_i hexp
      rw [if_neg hexp]
      split at h
      · rename_i hnil
        simp only [Option.some.injEq, Prod.mk.injEq] at h
        rw [hnil, passEnd, h.2]
      · exact ih h

private theorem removeAll_performs {conn : TApiConnectionTable} {c : CSlot} {l r : List SSlot}
    (h : conn.Consistent) (hl : conn.chain c = l ++ r) :
    Performs conn (l.map (.expireSession c)) (conn.removeAll c l) := by
  induction l generalizing conn with
  | nil => exact .nil conn
  | cons a l ih =>
    have hop : (TableOp.expireSession c a).Enabled conn := by
      change a ∈ conn.chain c
      simp [hl]
    have hchain : (conn.remove c a).chain c = l ++ r := by
      have := congrFun (TableOp.chain_apply h hop) c
      simpa [TableOp.apply, TableOp.applyChains, hl] using this
    exact .cons hop (ih (TableOp.consistent_apply h hop) hchain)

private theorem active_removeAll (conn : TApiConnectionTable) (c : CSlot) (l : List SSlot)
    (c' : CSlot) : ((conn.removeAll c l).ctable c').active = (conn.ctable c').active := by
  induction l generalizing conn with
  | nil => rfl
  | cons a l ih =>
    have hstep : ((conn.remove c a).ctable c').active = (conn.ctable c').active := by
      by_cases hc : c' = c <;> simp [TApiConnectionTable.remove, hc]
    exact (ih (conn.remove c a)).trans hstep

theorem dropContext_performs {conn : TApiConnectionTable} {c : CSlot} (h : conn.Consistent)
    (hactive : (conn.ctable c).active = true) :
    Performs conn ((conn.chain c).map (.expireSession c) ++ [.expireContext c])
      (dropContext conn c) := by
  have hremove := removeAll_performs h (c := c) (l := conn.chain c) (r := []) (by simp)
  have hempty : (conn.removeAll c (conn.chain c)).chain c = [] := by
    have := (h.removeAll (c := c) (l := conn.chain c) (r := []) (by simp)).chain_eq c
    rwa [Function.update_self] at this
  have hop : (TableOp.expireContext c).Enabled (conn.removeAll c (conn.chain c)) :=
    ⟨by rw [active_removeAll, hactive], hempty⟩
  exact hremove.append (.single hop)

theorem sweepSessions_mem {conn : TApiConnectionTable} {l : List SSlot} {k k' : Nat}
    {a : SSlot} (h : sweepSessions cfg env conn l k = some (some a, k')) : a ∈ l := by
  induction l generalizing k with
  | nil => simp [sweepSessions] at h
  | cons b l ih =>
    rw [sweepSessions] at h
    split at h
    · split at h
      · simp at h
      · simp only [Option.some.injEq, Prod.mk.injEq] at h
        simp [h.1]
    · split at h
      · simp at h
      · exact List.mem_cons_of_mem _ (ih h)

private theorem consistent_dropSession {conn : TApiConnectionTable} {c : CSlot}
    {r : Option SSlot} (h : conn.Consistent) (hr : ∀ a, r = some a → a ∈ conn.chain c) :
    (dropSession conn c r).Consistent := by
  cases r with
  | none => exact h
  | some a => exact (h.remove (hr a rfl)).consistent

theorem contextExpired_congr {c c' : CSlot} {conn conn' : TApiConnectionTable}
    (h : SameElsewhere c conn conn') (k : Nat) :
    contextExpired cfg env conn' c' k ↔ contextExpired cfg env conn c' k := by
  rw [contextExpired, contextExpired, h.contextTime]

theorem sweepContext_performs {conn conn' : TApiConnectionTable} {c : CSlot} {k k' : Nat}
    (h : conn.Consistent) (hsweep : sweepContext cfg env c conn k = some (conn', k')) :
    ∃ ops, Performs conn ops conn' ∧ (∀ op ∈ ops, ExpiresIn c op) ∧
      (.expireContext c ∈ ops → (conn.ctable c).active = true ∧
        contextExpired cfg env conn c (passEnd cfg env conn (conn.chain c) k)) ∧
      k' = if (conn.ctable c).active = true then passEnd cfg env conn (conn.chain c) k + 1
        else k := by
  unfold sweepContext at hsweep
  split at hsweep
  · rename_i hactive
    rw [if_pos hactive]
    cases hpass : sweepSessions cfg env conn (conn.chain c) k with
    | none => simp [hpass] at hsweep
    | some p =>
      obtain ⟨r, m⟩ := p
      have hend := passEnd_of_sweepSessions cfg env hpass
      simp only [hpass, Option.some.injEq, Prod.mk.injEq] at hsweep
      -- first the session that the pass removes, then the context
      have hdrop : ∃ ops, Performs conn ops (dropSession conn c r) ∧
          (∀ op ∈ ops, ExpiresIn c op) ∧ .expireContext c ∉ ops ∧
          ((dropSession conn c r).ctable c).active = true := by
        cases r with
        | none => exact ⟨[], .nil conn, by simp, by simp, hactive⟩
        | some a =>
          have hop : (TableOp.expireSession c a).Enabled conn := sweepSessions_mem cfg env hpass
          exact ⟨[.expireSession c a], .single hop, by simp [ExpiresIn], by simp,
            by simpa [dropSession, TApiConnectionTable.remove] using hactive⟩
      obtain ⟨ops, hops, hexpires, hnone, hactive'⟩ := hdrop
      have hsame := sameElsewhere_of_performs hops h hexpires
      rw [← hsweep.1, ← hsweep.2, ← hend]
      split
      · rename_i hexp
        refine ⟨_, hops.append (dropContext_performs (hops.consistent h) hactive'), ?_,
          fun _ => ⟨hactive, (contextExpired_congr cfg env hsame m).mp hexp⟩, rfl⟩
        intro op hop
        simp only [List.mem_append, List.mem_map, List.mem_singleton] at hop
        rcases hop with hop | ⟨a, _, rfl⟩ | rfl
        · exact hexpires op hop
        · exact Or.inl ⟨a, rfl⟩
        · exact Or.inr rfl
      · exact ⟨ops, hops, hexpires, fun hop => absurd hop hnone, rfl⟩
  · rename_i hactive
    simp only [Option.some.injEq, Prod.mk.injEq] at hsweep
    rw [← hsweep.1, ← hsweep.2, if_neg hactive]
    exact ⟨[], .nil conn, by simp, by simp, rfl⟩

/-- A property of the readings of the contexts still to come, after context `c`. -/
private theorem atReadings_next {conn conn' : TApiConnectionTable} {c : CSlot} {cs : List CSlot}
    {k k' : Nat} {P P' : CSlot → Nat → Prop} (hsame : SameElsewhere c conn conn')
    (hP : ∀ c', c' ≠ c → ∀ m, P' c' m ↔ P c' m) (hcs : c ∉ cs)
    (hk : k' = if (conn.ctable c).active = true then passEnd cfg env conn (conn.chain c) k + 1
      else k) :
    AtReadings cfg env conn P (c :: cs) k ↔
      ((conn.ctable c).active = true → P c k) ∧ AtReadings cfg env conn' P' cs k' := by
  rw [AtReadings, atReadings_congr cfg env hsame hP hcs, hk]
  by_cases hactive : (conn.ctable c).active = true <;> simp [hactive]

theorem sweepContexts_performs {conn conn' : TApiConnectionTable} {cs : List CSlot} {k k' : Nat}
    (h : conn.Consistent) (hcs : cs.Nodup)
    (hsweep : sweepContexts cfg env cs conn k = some (conn', k')) :
    ∃ ops, Performs conn ops conn' ∧ (∀ op ∈ ops, Expires op) ∧
      (AtReadings cfg env conn
        (fun c k => ¬contextExpired cfg env conn c (passEnd cfg env conn (conn.chain c) k)) cs k →
        ∀ c, .expireContext c ∉ ops) := by
  induction cs generalizing conn k with
  | nil =>
    simp only [sweepContexts, Option.some.injEq, Prod.mk.injEq] at hsweep
    rw [← hsweep.1]
    exact ⟨[], .nil conn, by simp, by simp⟩
  | cons c cs ih =>
    rw [List.nodup_cons] at hcs
    rw [sweepContexts] at hsweep
    cases hfirst : sweepContext cfg env c conn k with
    | none => simp [hfirst] at hsweep
    | some p =>
      obtain ⟨conn₁, k₁⟩ := p
      simp only [hfirst] at hsweep
      obtain ⟨ops, hops, hexpires, hcontext, hk⟩ := sweepContext_performs cfg env h hfirst
      obtain ⟨ops', hops', hexpires', hkeeps'⟩ := ih (hops.consistent h) hcs.2 hsweep
      have hsame := sameElsewhere_of_performs hops h hexpires
      refine ⟨ops ++ ops', hops.append hops', fun op hop => ?_, fun hkeeps c' hop => ?_⟩
      · rcases List.mem_append.mp hop with hop | hop
        · exact (hexpires op hop).expires
        · exact hexpires' op hop
      · rw [atReadings_next cfg env hsame (fun c' hc' m => ?_) hcs.1 hk] at hkeeps
        · rcases List.mem_append.mp hop with hop | hop
          · rcases hexpires _ hop with ⟨s, he⟩ | he
            · cases he
            · cases he
              obtain ⟨hactive, hexp⟩ := hcontext hop
              exact hkeeps.1 hactive hexp
          · exact hkeeps' hkeeps.2 c' hop
        · rw [contextExpired_congr cfg env hsame, hsame.chain c' hc', passEnd_congr cfg env hsame]

/-- The sweep follows the null pointer exactly if it is not safe. -/
theorem sweepContexts_eq_none {conn : TApiConnectionTable} {cs : List CSlot} {k : Nat}
    (h : conn.Consistent) (hcs : cs.Nodup) :
    sweepContexts cfg env cs conn k = none ↔
      ¬AtReadings cfg env conn
        (fun c k => conn.chain c ≠ [] ∧ PassSafe cfg env conn (conn.chain c) k) cs k := by
  induction cs generalizing conn k with
  | nil => simp [sweepContexts, AtReadings]
  | cons c cs ih =>
    rw [List.nodup_cons] at hcs
    rw [sweepContexts]
    cases hfirst : sweepContext cfg env c conn k with
    | none =>
      unfold sweepContext at hfirst
      split at hfirst
      · rename_i hactive
        cases hpass : sweepSessions cfg env conn (conn.chain c) k with
        | some p => simp [hpass] at hfirst
        | none =>
          rw [sweepSessions_eq_none] at hpass
          rw [AtReadings, if_pos hactive]
          simp only [true_iff, not_and]
          rcases hpass with hpass | hpass
          · exact fun hsafe => absurd hpass hsafe.1
          · exact fun hsafe => absurd hsafe.2 hpass
      · simp at hfirst
    | some p =>
      obtain ⟨conn₁, k₁⟩ := p
      obtain ⟨ops, hops, hexpires, _, hk⟩ := sweepContext_performs cfg env h hfirst
      have hsame := sameElsewhere_of_performs hops h hexpires
      rw [atReadings_next cfg env hsame (fun c' hc' m => ?_) hcs.1 hk]
      · dsimp only
        rw [ih (hops.consistent h) hcs.2, not_and]
        refine ⟨fun hunsafe _ => hunsafe, fun himp => himp fun hactive => ?_⟩
        have hpass : sweepSessions cfg env conn (conn.chain c) k ≠ none := by
          intro hnone
          simp [sweepContext, hactive, hnone] at hfirst
        rwa [ne_eq, sweepSessions_eq_none, not_or, not_not] at hpass
      · rw [hsame.chain c' hc', passSafe_congr cfg env hsame]

/-! ## The request -/

private theorem checkContext_run (h : s.tObj.conn.Consistent) (c : CSlot) :
    checkContext cfg env c s =
      match sweepContext cfg env c s.tObj.conn s.clk with
      | none => .error .nullDeref
      | some (conn, k) => .ok ((), s.sweptTo conn k) := by
  have hpass := checkSessions_run cfg env (c := c) (l := s.tObj.conn.chain c) h
    (fun x hx => hx) (p := none) ((h.linked c).start_eq ▸ h.linked c)
    (Nat.lt_succ_of_le (h.length_le c))
  rw [← (h.linked c).start_eq] at hpass
  unfold sweepContext
  refine (get_bind_run _ _).trans ?_
  by_cases hactive : (s.tObj.conn.ctable c).active = true
  · rw [if_pos hactive, if_pos hactive]
    refine (get_bind_run _ _).trans ?_
    cases hsweep : sweepSessions cfg env s.tObj.conn (s.tObj.conn.chain c) s.clk with
    | none =>
      rw [hsweep] at hpass
      exact bind_of_error hpass _
    | some p =>
      obtain ⟨r, k⟩ := p
      rw [hsweep] at hpass
      rw [bind_of_ok hpass]
      refine (get_bind_run _ _).trans ?_
      refine (timer_bind_run _ _ _).trans ?_
      have hdrop : (dropSession s.tObj.conn c r).Consistent :=
        consistent_dropSession h fun a ha => sweepSessions_mem cfg env (ha ▸ hsweep)
      change (if contextExpired cfg env (dropSession s.tObj.conn c r) c k then _ else _ :
        ServerM Unit) (s.sweptTo (dropSession s.tObj.conn c r) (k + 1)) = _
      dsimp only
      by_cases hexp : contextExpired cfg env (dropSession s.tObj.conn c r) c k
      · rw [if_pos hexp, if_pos hexp]
        have hrun := skSwldTapiRemoveContext_run hdrop c true
        rw [if_neg (by simp)] at hrun
        exact bind_of_ok (onConn_of_ok hrun) _
      · rw [if_neg hexp, if_neg hexp]
        rfl
  · rw [if_neg hactive, if_neg hactive]
    rfl

private theorem checkContexts_run (h : s.tObj.conn.Consistent) (cs : List CSlot) :
    checkContexts cfg env cs s =
      match sweepContexts cfg env cs s.tObj.conn s.clk with
      | none => .error .nullDeref
      | some (conn, k) => .ok ((), s.sweptTo conn k) := by
  induction cs generalizing s with
  | nil => rfl
  | cons c cs ih =>
    have hfirst := checkContext_run cfg env h c
    rw [checkContexts, sweepContexts]
    cases hsweep : sweepContext cfg env c s.tObj.conn s.clk with
    | none =>
      rw [hsweep] at hfirst
      exact bind_of_error hfirst _
    | some p =>
      obtain ⟨conn, k⟩ := p
      rw [hsweep] at hfirst
      rw [bind_of_ok hfirst]
      obtain ⟨ops, hops, _⟩ := sweepContext_performs cfg env h hsweep
      exact ih (s := s.sweptTo conn k) (hops.consistent h)

theorem serveCheck_run (hdr : SkHeader) (h : s.tObj.conn.Consistent) :
    serveCheck env hdr cfg s =
      match sweepContexts cfg env (List.finRange skTapiMaxConnectionsPerContext) s.tObj.conn
          s.clk with
      | none => .error .nullDeref
      | some (conn, k) => answer .checkResp (hdr, skErrorSuccess) (s.sweptTo conn k) := by
  simp only [← reply_run]
  have hrun := checkContexts_run cfg env h (List.finRange skTapiMaxConnectionsPerContext)
  unfold serveCheck
  cases hsweep : sweepContexts cfg env (List.finRange skTapiMaxConnectionsPerContext) s.tObj.conn
      s.clk with
  | none =>
    rw [hsweep] at hrun
    exact bind_of_error hrun _
  | some p =>
    rw [hsweep] at hrun
    exact bind_of_ok hrun _

end Runs

end SkSdk
