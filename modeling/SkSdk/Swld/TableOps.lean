import SkSdk.Swld.SessionTable

/-!
The edits that requests make to the connection table, as operations with a
condition under which each may be made. A request performs a short list of them,
so what holds of every enabled operation holds of every run.
-/

namespace SkSdk
open ByteMemory FaultState DoublyLinked

namespace TApiConnectionTable

/-! ## The edits of the requests -/

def touchContext (conn : TApiConnectionTable) (c : CSlot) (t : UInt32) : TApiConnectionTable :=
  conn.updContext c fun x => { x with timeAccess := t }

def touchSession (conn : TApiConnectionTable) (s : SSlot) (t : UInt32) : TApiConnectionTable :=
  conn.updSession s fun x => { x with timeAccess := t }

def setTapp (conn : TApiConnectionTable) (s : SSlot) (tapp : SkSwldTappInstance) :
    TApiConnectionTable := conn.updSession s fun x => { x with tapp }

def openContext (conn : TApiConnectionTable) (c : CSlot) (handle : Handle) (pid : Int32) :
    TApiConnectionTable :=
  { conn.updContext c fun t => { t with active := true, pid } with
    cthandles := setHandleAt conn.cthandles c handle
    numCtableElements := conn.numCtableElements + 1 }

/-- A context counted out, whether or not it was made inactive. -/
def countOut (conn : TApiConnectionTable) : TApiConnectionTable :=
  { conn with numCtableElements := conn.numCtableElements - 1 }

def issueSession (conn : TApiConnectionTable) (s : SSlot) (handle : Handle) :
    TApiConnectionTable := { conn with sthandles := setHandleAt conn.sthandles s handle }

def openSession (conn : TApiConnectionTable) (c : CSlot) (s : SSlot) (handle : Handle)
    (t t' : UInt32) (taid : SkTaid) (tapp : SkSwldTappInstance) : TApiConnectionTable :=
  ((((conn.issueSession s handle).touchContext c t).touchSession s t').attach c s taid).setTapp
    s tapp

def closeSession (conn : TApiConnectionTable) (c : CSlot) (s : SSlot) (t : UInt32)
    (tapp : SkSwldTappInstance) : TApiConnectionTable :=
  ((conn.touchContext c t).setTapp s tapp).remove c s

/-! ## What the edits leave alone -/

section Frame

variable (conn : TApiConnectionTable) (c c' : CSlot) (s s' : SSlot)

theorem idx_remove : ((conn.remove c s).stable s').idx = (conn.stable s').idx := by
  by_cases h : s' = s <;> simp [TApiConnectionTable.remove, h]

theorem tapp_remove : ((conn.remove c s).stable s').tapp = (conn.stable s').tapp := by
  by_cases h : s' = s <;> simp [TApiConnectionTable.remove, h]

theorem active_remove_context :
    ((conn.remove c s).ctable c').active = (conn.ctable c').active := by
  by_cases h : c' = c <;> simp [TApiConnectionTable.remove, h]

theorem idx_attach (taid : SkTaid) :
    ((conn.attach c s taid).stable s').idx = (conn.stable s').idx := by
  by_cases h : s' = s
  · simp [attach, h]
  · by_cases hl : (conn.chain c).getLast? = some s' <;> simp [attach, h, hl]

theorem tapp_attach (taid : SkTaid) :
    ((conn.attach c s taid).stable s').tapp = (conn.stable s').tapp := by
  by_cases h : s' = s
  · simp [attach, h]
  · by_cases hl : (conn.chain c).getLast? = some s' <;> simp [attach, h, hl]

theorem active_attach_context (taid : SkTaid) :
    ((conn.attach c s taid).ctable c').active = (conn.ctable c').active := by
  by_cases h : c' = c <;> simp [attach, h]

theorem active_touchContext (t : UInt32) :
    ((conn.touchContext c t).ctable c').active = (conn.ctable c').active := by
  by_cases h : c' = c <;> simp [touchContext, h]

theorem idx_openSession (handle : Handle) (t t' : UInt32) (taid : SkTaid)
    (tapp : SkSwldTappInstance) :
    ((conn.openSession c s handle t t' taid tapp).stable s').idx = (conn.stable s').idx := by
  by_cases h : s' = s <;>
    simp [openSession, setTapp, idx_attach, touchSession, touchContext, issueSession, h]

theorem tapp_openSession (handle : Handle) (t t' : UInt32) (taid : SkTaid)
    (tapp : SkSwldTappInstance) :
    ((conn.openSession c s handle t t' taid tapp).stable s').tapp =
      if s' = s then tapp else (conn.stable s').tapp := by
  by_cases h : s' = s <;>
    simp [openSession, setTapp, tapp_attach, touchSession, touchContext, issueSession, h]

theorem active_openSession (handle : Handle) (t t' : UInt32) (taid : SkTaid)
    (tapp : SkSwldTappInstance) :
    ((conn.openSession c s handle t t' taid tapp).stable s').active =
      if s' = s then true else (conn.stable s').active := by
  by_cases h : s' = s
  · simp [openSession, setTapp, attach, h]
  · simp only [openSession, setTapp, stable_updSession, if_neg h, attach]
    split <;> simp [touchSession, touchContext, issueSession, h]

theorem idx_closeSession (t : UInt32) (tapp : SkSwldTappInstance) :
    ((conn.closeSession c s t tapp).stable s').idx = (conn.stable s').idx := by
  by_cases h : s' = s <;> simp [closeSession, idx_remove, setTapp, touchContext, h]

theorem tapp_closeSession (t : UInt32) (tapp : SkSwldTappInstance) (h : s' ≠ s) :
    ((conn.closeSession c s t tapp).stable s').tapp = (conn.stable s').tapp := by
  simp [closeSession, tapp_remove, setTapp, touchContext, h]

end Frame

/-! ## Edits of a consistent table -/

section Represents

variable {conn : TApiConnectionTable} {ch : CSlot → List SSlot}

theorem Represents.touchContext (h : conn.Represents ch) (c : CSlot) (t : UInt32) :
    (conn.touchContext c t).Represents ch := by
  refine h.frame (fun c' => ?_) (fun c' => ?_) (fun _ => ⟨rfl, rfl, rfl⟩) rfl (fun c' hc' => ?_)
  · by_cases hc : c' = c <;> simp [TApiConnectionTable.touchContext, hc]
  · by_cases hc : c' = c <;> simp [TApiConnectionTable.touchContext, hc]
  · refine h.closed c' ?_
    by_cases hc : c' = c <;> simpa [TApiConnectionTable.touchContext, hc] using hc'

theorem Represents.touchSession (h : conn.Represents ch) (s : SSlot) (t : UInt32) :
    (conn.touchSession s t).Represents ch := by
  refine h.frame (fun _ => rfl) (fun _ => rfl) (fun s' => ?_) rfl h.closed
  by_cases hs : s' = s <;> simp [TApiConnectionTable.touchSession, hs]

theorem Represents.setTapp (h : conn.Represents ch) (s : SSlot) (tapp : SkSwldTappInstance) :
    (conn.setTapp s tapp).Represents ch := by
  refine h.frame (fun _ => rfl) (fun _ => rfl) (fun s' => ?_) rfl h.closed
  by_cases hs : s' = s <;> simp [TApiConnectionTable.setTapp, hs]

theorem Represents.countOut (h : conn.Represents ch) : conn.countOut.Represents ch :=
  h.frame (fun _ => rfl) (fun _ => rfl) (fun _ => ⟨rfl, rfl, rfl⟩) rfl h.closed

theorem Represents.issueSession (h : conn.Represents ch) (s : SSlot) (handle : Handle) :
    (conn.issueSession s handle).Represents ch :=
  h.frame (fun _ => rfl) (fun _ => rfl) (fun _ => ⟨rfl, rfl, rfl⟩) rfl h.closed

theorem Represents.openContext (h : conn.Represents ch) (c : CSlot) (handle : Handle)
    (pid : Int32) : (conn.openContext c handle pid).Represents ch := by
  refine h.frame (fun c' => ?_) (fun c' => ?_) (fun _ => ⟨rfl, rfl, rfl⟩) rfl (fun c' hc' => ?_)
  · by_cases hc : c' = c <;> simp [TApiConnectionTable.openContext, hc]
  · by_cases hc : c' = c <;> simp [TApiConnectionTable.openContext, hc]
  · by_cases hc : c' = c
    · simp [TApiConnectionTable.openContext, hc] at hc'
    · exact h.closed c' (by simpa [TApiConnectionTable.openContext, hc] using hc')

theorem Represents.openSession (h : conn.Represents ch) {c : CSlot} {s : SSlot}
    (hc : (conn.ctable c).active = true) (hs : (conn.stable s).active = false) (handle : Handle)
    (t t' : UInt32) (taid : SkTaid) (tapp : SkSwldTappInstance) :
    (conn.openSession c s handle t t' taid tapp).Represents
      (Function.update ch c (ch c ++ [s])) := by
  have hready := ((h.issueSession s handle).touchContext c t).touchSession s t'
  refine (hready.attach ?_ ?_ taid).setTapp s tapp
  · simp [TApiConnectionTable.touchContext, TApiConnectionTable.touchSession,
      TApiConnectionTable.issueSession, hc]
  · simp [TApiConnectionTable.touchContext, TApiConnectionTable.touchSession,
      TApiConnectionTable.issueSession, hs]

theorem Represents.closeSession (h : conn.Represents ch) {c : CSlot} {s : SSlot} (hs : s ∈ ch c)
    (t : UInt32) (tapp : SkSwldTappInstance) :
    (conn.closeSession c s t tapp).Represents (Function.update ch c ((ch c).erase s)) :=
  ((h.touchContext c t).setTapp s tapp).remove hs

end Represents

/-! ## Operations -/

end TApiConnectionTable

inductive TableOp
  | touchContext (c : CSlot) (t : UInt32)
  | touchSession (s : SSlot) (t : UInt32)
  | openContext (c : CSlot) (handle : Handle) (pid : Int32)
  /-- A context made inactive and counted out. -/
  | closeContext (c : CSlot)
  /-- A context counted out that stays active. -/
  | countOut
  /-- A context made inactive that is not counted out. -/
  | expireContext (c : CSlot)
  | openSession (c : CSlot) (s : SSlot) (handle : Handle) (t t' : UInt32) (taid : SkTaid)
    (tapp : SkSwldTappInstance)
  | closeSession (c : CSlot) (s : SSlot) (t : UInt32) (tapp : SkSwldTappInstance)
  | expireSession (c : CSlot) (s : SSlot)

namespace TableOp

def Enabled (conn : TApiConnectionTable) : TableOp → Prop
  | openContext c _ _ => (conn.ctable c).active = false
  | closeContext c | expireContext c => (conn.ctable c).active = true ∧ conn.chain c = []
  | openSession c s _ _ _ _ _ => (conn.ctable c).active = true ∧ (conn.stable s).active = false
  | closeSession c s _ _ | expireSession c s => s ∈ conn.chain c
  | touchContext _ _ | touchSession _ _ | countOut => True

def apply (conn : TApiConnectionTable) : TableOp → TApiConnectionTable
  | touchContext c t => conn.touchContext c t
  | touchSession s t => conn.touchSession s t
  | openContext c handle pid => conn.openContext c handle pid
  | closeContext c => (conn.deactivate c).countOut
  | countOut => conn.countOut
  | expireContext c => conn.deactivate c
  | openSession c s handle t t' taid tapp => conn.openSession c s handle t t' taid tapp
  | closeSession c s t tapp => conn.closeSession c s t tapp
  | expireSession c s => conn.remove c s

/-- What an operation makes of the registry. -/
def applyChains (ch : CSlot → List SSlot) : TableOp → CSlot → List SSlot
  | openSession c s _ _ _ _ _ => Function.update ch c (ch c ++ [s])
  | closeSession c s _ _ | expireSession c s => Function.update ch c ((ch c).erase s)
  | _ => ch

/-- Every operation does to the table what it does to the registry. -/
theorem represents_apply {conn : TApiConnectionTable} (h : conn.Consistent) {op : TableOp}
    (hop : op.Enabled conn) : (op.apply conn).Represents (op.applyChains conn.chain) := by
  cases op with
  | touchContext c t => exact h.touchContext c t
  | touchSession s t => exact h.touchSession s t
  | openContext c handle pid => exact h.openContext c handle pid
  | closeContext c => exact (h.deactivate hop.2).countOut
  | countOut => exact h.countOut
  | expireContext c => exact h.deactivate hop.2
  | openSession c s handle t t' taid tapp => exact h.openSession hop.1 hop.2 handle t t' taid tapp
  | closeSession c s t tapp => exact h.closeSession hop t tapp
  | expireSession c s => exact h.remove hop

theorem consistent_apply {conn : TApiConnectionTable} (h : conn.Consistent) {op : TableOp}
    (hop : op.Enabled conn) : (op.apply conn).Consistent := (represents_apply h hop).consistent

theorem chain_apply {conn : TApiConnectionTable} (h : conn.Consistent) {op : TableOp}
    (hop : op.Enabled conn) : (op.apply conn).chain = op.applyChains conn.chain :=
  funext (represents_apply h hop).chain_eq

/-- The context counter under each operation. -/
theorem numCtableElements_apply (conn : TApiConnectionTable) (op : TableOp) :
    (op.apply conn).numCtableElements = match op with
      | openContext _ _ _ => conn.numCtableElements + 1
      | closeContext _ | countOut => conn.numCtableElements - 1
      | _ => conn.numCtableElements := by
  cases op <;> rfl

/-- The activity of the contexts under each operation. -/
theorem active_apply (conn : TApiConnectionTable) (op : TableOp) (c : CSlot) :
    ((op.apply conn).ctable c).active = match op with
      | openContext c' _ _ => c = c' || (conn.ctable c).active
      | closeContext c' | expireContext c' => !decide (c = c') && (conn.ctable c).active
      | _ => (conn.ctable c).active := by
  cases op with
  | touchContext c' t => exact conn.active_touchContext c' c t
  | openContext c' handle pid =>
    by_cases h : c = c' <;> simp [apply, TApiConnectionTable.openContext, h]
  | closeContext c' =>
    by_cases h : c = c' <;>
      simp [apply, TApiConnectionTable.deactivate, TApiConnectionTable.countOut, h]
  | expireContext c' => by_cases h : c = c' <;> simp [apply, TApiConnectionTable.deactivate, h]
  | openSession c' s handle t t' taid tapp =>
    simp [apply, TApiConnectionTable.openSession, TApiConnectionTable.setTapp,
      TApiConnectionTable.active_attach_context, TApiConnectionTable.touchSession,
      TApiConnectionTable.active_touchContext, TApiConnectionTable.issueSession]
  | closeSession c' s t tapp =>
    simp [apply, TApiConnectionTable.closeSession, TApiConnectionTable.active_remove_context,
      TApiConnectionTable.setTapp, TApiConnectionTable.active_touchContext]
  | expireSession c' s => exact conn.active_remove_context c' c s
  | _ => rfl

/-- No operation moves a slot. -/
theorem idx_apply (conn : TApiConnectionTable) (op : TableOp) (i : SSlot) :
    ((op.apply conn).stable i).idx = (conn.stable i).idx := by
  cases op with
  | touchSession s t => by_cases h : i = s <;> simp [apply, TApiConnectionTable.touchSession, h]
  | openSession c s handle t t' taid tapp => exact conn.idx_openSession c s i handle t t' taid tapp
  | closeSession c s t tapp => exact conn.idx_closeSession c s i t tapp
  | expireSession c s => exact conn.idx_remove c s i
  | _ => rfl

theorem cthandles_apply {conn : TApiConnectionTable} {op : TableOp} (hop : op.Enabled conn)
    {c : CSlot} (hc : (conn.ctable c).active = true) :
    handleAt (op.apply conn).cthandles c = handleAt conn.cthandles c := by
  cases op with
  | openContext c' handle pid =>
    have hne : c ≠ c' := by
      rintro rfl
      exact absurd (hc.symm.trans hop) (by decide)
    exact handleAt_setHandleAt_of_ne (fun he => hne (Fin.ext he)) _ _
  | _ => rfl

/-- What an operation leaves of a session that it does not open: its context,
its TApp and both handles are those from before. -/
theorem kept {conn : TApiConnectionTable} (h : conn.Consistent) {op : TableOp}
    (hop : op.Enabled conn) {c : CSlot} {i : SSlot}
    (hnew : ∀ c' handle t t' taid tapp, op ≠ openSession c' i handle t t' taid tapp)
    (hi : i ∈ (op.apply conn).chain c) :
    i ∈ conn.chain c ∧ ((op.apply conn).stable i).tapp = (conn.stable i).tapp ∧
      handleAt (op.apply conn).sthandles i = handleAt conn.sthandles i ∧
      handleAt (op.apply conn).cthandles c = handleAt conn.cthandles c := by
  rw [chain_apply h hop] at hi
  have hmem : i ∈ conn.chain c := by
    cases op with
    | openSession c' i' handle t t' taid tapp =>
      have hne : i ≠ i' := by
        rintro rfl
        exact hnew c' handle t t' taid tapp rfl
      by_cases hc : c = c'
      · subst hc
        simpa [applyChains, hne] using hi
      · simpa [applyChains, hc] using hi
    | closeSession c' i' t tapp =>
      by_cases hc : c = c'
      · subst hc
        exact List.mem_of_mem_erase (by simpa [applyChains] using hi)
      · simpa [applyChains, hc] using hi
    | expireSession c' i' =>
      by_cases hc : c = c'
      · subst hc
        exact List.mem_of_mem_erase (by simpa [applyChains] using hi)
      · simpa [applyChains, hc] using hi
    | _ => exact hi
  have hactive : (conn.ctable c).active = true := by
    by_contra hne
    rw [h.closed c (by simpa using hne)] at hmem
    exact absurd hmem (List.not_mem_nil)
  refine ⟨hmem, ?_, ?_, cthandles_apply hop hactive⟩
  · cases op with
    | touchSession s t =>
      by_cases hs : i = s <;> simp [apply, TApiConnectionTable.touchSession, hs]
    | openSession c' i' handle t t' taid tapp =>
      have hne : i ≠ i' := by
        rintro rfl
        exact hnew c' handle t t' taid tapp rfl
      exact (conn.tapp_openSession c' i' i handle t t' taid tapp).trans (if_neg hne)
    | closeSession c' i' t tapp =>
      have hne : i ≠ i' := by
        rintro rfl
        have hcc : c = c' := h.disjoint c c' i hmem hop
        subst hcc
        rw [applyChains, Function.update_self] at hi
        exact ((h.linked c).nodup.mem_erase_iff.mp hi).1 rfl
      exact conn.tapp_closeSession c' i' i t tapp hne
    | expireSession c' i' => exact conn.tapp_remove c' i' i
    | _ => rfl
  · cases op with
    | openSession c' i' handle t t' taid tapp =>
      have hne : i ≠ i' := by
        rintro rfl
        exact hnew c' handle t t' taid tapp rfl
      exact handleAt_setHandleAt_of_ne (fun he => hne (Fin.ext he)) _ _
    | _ => rfl

end TableOp

/-- The operations `ops` lead from one table to the other, each enabled in turn. -/
inductive Performs : TApiConnectionTable → List TableOp → TApiConnectionTable → Prop
  | nil (conn : TApiConnectionTable) : Performs conn [] conn
  | cons {conn conn' : TApiConnectionTable} {op : TableOp} {ops : List TableOp} :
      op.Enabled conn → Performs (op.apply conn) ops conn' → Performs conn (op :: ops) conn'

namespace Performs

variable {conn conn' conn'' : TApiConnectionTable} {ops ops' : List TableOp}

theorem single {op : TableOp} (h : op.Enabled conn) : Performs conn [op] (op.apply conn) :=
  .cons h (.nil _)

theorem of_single {op : TableOp} (h : Performs conn [op] conn') :
    op.Enabled conn ∧ conn' = op.apply conn := by
  cases h with
  | cons hop hrest =>
    cases hrest
    exact ⟨hop, rfl⟩

theorem append (h : Performs conn ops conn') (h' : Performs conn' ops' conn'') :
    Performs conn (ops ++ ops') conn'' := by
  induction h with
  | nil conn => exact h'
  | cons hop _ ih => exact .cons hop (ih h')

/-- A property that every enabled operation of the list preserves on consistent
tables holds after all of them. -/
theorem preserves (h : Performs conn ops conn') (hcons : conn.Consistent)
    (I : TApiConnectionTable → Prop) (h₀ : I conn)
    (hI : ∀ op ∈ ops, ∀ conn, conn.Consistent → op.Enabled conn → I conn → I (op.apply conn)) :
    I conn' := by
  induction h with
  | nil conn => exact h₀
  | cons hop _ ih =>
    refine ih (TableOp.consistent_apply hcons hop) (hI _ (by simp) _ hcons hop h₀) ?_
    intro op hmem
    exact hI op (List.mem_cons_of_mem _ hmem)

theorem consistent (h : Performs conn ops conn') (hcons : conn.Consistent) :
    conn'.Consistent :=
  h.preserves hcons _ hcons fun _ _ _ hc hop _ => TableOp.consistent_apply hc hop

/-- The same over a list of operations that do not open the session. -/
theorem kept (h : Performs conn ops conn') (hcons : conn.Consistent) {c : CSlot} {i : SSlot}
    (hnew : ∀ op ∈ ops, ∀ c' handle t t' taid tapp,
      op ≠ .openSession c' i handle t t' taid tapp) (hi : i ∈ conn'.chain c) :
    i ∈ conn.chain c ∧ (conn'.stable i).tapp = (conn.stable i).tapp ∧
      handleAt conn'.sthandles i = handleAt conn.sthandles i ∧
      handleAt conn'.cthandles c = handleAt conn.cthandles c := by
  induction h with
  | nil conn => exact ⟨hi, rfl, rfl, rfl⟩
  | cons hop _ ih =>
    obtain ⟨hmem, htapp, hs, hc⟩ := ih (TableOp.consistent_apply hcons hop)
      (fun op hmem => hnew op (List.mem_cons_of_mem _ hmem)) hi
    obtain ⟨hmem', htapp', hs', hc'⟩ := TableOp.kept hcons hop (hnew _ (by simp)) hmem
    exact ⟨hmem', htapp.trans htapp', hs.trans hs', hc.trans hc'⟩

end Performs

end SkSdk
