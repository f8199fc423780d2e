import Mathlib.Data.List.Nodup
import Mathlib.Logic.Function.Basic

/-!
Intrusive doubly linked lists. The nodes live in an arena indexed by `ι`; a
pointer is an `Option ι`, null being `none`. `Linked L start l` says that the
list headed by `start` is exactly `l`: it ends, and each `prev` inverts a
`next`. The operations rewrite single links, so several lists share one arena
and a frame lemma says which nodes a rewrite can be seen from.
-/

namespace DoublyLinked

structure Links (ι : Type) where
  next : ι → Option ι
  prev : ι → Option ι

variable {ι : Type}

/-- The nodes `l` from `h` on, entered from `p` and left towards `n`. -/
def Seg (L : Links ι) : Option ι → Option ι → List ι → Option ι → Prop
  | _, h, [], n => h = n
  | p, h, a :: l, n => h = some a ∧ L.prev a = p ∧ Seg L (some a) (L.next a) l n

def Linked (L : Links ι) (start : Option ι) (l : List ι) : Prop := Seg L none start l none

/-- The last node of `l`, or `p` when there is none. -/
def tailOf : Option ι → List ι → Option ι
  | p, [] => p
  | _, a :: l => tailOf (some a) l

theorem tailOf_mem {a x : ι} {l : List ι} (h : tailOf (some a) l = some x) : x ∈ a :: l := by
  induction l generalizing a with
  | nil =>
    simp only [tailOf, Option.some.injEq] at h
    simp [h]
  | cons b l ih => exact List.mem_cons_of_mem a (ih h)

theorem getLast?_eq_tailOf (p : Option ι) {l : List ι} (hl : l ≠ []) : l.getLast? = tailOf p l := by
  induction l generalizing p with
  | nil => exact absurd rfl hl
  | cons a l ih =>
    cases l with
    | nil => rfl
    | cons b l =>
      rw [List.getLast?_cons_cons, ih (some a) (List.cons_ne_nil b l)]
      rfl

theorem Seg.congr {L L' : Links ι} {p h n : Option ι} {l : List ι}
    (hL : ∀ a ∈ l, L'.next a = L.next a ∧ L'.prev a = L.prev a) (hs : Seg L p h l n) :
    Seg L' p h l n := by
  induction l generalizing p h with
  | nil => exact hs
  | cons a l ih =>
    obtain ⟨hh, hp, hr⟩ := hs
    obtain ⟨hn', hp'⟩ := hL a (by simp)
    refine ⟨hh, hp'.trans hp, ?_⟩
    rw [hn']
    exact ih (fun b hb => hL b (by simp [hb])) hr

theorem Seg.unique {L : Links ι} {p p' h : Option ι} {l l' : List ι}
    (hs : Seg L p h l none) (hs' : Seg L p' h l' none) : l = l' := by
  induction l generalizing p p' h l' with
  | nil =>
    cases l' with
    | nil => rfl
    | cons b l' => exact absurd (hs.symm.trans hs'.1) (by simp)
  | cons a l ih =>
    obtain ⟨hh, _, hr⟩ := hs
    cases l' with
    | nil => exact absurd (hs'.symm.trans hh) (by simp)
    | cons b l' =>
      obtain ⟨hh', _, hr'⟩ := hs'
      have hab : a = b := Option.some.inj (hh.symm.trans hh')
      subst hab
      rw [ih hr hr']

theorem Seg.suffix {L : Links ι} {p h n : Option ι} {l₁ l₂ : List ι}
    (hs : Seg L p h (l₁ ++ l₂) n) : ∃ p' h', Seg L p' h' l₂ n := by
  induction l₁ generalizing p h with
  | nil => exact ⟨p, h, hs⟩
  | cons a l₁ ih => exact ih hs.2.2

/-- A list that ends visits no node twice. -/
theorem Seg.nodup {L : Links ι} {p h : Option ι} {l : List ι} (hs : Seg L p h l none) :
    l.Nodup := by
  induction l generalizing p h with
  | nil => exact List.nodup_nil
  | cons a l ih =>
    refine List.nodup_cons.mpr ⟨fun ha => ?_, ih hs.2.2⟩
    obtain ⟨l₁, l₂, rfl⟩ := List.append_of_mem ha
    obtain ⟨p', h', hrest⟩ := hs.2.2.suffix
    have hhead : Seg L p' (some a) (a :: l₂) none := hrest.1 ▸ hrest
    have hlen := congrArg List.length ((hs.1 ▸ hs).unique hhead)
    simp at hlen
    omega

theorem Seg.prev_eq {L : Links ι} {p h n : Option ι} {l₁ l₂ : List ι} {a : ι}
    (hs : Seg L p h (l₁ ++ a :: l₂) n) : L.prev a = tailOf p l₁ := by
  induction l₁ generalizing p h with
  | nil => exact hs.2.1
  | cons b l₁ ih => exact ih hs.2.2

theorem Linked.nodup {L : Links ι} {start : Option ι} {l : List ι} (h : Linked L start l) :
    l.Nodup := Seg.nodup h

theorem Linked.unique {L : Links ι} {start : Option ι} {l l' : List ι}
    (h : Linked L start l) (h' : Linked L start l') : l = l' := Seg.unique h h'

@[simp] theorem linked_nil (L : Links ι) (start : Option ι) : Linked L start [] ↔ start = none :=
  Iff.rfl

theorem Linked.start_eq {L : Links ι} {start : Option ι} {l : List ι} (h : Linked L start l) :
    start = l.head? := by
  cases l with
  | nil => exact h
  | cons a l => exact h.1

/-- Rewriting links of nodes outside `l` is not seen from `l`. -/
theorem Linked.frame {L L' : Links ι} {start : Option ι} {l : List ι}
    (hL : ∀ a ∈ l, L'.next a = L.next a ∧ L'.prev a = L.prev a) (h : Linked L start l) :
    Linked L' start l := Seg.congr hL h

/-- The only node without a predecessor is the head. -/
theorem Linked.prev_eq_none {L : Links ι} {start : Option ι} {l : List ι} {a : ι}
    (h : Linked L start l) (ha : a ∈ l) : L.prev a = none ↔ start = some a := by
  obtain ⟨l₁, l₂, rfl⟩ := List.append_of_mem ha
  have hnd := h.nodup
  have hp : L.prev a = tailOf none l₁ := h.prev_eq
  have hstart := h.start_eq
  cases l₁ with
  | nil =>
    simp only [tailOf] at hp
    simp [hp, hstart]
  | cons b l₁ =>
    have hsome : ∃ x, tailOf (some b) l₁ = some x := by
      clear hp hstart hnd h ha
      induction l₁ generalizing b with
      | nil => exact ⟨b, rfl⟩
      | cons c l₁ ih => exact ih c
    obtain ⟨x, hx⟩ := hsome
    have hba : b ≠ a := by
      rintro rfl
      simp at hnd
    simp only [tailOf] at hp
    rw [hp, hx, hstart]
    simp [hba]

theorem Linked.next_mem {L : Links ι} {start : Option ι} {l : List ι} {a b : ι}
    (h : Linked L start l) (ha : a ∈ l) (hb : L.next a = some b) : b ∈ l := by
  obtain ⟨l₁, l₂, rfl⟩ := List.append_of_mem ha
  have hseg : Seg L none start (l₁ ++ a :: l₂) none := h
  obtain ⟨_, _, hs⟩ := hseg.suffix
  have hr := hs.2.2
  cases l₂ with
  | nil => exact absurd (hr.symm.trans hb) (by simp)
  | cons c l₂ =>
    have hc : c = b := Option.some.inj (hr.1.symm.trans hb)
    simp [hc]

/-- The links of a node name its neighbours in the list. -/
theorem Linked.next_eq {L : Links ι} {start : Option ι} {l₁ l₂ : List ι} {a : ι}
    (h : Linked L start (l₁ ++ a :: l₂)) : L.next a = l₂.head? := by
  have hseg : Seg L none start (l₁ ++ a :: l₂) none := h
  obtain ⟨_, _, hs⟩ := hseg.suffix
  cases l₂ with
  | nil => exact hs.2.2
  | cons b l₂ => exact hs.2.2.1

theorem Linked.prev_eq {L : Links ι} {start : Option ι} {l₁ l₂ : List ι} {a : ι}
    (h : Linked L start (l₁ ++ a :: l₂)) : L.prev a = l₁.getLast? := by
  have hp : L.prev a = tailOf none l₁ := Seg.prev_eq h
  rw [hp]
  cases l₁ with
  | nil => rfl
  | cons b l₁ => exact (getLast?_eq_tailOf none (by simp)).symm

/-- A list determines the links of its nodes. -/
theorem Linked.links_unique {L L' : Links ι} {start start' : Option ι} {l : List ι} {a : ι}
    (h : Linked L start l) (h' : Linked L' start' l) (ha : a ∈ l) :
    L.next a = L'.next a ∧ L.prev a = L'.prev a := by
  obtain ⟨l₁, l₂, rfl⟩ := List.append_of_mem ha
  exact ⟨h.next_eq.trans h'.next_eq.symm, h.prev_eq.trans h'.prev_eq.symm⟩

theorem Linked.prev_mem {L : Links ι} {start : Option ι} {l : List ι} {a b : ι}
    (h : Linked L start l) (ha : a ∈ l) (hb : L.prev a = some b) : b ∈ l := by
  obtain ⟨l₁, l₂, rfl⟩ := List.append_of_mem ha
  have hp : L.prev a = tailOf none l₁ := Seg.prev_eq h
  rw [hb] at hp
  cases l₁ with
  | nil => simp [tailOf] at hp
  | cons c l₁ => exact List.mem_append_left _ (tailOf_mem hp.symm)

/-- The two link fields of a list invert each other. -/
theorem Linked.next_iff_prev {L : Links ι} {start : Option ι} {l : List ι} {a b : ι}
    (h : Linked L start l) (ha : a ∈ l) (hb : b ∈ l) : L.next a = some b ↔ L.prev b = some a := by
  constructor
  · intro hab
    obtain ⟨l₁, l₂, rfl⟩ := List.append_of_mem ha
    have hseg : Seg L none start (l₁ ++ a :: l₂) none := h
    obtain ⟨_, _, hs⟩ := hseg.suffix
    have hr := hs.2.2
    cases l₂ with
    | nil => exact absurd (hr.symm.trans hab) (by simp)
    | cons c l₂ =>
      have hc : c = b := Option.some.inj (hr.1.symm.trans hab)
      exact hc ▸ hr.2.1
  · intro hba
    obtain ⟨l₁, l₂, rfl⟩ := List.append_of_mem hb
    have hp : L.prev b = tailOf none l₁ := (Seg.prev_eq h)
    have hne : l₁ ≠ [] := by
      rintro rfl
      exact absurd (hp.symm.trans hba) (by simp [tailOf])
    have hlast : l₁.getLast? = some a := by rw [getLast?_eq_tailOf none hne, ← hp, hba]
    obtain ⟨l₀, rfl⟩ := List.getLast?_eq_some_iff.mp hlast
    rw [List.append_assoc] at h
    have hseg : Seg L none start (l₀ ++ a :: b :: l₂) none := h
    obtain ⟨_, _, hs⟩ := hseg.suffix
    exact hs.2.2.1

theorem Linked.next_ne {L : Links ι} {start : Option ι} {l : List ι} {a : ι}
    (h : Linked L start l) (ha : a ∈ l) : L.next a ≠ some a := by
  intro he
  obtain ⟨l₁, l₂, rfl⟩ := List.append_of_mem ha
  have hseg : Seg L none start (l₁ ++ a :: l₂) none := h
  obtain ⟨_, _, hs⟩ := hseg.suffix
  have hnd := hs.nodup
  have hr := hs.2.2
  cases l₂ with
  | nil => exact absurd (hr.symm.trans he) (by simp)
  | cons c l₂ =>
    have hc : c = a := Option.some.inj (hr.1.symm.trans he)
    simp [hc] at hnd

theorem Linked.prev_ne {L : Links ι} {start : Option ι} {l : List ι} {a : ι}
    (h : Linked L start l) (ha : a ∈ l) : L.prev a ≠ some a := by
  intro he
  obtain ⟨l₁, l₂, rfl⟩ := List.append_of_mem ha
  have hnd := h.nodup
  have hp : L.prev a = tailOf none l₁ := (Seg.prev_eq h)
  rw [he] at hp
  cases l₁ with
  | nil => simp [tailOf] at hp
  | cons c l₁ =>
    have hmem : a ∈ c :: l₁ := tailOf_mem hp.symm
    rw [List.nodup_append] at hnd
    exact hnd.2.2 a hmem a (by simp) rfl

section Rewrite

variable [DecidableEq ι]

def Links.setNext (L : Links ι) (a : ι) (v : Option ι) : Links ι :=
  { L with next := Function.update L.next a v }

def Links.setPrev (L : Links ι) (a : ι) (v : Option ι) : Links ι :=
  { L with prev := Function.update L.prev a v }

/-- Join the neighbours of `a`, whose own links stay. -/
def Links.bypass (L : Links ι) (a : ι) : Links ι :=
  let L₁ := match L.prev a with
    | some p => L.setNext p (L.next a)
    | none => L
  match L.next a with
  | some b => L₁.setPrev b (L.prev a)
  | none => L₁

/-- Null both links of `a`. -/
def Links.clear (L : Links ι) (a : ι) : Links ι := (L.setNext a none).setPrev a none

theorem Links.bypass_next (L : Links ι) (a x : ι) :
    (L.bypass a).next x = if L.prev a = some x then L.next a else L.next x := by
  unfold bypass
  cases hp : L.prev a with
  | none => cases L.next a <;> simp [setPrev]
  | some p =>
    have hc : (some p = some x) = (x = p) := by simp [eq_comm]
    cases L.next a <;> simp [setPrev, setNext, Function.update_apply, hc]

theorem Links.bypass_prev (L : Links ι) (a x : ι) :
    (L.bypass a).prev x = if L.next a = some x then L.prev a else L.prev x := by
  unfold bypass
  cases hn : L.next a with
  | none => cases L.prev a <;> simp [setNext]
  | some b =>
    have hc : (some b = some x) = (x = b) := by simp [eq_comm]
    cases L.prev a <;> simp [setPrev, setNext, Function.update_apply, hc]

@[simp] theorem Links.clear_next (L : Links ι) (a x : ι) :
    (L.clear a).next x = if x = a then none else L.next x := by
  simp [clear, setNext, setPrev, Function.update_apply]

@[simp] theorem Links.clear_prev (L : Links ι) (a x : ι) :
    (L.clear a).prev x = if x = a then none else L.prev x := by
  simp [clear, setNext, setPrev, Function.update_apply]

private theorem Seg.bypass {L : Links ι} {p h : Option ι} {l₁ l₂ : List ι} {a : ι}
    (hs : Seg L p h (l₁ ++ a :: l₂) none) (hp : ∀ q, p = some q → q ∉ l₁ ++ a :: l₂) :
    Seg (L.bypass a) p (if h = some a then L.next a else h) (l₁ ++ l₂) none := by
  have hnd := hs.nodup
  have hprev := hs.prev_eq
  induction l₁ generalizing p h with
  | nil =>
    obtain ⟨rfl, hpa, hr⟩ := hs
    simp only [↓reduceIte, List.nil_append]
    cases l₂ with
    | nil => exact hr
    | cons b l₃ =>
      obtain ⟨hb, hpb, hr'⟩ := hr
      have hnd' : (b :: l₃).Nodup := (List.nodup_cons.mp hnd).2
      -- neither the entry `p` nor the new head `b` is a node of `l₃`
      have hpl : ∀ x ∈ b :: l₃, L.prev a ≠ some x := by
        intro x hx he
        exact hp x (hpa ▸ he) (by simp at hx ⊢; tauto)
      refine ⟨hb, ?_, ?_⟩
      · rw [Links.bypass_prev, if_pos hb, hpa]
      · rw [Links.bypass_next, if_neg (hpl b (by simp))]
        refine hr'.congr fun x hx => ⟨?_, ?_⟩
        · rw [Links.bypass_next, if_neg (hpl x (by simp [hx]))]
        · have hbx : b ≠ x := fun he => (List.nodup_cons.mp hnd').1 (he ▸ hx)
          rw [Links.bypass_prev, hb, if_neg (by simpa using hbx)]
  | cons c l₁ ih =>
    obtain ⟨rfl, hpc, hr⟩ := hs
    rw [List.cons_append, List.nodup_cons] at hnd
    have hca : c ≠ a := fun he => hnd.1 (by simp [he])
    have hrest := ih hr (fun q hq => by cases hq; exact hnd.1) hnd.2 hprev
    rw [if_neg (by simpa using hca), List.cons_append]
    refine ⟨rfl, ?_, ?_⟩
    · -- `c` is the successor of `a` only if it occurs behind `a`
      have hne : L.next a ≠ some c := by
        intro he
        obtain ⟨_, _, hsuf⟩ := hr.suffix
        have hr' := hsuf.2.2
        cases l₂ with
        | nil => exact absurd (hr'.symm.trans he) (by simp)
        | cons b l₃ =>
          have : b = c := Option.some.inj (hr'.1.symm.trans he)
          exact hnd.1 (by simp [this])
      rw [Links.bypass_prev, if_neg hne, hpc]
    · rw [Links.bypass_next]
      have hiff : L.prev a = some c ↔ L.next c = some a := by
        cases l₁ with
        | nil => simp [hr.1, hr.2.1]
        | cons d l₁ =>
          have hda : d ≠ a := fun he => by
            have := hnd.2
            simp [he] at this
          constructor
          · intro he
            rw [hprev] at he
            have hmem : c ∈ d :: l₁ := tailOf_mem he
            exact absurd (List.mem_append_left _ hmem) hnd.1
          · intro he
            exact absurd (Option.some.inj (hr.1.symm.trans he)) hda
      by_cases he : L.next c = some a
      · rw [if_pos (hiff.mpr he)]
        rw [if_pos he] at hrest
        exact hrest
      · rw [if_neg (mt hiff.mp he)]
        rw [if_neg he] at hrest
        exact hrest

/-- Bypassing a node deletes it from its list and keeps the order of the rest. -/
theorem Linked.bypass {L : Links ι} {start : Option ι} {l : List ι} {a : ι}
    (h : Linked L start l) (ha : a ∈ l) :
    Linked (L.bypass a) (if start = some a then L.next a else start) (l.erase a) := by
  have hnd := h.nodup
  obtain ⟨l₁, l₂, rfl⟩ := List.append_of_mem ha
  have ha₁ : a ∉ l₁ := fun hm => by
    rw [List.nodup_append] at hnd
    exact hnd.2.2 a hm a (by simp) rfl
  rw [List.erase_append_right _ ha₁, List.erase_cons_head]
  exact Seg.bypass h (by simp)

/-- Only the neighbours of `a` see a bypass, and they are in `a`'s list. -/
theorem Linked.bypass_frame {L : Links ι} {start : Option ι} {l : List ι} {a x : ι}
    (h : Linked L start l) (ha : a ∈ l) (hx : x ∉ l) :
    (L.bypass a).next x = L.next x ∧ (L.bypass a).prev x = L.prev x := by
  constructor
  · rw [Links.bypass_next, if_neg fun he => hx (h.prev_mem ha he)]
  · rw [Links.bypass_prev, if_neg fun he => hx (h.next_mem ha he)]

/-- Unlink `a` and null its links. -/
theorem Linked.unlink {L : Links ι} {start : Option ι} {l : List ι} {a : ι}
    (h : Linked L start l) (ha : a ∈ l) :
    Linked ((L.bypass a).clear a) (if start = some a then L.next a else start) (l.erase a) := by
  refine (h.bypass ha).frame fun x hx => ?_
  have hxa : x ≠ a := ((h.nodup.mem_erase_iff).mp hx).1
  simp [hxa]

theorem Linked.unlink_frame {L : Links ι} {start start' : Option ι} {l l' : List ι} {a : ι}
    (h : Linked L start l) (ha : a ∈ l) (h' : Linked L start' l') (hd : ∀ x ∈ l', x ∉ l) :
    Linked ((L.bypass a).clear a) start' l' := by
  refine h'.frame fun x hx => ?_
  have hxa : x ≠ a := fun he => hd x hx (he ▸ ha)
  simpa [hxa] using h.bypass_frame ha (hd x hx)

/-- Hang `x` behind the last node `t`. -/
def Links.append (L : Links ι) (t x : ι) : Links ι :=
  ((L.setNext x none).setNext t (some x)).setPrev x (some t)

theorem Links.append_next (L : Links ι) (t x y : ι) :
    (L.append t x).next y = if y = t then some x else if y = x then none else L.next y := by
  simp [append, setNext, setPrev, Function.update_apply]

theorem Links.append_prev (L : Links ι) (t x y : ι) :
    (L.append t x).prev y = if y = x then some t else L.prev y := by
  simp [append, setNext, setPrev, Function.update_apply]

private theorem Seg.append {L : Links ι} {p h : Option ι} {l : List ι} {t x : ι}
    (hs : Seg L p h l none) (ht : tailOf p l = some t) (hl : l ≠ []) (hx : x ∉ l) :
    Seg (L.append t x) p h (l ++ [x]) none := by
  have hnd := hs.nodup
  induction l generalizing p h with
  | nil => exact absurd rfl hl
  | cons a l ih =>
    obtain ⟨rfl, hpa, hr⟩ := hs
    simp only [List.mem_cons, not_or] at hx
    have hat : t ∈ a :: l := tailOf_mem ht
    have htx : t ≠ x := fun he => by
      subst he
      simp at hat
      tauto
    refine ⟨rfl, by rw [Links.append_prev, if_neg (Ne.symm hx.1), hpa], ?_⟩
    cases l with
    | nil =>
      have hta : a = t := by simpa [tailOf] using ht
      subst hta
      refine ⟨by simp [Links.append_next], by simp [Links.append_prev], ?_⟩
      rw [Links.append_next, if_neg (Ne.symm htx), if_pos rfl]
      exact rfl
    | cons b l =>
      have hta : a ≠ t := fun he => by
        have hmem : t ∈ b :: l := tailOf_mem ht
        exact (List.nodup_cons.mp hnd).1 (he ▸ hmem)
      rw [Links.append_next, if_neg hta, if_neg (Ne.symm hx.1)]
      exact ih hr ht (by simp) hx.2 (List.nodup_cons.mp hnd).2

/-- Appending a node outside a non-empty list puts it at the end. -/
theorem Linked.append {L : Links ι} {start : Option ι} {l : List ι} {t x : ι}
    (h : Linked L start l) (ht : tailOf none l = some t) (hx : x ∉ l) :
    Linked (L.append t x) start (l ++ [x]) := by
  refine Seg.append h ht ?_ hx
  rintro rfl
  simp [tailOf] at ht

theorem Links.append_frame (L : Links ι) {t x y : ι} (hyt : y ≠ t) (hyx : y ≠ x) :
    (L.append t x).next y = L.next y ∧ (L.append t x).prev y = L.prev y := by
  simp [append, setNext, setPrev, hyt, hyx]

end Rewrite

/-! Walks with a bound on the number of nodes visited; `none` is a walk that
has not ended within the bound. -/

/-- The nodes from `h` on, at most `k` of them. -/
def walk (next : ι → Option ι) : Nat → Option ι → List ι
  | _, none => []
  | 0, some _ => []
  | k + 1, some a => a :: walk next k (next a)

/-- The last node of the list from `a` on. -/
def lastFrom (next : ι → Option ι) : Nat → ι → Option ι
  | 0, _ => none
  | k + 1, a => match next a with
    | none => some a
    | some b => lastFrom next k b

/-- The first node from `h` on that satisfies `q`. -/
def findFrom (next : ι → Option ι) (q : ι → Bool) : Nat → Option ι → Option (Option ι)
  | _, none => some none
  | 0, some _ => none
  | k + 1, some a => if q a then some (some a) else findFrom next q k (next a)

theorem Seg.walk_eq {L : Links ι} {p h : Option ι} {l : List ι} {k : Nat}
    (hs : Seg L p h l none) (hk : l.length ≤ k) : walk L.next k h = l := by
  induction l generalizing p h k with
  | nil =>
    have hh : h = none := hs
    rw [hh]
    unfold walk
    rfl
  | cons a l ih =>
    obtain ⟨rfl, _, hr⟩ := hs
    cases k with
    | zero => simp at hk
    | succ k => rw [walk, ih hr (by simpa using hk)]

theorem Seg.lastFrom_eq {L : Links ι} {p : Option ι} {a : ι} {l : List ι} {k : Nat}
    (hs : Seg L p (some a) (a :: l) none) (hk : l.length < k) :
    lastFrom L.next k a = tailOf p (a :: l) := by
  induction l generalizing p a k with
  | nil =>
    have hn : L.next a = none := hs.2.2
    cases k with
    | zero => simp at hk
    | succ k => simp [lastFrom, hn, tailOf]
  | cons b l ih =>
    obtain ⟨_, _, hr⟩ := hs
    cases k with
    | zero => simp at hk
    | succ k =>
      have hb : L.next a = some b := hr.1
      rw [hb] at hr
      rw [lastFrom, hb]
      exact ih hr (by simpa using hk)

theorem Seg.findFrom_eq {L : Links ι} {q : ι → Bool} {p h : Option ι} {l : List ι} {k : Nat}
    (hs : Seg L p h l none) (hk : l.length ≤ k) : findFrom L.next q k h = some (l.find? q) := by
  induction l generalizing p h k with
  | nil =>
    have hh : h = none := hs
    rw [hh]
    unfold findFrom
    rfl
  | cons a l ih =>
    obtain ⟨rfl, _, hr⟩ := hs
    cases k with
    | zero => simp at hk
    | succ k =>
      rw [findFrom, List.find?_cons]
      cases hq : q a with
      | true => simp
      | false => simpa using ih hr (by simpa using hk)

theorem Linked.walk_eq {L : Links ι} {start : Option ι} {l : List ι} {k : Nat}
    (h : Linked L start l) (hk : l.length ≤ k) : walk L.next k start = l := Seg.walk_eq h hk

theorem Linked.findFrom_eq {L : Links ι} {q : ι → Bool} {start : Option ι} {l : List ι} {k : Nat}
    (h : Linked L start l) (hk : l.length ≤ k) :
    findFrom L.next q k start = some (l.find? q) := Seg.findFrom_eq h hk

end DoublyLinked
