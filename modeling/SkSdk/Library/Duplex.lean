import Mathlib.Data.List.Basic

/-!
A client and a server that talk over two queues, one in each direction. A `Proc`
puts and gets one symbol at a time, so that every interleaving of the two sides
is a run of `Step`. Where each call and the job that answers it agree on the
symbols of one question and one answer (`Meets`), the two sides stay in step:
in every state of every run the queues are empty between two calls, and every
run comes to its end.
-/

namespace Duplex

variable {β ε α γ : Type}

/-! ## Processes -/

/-- A process that gets `none` finds that nothing more arrives for now; between
the two sides of this module that never happens. -/
inductive Proc (β ε α : Type) where
  | ret (a : α)
  | fail (e : ε)
  | put (b : β) (k : Proc β ε α)
  | get (k : Option β → Proc β ε α)

namespace Proc

def bind : Proc β ε α → (α → Proc β ε γ) → Proc β ε γ
  | ret a, f => f a
  | fail e, _ => fail e
  | put b k, f => put b (k.bind f)
  | get k, f => get fun b => (k b).bind f

instance : Monad (Proc β ε) where
  pure := ret
  bind := bind

def send : List β → Proc β ε Unit
  | [] => ret ()
  | b :: bs => put b (send bs)

/-- The next `n` symbols, or as many as arrive. -/
def recv : Nat → Proc β ε (List β)
  | 0 => ret []
  | n + 1 => get fun
    | none => ret []
    | some b => (recv n).bind fun bs => ret (b :: bs)

/-- `p` puts exactly `bs` and is then `q`. -/
inductive Writes : Proc β ε α → List β → Proc β ε α → Prop
  | done (p : Proc β ε α) : Writes p [] p
  | put {k q : Proc β ε α} {b : β} {bs : List β} : Writes k bs q → Writes (put b k) (b :: bs) q

/-- `p` gets exactly `bs` and is then `q`. -/
inductive Reads : Proc β ε α → List β → Proc β ε α → Prop
  | done (p : Proc β ε α) : Reads p [] p
  | get {k : Option β → Proc β ε α} {q : Proc β ε α} {b : β} {bs : List β} :
      Reads (k (some b)) bs q → Reads (get k) (b :: bs) q

theorem Writes.append {p q r : Proc β ε α} {bs cs : List β} (h : Writes p bs q)
    (hr : Writes q cs r) : Writes p (bs ++ cs) r := by
  induction h with
  | done => exact hr
  | put _ ih => exact .put (ih hr)

theorem Reads.append {p q r : Proc β ε α} {bs cs : List β} (h : Reads p bs q)
    (hr : Reads q cs r) : Reads p (bs ++ cs) r := by
  induction h with
  | done => exact hr
  | get _ ih => exact .get (ih hr)

theorem Writes.bind {p q : Proc β ε α} {bs : List β} (h : Writes p bs q)
    (f : α → Proc β ε γ) : Writes (p >>= f) bs (q >>= f) := by
  induction h with
  | done => exact .done _
  | put _ ih => exact .put ih

theorem Reads.bind {p q : Proc β ε α} {bs : List β} (h : Reads p bs q)
    (f : α → Proc β ε γ) : Reads (p >>= f) bs (q >>= f) := by
  induction h with
  | done => exact .done _
  | get _ ih => exact .get ih

/-- One process after another. -/
theorem Writes.seq {p : Proc β ε α} {a : α} {f : α → Proc β ε γ} {q : Proc β ε γ}
    {bs cs : List β} (h : Writes p bs (ret a)) (hf : Writes (f a) cs q) :
    Writes (p >>= f) (bs ++ cs) q :=
  (h.bind f).append hf

theorem Reads.seq {p : Proc β ε α} {a : α} {f : α → Proc β ε γ} {q : Proc β ε γ}
    {bs cs : List β} (h : Reads p bs (ret a)) (hf : Reads (f a) cs q) :
    Reads (p >>= f) (bs ++ cs) q :=
  (h.bind f).append hf

/-- The last of several processes. -/
theorem Writes.last {p : Proc β ε α} {a : α} {f : α → Proc β ε γ} {q : Proc β ε γ}
    {bs : List β} (h : Writes p bs (ret a)) (hf : f a = q) : Writes (p >>= f) bs q :=
  hf ▸ h.bind f

theorem Reads.last {p : Proc β ε α} {a : α} {f : α → Proc β ε γ} {q : Proc β ε γ}
    {bs : List β} (h : Reads p bs (ret a)) (hf : f a = q) : Reads (p >>= f) bs q :=
  hf ▸ h.bind f

theorem writes_send (bs : List β) : Writes (send bs : Proc β ε Unit) bs (ret ()) := by
  induction bs with
  | nil => exact .done _
  | cons b bs ih => exact .put ih

theorem reads_recv {n : Nat} {bs : List β} (h : bs.length = n) :
    Reads (recv n : Proc β ε (List β)) bs (ret bs) := by
  subst h
  induction bs with
  | nil => exact .done _
  | cons b bs ih => exact .get (ih.bind fun bs => ret (b :: bs))

/-! What a process does first says what it has read or written. -/

theorem Writes.of_put {k q : Proc β ε α} {b : β} {bs : List β} (h : Writes (.put b k) bs q) :
    (bs = [] ∧ q = .put b k) ∨ ∃ bs', bs = b :: bs' ∧ Writes k bs' q := by
  cases h with
  | done => exact Or.inl ⟨rfl, rfl⟩
  | put h => exact Or.inr ⟨_, rfl, h⟩

theorem Writes.of_ret {a : α} {q : Proc β ε α} {bs : List β} (h : Writes (.ret a) bs q) :
    bs = [] ∧ q = .ret a := by
  cases h
  exact ⟨rfl, rfl⟩

theorem Reads.of_ret {a : α} {q : Proc β ε α} {bs : List β} (h : Reads (.ret a) bs q) :
    bs = [] ∧ q = .ret a := by
  cases h
  exact ⟨rfl, rfl⟩

theorem Reads.of_put {k q : Proc β ε α} {b : β} {bs : List β} (h : Reads (.put b k) bs q) :
    bs = [] ∧ q = .put b k := by
  cases h
  exact ⟨rfl, rfl⟩

theorem Reads.of_get {k : Option β → Proc β ε α} {q : Proc β ε α} {b : β} {bs : List β}
    (h : Reads (.get k) (b :: bs) q) : Reads (k (some b)) bs q := by
  cases h with
  | get h => exact h

theorem Reads.nil_eq {p q : Proc β ε α} (h : Reads p [] q) : p = q := by
  cases h
  rfl

theorem Writes.nil_eq {p q : Proc β ε α} (h : Writes p [] q) : p = q := by
  cases h
  rfl

end Proc

/-! ## A client and a server -/

/-- What the two sides run. A job, in the state the last one left, begins by
reading. -/
structure Parties (β ε C J σ A B : Type) where
  client : C → Proc β ε A
  server : J → σ → Proc β ε (B × σ)
  reads_first : ∀ j s, ∃ k, server j s = .get k

inductive Loop (β ε σ B : Type) where
  | idle (s : σ)
  | busy (p : Proc β ε (B × σ))

def Loop.work {σ B : Type} : Loop β ε σ B → Nat
  | .idle _ => 0
  | .busy _ => 1

/-- The server, the jobs to come and what the earlier ones returned. -/
structure Serving (β ε J σ B : Type) where
  loop : Loop β ε σ B
  jobs : List J
  records : List B

structure State (β ε C J σ A B : Type) where
  calls : List C
  client : Option (Proc β ε A)
  serving : Serving β ε J σ B
  up : List β
  down : List β
  outcomes : List A

namespace Parties

variable {C J σ A B : Type} (P : Parties β ε C J σ A B)

/-- A step of either side. -/
inductive Step : State β ε C J σ A B → State β ε C J σ A B → Prop
  | call {c calls serving up down outs} :
      Step ⟨c :: calls, none, serving, up, down, outs⟩
        ⟨calls, some (P.client c), serving, up, down, outs⟩
  | clientPut {b k calls serving up down outs} :
      Step ⟨calls, some (.put b k), serving, up, down, outs⟩
        ⟨calls, some k, serving, up ++ [b], down, outs⟩
  | clientGet {b k calls serving up down outs} :
      Step ⟨calls, some (.get k), serving, up, b :: down, outs⟩
        ⟨calls, some (k (some b)), serving, up, down, outs⟩
  | returned {a calls serving up down outs} :
      Step ⟨calls, some (.ret a), serving, up, down, outs⟩
        ⟨calls, none, serving, up, down, outs ++ [a]⟩
  | serve {s j jobs records calls client up down outs} :
      Step ⟨calls, client, ⟨.idle s, j :: jobs, records⟩, up, down, outs⟩
        ⟨calls, client, ⟨.busy (P.server j s), jobs, records⟩, up, down, outs⟩
  | serverPut {b k jobs records calls client up down outs} :
      Step ⟨calls, client, ⟨.busy (.put b k), jobs, records⟩, up, down, outs⟩
        ⟨calls, client, ⟨.busy k, jobs, records⟩, up, down ++ [b], outs⟩
  | serverGet {b k jobs records calls client up down outs} :
      Step ⟨calls, client, ⟨.busy (.get k), jobs, records⟩, b :: up, down, outs⟩
        ⟨calls, client, ⟨.busy (k (some b)), jobs, records⟩, up, down, outs⟩
  | served {b s jobs records calls client up down outs} :
      Step ⟨calls, client, ⟨.busy (.ret (b, s)), jobs, records⟩, up, down, outs⟩
        ⟨calls, client, ⟨.idle s, jobs, records ++ [b]⟩, up, down, outs⟩

/-- `n` steps. -/
inductive Run : Nat → State β ε C J σ A B → State β ε C J σ A B → Prop
  | start (st : State β ε C J σ A B) : Run 0 st st
  | step {n : Nat} {st t u : State β ε C J σ A B} : Run n st t → P.Step t u → Run (n + 1) st u

/-- Nothing has been sent, and the server waits for its first job. -/
def initial (calls : List C) (jobs : List J) (s : σ) : State β ε C J σ A B :=
  ⟨calls, none, ⟨.idle s, jobs, []⟩, [], [], []⟩

/-- Every call has returned `outcomes`, every job `records`. -/
def final (s : σ) (outcomes : List A) (records : List B) : State β ε C J σ A B :=
  ⟨[], none, ⟨.idle s, [], records⟩, [], [], outcomes⟩

/-! ## One question and one answer -/

/-- The call puts a question that the job reads to its end, and reads the answer
that the job puts then; `n` symbols in all. -/
inductive Meets (call : Proc β ε A) (job : Proc β ε (B × σ)) (a : A) (r : B × σ) : Nat → Prop
  | intro {question answer : List β} {call' : Proc β ε A} {job' : Proc β ε (B × σ)}
      (hask : call.Writes question call') (hanswered : call'.Reads answer (.ret a))
      (hread : job.Reads question job') (hanswer : job'.Writes answer (.ret r))
      (hne : answer ≠ []) : Meets call job a r (question.length + answer.length)

/-- Each call meets its job, one after the other: the outcomes, the records and
the state left in the end, and the number of symbols. -/
inductive Plan : σ → List C → List J → List A → List B → σ → Nat → Prop
  | nil (s : σ) : Plan s [] [] [] [] s 0
  | cons {s s' e : σ} {c : C} {j : J} {a : A} {b : B} {calls : List C} {jobs : List J}
      {as : List A} {bs : List B} {m n : Nat}
      (hmeets : Meets (P.client c) (P.server j s) a (b, s') m)
      (hplan : Plan s' calls jobs as bs e n) :
      Plan s (c :: calls) (j :: jobs) (a :: as) (b :: bs) e (m + n)

/-! ## Where the server stands -/

/-- The server before the next job. -/
def next (s : σ) (records : List B) : List J → Serving β ε J σ B
  | [] => ⟨.idle s, [], records⟩
  | j :: jobs => ⟨.busy (P.server j s), jobs, records⟩

/-- The server once it has gone on as far as it can with nothing read or put. -/
def settle : Serving β ε J σ B → Serving β ε J σ B
  | ⟨.idle s, jobs, records⟩ => P.next s records jobs
  | ⟨.busy (.ret (b, s)), jobs, records⟩ => P.next s (records ++ [b]) jobs
  | serving => serving

theorem settle_next (s : σ) (records : List B) (jobs : List J) :
    P.settle (P.next s records jobs) = P.next s records jobs := by
  cases jobs with
  | nil => rfl
  | cons j jobs =>
    obtain ⟨k, hk⟩ := P.reads_first j s
    simp only [next, hk, settle]

theorem next_ne_put (s : σ) (records : List B) (jobs : List J) (b : β)
    (k : Proc β ε (B × σ)) (jobs' : List J) (records' : List B) :
    P.next s records jobs ≠ ⟨.busy (.put b k), jobs', records'⟩ := by
  cases jobs with
  | nil => exact fun h => nomatch h
  | cons j jobs =>
    obtain ⟨k', hk⟩ := P.reads_first j s
    simp [next, hk]

theorem settle_eq_put {p : Proc β ε (B × σ)} {jobs jobs' : List J} {records records' : List B}
    {b : β} {k : Proc β ε (B × σ)}
    (h : P.settle ⟨.busy p, jobs, records⟩ = ⟨.busy (.put b k), jobs', records'⟩) :
    p = .put b k ∧ jobs = jobs' ∧ records = records' := by
  cases p with
  | ret r => exact absurd h (P.next_ne_put _ _ _ _ _ _ _)
  | fail => cases h
  | put => cases h; exact ⟨rfl, rfl, rfl⟩
  | get => cases h

/-- A server that reads, and has something to read, is where it settles. -/
theorem settle_of_reads {p q : Proc β ε (B × σ)} {b : β} {bs : List β} (h : p.Reads (b :: bs) q)
    (jobs : List J) (records : List B) :
    P.settle ⟨.busy p, jobs, records⟩ = ⟨.busy p, jobs, records⟩ := by
  cases h
  rfl

theorem records_next (s : σ) (records : List B) (jobs : List J) :
    (P.next s records jobs).records = records := by
  cases jobs <;> rfl

theorem records_settle (serving : Serving β ε J σ B) :
    serving.records <+: (P.settle serving).records := by
  obtain ⟨loop, jobs, records⟩ := serving
  cases loop with
  | idle s =>
    simp only [settle, records_next, List.prefix_rfl]
  | busy p =>
    cases p with
    | ret r =>
      rw [settle, records_next]
      exact List.prefix_append _ _
    | _ => exact List.prefix_rfl

/-- A job that is read or that still answers has at most its own record to add. -/
theorem records_settle_of_writes {p : Proc β ε (B × σ)} {answer : List β} {b : B} {s : σ}
    (h : p.Writes answer (.ret (b, s))) (jobs : List J) (records : List B) :
    (P.settle ⟨.busy p, jobs, records⟩).records <+: records ++ [b] := by
  cases h with
  | done =>
    simp only [settle, records_next, List.prefix_rfl]
  | put => exact List.prefix_append _ _

theorem records_settle_of_reads {p p' : Proc β ε (B × σ)} {question answer : List β} {b : B}
    {s : σ} (hread : p.Reads question p') (h : p'.Writes answer (.ret (b, s))) (jobs : List J)
    (records : List B) :
    (P.settle ⟨.busy p, jobs, records⟩).records <+: records ++ [b] := by
  cases hread with
  | done => exact P.records_settle_of_writes h jobs records
  | get => exact List.prefix_append _ _

variable {P} in
theorem Plan.length_eq {calls : List C} {jobs : List J} {s e : σ} {as : List A} {bs : List B}
    {n : Nat} (h : P.Plan s calls jobs as bs e n) : as.length = bs.length := by
  induction h with
  | nil => rfl
  | cons _ _ ih => rw [List.length_cons, List.length_cons, ih]

/-! ## The phases of a run -/

/-- The steps still to come that neither put nor get. -/
def work (st : State β ε C J σ A B) : Nat :=
  2 * st.calls.length + (if st.client.isSome then 1 else 0) +
    (2 * st.serving.jobs.length + st.serving.loop.work)

/-- The states of a run that ends in `e` with the outcomes `as` and the records
`bs` after `n` more steps: the client is between two calls, it asks, or it is
being answered. A symbol put is two steps, the second is the one that gets it. -/
inductive Phase (e : σ) (as : List A) (bs : List B) (n : Nat) : State β ε C J σ A B → Prop
  | between {s : σ} {calls : List C} {jobs : List J} {serving : Serving β ε J σ B}
      {outs as' : List A} {records bs' : List B} {m : Nat}
      (hplan : P.Plan s calls jobs as' bs' e m)
      (hserver : P.settle serving = P.next s records jobs)
      (has : as = outs ++ as') (hbs : bs = records ++ bs')
      (hn : n = work ⟨calls, none, serving, [], [], outs⟩ + 2 * m) :
      Phase e as bs n ⟨calls, none, serving, [], [], outs⟩
  | asking {s : σ} {calls : List C} {jobs : List J} {serving : Serving β ε J σ B}
      {outs as' : List A} {records bs' : List B} {m : Nat} {a : A} {b : B}
      {c c' : Proc β ε A} {p p' : Proc β ε (B × σ)} {up rest answer : List β}
      (hask : c.Writes rest c') (hanswered : c'.Reads answer (.ret a))
      (hread : p.Reads (up ++ rest) p') (hanswer : p'.Writes answer (.ret (b, s)))
      (hne : answer ≠ [])
      (hplan : P.Plan s calls jobs as' bs' e m)
      (hserver : P.settle serving = P.settle ⟨.busy p, jobs, records⟩)
      (has : as = outs ++ a :: as') (hbs : bs = records ++ b :: bs')
      (hn : n = work ⟨calls, some c, serving, up, [], outs⟩ +
        (up.length + 2 * rest.length + 2 * answer.length + 2 * m)) :
      Phase e as bs n ⟨calls, some c, serving, up, [], outs⟩
  | answering {s : σ} {calls : List C} {jobs : List J} {serving : Serving β ε J σ B}
      {outs as' : List A} {records bs' : List B} {m : Nat} {a : A} {b : B}
      {c : Proc β ε A} {p : Proc β ε (B × σ)} {down rest : List β}
      (hanswered : c.Reads (down ++ rest) (.ret a)) (hanswer : p.Writes rest (.ret (b, s)))
      (hplan : P.Plan s calls jobs as' bs' e m)
      (hserver : P.settle serving = P.settle ⟨.busy p, jobs, records⟩)
      (has : as = outs ++ a :: as') (hbs : bs = records ++ b :: bs')
      (hn : n = work ⟨calls, some c, serving, [], down, outs⟩ +
        (down.length + 2 * rest.length + 2 * m)) :
      Phase e as bs n ⟨calls, some c, serving, [], down, outs⟩

variable {P} {e : σ} {as : List A} {bs : List B} {n : Nat} {st st' : State β ε C J σ A B}

theorem phase_initial {calls : List C} {jobs : List J} {s : σ} {m : Nat}
    (h : P.Plan s calls jobs as bs e m) :
    P.Phase e as bs (2 * calls.length + 2 * jobs.length + 2 * m) (initial calls jobs s) :=
  .between h rfl rfl rfl (by simp [work, Loop.work])

/-- The client has asked all, and what the server puts is the answer. -/
theorem put_of_asked {c c' : Proc β ε A} {k p' : Proc β ε (B × σ)} {a : A} {b : B} {s : σ}
    {answer : List β} {x : β} (hask : c.Writes [] c') (hanswered : c'.Reads answer (.ret a))
    (hread : Proc.Reads (.put x k) [] p') (hanswer : p'.Writes answer (.ret (b, s)))
    (hne : answer ≠ []) :
    ∃ rest, answer = x :: rest ∧ c.Reads (x :: rest) (.ret a) ∧ k.Writes rest (.ret (b, s)) := by
  cases hask.nil_eq
  cases hread.nil_eq
  rcases hanswer.of_put with ⟨rfl, -⟩ | ⟨rest, rfl, hk⟩
  · exact absurd rfl hne
  · exact ⟨rest, rfl, hanswered, hk⟩

/-- A step of the server that puts and gets nothing is one step less to come. -/
theorem Phase.settled {calls : List C} {client : Option (Proc β ε A)}
    {serving serving' : Serving β ε J σ B} {up down : List β} {outs : List A}
    (h : P.Phase e as bs n ⟨calls, client, serving, up, down, outs⟩)
    (hsettle : P.settle serving' = P.settle serving)
    (hwork : 2 * serving.jobs.length + serving.loop.work =
      2 * serving'.jobs.length + serving'.loop.work + 1) :
    ∃ n', n = n' + 1 ∧ P.Phase e as bs n' ⟨calls, client, serving', up, down, outs⟩ := by
  have hless : work ⟨calls, client, serving, up, down, outs⟩ =
      work ⟨calls, client, serving', up, down, outs⟩ + 1 := by
    simp only [work, hwork]
    omega
  cases h with
  | between hplan hserver has hbs hn =>
    refine ⟨_, ?_, .between hplan (hsettle.trans hserver) has hbs rfl⟩
    omega
  | asking hask hanswered hread hanswer hne hplan hserver has hbs hn =>
    refine ⟨_, ?_, .asking hask hanswered hread hanswer hne hplan (hsettle.trans hserver)
      has hbs rfl⟩
    omega
  | answering hanswered hanswer hplan hserver has hbs hn =>
    refine ⟨_, ?_, .answering hanswered hanswer hplan (hsettle.trans hserver) has hbs rfl⟩
    omega

/-- Every step leads to a phase with one step less to come. -/
theorem Phase.step (h : P.Phase e as bs n st) (hstep : P.Step st st') :
    ∃ n', n = n' + 1 ∧ P.Phase e as bs n' st' := by
  cases hstep with
  | call =>
    cases h with
    | between hplan hserver has hbs hn =>
      cases hplan with
      | cons hmeets hplan =>
        cases hmeets with
        | intro hask hanswered hread hanswer hne =>
          refine ⟨_, ?_, .asking hask hanswered hread hanswer hne hplan ?_ has hbs rfl⟩
          · simp [hn, work]
            omega
          · rw [hserver]
            exact (P.settle_next _ _ (_ :: _)).symm
  | clientPut =>
    cases h with
    | asking hask hanswered hread hanswer hne hplan hserver has hbs hn =>
      rcases hask.of_put with ⟨-, rfl⟩ | ⟨rest, rfl, hk⟩
      · -- a client that puts is not being answered
        exact absurd hanswered.of_put.1 hne
      · rw [List.append_cons] at hread
        refine ⟨_, ?_, .asking hk hanswered hread hanswer hne hplan hserver has hbs rfl⟩
        simp [hn, work]
        omega
    | answering hanswered => exact nomatch hanswered.of_put.2
  | clientGet =>
    cases h with
    | answering hanswered hanswer hplan hserver has hbs hn =>
      refine ⟨_, ?_, .answering hanswered.of_get hanswer hplan hserver has hbs rfl⟩
      simp [hn, work]
      omega
  | returned =>
    cases h with
    | asking hask hanswered hread hanswer hne =>
      cases hask.of_ret.2
      exact absurd hanswered.of_ret.1 hne
    | answering hanswered hanswer hplan hserver has hbs hn =>
      obtain ⟨hnil, ha⟩ := hanswered.of_ret
      obtain ⟨rfl, rfl⟩ := List.append_eq_nil_iff.mp hnil
      cases ha
      cases hanswer.nil_eq
      refine ⟨_, ?_, .between hplan hserver ?_ ?_ rfl⟩
      · simp [hn, work]
        omega
      · rw [has, List.append_assoc, List.singleton_append]
      · rw [hbs, List.append_assoc, List.singleton_append]
  | @serve s j jobs records =>
    refine h.settled (P.settle_next s records (j :: jobs)) ?_
    simp [Loop.work]
    omega
  | served => exact h.settled rfl rfl
  | serverPut =>
    cases h with
    | between hplan hserver => exact absurd hserver.symm (P.next_ne_put _ _ _ _ _ _ _)
    | asking hask hanswered hread hanswer hne hplan hserver has hbs hn =>
      obtain ⟨rfl, rfl, rfl⟩ := P.settle_eq_put hserver.symm
      obtain ⟨rfl, rfl⟩ := List.append_eq_nil_iff.mp hread.of_put.1
      obtain ⟨rest, rfl, hc, hk⟩ := put_of_asked hask hanswered hread hanswer hne
      refine ⟨_, ?_, .answering hc hk hplan rfl has hbs rfl⟩
      simp [hn, work, Loop.work]
      omega
    | answering hanswered hanswer hplan hserver has hbs hn =>
      obtain ⟨rfl, rfl, rfl⟩ := P.settle_eq_put hserver.symm
      rcases hanswer.of_put with ⟨-, hret⟩ | ⟨rest, rfl, hk⟩
      · exact nomatch hret
      · rw [List.append_cons] at hanswered
        refine ⟨_, ?_, .answering hanswered hk hplan rfl has hbs rfl⟩
        simp [hn, work, Loop.work]
        omega
  | serverGet =>
    cases h with
    | asking hask hanswered hread hanswer hne hplan hserver has hbs hn =>
      rw [P.settle_of_reads hread] at hserver
      cases hserver
      refine ⟨_, ?_, .asking hask hanswered hread.of_get hanswer hne hplan rfl has hbs rfl⟩
      simp [hn, work, Loop.work]
      omega

/-- A server that settles where it can put, or get what is there, has a step. -/
theorem exists_serverStep {serving : Serving β ε J σ B} {p : Proc β ε (B × σ)} {jobs : List J}
    {records : List B} (h : P.settle serving = ⟨.busy p, jobs, records⟩) {up : List β}
    (hp : (∃ b k, p = .put b k) ∨ (∃ k, p = .get k) ∧ up ≠ []) (calls : List C)
    (client : Option (Proc β ε A)) (down : List β) (outs : List A) :
    ∃ st', P.Step ⟨calls, client, serving, up, down, outs⟩ st' := by
  obtain ⟨loop, jobs', records'⟩ := serving
  cases loop with
  | idle s =>
    cases jobs' with
    | nil => cases h
    | cons j jobs' => exact ⟨_, .serve⟩
  | busy p' =>
    cases p' with
    | ret r => exact ⟨_, .served⟩
    | fail e =>
      cases h
      rcases hp with ⟨b, k, hp⟩ | ⟨⟨k, hp⟩, -⟩ <;> cases hp
    | put b k => exact ⟨_, .serverPut⟩
    | get k =>
      cases h
      rcases hp with ⟨b, k, hp⟩ | ⟨-, hup⟩
      · cases hp
      · cases up with
        | nil => exact absurd rfl hup
        | cons b up => exact ⟨_, .serverGet⟩

theorem settle_eq_idle {serving : Serving β ε J σ B} {s : σ} {records : List B}
    (h : P.settle serving = ⟨.idle s, [], records⟩) (calls : List C)
    (client : Option (Proc β ε A)) (up down : List β) (outs : List A) :
    serving = ⟨.idle s, [], records⟩ ∨
      ∃ st', P.Step ⟨calls, client, serving, up, down, outs⟩ st' := by
  obtain ⟨loop, jobs, records'⟩ := serving
  cases loop with
  | idle s' =>
    cases jobs with
    | nil => exact Or.inl h
    | cons j jobs => exact Or.inr ⟨_, .serve⟩
  | busy p =>
    cases p with
    | ret r => exact Or.inr ⟨_, .served⟩
    | _ => cases h

/-- A run stops only at its end. -/
theorem Phase.exists_step (h : P.Phase e as bs n st) :
    st = final e as bs ∨ ∃ st', P.Step st st' := by
  cases h with
  | between hplan hserver has hbs hn =>
    cases hplan with
    | nil =>
      rcases settle_eq_idle hserver [] none [] [] _ with rfl | hstep
      · left
        rw [has, hbs, List.append_nil, List.append_nil]
        rfl
      · exact Or.inr hstep
    | cons => exact Or.inr ⟨_, .call⟩
  | asking hask hanswered hread hanswer hne hplan hserver has hbs hn =>
    right
    cases hask with
    | put => exact ⟨_, .clientPut⟩
    | done =>
      rw [List.append_nil] at hread
      cases hread with
      | get hread =>
        exact exists_serverStep hserver (Or.inr ⟨⟨_, rfl⟩, List.cons_ne_nil _ _⟩) _ _ _ _
      | done =>
        cases hanswer with
        | done => exact absurd rfl hne
        | put => exact exists_serverStep hserver (Or.inl ⟨_, _, rfl⟩) _ _ _ _
  | @answering _ _ _ _ _ _ _ _ _ _ _ c p down rest hanswered hanswer hplan hserver =>
    right
    cases down with
    | cons b down =>
      cases hanswered
      exact ⟨_, .clientGet⟩
    | nil =>
      cases hanswer with
      | put => exact exists_serverStep hserver (Or.inl ⟨_, _, rfl⟩) _ _ _ _
      | done =>
        cases hanswered
        exact ⟨_, .returned⟩

theorem Phase.run {k : Nat} (h : P.Phase e as bs n st) (hrun : P.Run k st st') :
    ∃ n', n = k + n' ∧ P.Phase e as bs n' st' := by
  induction hrun with
  | start => exact ⟨n, (Nat.zero_add n).symm, h⟩
  | step _ hstep ih =>
    obtain ⟨m, rfl, hm⟩ := ih h
    obtain ⟨n', rfl, hn'⟩ := hm.step hstep
    exact ⟨n', by omega, hn'⟩

/-! ## Every run -/

/-- What holds in every state of a run, and how a run goes on: what the two
sides have returned is the beginning of what they are going to return; between
two calls nothing is under way, and the server has done as many jobs as the
client has done calls; a run stops only when all is done. -/
structure InStep (P : Parties β ε C J σ A B) (e : σ) (as : List A) (bs : List B)
    (st : State β ε C J σ A B) : Prop where
  outcomes : st.outcomes <+: as
  records : st.serving.records <+: bs
  between : st.client = none →
    st.up = [] ∧ st.down = [] ∧ (P.settle st.serving).records.length = st.outcomes.length
  goes_on : st = final e as bs ∨ ∃ st', P.Step st st'

theorem Phase.inStep (h : P.Phase e as bs n st) (hlen : as.length = bs.length) :
    P.InStep e as bs st where
  outcomes := by
    cases h with
    | between _ _ has => exact has ▸ List.prefix_append _ _
    | asking _ _ _ _ _ _ _ has => exact has ▸ List.prefix_append _ _
    | answering _ _ _ _ has => exact has ▸ List.prefix_append _ _
  records := by
    refine (P.records_settle st.serving).trans ?_
    cases h with
    | between hplan hserver has hbs =>
      rw [hserver, records_next, hbs]
      exact List.prefix_append _ _
    | asking _ _ hread hanswer _ _ hserver _ hbs =>
      rw [hserver, hbs, List.append_cons]
      exact (P.records_settle_of_reads hread hanswer _ _).trans (List.prefix_append _ _)
    | answering _ hanswer _ hserver _ hbs =>
      rw [hserver, hbs, List.append_cons]
      exact (P.records_settle_of_writes hanswer _ _).trans (List.prefix_append _ _)
  between hnone := by
    cases h with
    | between hplan hserver has hbs =>
      refine ⟨rfl, rfl, ?_⟩
      rw [hserver, records_next]
      have hrest := hplan.length_eq
      rw [has, hbs, List.length_append, List.length_append] at hlen
      simp only
      omega
    | asking => cases hnone
    | answering => cases hnone
  goes_on := h.exists_step

/-- In step in every state of every run, whatever the order of the steps, and no
run is longer than the symbols and the calls allow. -/
theorem inStep_of_run {calls : List C} {jobs : List J} {s : σ} {m k : Nat}
    (h : P.Plan s calls jobs as bs e m) (hrun : P.Run k (initial calls jobs s) st) :
    P.InStep e as bs st ∧ k ≤ 2 * calls.length + 2 * jobs.length + 2 * m := by
  obtain ⟨n, hn, hphase⟩ := (phase_initial h).run hrun
  exact ⟨hphase.inStep h.length_eq, by omega⟩

end Parties

end Duplex
