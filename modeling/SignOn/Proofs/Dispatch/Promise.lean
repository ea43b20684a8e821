import SignOn.Proofs.Dispatch.Provenance

/-! # Futures and callbacks

Who hands in a silent command is given the number of a future, and the command has a callback.
`Promise` is what was given out; `Promise.Kept` states that both channels carry one result: the job
of the command has that future, it listens to that one only, and what its callbacks tell is what the
future is due to be set to, attributed to the command. A future that was made for the command
carries its correlation id; one that was there before is that of the command it attached to.

* `Still`: a step that sets no future. It may bring in a command under a new ticket, and move a call
  on from one place to the next.
* `Gives`: a step that sets a future, or is about to. Those who are told with it await that future
  (`Awaits`), and nobody has it any more.

Both keep a promise (`Promise.Kept.still`, `Promise.Kept.give`), and every opening and every move is
one or the other. -/

namespace SignOn

variable {κ : Type}

/-- What was given out for a silent command: its submission, the number of a future, and whether
that future was made for it. -/
structure Promise (κ : Type) where
  submission : Submission κ
  future : Nat
  isOwn : Bool

/-- The job that a step has in hand. -/
def Task.jobs : Task κ → Multiset (Job κ)
  | .place j => {j}
  | .tell _ _ => 0

/-- The results that a step has in hand. -/
def Task.deliveries : Task κ → List (Delivery κ)
  | .place _ => []
  | .tell xs _ => xs

/-! ### How controllers end -/

/-- Controllers give a token with the report of its acquisition, never as a bare value. -/
def Outcome.IsGenuine (o : Outcome) : Prop := ∀ issued, o ≠ .ok (.ok (.output (.token issued)))

/-- Is the step no end of controllers, or one as controllers end? -/
def Input.IsGenuine : Input κ → Prop
  | .finishJob _ outcome => outcome.IsGenuine
  | _ => True

/-- How controllers end already names the command. -/
theorem statusOf_attributedTo {o : Outcome} (h : o.IsGenuine) (correlationId : String) :
    (statusOf o correlationId).attributedTo correlationId = statusOf o correlationId := by
  have hfailure (f : Failure) : (if f.isCancelled then CommandStatus.cancelled
      else .failed f).attributedTo correlationId
        = if f.isCancelled then CommandStatus.cancelled else .failed f := by
    split <;> rfl
  rcases o with payload | ⟨f | ⟨a | output⟩⟩
  · rfl
  · exact hfailure f
  · simp only [statusOf, classify]
    split
    · rfl
    · exact hfailure _
  · cases output with
    | token issued => exact absurd rfl (h issued)
    | _ => rfl

/-- However the work goes, it breaks off or ends with a value that has the property. -/
inductive Work.EndsIn {σ α : Type} (P : α → Prop) : Work σ α → Prop
  | ended {a : α} (h : P a) : EndsIn P (.ended a)
  | broken (payload : Failure.Payload) : EndsIn P (.broken payload)
  | put (s : σ) {next : Work σ α} (h : EndsIn P next) : EndsIn P (.put s next)
  | wait (alarm : Option Nat) (ready : σ → Bool) {next : (s : σ) → ready s = true → Work σ α}
      (h : ∀ s hr, EndsIn P (next s hr)) : EndsIn P (.wait alarm ready next)

theorem Work.EndsIn.mono {σ α : Type} {P Q : α → Prop} {w : Work σ α} (h : w.EndsIn P)
    (hPQ : ∀ a, P a → Q a) : w.EndsIn Q := by
  induction h with
  | ended h => exact .ended (hPQ _ h)
  | broken payload => exact .broken payload
  | put s _ ih => exact .put s ih
  | wait alarm ready _ ih => exact .wait alarm ready ih

theorem Work.EndsIn.bind {σ α β : Type} {P : β → Prop} {k : α → Work σ β}
    (hk : ∀ a, (k a).EndsIn P) (w : Work σ α) : (w.bind k).EndsIn P := by
  induction w with
  | ended a => exact hk a
  | broken payload => exact .broken payload
  | put s next ih => exact .put s ih
  | wait alarm ready next ih => exact .wait alarm ready ih

/-- Work that applies a function at its end ends with a failure or a value of the function. -/
theorem Flow.endsIn_map {σ α β : Type} (f : α → β) (w : Flow σ α) :
    Work.EndsIn (fun r => ∀ b, r = .ok b → ∃ a, b = f a) (f <$> w : Flow σ β).run := by
  refine Work.EndsIn.bind (fun a => ?_) w
  cases a with
  | ok a => exact .ended fun b hb => ⟨a, (Except.ok.inj hb).symm⟩
  | error e => exact .ended fun b hb => by cases hb

/-- **Controllers end as they should**: a command never ends with a bare token. -/
theorem Command.execute_isGenuine {σ : Type} (c : Command (Controller σ))
    (session : Option (SessionHandle σ)) :
    (c.execute session).run.EndsIn fun r => Outcome.IsGenuine (.ok r) := by
  have hmap {α : Type} {f : α → CommandValue} (hf : ∀ a issued, f a ≠ .output (.token issued))
      (w : Flow σ α) :
        Work.EndsIn (fun r => Outcome.IsGenuine (.ok r)) (f <$> w : Flow σ _).run := by
    refine (Flow.endsIn_map f w).mono fun r hr issued he => ?_
    obtain ⟨a, ha⟩ := hr _ (Except.ok.inj he)
    exact hf a issued ha.symm
  unfold Command.execute
  cases c.operation with
  | acquireInteractive =>
    cases session with
    | none => exact .ended fun issued he => by cases he
    | some session => exact hmap (by simp) _
  | _ => exact hmap (by simp) _

namespace Dispatcher

variable {calm genuine : Prop} {d d' : Dispatcher κ} {t t' : Task κ} {lost : Multiset Claim}

/-! ### What is given out -/

/-- What a step gives out. -/
def promisedBy (d : Dispatcher κ) (now : Moment) : Input κ → List (Promise κ)
  | .submitSilent c => [⟨d.next c .silent, (d.submitSilent c now).1,
      decide ((d.submitSilent c now).1 = d.futures.length)⟩]
  | _ => []

/-- The jobs that are not finished, the one in hand included. -/
def unfinished (d : Dispatcher κ) (t : Task κ) : Multiset (Job κ) := d.jobs + t.jobs

/-- A callback that was called, or that will be called if nothing breaks off. -/
inductive Calls (d : Dispatcher κ) (t : Task κ) : Entry → Prop
  | journal {ticket correlationId status} (h : .called ticket correlationId status ∈ d.journal) :
      Calls d t (.called ticket correlationId status)
  | posted {x : Delivery κ} (h : x ∈ d.posted) : Calls d t x.callEntry
  | behind {s : Strand κ} {x : Delivery κ} (hs : s ∈ d.strands) (hx : x ∈ s.rest) :
      Calls d t x.callEntry
  | inHand {x : Delivery κ} (h : x ∈ t.deliveries) : Calls d t x.callEntry

/-- A result to which a future is set, or will be if nothing breaks off. -/
inductive Due (d : Dispatcher κ) (t : Task κ) (n : Nat) : CommandResult → Prop
  | set {r : CommandResult} (h : (d.future n).value = some r) : Due d t n r
  | behind {s : Strand κ} {key : Option CommandKey} {r : CommandResult} (hs : s ∈ d.strands)
      (h : s.ending = .settle key (some n) r) : Due d t n r
  | inHand {key : Option CommandKey} {r : CommandResult} (h : t.ending = .settle key (some n) r) :
      Due d t n r

/-- What is due stays due if the future stays set and the end that sets it is still to come. -/
theorem Due.mono {n : Nat} {r : CommandResult} (hdue : d.Due t n r)
    (value : (d.future n).value = some r → (d'.future n).value = some r)
    (settles : ∀ key, (t.ending = .settle key (some n) r ∨
        ∃ s ∈ d.strands, s.ending = .settle key (some n) r) →
      t'.ending = .settle key (some n) r ∨ ∃ s ∈ d'.strands, s.ending = .settle key (some n) r) :
    d'.Due t' n r := by
  have hsettles : ∀ key, (t.ending = .settle key (some n) r ∨
      ∃ s ∈ d.strands, s.ending = .settle key (some n) r) → d'.Due t' n r := by
    intro key h
    rcases settles key h with he | ⟨s, hs, he⟩
    · exact .inHand he
    · exact .behind hs he
  cases hdue with
  | set hv => exact .set (value hv)
  | behind hs he => exact hsettles _ (.inr ⟨_, hs, he⟩)
  | inHand he => exact hsettles _ (.inl he)

/-! ### Futures that are open -/

/-- The futures that will be set if nothing breaks off. -/
def openFutures (d : Dispatcher κ) (t : Task κ) : Multiset Nat :=
  ((d.unfinished t).bind fun j => j.future.toList)
    + ((d.strands : Multiset (Strand κ)).bind fun s => s.ending.future.toList)
    + (t.ending.future.toList : Multiset Nat)

theorem map_claimsOf (key : Option CommandKey) (future : Option Nat) :
    (claimsOf key future : Multiset Claim).map Prod.snd = future.toList := by
  cases future <;> rfl

theorem map_claims_ending (ending : Ending) :
    (ending.claims : Multiset Claim).map Prod.snd = ending.future.toList := by
  cases ending with
  | settle key future result => exact map_claimsOf key future
  | nothing | freeWorker => rfl

/-- Open futures are claimed. -/
theorem map_allClaims (lost : Multiset Claim) (d : Dispatcher κ) (t : Task κ) :
    (allClaims lost d t).map Prod.snd = d.openFutures t + lost.map Prod.snd := by
  have hjobs : (d.jobs.bind fun j => (j.claims : Multiset Claim)).map Prod.snd
      = d.jobs.bind fun j => j.future.toList := by
    rw [Multiset.map_bind]
    exact congrArg _ (funext fun j => map_claimsOf j.key j.future)
  have hstrands : ((d.strands : Multiset (Strand κ)).bind fun s =>
      (s.ending.claims : Multiset Claim)).map Prod.snd
        = (d.strands : Multiset (Strand κ)).bind fun s => s.ending.future.toList := by
    rw [Multiset.map_bind]
    exact congrArg _ (funext fun s => map_claims_ending s.ending)
  rw [allClaims, claims, Multiset.map_add, Multiset.map_add, Multiset.map_add, hjobs, hstrands,
    openFutures, unfinished, Multiset.add_bind]
  cases t with
  | place j =>
    rw [Task.claims, Job.claims, map_claimsOf, Task.jobs, Multiset.singleton_bind, Task.ending,
      Ending.future, Option.toList_none, Multiset.coe_nil, add_zero]
    ac_rfl
  | tell xs ending =>
    rw [Task.claims, map_claims_ending, Task.jobs, Multiset.zero_bind, add_zero, Task.ending]

/-- **Each future is open once**. -/
theorem Flight.openFutures_nodup (h : Flight lost d t) : (d.openFutures t).Nodup := by
  have hn := h.futures
  rw [map_allClaims] at hn
  exact (Multiset.nodup_add.mp hn).1

/-- **An open future** is there and not set. -/
theorem Flight.unset (h : Flight lost d t) {n : Nat} (hn : n ∈ d.openFutures t) :
    n < d.futures.length ∧ (d.future n).value = none := by
  have hm : n ∈ (allClaims lost d t).map Prod.snd := by
    rw [map_allClaims]
    exact Multiset.mem_add.mpr (.inl hn)
  obtain ⟨c, hc, rfl⟩ := Multiset.mem_map.mp hm
  exact h.pending c hc

theorem mem_openFutures_of_job {j : Job κ} {n : Nat} (hj : j ∈ d.unfinished t)
    (hn : j.future = some n) : n ∈ d.openFutures t := by
  refine Multiset.mem_add.mpr
    (.inl (Multiset.mem_add.mpr (.inl (Multiset.mem_bind.mpr ⟨j, hj, ?_⟩))))
  rw [hn]
  exact List.mem_singleton_self _

/-- The future of a job that is not finished is due to nothing. -/
theorem Flight.not_due (h : Flight lost d t) {j : Job κ} {n : Nat} (hj : j ∈ d.unfinished t)
    (hn : j.future = some n) (r : CommandResult) : ¬ d.Due t n r := by
  have hopen := mem_openFutures_of_job hj hn
  have hnodup := h.openFutures_nodup
  rw [openFutures, add_assoc, Multiset.nodup_add] at hnodup
  have hmem : n ∈ (d.unfinished t).bind fun j => (j.future.toList : Multiset Nat) := by
    refine Multiset.mem_bind.mpr ⟨j, hj, ?_⟩
    rw [hn]
    exact List.mem_singleton_self _
  have hrest := Multiset.disjoint_left.mp hnodup.2.2 hmem
  intro hdue
  cases hdue with
  | set hv =>
    rw [(h.unset hopen).2] at hv
    cases hv
  | behind hs he =>
    refine hrest (Multiset.mem_add.mpr (.inl (Multiset.mem_bind.mpr ⟨_, hs, ?_⟩)))
    rw [he]
    exact List.mem_singleton_self _
  | inHand he =>
    refine hrest (Multiset.mem_add.mpr (.inr ?_))
    rw [he]
    exact List.mem_singleton_self _

/-- No two jobs that are not finished have one future. -/
theorem Flight.apart (h : Flight lost d t) {j j' : Job κ} {rest : Multiset (Job κ)} {n : Nat}
    (hj : d.unfinished t = j ::ₘ rest) (hn : j.future = some n) (hj' : j' ∈ rest) :
    j'.future ≠ some n := by
  have hnodup := h.openFutures_nodup
  rw [openFutures, add_assoc, Multiset.nodup_add, hj, Multiset.cons_bind, Multiset.nodup_add]
    at hnodup
  intro hn'
  have hmem : n ∈ (j.future.toList : Multiset Nat) := by
    rw [hn]
    exact List.mem_singleton_self _
  refine Multiset.disjoint_left.mp hnodup.1.2.2 hmem (Multiset.mem_bind.mpr ⟨j', hj', ?_⟩)
  rw [hn']
  exact List.mem_singleton_self _

/-- A future that is about to be set is due to nothing else, and no job has it. -/
theorem Flight.settling (h : Flight lost d t) {key : Option CommandKey} {n : Nat}
    {result : CommandResult} (ht : t.ending = .settle key (some n) result) :
    (∀ j ∈ d.unfinished t, j.future ≠ some n) ∧ ∀ r, d.Due t n r → r = result := by
  refine ⟨fun j hj hn => h.not_due hj hn result (.inHand ht), fun r hdue => ?_⟩
  have hmem : n ∈ (t.ending.future.toList : Multiset Nat) := by
    rw [ht]
    exact List.mem_singleton_self _
  have hnodup := h.openFutures_nodup
  rw [openFutures, Multiset.nodup_add] at hnodup
  have hothers (hn : n ∈ ((d.unfinished t).bind fun j => (j.future.toList : Multiset Nat))
      + (d.strands : Multiset (Strand κ)).bind fun s => (s.ending.future.toList : Multiset Nat)) :
      False := Multiset.disjoint_left.mp hnodup.2.2 hn hmem
  cases hdue with
  | set hv =>
    rw [(h.unset (Multiset.mem_add.mpr (.inr hmem))).2] at hv
    cases hv
  | behind hs he =>
    refine (hothers (Multiset.mem_add.mpr (.inr (Multiset.mem_bind.mpr ⟨_, hs, ?_⟩)))).elim
    rw [he]
    exact List.mem_singleton_self _
  | inHand he =>
    rw [ht] at he
    exact (Ending.settle.inj he).2.2.symm

/-! ### Steps that set no future -/

/-- Nothing is told or set that was not before: what is new has a new ticket or a new future. Unless
a callback breaks off, nothing is lost. -/
structure Still (calm : Prop) (d : Dispatcher κ) (t : Task κ) (d' : Dispatcher κ) (t' : Task κ) :
    Prop where
  submitted : d.stats.submitted ≤ d'.stats.submitted
  futures : d.futures.length ≤ d'.futures.length
  jobs : ∀ j ∈ d'.unfinished t', j ∈ d.unfinished t ∨
    d.stats.submitted ≤ j.submission.ticket ∧ ∀ n, j.future = some n → d.futures.length ≤ n
  listening : ∀ m, ∀ s ∈ (d'.future m).listeners,
    s ∈ (d.future m).listeners ∨ d.stats.submitted ≤ s.ticket
  calls : ∀ e, d'.Calls t' e → d.Calls t e ∨ d.stats.submitted ≤ e.ticket
  due : ∀ n < d.futures.length, ∀ r, d'.Due t' n r → d.Due t n r
  lossless : calm → ∀ n < d.futures.length, ∀ r, d.Due t n r → d'.Due t' n r

/-- Nothing comes to be called or set, but perhaps the calls of a new command. -/
theorem Still.of_same (submitted : d.stats.submitted ≤ d'.stats.submitted)
    (futures : d.futures.length ≤ d'.futures.length)
    (jobs : ∀ j ∈ d'.unfinished t', j ∈ d.unfinished t ∨
      d.stats.submitted ≤ j.submission.ticket ∧ ∀ n, j.future = some n → d.futures.length ≤ n)
    (listening : ∀ m, ∀ s ∈ (d'.future m).listeners,
      s ∈ (d.future m).listeners ∨ d.stats.submitted ≤ s.ticket)
    (values : ∀ n < d.futures.length, (d'.future n).value = (d.future n).value)
    (hs : d'.strands = d.strands) (hp : d'.posted = d.posted) {more : List Entry}
    (hj : d'.journal = d.journal ++ more) (hmore : ∀ e ∈ more, e.isCall = false)
    (deliveries : ∀ x ∈ t'.deliveries, x ∈ t.deliveries ∨ d.stats.submitted ≤ x.submission.ticket)
    (ending : t'.ending = t.ending ∨ t'.ending.future = none ∧ t.ending.future = none) :
    Still calm d t d' t' := by
  have hending : ∀ key n r, t'.ending = .settle key (some n) r ↔
      t.ending = .settle key (some n) r := by
    intro key n r
    rcases ending with he | ⟨h', h⟩
    · rw [he]
    · constructor
      · intro he; rw [he] at h'; cases h'
      · intro he; rw [he] at h; cases h
  refine ⟨submitted, futures, jobs, listening, fun e hcall => ?_, fun n hn r hdue => ?_,
    fun _ n hn r hdue => ?_⟩
  · cases hcall with
    | journal h => exact .inl (.journal (mem_of_called hmore _ _ _ (hj ▸ h)))
    | posted h => exact .inl (.posted (hp ▸ h))
    | behind h hx => exact .inl (.behind (hs ▸ h) hx)
    | inHand h =>
      rcases deliveries _ h with h | h
      · exact .inl (.inHand h)
      · exact .inr h
  · refine hdue.mono (fun hv => (values n hn).symm.trans hv) fun key he => ?_
    rwa [hending, hs] at he
  · refine hdue.mono (fun hv => (values n hn).trans hv) fun key he => ?_
    rwa [hending, hs]

/-- Nothing is done that concerns results. -/
theorem Still.of_jobs (hu : d'.unfinished t' = d.unfinished t) (hf : d'.futures = d.futures)
    (hs : d'.strands = d.strands) (hp : d'.posted = d.posted) (hj : d'.journal = d.journal)
    (hn : d'.stats = d.stats) (deliveries : t'.deliveries = [])
    (ending : t'.ending.future = none ∧ t.ending.future = none) : Still calm d t d' t' := by
  refine .of_same (by rw [hn]) (by rw [hf]) (fun j hm => .inl (hu ▸ hm)) (fun m s hm => ?_)
    (fun n _ => by rw [future_congr hf]) hs hp (hj.trans (List.append_nil _).symm) (by simp)
    (by simp [deliveries]) (.inr ending)
  rw [future_congr hf] at hm
  exact .inl hm

/-- A callback is called or posted: what was in hand is now elsewhere. -/
theorem Still.of_moved (hu : d'.unfinished t' = d.unfinished t) (hf : d'.futures = d.futures)
    (hn : d'.stats.submitted = d.stats.submitted) (calls : ∀ e, d'.Calls t' e → d.Calls t e)
    (settles : ∀ key n r, (t'.ending = .settle key (some n) r ∨
        ∃ s ∈ d'.strands, s.ending = .settle key (some n) r) ↔
      t.ending = .settle key (some n) r ∨ ∃ s ∈ d.strands, s.ending = .settle key (some n) r) :
    Still calm d t d' t' := by
  refine ⟨hn.ge, by rw [hf], fun j hm => .inl (hu ▸ hm), fun m s hm => ?_,
    fun e he => .inl (calls e he), fun n _ r hdue => ?_, fun _ n _ r hdue => ?_⟩
  · rw [future_congr hf] at hm
    exact .inl hm
  · exact hdue.mono (fun hv => by rwa [future_congr hf] at hv) fun key => (settles key n r).mp
  · exact hdue.mono (fun hv => by rwa [future_congr hf]) fun key => (settles key n r).mpr

theorem Still.trans {d'' : Dispatcher κ} {t'' : Task κ} (h : Still calm d t d' t')
    (h' : Still calm d' t' d'' t'') : Still calm d t d'' t'' := by
  have hsubmitted := h.submitted
  have hfutures := h.futures
  refine ⟨hsubmitted.trans h'.submitted, hfutures.trans h'.futures, fun j hj => ?_,
    fun m s hm => ?_,
    fun e he => ?_, fun n hn r hdue => h.due n hn r (h'.due n (by omega) r hdue),
    fun hcalm n hn r hdue => h'.lossless hcalm n (by omega) r (h.lossless hcalm n hn r hdue)⟩
  · rcases h'.jobs j hj with hj | ⟨hticket, hfuture⟩
    · exact h.jobs j hj
    · exact .inr ⟨by omega, fun n hn => hfutures.trans (hfuture n hn)⟩
  · rcases h'.listening m s hm with hm | hnew
    · exact h.listening m s hm
    · exact .inr (by omega)
  · rcases h'.calls e he with he | hnew
    · exact h.calls e he
    · exact .inr (by omega)

/-! ### Steps that set a future -/

/-- The command is told when a future is set: it listens to the future, or the future is that of its
job. -/
inductive Awaits (d : Dispatcher κ) (t : Task κ) (future : Option Nat) (s : Submission κ) : Prop
  | listener {n : Nat} (h : future = some n) (hs : s ∈ (d.future n).listeners)
  | job {j : Job κ} (h : j ∈ d.unfinished t) (hs : j.submission = s) (hf : j.future = future)

/-- The result comes from the job of the future, or was on its way to the future before. -/
inductive Comes (genuine : Prop) (d : Dispatcher κ) (t : Task κ) (future : Option Nat)
    (result : CommandResult) : Prop
  | job {j : Job κ} (h : j ∈ d.unfinished t) (hf : j.future = future)
      (hc : result.correlationId = j.submission.command.correlationId)
      (hg : genuine → result.attributedTo j.submission.command.correlationId = result)
  | due (h : ∀ n, future = some n → d.Due t n result)

/-- A future is due to a result and to nothing else, nobody has it any more, and those who await it
are told. -/
structure Gives (genuine : Prop) (d : Dispatcher κ) (t : Task κ) (future : Option Nat)
    (result : CommandResult) (d' : Dispatcher κ) (t' : Task κ) : Prop where
  submitted : d'.stats.submitted = d.stats.submitted
  futures : d'.futures.length = d.futures.length
  jobs : ∀ j ∈ d'.unfinished t', j ∈ d.unfinished t ∧ ∀ n, future = some n → j.future ≠ some n
  listening : ∀ m, ∀ s ∈ (d'.future m).listeners, s ∈ (d.future m).listeners
  calls : ∀ e, d'.Calls t' e → d.Calls t e ∨
    ∃ x : Delivery κ, e = x.callEntry ∧ x.result = result ∧ d.Awaits t future x.submission
  due : ∀ n r, d'.Due t' n r ↔ if future = some n then r = result else d.Due t n r
  comes : Comes genuine d t future result

end Dispatcher

open Dispatcher

/-- The two channels of a command agree. -/
structure Promise.Kept (calm genuine : Prop) (p : Promise κ) (d : Dispatcher κ) (t : Task κ) :
    Prop where
  made : p.future < d.futures.length
  handed : p.submission.ticket < d.stats.submitted
  jobs : ∀ j ∈ d.unfinished t, j.submission.ticket = p.submission.ticket → j.future = some p.future
  listening : ∀ m, ∀ s ∈ (d.future m).listeners, s.ticket = p.submission.ticket → m = p.future
  told : ∀ correlationId status, d.Calls t (.called p.submission.ticket correlationId status) →
    (∀ j ∈ d.unfinished t, j.future ≠ some p.future) ∧
      (∀ r, d.Due t p.future r → status = (r.attributedTo correlationId).status) ∧
      (calm → ∃ r, d.Due t p.future r)
  own : p.isOwn = true →
    (∀ j ∈ d.unfinished t, j.future = some p.future →
      j.submission.command.correlationId = p.submission.command.correlationId) ∧
    ∀ r, d.Due t p.future r → r.correlationId = p.submission.command.correlationId ∧
      (genuine → r.attributedTo p.submission.command.correlationId = r)

namespace Promise

variable {calm genuine : Prop} {p : Promise κ} {d d' : Dispatcher κ} {t t' : Task κ}
  {lost : Multiset Claim}

theorem Kept.weaken {calm' genuine' : Prop} (h : p.Kept calm genuine d t) (hc : calm' → calm)
    (hg : genuine' → genuine) : p.Kept calm' genuine' d t := by
  refine ⟨h.made, h.handed, h.jobs, h.listening, fun correlationId status hcall => ?_,
    fun how => ?_⟩
  · obtain ⟨hjobs, hdue, hsome⟩ := h.told correlationId status hcall
    exact ⟨hjobs, hdue, fun hcalm => hsome (hc hcalm)⟩
  · obtain ⟨hjobs, hdue⟩ := h.own how
    exact ⟨hjobs, fun r hr => ⟨(hdue r hr).1, fun hgen => (hdue r hr).2 (hg hgen)⟩⟩

/-- **A step that sets no future keeps a promise**: what is new has another ticket and another
future. -/
theorem Kept.still (h : p.Kept calm genuine d t) (hs : Still calm d t d' t') :
    p.Kept calm genuine d' t' := by
  have hmade := h.made
  have hhanded := h.handed
  have hfutures := hs.futures
  have hsubmitted := hs.submitted
  refine ⟨by omega, by omega, fun j hj ht => ?_, fun m s hm ht => ?_,
    fun correlationId status hcall => ?_, fun how => ?_⟩
  · rcases hs.jobs j hj with hj | ⟨hnew, -⟩
    · exact h.jobs j hj ht
    · omega
  · rcases hs.listening m s hm with hm | hnew
    · exact h.listening m s hm ht
    · omega
  · rcases hs.calls _ hcall with hcall | hnew
    · obtain ⟨hjobs, hdue, hsome⟩ := h.told correlationId status hcall
      refine ⟨fun j hj hn => ?_, fun r hr => hdue r (hs.due _ hmade r hr), fun hcalm => ?_⟩
      · rcases hs.jobs j hj with hj | ⟨-, hnew⟩
        · exact hjobs j hj hn
        · have := hnew _ hn
          omega
      · obtain ⟨r, hr⟩ := hsome hcalm
        exact ⟨r, hs.lossless hcalm _ hmade r hr⟩
    · have : d.stats.submitted ≤ p.submission.ticket := hnew
      omega
  · obtain ⟨hjobs, hdue⟩ := h.own how
    refine ⟨fun j hj hn => ?_, fun r hr => hdue r (hs.due _ hmade r hr)⟩
    rcases hs.jobs j hj with hj | ⟨-, hnew⟩
    · exact hjobs j hj hn
    · have := hnew _ hn
      omega

/-- Who awaits a future under the ticket of a promise awaits the promised one. -/
theorem Kept.awaits (h : p.Kept calm genuine d t) {future : Option Nat} {s : Submission κ}
    (hs : d.Awaits t future s) (ht : s.ticket = p.submission.ticket) : future = some p.future := by
  cases hs with
  | listener hn hl => rw [hn, h.listening _ s hl ht]
  | job hj hjs hf => rw [← hf, h.jobs _ hj (by rw [hjs, ht])]

/-- **Setting a future keeps a promise**: all who are told of it are told of the same result. -/
theorem Kept.give {future : Option Nat} {result : CommandResult} (h : p.Kept calm genuine d t)
    (hg : Gives genuine d t future result d' t') : p.Kept calm genuine d' t' := by
  refine ⟨hg.futures ▸ h.made, hg.submitted ▸ h.handed, fun j hj => h.jobs j (hg.jobs j hj).1,
    fun m s hm => h.listening m s (hg.listening m s hm), fun correlationId status hcall => ?_,
    fun how => ?_⟩
  · rcases hg.calls _ hcall with hcall | ⟨x, he, hresult, hx⟩
    · obtain ⟨hjobs, hdue, hsome⟩ := h.told correlationId status hcall
      refine ⟨fun j hj => hjobs j (hg.jobs j hj).1, fun r hr => ?_, fun hcalm => ?_⟩
      · by_cases hf : future = some p.future
        · have hr := (hg.due p.future r).mp hr
          rw [if_pos hf] at hr
          subst hr
          cases hg.comes with
          | job hj hjf => exact absurd (hjf.trans hf) (hjobs _ hj)
          | due hold => exact hdue r (hold _ hf)
        · have hr := (hg.due p.future r).mp hr
          rw [if_neg hf] at hr
          exact hdue r hr
      · by_cases hf : future = some p.future
        · exact ⟨result, (hg.due _ _).mpr (by rw [if_pos hf])⟩
        · obtain ⟨r, hr⟩ := hsome hcalm
          exact ⟨r, (hg.due _ _).mpr (by rw [if_neg hf]; exact hr)⟩
    · obtain ⟨ht, rfl, rfl⟩ := Entry.called.inj he
      have hf := h.awaits hx ht.symm
      refine ⟨fun j hj => (hg.jobs j hj).2 _ hf, fun r hr => ?_, fun _ =>
        ⟨result, (hg.due _ _).mpr (by rw [if_pos hf])⟩⟩
      have hr := (hg.due p.future r).mp hr
      rw [if_pos hf] at hr
      rw [hr, ← hresult]
      rfl
  · obtain ⟨hjobs, hdue⟩ := h.own how
    refine ⟨fun j hj => hjobs j (hg.jobs j hj).1, fun r hr => ?_⟩
    have hr := (hg.due p.future r).mp hr
    by_cases hf : future = some p.future
    · rw [if_pos hf] at hr
      subst hr
      cases hg.comes with
      | job hj hjf hc hgen =>
        have hown := hjobs _ hj (hjf.trans hf)
        rw [← hown]
        exact ⟨hc, hgen⟩
      | due hold => exact hdue r (hold _ hf)
    · rw [if_neg hf] at hr
      exact hdue r hr

end Promise

namespace Dispatcher

variable {calm genuine : Prop} {d d' : Dispatcher κ} {t t' : Task κ} {lost : Multiset Claim}

/-! ### Moves -/

theorem unfinished_tell (d : Dispatcher κ) (xs : List (Delivery κ)) (ending : Ending) :
    d.unfinished (.tell xs ending) = d.jobs := add_zero _

theorem unfinished_place (d : Dispatcher κ) (j : Job κ) : d.unfinished (.place j) = j ::ₘ d.jobs :=
  add_singleton_eq_cons _ _

/-- A callback is called at once, and the others stand behind it. -/
theorem still_openCallback (d : Dispatcher κ) (x : Delivery κ) (xs : List (Delivery κ))
    (ending : Ending) :
    Still calm d (.tell (x :: xs) ending) (d.openCallback x xs ending) .done := by
  refine .of_moved rfl rfl rfl (fun e he => ?_) (fun key n r => ?_)
  · cases he with
    | journal h =>
      rcases List.mem_append.mp h with h | h
      · exact .journal h
      · rw [List.mem_singleton.mp h]
        exact .inHand (List.mem_cons_self ..)
    | posted h => exact .posted h
    | behind hs hx =>
      rcases List.mem_cons.mp hs with rfl | hs
      · exact .inHand (List.mem_cons_of_mem _ hx)
      · exact .behind hs hx
    | inHand h => cases h
  · have hnew : (d.openCallback x xs ending).strands
        = ⟨d.strandCount, x, xs, ending⟩ :: d.strands := rfl
    constructor
    · rintro (he | ⟨s, hs, he⟩)
      · cases he
      · rw [hnew] at hs
        rcases List.mem_cons.mp hs with rfl | hs
        · exact .inl he
        · exact .inr ⟨s, hs, he⟩
    · rintro (he | ⟨s, hs, he⟩)
      · exact .inr ⟨_, List.mem_cons_self .., he⟩
      · exact .inr ⟨s, List.mem_cons_of_mem _ hs, he⟩

theorem still_announce (d : Dispatcher κ) (x : Delivery κ) (t : Task κ) :
    Still calm d t (d.announce x) t := by
  refine .of_same ?_ le_rfl (fun j hm => .inl hm) (fun m s hm => .inl hm) (fun _ _ => rfl) rfl rfl
    rfl (by simp [Entry.isCall]) (fun y hy => .inl hy) (.inl rfl)
  exact (submitted_ended d.stats x.status).ge

theorem still_post (d : Dispatcher κ) (x : Delivery κ) (xs : List (Delivery κ)) (ending : Ending) :
    Still calm (d.announce x) (.tell (x :: xs) ending) (d.post x) (.tell xs ending) := by
  refine .of_moved rfl rfl rfl (fun e he => ?_) (fun key n r => Iff.rfl)
  cases he with
  | journal h => exact .journal h
  | posted h =>
    rcases List.mem_append.mp h with h | h
    · exact .posted h
    · rw [List.mem_singleton.mp h]
      exact .inHand (List.mem_cons_self ..)
  | behind hs hx => exact .behind hs hx
  | inHand h => exact .inHand (List.mem_cons_of_mem _ h)

theorem still_withLane {j : Job κ} {l : Lane (Job κ)}
    (accepted : (d.lane j.submission.lane).submit? j = some l) :
    Still calm d (.place j) (d.withLane j.submission.lane l) .done := by
  have heq := withLane_eq d j.submission.lane l
  refine .of_jobs ?_ (by rw [heq]) (by rw [heq]) (by rw [heq]) (by rw [heq]) (by rw [heq]) rfl
    ⟨rfl, rfl⟩
  rw [unfinished_place]
  exact (add_zero _).trans (jobs_withLane (Lane.waiting_submit accepted))

theorem value_resolve {n m : Nat} {result : CommandResult} (hlt : n < d.futures.length)
    (hv : (d.future n).value = none) :
    ((d.resolve (some n) result).2.future m).value
      = if n = m then some result else (d.future m).value := by
  have hset : (d.resolve (some n) result).2.futures = d.futures.set n ⟨some result, []⟩ := by
    simp only [resolve, Future.set, hv]
  by_cases hnm : n = m
  · subst hnm
    rw [future_set_self hset hlt, if_pos rfl]
  · rw [future_set_of_ne hset (Ne.symm hnm), if_neg hnm]

theorem length_resolve (d : Dispatcher κ) (future : Option Nat) (result : CommandResult) :
    (d.resolve future result).2.futures.length = d.futures.length := by
  cases future with
  | none => rfl
  | some n => exact List.length_set

/-- **A future is set**: nothing else was due, and its listeners are taken in hand. -/
theorem gives_of_resolve {future : Option Nat} {result : CommandResult} (own : List (Delivery κ))
    (hflight : Flight lost d t)
    (hopen : ∀ n, future = some n → n ∈ d.openFutures t)
    (honly : ∀ n, future = some n → ∀ r, d.Due t n r → r = result)
    (hother : ∀ n r, future ≠ some n → (∃ key, t.ending = .settle key (some n) r) → False)
    (submitted : d'.stats.submitted = d.stats.submitted)
    (hf : d'.futures = (d.resolve future result).2.futures)
    (jobs : ∀ j ∈ d'.unfinished t', j ∈ d.unfinished t ∧ ∀ n, future = some n → j.future ≠ some n)
    (hs : d'.strands = d.strands) (hp : d'.posted = d.posted) (hj : d'.journal = d.journal)
    (hin : t'.deliveries = d.listeners future result ++ own)
    (howned : ∀ x ∈ own, x.result = result ∧ d.Awaits t future x.submission)
    (ht' : t'.ending.future = none) (comes : Comes genuine d t future result) :
    Gives genuine d t future result d' t' := by
  have hvalue : ∀ m, (d'.future m).value
      = if future = some m then some result else (d.future m).value := by
    intro m
    rw [future_congr hf]
    cases future with
    | none => rfl
    | some n =>
      obtain ⟨hlt, hv⟩ := hflight.unset (hopen n rfl)
      rw [value_resolve hlt hv]
      simp only [Option.some.injEq]
  refine ⟨submitted, by rw [hf, length_resolve], jobs, fun m s hm => ?_, fun e he => ?_,
    fun n r => ?_, comes⟩
  · rw [future_congr hf] at hm
    exact mem_listeners_resolve hm
  · cases he with
    | journal h => exact .inl (.journal (hj ▸ h))
    | posted h => exact .inl (.posted (hp ▸ h))
    | behind h hx => exact .inl (.behind (hs ▸ h) hx)
    | @inHand x h =>
      rw [hin] at h
      rcases List.mem_append.mp h with h | h
      · obtain ⟨hresult, n, hn, hl⟩ := exists_of_mem_listeners h
        exact .inr ⟨x, rfl, hresult, .listener hn hl⟩
      · obtain ⟨hresult, hawaits⟩ := howned x h
        exact .inr ⟨x, rfl, hresult, hawaits⟩
  · by_cases hn : future = some n
    · rw [if_pos hn]
      constructor
      · intro hdue
        cases hdue with
        | set hv =>
          rw [hvalue, if_pos hn] at hv
          exact (Option.some.inj hv).symm
        | behind h he => exact honly n hn r (.behind (hs ▸ h) he)
        | inHand he => rw [he] at ht'; cases ht'
      · rintro rfl
        exact .set (by rw [hvalue, if_pos hn])
    · rw [if_neg hn]
      have hsame : (d'.future n).value = (d.future n).value := by rw [hvalue, if_neg hn]
      constructor
      · refine fun hdue => hdue.mono (fun hv => hsame ▸ hv) fun key he => ?_
        rcases he with he | he
        · rw [he] at ht'
          cases ht'
        · exact .inr (hs ▸ he)
      · refine fun hdue => hdue.mono (fun hv => hsame ▸ hv) fun key he => ?_
        rcases he with he | he
        · exact (hother n r hn ⟨key, he⟩).elim
        · exact .inr (hs ▸ he)

theorem gives_settle {key : Option CommandKey} {future : Option Nat} {result : CommandResult}
    (hflight : Flight lost d (.tell [] (.settle key future result))) :
    Gives genuine d (.tell [] (.settle key future result)) future result
      (d.settle key future result) (.tell (d.listeners future result) .nothing) := by
  have heq := settle_eq d key future result
  refine gives_of_resolve [] hflight (fun n hn => ?_) (fun n hn r hdue => ?_)
    (fun n r hne => ?_) (by rw [heq]) (by rw [heq]) (fun j hj => ?_) (by rw [heq]) (by rw [heq])
    (by rw [heq]) (List.append_nil _).symm (by simp) rfl (.due fun n hn => ?_)
  · refine Multiset.mem_add.mpr (.inr ?_)
    rw [Task.ending, Ending.future, hn]
    exact List.mem_singleton_self _
  · subst hn
    exact (hflight.settling rfl).2 r hdue
  · rintro ⟨key', he⟩
    exact hne (Ending.settle.inj he).2.1
  · rw [unfinished_tell, heq] at hj
    have hj : j ∈ d.unfinished (.tell [] (.settle key future result)) := by
      rw [unfinished_tell]
      exact hj
    refine ⟨hj, fun n hn => ?_⟩
    subst hn
    exact (hflight.settling rfl).1 j hj
  · subst hn
    exact .inHand rfl

theorem gives_reject {j : Job κ} (hflight : Flight lost d (.place j)) :
    Gives genuine d (.place j) j.future (rejected j.submission) d
      (.tell [⟨j.submission, rejected j.submission⟩]
        (.settle j.key j.future (rejected j.submission))) := by
  have hu := unfinished_place d j
  have hmem : j ∈ d.unfinished (.place j) := by
    rw [hu]
    exact Multiset.mem_cons_self _ _
  refine ⟨rfl, rfl, fun j' hj' => ?_, fun m s hm => hm, fun e he => ?_, fun n r => ?_,
    .job hmem rfl rfl fun _ => rfl⟩
  · rw [unfinished_tell] at hj'
    exact ⟨by rw [hu]; exact Multiset.mem_cons_of_mem hj', fun n hn => hflight.apart hu hn hj'⟩
  · cases he with
    | journal h => exact .inl (.journal h)
    | posted h => exact .inl (.posted h)
    | behind h hx => exact .inl (.behind h hx)
    | inHand h =>
      rw [List.mem_singleton.mp h]
      exact .inr ⟨_, rfl, rfl, .job hmem rfl rfl⟩
  · by_cases hn : j.future = some n
    · rw [if_pos hn]
      constructor
      · intro hdue
        cases hdue with
        | set hv => exact (hflight.not_due hmem hn r (.set hv)).elim
        | behind h he => exact (hflight.not_due hmem hn r (.behind h he)).elim
        | inHand he => exact (Ending.settle.inj he).2.2.symm
      · rintro rfl
        refine .inHand (?_ : _ = Ending.settle j.key (some n) (rejected j.submission))
        rw [← hn]
        rfl
    · rw [if_neg hn]
      constructor
      · refine fun hdue => hdue.mono id fun key he => ?_
        rcases he with he | he
        · exact absurd (Ending.settle.inj he).2.1 hn
        · exact .inr he
      · refine fun hdue => hdue.mono id fun key he => ?_
        rcases he with he | he
        · cases he
        · exact .inr he

/-- **What a move does**: it sets no future, or a job is turned away, or a rejected execution is
settled. -/
theorem still_or_settles (hm : Move d t d' t') : Still calm d t d' t' ∨
    (∃ j, t = .place j ∧ (d.lane j.submission.lane).submit? j = none ∧ d' = d ∧
      t' = .tell [⟨j.submission, rejected j.submission⟩]
        (.settle j.key j.future (rejected j.submission))) ∨
    ∃ key future result, t = .tell [] (.settle key future result) ∧
      d' = d.settle key future result ∧ t' = .tell (d.listeners future result) .nothing := by
  cases hm with
  | queue accepted => exact .inl (still_withLane accepted)
  | reject refused => exact .inr (.inl ⟨_, rfl, refused, rfl, rfl⟩)
  | @post x xs ending => exact .inl ((still_announce d x _).trans (still_post d x xs ending))
  | @call x xs ending =>
    exact .inl ((still_announce d x _).trans (still_openCallback _ x xs ending))
  | @free kind pool ticket =>
    have heq := freeWorker_eq d kind pool ticket
    refine .inl (.of_jobs ?_ (by rw [heq]) (by rw [heq]) (by rw [heq]) (by rw [heq]) (by rw [heq])
      rfl ⟨rfl, rfl⟩)
    rw [unfinished_tell]
    exact (add_zero _).trans (jobs_freeWorker _ _ _ _)
  | settle => exact .inr (.inr ⟨_, _, _, rfl, rfl, rfl⟩)

end Dispatcher

/-- **A move keeps a promise.** -/
theorem Promise.Kept.move {calm genuine : Prop} {p : Promise κ} {d d' : Dispatcher κ}
    {t t' : Task κ} {lost : Multiset Claim} (hm : Move d t d' t') (hflight : Flight lost d t)
    (h : p.Kept calm genuine d t) : p.Kept calm genuine d' t' := by
  rcases still_or_settles hm with hs | ⟨j, rfl, -, rfl, rfl⟩ | ⟨key, future, result, rfl, rfl, rfl⟩
  · exact h.still hs
  · exact h.give (gives_reject hflight)
  · exact h.give (gives_settle hflight)

end SignOn
