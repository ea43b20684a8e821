import SignOn.Rehearsal.ExecutorTrial

/-! # From one transport to the next

What a call over several transports does, read off the history of its attempts. An `Attempt` is one
of five stories, by the step at which it came to its end; a `History` is a row of attempts, each
told to the listener before the next begins, and says nothing about where the row stops. That is the
matter of `tryTransports_history`: a call tries its transports up to the first attempt that is not
`unreachable`, and what it gives follows from the history alone (`Conclusion`).

The steps of a call and its transports are arbitrary. What the listener was told and which broker is
active afterwards follows from the history as soon as those steps leave both alone (`Leaves`). -/

namespace SignOn.Executor

variable {σ π α τ : Type}

/-! ### One attempt -/

/-- How an attempt over a transport went: what the broker answered to the request, if it came to an
answer, what the attempt gave, and the surroundings after it. -/
inductive Attempt (e : Executor σ) (call : BrokerCall σ π α) (t : Transport σ) (s : σ) :
    Option Bundle → Except AttemptFailure α → σ → Prop
  | unprepared {f : AttemptFailure} {s' : σ} (prepared : call.prepare t s = (.error f, s')) :
      Attempt e call t s none (.error f) s'
  | unbuilt {p : π} {f : Failure} {s₁ s' : σ} (prepared : call.prepare t s = (.ok p, s₁))
      (built : (call.build p).run s₁ = (.error f, s')) :
      Attempt e call t s none (.error (.fatal f)) s'
  | unsent {p : π} {request : BrokerRequest} {f : TransportFailure} {s₁ s₂ s' : σ}
      (prepared : call.prepare t s = (.ok p, s₁))
      (built : (call.build p).run s₁ = (.ok request, s₂))
      (sent : t.send request s₂ = (.error f, s')) :
      Attempt e call t s none (.error (.unreachable f)) s'
  | unread {p : π} {request : BrokerRequest} {answer : Bundle} {f : Failure} {s₁ s₂ s₃ s' : σ}
      (prepared : call.prepare t s = (.ok p, s₁))
      (built : (call.build p).run s₁ = (.ok request, s₂))
      (sent : t.send request s₂ = (.ok answer, s₃))
      (read : (call.read answer).run (e.learn answer s₃).2 = (.error f, s')) :
      Attempt e call t s (some answer) (.error (.fatal f)) s'
  | made {p : π} {request : BrokerRequest} {answer : Bundle} {a : α} {s₁ s₂ s₃ s' : σ}
      (prepared : call.prepare t s = (.ok p, s₁))
      (built : (call.build p).run s₁ = (.ok request, s₂))
      (sent : t.send request s₂ = (.ok answer, s₃))
      (read : (call.read answer).run (e.learn answer s₃).2 = (.ok a, s')) :
      Attempt e call t s (some answer) (.ok a) s'

section Steps

variable {e : Executor σ} {call : BrokerCall σ π α} {t : Transport σ} {s s' s₁ s₂ s₃ : σ}

theorem pure_apply {β : Type} (b : β) (s : σ) : (pure b : StateM σ β) s = (b, s) :=
  rfl

theorem attempt_of_unprepared {f : AttemptFailure} (h : call.prepare t s = (.error f, s')) :
    e.attempt call t s = (.error f, s') := by
  simp [attempt, bind, StateT.bind, pure_apply, h]

theorem attempt_of_unbuilt {p : π} {f : Failure} (hp : call.prepare t s = (.ok p, s₁))
    (hb : (call.build p).run s₁ = (.error f, s')) :
    e.attempt call t s = (.error (.fatal f), s') := by
  simp [attempt, bind, StateT.bind, pure_apply, hp, hb]

theorem attempt_of_built {p : π} {request : BrokerRequest} (hp : call.prepare t s = (.ok p, s₁))
    (hb : (call.build p).run s₁ = (.ok request, s₂)) :
    e.attempt call t s = e.exchange t call request s₂ := by
  simp [attempt, bind, StateT.bind, hp, hb]

theorem exchange_of_unsent {request : BrokerRequest} {f : TransportFailure}
    (h : t.send request s = (.error f, s')) :
    e.exchange t call request s = (.error (.unreachable f), s') := by
  simp [exchange, bind, StateT.bind, pure_apply, h]

theorem exchange_of_unread {request : BrokerRequest} {answer : Bundle} {f : Failure}
    (hs : t.send request s = (.ok answer, s₁))
    (hr : (call.read answer).run (e.learn answer s₁).2 = (.error f, s')) :
    e.exchange t call request s = (.error (.fatal f), s') := by
  have hr' : (call.read answer).run
      (e.active.set (ActiveBroker.update (e.active.get s₁) answer).2 s₁) = (.error f, s') := hr
  simp [exchange, learn, bind, StateT.bind, pure_apply, hs, hr']

theorem exchange_of_read {request : BrokerRequest} {answer : Bundle} {a : α}
    (hs : t.send request s = (.ok answer, s₁))
    (hr : (call.read answer).run (e.learn answer s₁).2 = (.ok a, s')) :
    e.exchange t call request s = (.ok a, s') := by
  have hr' : (call.read answer).run
      (e.active.set (ActiveBroker.update (e.active.get s₁) answer).2 s₁) = (.ok a, s') := hr
  simp [exchange, learn, bind, StateT.bind, pure_apply, hs, hr']

end Steps

/-- An attempt is one of the five stories. -/
theorem attempt_story (e : Executor σ) (call : BrokerCall σ π α) (t : Transport σ) (s : σ) :
    ∃ answer, Attempt e call t s answer (e.attempt call t s).1 (e.attempt call t s).2 := by
  rcases hp : call.prepare t s with ⟨prepared, s₁⟩
  cases prepared with
  | error f =>
    rw [attempt_of_unprepared hp]
    exact ⟨none, .unprepared hp⟩
  | ok p =>
    rcases hb : (call.build p).run s₁ with ⟨built, s₂⟩
    cases built with
    | error f =>
      rw [attempt_of_unbuilt hp hb]
      exact ⟨none, .unbuilt hp hb⟩
    | ok request =>
      rw [attempt_of_built hp hb]
      rcases hs : t.send request s₂ with ⟨sent, s₃⟩
      cases sent with
      | error f =>
        rw [exchange_of_unsent hs]
        exact ⟨none, .unsent hp hb hs⟩
      | ok answer =>
        rcases hr : (call.read answer).run (e.learn answer s₃).2 with ⟨read, s₄⟩
        cases read with
        | error f =>
          rw [exchange_of_unread hs hr]
          exact ⟨some answer, .unread hp hb hs hr⟩
        | ok a =>
          rw [exchange_of_read hs hr]
          exact ⟨some answer, .made hp hb hs hr⟩

/-! ### A row of attempts -/

/-- What is known of one attempt: its transport, what the broker answered and what it gave. -/
structure Trial (σ α : Type) where
  transport : Transport σ
  answer : Option Bundle
  result : Except AttemptFailure α

/-- What the listener is told about an attempt. -/
def Trial.report (method : String) (x : Trial σ α) : TransportReport :=
  ⟨method, x.transport.kind, outcomeOf x.result⟩

/-- Attempts one after the other, each reported before the next one. -/
inductive History (e : Executor σ) (call : BrokerCall σ π α) : σ → List (Trial σ α) → σ → Prop
  | nil {s : σ} : History e call s [] s
  | cons {s s₁ s' : σ} {x : Trial σ α} {later : List (Trial σ α)}
      (attempted : Attempt e call x.transport s x.answer x.result s₁)
      (continued : History e call (e.report (x.report call.method) s₁).2 later s') :
      History e call s (x :: later) s'

/-- The package that is active after a row of attempts: the last one told, else the one before. -/
def activeAfter (kept : ActiveBroker) (trials : List (Trial σ α)) : ActiveBroker :=
  ((trials.filterMap (·.answer)).filterMap ActiveBroker.told).getLast?.or kept

theorem activeAfter_cons (kept : ActiveBroker) (x : Trial σ α) (later : List (Trial σ α)) :
    activeAfter kept (x :: later)
      = activeAfter ((x.answer.bind ActiveBroker.told).or kept) later := by
  unfold activeAfter
  rcases hx : x.answer with _ | answer
  · simp [hx]
  · rcases ht : ActiveBroker.told answer with _ | package
    · simp [hx, ht]
    · simp only [List.filterMap_cons, hx, ht, Option.bind_some, List.getLast?_cons]
      generalize (List.filterMap _ _).getLast? = last
      cases last <;> rfl

theorem update_snd (kept : ActiveBroker) (answer : Bundle) :
    (ActiveBroker.update kept answer).2 = (ActiveBroker.told answer).or kept := by
  unfold ActiveBroker.update
  cases ActiveBroker.told answer <;> rfl

/-! ### Steps that leave a part of the surroundings alone -/

/-- No step of the call, and no transport of the executor, changes what a view shows. -/
structure Leaves (e : Executor σ) (call : BrokerCall σ π α) (view : σ → τ) : Prop where
  prepare : ∀ t ∈ e.transports, ∀ s, view (call.prepare t s).2 = view s
  build : ∀ p s, view ((call.build p).run s).2 = view s
  send : ∀ t ∈ e.transports, ∀ request s, view (t.send request s).2 = view s
  read : ∀ answer s, view ((call.read answer).run s).2 = view s

section Views

variable {e : Executor σ} {call : BrokerCall σ π α}

/-- Through an attempt a view changes only where the package of the answer is kept. -/
theorem Attempt.view {view : σ → τ} (leaves : e.Leaves call view) {t : Transport σ}
    (ht : t ∈ e.transports) {s s' : σ} {answer : Option Bundle} {result : Except AttemptFailure α}
    (h : Attempt e call t s answer result s') :
    (answer = none ∧ view s' = view s) ∨
      ∃ a s₁, answer = some a ∧ view s₁ = view s ∧ view s' = view (e.learn a s₁).2 := by
  have prepare := fun s => leaves.prepare t ht s
  have send := fun request s => leaves.send t ht request s
  cases h with
  | unprepared hp => exact .inl ⟨rfl, by simpa [hp] using prepare s⟩
  | @unbuilt p f s₁ _ hp hb =>
    have h₁ : view s₁ = view s := by simpa [hp] using prepare s
    have h₂ : view s' = view s₁ := by simpa [hb] using leaves.build p s₁
    exact .inl ⟨rfl, h₂.trans h₁⟩
  | @unsent p request f s₁ s₂ _ hp hb hs =>
    have h₁ : view s₁ = view s := by simpa [hp] using prepare s
    have h₂ : view s₂ = view s₁ := by simpa [hb] using leaves.build p s₁
    have h₃ : view s' = view s₂ := by simpa [hs] using send request s₂
    exact .inl ⟨rfl, h₃.trans (h₂.trans h₁)⟩
  | @unread p request a f s₁ s₂ s₃ _ hp hb hs hr =>
    have h₁ : view s₁ = view s := by simpa [hp] using prepare s
    have h₂ : view s₂ = view s₁ := by simpa [hb] using leaves.build p s₁
    have h₃ : view s₃ = view s₂ := by simpa [hs] using send request s₂
    have h₄ := leaves.read a (e.learn a s₃).2
    rw [hr] at h₄
    exact .inr ⟨a, s₃, rfl, h₃.trans (h₂.trans h₁), h₄⟩
  | @made p request a _ s₁ s₂ s₃ _ hp hb hs hr =>
    have h₁ : view s₁ = view s := by simpa [hp] using prepare s
    have h₂ : view s₂ = view s₁ := by simpa [hb] using leaves.build p s₁
    have h₃ : view s₃ = view s₂ := by simpa [hs] using send request s₂
    have h₄ := leaves.read a (e.learn a s₃).2
    rw [hr] at h₄
    exact .inr ⟨a, s₃, rfl, h₃.trans (h₂.trans h₁), h₄⟩

/-- After an attempt the package that its answer told is active. -/
theorem Attempt.active (leaves : e.Leaves call e.active.get) {t : Transport σ}
    (ht : t ∈ e.transports) {s s' : σ} {answer : Option Bundle} {result : Except AttemptFailure α}
    (h : Attempt e call t s answer result s') :
    e.active.get s' = (answer.bind ActiveBroker.told).or (e.active.get s) := by
  obtain ⟨rfl, h'⟩ | ⟨a, s₁, rfl, h₁, h'⟩ := h.view leaves ht
  · simpa using h'
  · rw [h', learn, e.active.get_set, update_snd, h₁]
    rfl

/-- After a row of attempts the last package told is active. -/
theorem History.active (leaves : e.Leaves call e.active.get)
    (report : ∀ r s, e.active.get (e.report r s).2 = e.active.get s) {s s' : σ}
    {trials : List (Trial σ α)} (h : History e call s trials s')
    (among : ∀ x ∈ trials, x.transport ∈ e.transports) :
    e.active.get s' = activeAfter (e.active.get s) trials := by
  induction h with
  | nil => simp [activeAfter]
  | cons attempted _ ih =>
    have first := attempted.active leaves (among _ List.mem_cons_self)
    have later := ih fun x hx => among x (List.mem_cons_of_mem _ hx)
    rw [later, report, first, activeAfter_cons]

/-- After a row of attempts the listener was told of each of them, in their order. -/
theorem History.told {told : σ → List TransportReport} (leaves : e.Leaves call told)
    (learn : ∀ kept s, told (e.active.set kept s) = told s)
    (report : ∀ r s, told (e.report r s).2 = told s ++ [r]) {s s' : σ}
    {trials : List (Trial σ α)} (h : History e call s trials s')
    (among : ∀ x ∈ trials, x.transport ∈ e.transports) :
    told s' = told s ++ trials.map (·.report call.method) := by
  induction h with
  | nil => simp
  | @cons s s₁ _ x later attempted _ ih =>
    have first : told s₁ = told s := by
      obtain ⟨-, h'⟩ | ⟨a, s₂, -, h₂, h'⟩ :=
        attempted.view leaves (among x List.mem_cons_self)
      · exact h'
      · rw [h', Executor.learn, learn, h₂]
    have later := ih fun x hx => among x (List.mem_cons_of_mem _ hx)
    rw [later, report, first]
    simp

end Views

/-! ### A call -/

/-- Whether an attempt lets the next transport try. -/
def Trial.IsUnreachable (x : Trial σ α) : Prop := ∃ f, x.result = .error (.unreachable f)

/-- The failure of a call that reached nobody, with what went wrong on the way. -/
def IsBindFailure (f : Failure) (suppressed : List TransportFailure) : Prop :=
  ∃ c : ClientFailure, f = .client c ∧ c.code = Code.brokerBindServiceFailed ∧
    c.suppressed = suppressed

theorem isBindFailure_noTransport (method : String) : IsBindFailure (noTransport method) [] :=
  ⟨_, rfl, rfl, rfl⟩

theorem isBindFailure_allUnreachable (method : String) (failures : List TransportFailure) :
    IsBindFailure (allUnreachable method failures) failures :=
  ⟨_, rfl, rfl, rfl⟩

/-- What a call gives after its attempts, with the transports left that it did not try and the
failures of those tried before. Either nobody was reached and no transport is left, or the last
attempt settled the call and the ones before it reached nobody. -/
inductive Conclusion (failures : List TransportFailure) :
    List (Trial σ α) → List (Transport σ) → Except Failure α → Prop
  | exhausted {trials : List (Trial σ α)} (more : List TransportFailure) {f : Failure}
      (unreachable : trials.map (·.result) = more.map fun f => .error (.unreachable f))
      (bind : IsBindFailure f (failures ++ more)) :
      Conclusion failures trials [] (.error f)
  | answered (earlier : List (Trial σ α)) {last : Trial σ α} {untried : List (Transport σ)} {a : α}
      (unreachable : ∀ x ∈ earlier, x.IsUnreachable) (settled : last.result = .ok a) :
      Conclusion failures (earlier ++ [last]) untried (.ok a)
  | failed (earlier : List (Trial σ α)) {last : Trial σ α} {untried : List (Transport σ)}
      {f : Failure} (unreachable : ∀ x ∈ earlier, x.IsUnreachable)
      (settled : last.result = .error (.fatal f)) :
      Conclusion failures (earlier ++ [last]) untried (.error f)

/-- An attempt that reached nobody, before the others. -/
theorem Conclusion.cons {failures : List TransportFailure} {f : TransportFailure} {x : Trial σ α}
    {trials : List (Trial σ α)} {untried : List (Transport σ)} {result : Except Failure α}
    (hx : x.result = .error (.unreachable f))
    (h : Conclusion (failures ++ [f]) trials untried result) :
    Conclusion failures (x :: trials) untried result := by
  have first : x.IsUnreachable := ⟨f, hx⟩
  cases h with
  | exhausted more unreachable bind =>
    refine .exhausted (f :: more) ?_ ?_
    · simp [hx, unreachable]
    · simpa using bind
  | answered earlier unreachable settled =>
    exact .answered (x :: earlier) (List.forall_mem_cons.2 ⟨first, unreachable⟩) settled
  | failed earlier unreachable settled =>
    exact .failed (x :: earlier) (List.forall_mem_cons.2 ⟨first, unreachable⟩) settled

section Calls

variable (e : Executor σ) (call : BrokerCall σ π α)

/-- The surroundings after an attempt and its report. -/
def afterTrial (t : Transport σ) (s : σ) : σ :=
  (e.report ⟨call.method, t.kind, outcomeOf (e.attempt call t s).1⟩ (e.attempt call t s).2).2

theorem tryTransports_nil (failures : List TransportFailure) (s : σ) :
    (e.tryTransports call [] failures).run s = (.error (allUnreachable call.method failures), s) :=
  rfl

/-- Only an attempt that reached nobody hands over to the next transport. -/
theorem tryTransports_cons (t : Transport σ) (rest : List (Transport σ))
    (failures : List TransportFailure) (s : σ) :
    (e.tryTransports call (t :: rest) failures).run s =
      match (e.attempt call t s).1 with
      | .ok a => (.ok a, e.afterTrial call t s)
      | .error (.fatal f) => (.error f, e.afterTrial call t s)
      | .error (.unreachable f) =>
        (e.tryTransports call rest (failures ++ [f])).run (e.afterTrial call t s) := by
  unfold afterTrial
  rcases h : e.attempt call t s with ⟨(f | f) | a, s₁⟩ <;>
    simp only [tryTransports, bind, StateT.bind, pure_apply, ExceptT.run, ExceptT.mk, h] <;>
    rfl

/-- A row of transports is tried up to the first attempt that settles the call, and what is given
follows from the attempts; the transports after it might as well be others. The induction is on the
transports; the failures of those tried before only go into the last failure. -/
theorem tryTransports_history (ts : List (Transport σ)) (failures : List TransportFailure) (s : σ) :
    ∃ (trials : List (Trial σ α)) (untried : List (Transport σ)),
      ts = trials.map (·.transport) ++ untried ∧
      History e call s trials ((e.tryTransports call ts failures).run s).2 ∧
      Conclusion failures trials untried ((e.tryTransports call ts failures).run s).1 ∧
      ((∃ x ∈ trials, ¬ x.IsUnreachable) → ∀ others : List (Transport σ),
        (e.tryTransports call (trials.map (·.transport) ++ others) failures).run s
          = (e.tryTransports call ts failures).run s) := by
  induction ts generalizing failures s with
  | nil =>
    rw [tryTransports_nil]
    refine ⟨[], [], rfl, .nil, .exhausted [] rfl ?_, ?_⟩
    · simpa using isBindFailure_allUnreachable call.method failures
    · rintro ⟨x, hx, -⟩
      cases hx
  | cons t rest ih =>
    obtain ⟨answer, story⟩ := attempt_story e call t s
    rw [tryTransports_cons]
    rcases hr : (e.attempt call t s).1 with (f | f) | a
    · obtain ⟨trials, untried, split, history, conclusion, others⟩ :=
        ih (failures ++ [f]) (e.afterTrial call t s)
      refine ⟨⟨t, answer, (e.attempt call t s).1⟩ :: trials, untried, ?_, .cons story history,
        conclusion.cons hr, ?_⟩
      · rw [split]; rfl
      · rintro ⟨x, hx, settled⟩ more
        have later : x ∈ trials := by
          rcases List.mem_cons.1 hx with rfl | hx
          · exact absurd ⟨f, hr⟩ settled
          · exact hx
        rw [List.map_cons, List.cons_append, tryTransports_cons, hr]
        exact others ⟨x, later, settled⟩ more
    · refine ⟨[⟨t, answer, (e.attempt call t s).1⟩], rest, rfl, .cons story .nil,
        .failed [] (List.forall_mem_nil _) hr, ?_⟩
      intro _ others
      rw [List.map_singleton, List.singleton_append, tryTransports_cons, hr]
    · refine ⟨[⟨t, answer, (e.attempt call t s).1⟩], rest, rfl, .cons story .nil,
        .answered [] (List.forall_mem_nil _) hr, ?_⟩
      intro _ others
      rw [List.map_singleton, List.singleton_append, tryTransports_cons, hr]

theorem tryTransports_withTransports (transports ts : List (Transport σ))
    (failures : List TransportFailure) :
    ({ e with transports }).tryTransports call ts failures = e.tryTransports call ts failures := by
  induction ts generalizing failures with
  | nil => rfl
  | cons t rest ih =>
    unfold tryTransports
    simp only [ih]
    rfl

theorem execute_of_ne_nil (h : e.transports ≠ []) :
    e.execute call = e.tryTransports call e.transports [] := by
  simp [execute, h]

/-- The attempts of a call, whether or not there are transports. -/
theorem execute_history (s : σ) :
    ∃ (trials : List (Trial σ α)) (untried : List (Transport σ)),
      e.transports = trials.map (·.transport) ++ untried ∧
      History e call s trials ((e.execute call).run s).2 ∧
      Conclusion [] trials untried ((e.execute call).run s).1 ∧
      ((∃ x ∈ trials, ¬ x.IsUnreachable) → ∀ others : List (Transport σ),
        (({ e with transports := trials.map Trial.transport ++ others }).execute call).run s
          = (e.execute call).run s) := by
  by_cases empty : e.transports = []
  · have refused : (e.execute call).run s = (.error (noTransport call.method), s) := by
      simp only [execute, empty, List.isEmpty_nil, if_true]
      rfl
    rw [refused]
    refine ⟨[], [], empty, .nil, ?_, ?_⟩
    · exact .exhausted [] rfl (isBindFailure_noTransport call.method)
    · rintro ⟨x, hx, -⟩
      cases hx
  · obtain ⟨trials, untried, split, history, conclusion, others⟩ :=
      tryTransports_history e call e.transports [] s
    rw [execute_of_ne_nil e call empty]
    refine ⟨trials, untried, split, history, conclusion, ?_⟩
    rintro ⟨x, hx, settled⟩ more
    have tried : trials.map (·.transport) ++ more ≠ [] := by
      have : trials ≠ [] := List.ne_nil_of_mem hx
      simp [this]
    rw [execute_of_ne_nil _ call tried, tryTransports_withTransports]
    exact others ⟨x, hx, settled⟩ more

/-- A call tries its transports in order, up to and with the first attempt that is not
`unreachable`. It gives the value or the failure of that attempt, and might as well be followed by
any other transports; if there is none, it gives the bind failure with the failures of all attempts.
A listener whom only reports reach is told once of each attempt, in order; and if nobody else sets
the active broker, it is the last one that an answer told, or the one before the call. -/
theorem execute_falls_back (s : σ) :
    ∃ (trials : List (Trial σ α)) (untried : List (Transport σ)),
      e.transports = trials.map (·.transport) ++ untried ∧
      History e call s trials ((e.execute call).run s).2 ∧
      Conclusion [] trials untried ((e.execute call).run s).1 ∧
      ((∃ x ∈ trials, ¬ x.IsUnreachable) → ∀ others : List (Transport σ),
        (({ e with transports := trials.map Trial.transport ++ others }).execute call).run s
          = (e.execute call).run s) ∧
      (∀ told : σ → List TransportReport, e.Leaves call told →
        (∀ kept s, told (e.active.set kept s) = told s) →
        (∀ r s, told (e.report r s).2 = told s ++ [r]) →
        told ((e.execute call).run s).2 = told s ++ trials.map (·.report call.method)) ∧
      (e.Leaves call e.active.get → (∀ r s, e.active.get (e.report r s).2 = e.active.get s) →
        e.active.get ((e.execute call).run s).2 = activeAfter (e.active.get s) trials) := by
  obtain ⟨trials, untried, split, history, conclusion, others⟩ := execute_history e call s
  have among : ∀ x ∈ trials, x.transport ∈ e.transports := by
    intro x hx
    rw [split]
    exact List.mem_append_left _ (List.mem_map_of_mem hx)
  refine ⟨trials, untried, split, history, conclusion, others, ?_, ?_⟩
  · intro told leaves learn report
    exact history.told leaves learn report among
  · intro leaves report
    exact history.active leaves report among

end Calls

end SignOn.Executor

/-! ### Calls that follow a script -/

namespace SignOn.Rehearsal.ExecutorTrial

open Executor Stage

/-- The scripted steps of a call leave alone what the scripts of the transports leave alone, if it
is a part of the stage. -/
theorem leaves_of_nextLine {τ : Type} (view : Stage → τ)
    (sent : ∀ (s : Stage) log, view { s with sent := log } = view s)
    (line : ∀ owner number s, view (nextLine owner number s).2 = view s)
    (scripts : List TransportScript) (supportedBy : Option PackageName) (isNoted : Bool)
    (c : ScriptedCall) :
    (executor scripts supportedBy isNoted).Leaves (callOf c) fun t => view t.stage where
  prepare := by
    intro t _ s
    change view (prepare t.kind s).2.stage = view s.stage
    unfold prepare
    rcases s.readiness with _ | ⟨_ | _ | _, rest⟩ <;> rfl
  build := by
    intro _ s
    change view (((callOf c).build ()).run s).2.stage = view s.stage
    unfold callOf
    cases c.buildFailure <;> rfl
  send := by
    intro t ht request s
    have ht : t ∈ transports scripts supportedBy := ht
    have all : t ∈ (transportsOf owner scripts).map liftTransport := by
      unfold transports at ht
      cases supportedBy with
      | none => exact ht
      | some package => exact (List.mem_filter.1 ht).1
    obtain ⟨script, number, rfl⟩ :
        ∃ script number, t = liftTransport (TransportScript.transport script owner number) := by
      simp only [transportsOf, List.map_map, List.mem_map] at all
      obtain ⟨⟨script, number⟩, -, rfl⟩ := all
      exact ⟨script, number, rfl⟩
    exact (line owner number _).trans (sent s.stage _)
  read := by
    intro _ _
    rfl

theorem nextLine_reports (name : String) (number : Nat) (s : Stage) :
    (nextLine name number s).2.reports = s.reports := by
  unfold nextLine
  dsimp only
  split <;> rfl

theorem nextLine_active (kept name : String) (number : Nat) (s : Stage) :
    (activeOf kept).get (nextLine name number s).2 = (activeOf kept).get s := by
  unfold nextLine
  dsimp only
  split
  · rfl
  · change (if kept = name then _ else s.props kept).active = (s.props kept).active
    by_cases h : kept = name
    · rw [if_pos h, h]; rfl
    · rw [if_neg h]

theorem report_reports (scripts : List TransportScript) (supportedBy : Option PackageName)
    (r : TransportReport) (t : ExecutorTrial) :
    ((executor scripts supportedBy true).report r t).2.stage.reports = t.stage.reports ++ [r] := rfl

theorem report_active (scripts : List TransportScript) (supportedBy : Option PackageName)
    (r : TransportReport) (t : ExecutorTrial) :
    (activeOf owner).get ((executor scripts supportedBy true).report r t).2.stage
      = (activeOf owner).get t.stage := rfl

/-- Four transports: nobody at the first, a second that is not made ready, an answer over the third
that tells a package but holds no text, and one that is not reached any more. -/
def fourTransports : List TransportScript :=
  [⟨.contentProvider, [.unreachable], none⟩, ⟨.boundService, [], none⟩,
    ⟨.accountManager, [.answer ⟨[(ActiveBroker.key, .string "com.example.broker")]⟩], none⟩,
    ⟨.contentProvider, [], none⟩]

/-- A request for a text. -/
def echo : ScriptedCall :=
  ⟨.getAccounts, ⟨"com.example.broker", by decide⟩, .empty, "echo", "value", none⟩

/-- The trial before the call. -/
def unready : ExecutorTrial :=
  (new fourTransports).beginCall [.ready, .unreachable .connection "Nobody." none, .ready]

/-- The call ends with the third transport, whose answer was not read but told a package. -/
theorem execute_falls_back_echo :
    ∃ (trials : List (Trial ExecutorTrial String)) (untried : List (Transport ExecutorTrial)),
      (executor fourTransports none true).transports = trials.map (·.transport) ++ untried ∧
      Conclusion [] trials untried
        (((executor fourTransports none true).execute (callOf echo)).run unready).1 ∧
      trials.map (·.report "echo") = [⟨"echo", .contentProvider, .unreachable⟩,
        ⟨"echo", .boundService, .unreachable⟩, ⟨"echo", .accountManager, .fatal⟩] ∧
      activeAfter none trials = some ⟨"com.example.broker", by decide⟩ := by
  obtain ⟨trials, untried, split, -, conclusion, -, told, active⟩ :=
    execute_falls_back (executor fourTransports none true) (callOf echo) unready
  have reports :
      (((executor fourTransports none true).execute (callOf echo)).run unready).2.stage.reports
        = [⟨"echo", .contentProvider, .unreachable⟩, ⟨"echo", .boundService, .unreachable⟩,
          ⟨"echo", .accountManager, .fatal⟩] := by
    decide +kernel
  have kept : (executor fourTransports none true).active.get
      (((executor fourTransports none true).execute (callOf echo)).run unready).2
        = some ⟨"com.example.broker", by decide⟩ := by
    decide +kernel
  have heard := told (fun t => t.stage.reports)
    (leaves_of_nextLine Stage.reports (fun _ _ => rfl) nextLine_reports fourTransports none
      true echo)
    (fun _ _ => rfl) (report_reports fourTransports none)
  have learnt := active
    (leaves_of_nextLine (activeOf owner).get (fun _ _ => rfl) (nextLine_active owner)
      fourTransports none true echo)
    (report_active fourTransports none)
  refine ⟨trials, untried, split, conclusion, ?_, ?_⟩
  · rw [reports] at heard
    exact heard.symm
  · rw [kept] at learnt
    exact learnt.symm

end SignOn.Rehearsal.ExecutorTrial
