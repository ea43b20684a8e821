import SignOn.Dispatch.Run

/-! # What a step can do

Every step of the dispatcher is an opening, which depends on the input, and a few moves, which do
not: a job is given to its lane or turned away, and deliveries are made one after another until a
callback runs or none is left. `Opening` and `Move` list both, with what has to hold for each. A
step is an opening whose task is then performed (`step_opening`), so what every opening and every
move keep is kept by every step and every run (`step_keeps`, `run_keeps`). -/

namespace SignOn

/-- What a step has still to do: to place a job, or to make deliveries and then come to an end. -/
inductive Task (κ : Type) where
  | place (job : Job κ)
  | tell (deliveries : List (Delivery κ)) (ending : Ending)

/-- Nothing is left to do. -/
def Task.done {κ : Type} : Task κ := .tell [] .nothing

namespace Dispatcher

variable {κ : Type}

/-- Does what is left to do. -/
def perform (d : Dispatcher κ) : Task κ → Dispatcher κ
  | .place job => d.enqueue job
  | .tell deliveries ending => d.deliver deliveries ending

/-! ### The parts a step changes -/

theorem withLane_eq (d : Dispatcher κ) (kind : LaneKind) (l : Lane (Job κ)) :
    d.withLane kind l =
      { d with
        silent := if kind = .silent then l else d.silent
        interactive := if kind = .interactive then l else d.interactive } := by
  cases kind <;> rfl

theorem freeWorker_eq (d : Dispatcher κ) (kind : LaneKind) (pool ticket : Nat) :
    d.freeWorker kind pool ticket =
      { d with
        silent := (d.freeWorker kind pool ticket).silent
        interactive := (d.freeWorker kind pool ticket).interactive } := by
  cases kind <;> rfl

theorem breakOff_eq (d : Dispatcher κ) (ending : Ending) :
    d.breakOff ending =
      { d with
        silent := (d.breakOff ending).silent
        interactive := (d.breakOff ending).interactive } := by
  cases ending with
  | freeWorker => exact freeWorker_eq _ _ _ _
  | nothing | settle => rfl

theorem leaveFlight_eq (d : Dispatcher κ) (key : Option CommandKey) :
    d.leaveFlight key = { d with inFlight := (d.leaveFlight key).inFlight } := by
  cases key <;> rfl

theorem makeWay_of_active {d : Dispatcher κ} (h : d.registry.cancelActive.1 = true)
    (s : Submission κ) : d.makeWay s =
      { d with
        registry := d.registry.cancelActive.2
        stats := { d.stats with cancellationsBroadcast := d.stats.cancellationsBroadcast + 1 }
        journal := d.journal ++ [.noted s.ticket (.cancelBroadcast s.command.correlationId)] } := by
  simp [makeWay, cancelActive, h, note]

theorem makeWay_of_free {d : Dispatcher κ} (h : d.registry.cancelActive.1 = false)
    (s : Submission κ) : d.makeWay s = { d with registry := d.registry.cancelActive.2 } := by
  simp [makeWay, cancelActive, h]

theorem makeWay_eq (d : Dispatcher κ) (s : Submission κ) :
    d.makeWay s =
      { d with
        registry := d.registry.cancelActive.2
        stats := (d.makeWay s).stats
        journal := (d.makeWay s).journal } := by
  rcases h : d.registry.cancelActive.1 with _ | _
  · rw [makeWay_of_free h]
  · rw [makeWay_of_active h]

theorem keepResult_some (d : Dispatcher κ) (k : CommandKey) (result : CommandResult)
    (now : Moment) : d.keepResult (some k) result now =
      { d with
        results := if result.status.isCacheable then d.results.put k result now else d.results
        inFlight := d.inFlight.filter fun e => e.1 ≠ k } := by
  unfold keepResult
  by_cases h : result.status.isCacheable <;> simp [h, leaveFlight]

theorem keepResult_eq (d : Dispatcher κ) (key : Option CommandKey) (result : CommandResult)
    (now : Moment) : d.keepResult key result now =
      { d with
        results := (d.keepResult key result now).results
        inFlight := (d.leaveFlight key).inFlight } := by
  cases key with
  | none => rfl
  | some k => rw [keepResult_some]; rfl

/-! ### Moves -/

/-- The result is announced and its callback posted. -/
def post (d : Dispatcher κ) (x : Delivery κ) : Dispatcher κ :=
  { d.announce x with posted := d.posted ++ [x] }

/-- An execution is no longer under way, and its future is set. -/
def settle (d : Dispatcher κ) (key : Option CommandKey) (future : Option Nat)
    (result : CommandResult) : Dispatcher κ := ((d.leaveFlight key).resolve future result).2

theorem settle_eq (d : Dispatcher κ) (key : Option CommandKey) (future : Option Nat)
    (result : CommandResult) : d.settle key future result =
      { d with
        inFlight := (d.leaveFlight key).inFlight
        futures := (d.resolve future result).2.futures } := by
  cases key <;> cases future <;> rfl

/-- Those who are told when an execution is settled. -/
def listeners (d : Dispatcher κ) (future : Option Nat) (result : CommandResult) :
    List (Delivery κ) := (d.resolve future result).1.map fun s => ⟨s, result⟩

/-- One move towards the end of a step. -/
inductive Move : Dispatcher κ → Task κ → Dispatcher κ → Task κ → Prop
  | queue {d j l} (accepted : (d.lane j.submission.lane).submit? j = some l) :
      Move d (.place j) (d.withLane j.submission.lane l) .done
  | reject {d j} (refused : (d.lane j.submission.lane).submit? j = none) :
      Move d (.place j) d
        (.tell [⟨j.submission, rejected j.submission⟩]
          (.settle j.key j.future (rejected j.submission)))
  | post {d x xs ending} (later : d.poster.runsAtOnce x.submission.ticket = false) :
      Move d (.tell (x :: xs) ending) (d.post x) (.tell xs ending)
  | call {d x xs ending} (atOnce : d.poster.runsAtOnce x.submission.ticket = true) :
      Move d (.tell (x :: xs) ending) ((d.announce x).openCallback x xs ending) .done
  | free {d lane pool ticket} :
      Move d (.tell [] (.freeWorker lane pool ticket)) (d.freeWorker lane pool ticket) .done
  | settle {d key future result} :
      Move d (.tell [] (.settle key future result)) (d.settle key future result)
        (.tell (d.listeners future result) .nothing)

theorem listeners_leaveFlight (d : Dispatcher κ) (key : Option CommandKey) (future : Option Nat)
    (result : CommandResult) : (d.leaveFlight key).listeners future result
      = d.listeners future result := by
  cases key <;> cases future <;> rfl

theorem deliver_cons (d : Dispatcher κ) (x : Delivery κ) (xs : List (Delivery κ))
    (ending : Ending) : d.deliver (x :: xs) ending =
      if d.poster.runsAtOnce x.submission.ticket then (d.announce x).openCallback x xs ending
      else (d.post x).deliver xs ending := by
  have hp : (d.announce x).poster = d.poster := rfl
  unfold deliver
  rw [announceAll, hp]
  by_cases h : d.poster.runsAtOnce x.submission.ticket
  · simp [h]
  · simp only [h]; rfl

theorem deliver_settle (d : Dispatcher κ) (key : Option CommandKey) (future : Option Nat)
    (result : CommandResult) : d.deliver [] (.settle key future result) =
      (d.settle key future result).deliver (d.listeners future result) .nothing := by
  rw [← listeners_leaveFlight d key]
  rfl

theorem enqueue_accepted {d : Dispatcher κ} {j : Job κ} {l : Lane (Job κ)}
    (h : (d.lane j.submission.lane).submit? j = some l) :
    d.enqueue j = d.withLane j.submission.lane l := by simp [enqueue, h]

theorem enqueue_refused {d : Dispatcher κ} {j : Job κ}
    (h : (d.lane j.submission.lane).submit? j = none) :
    d.enqueue j = d.deliver [⟨j.submission, rejected j.submission⟩]
      (.settle j.key j.future (rejected j.submission)) := by simp [enqueue, h]

section Keeping

variable {I : Dispatcher κ → Task κ → Prop}
  (hmove : ∀ {d t d' t'}, Move d t d' t' → I d t → I d' t')

include hmove

theorem deliver_nothing_keeps : ∀ (xs : List (Delivery κ)) (d : Dispatcher κ),
    I d (.tell xs .nothing) → I (d.deliver xs .nothing) .done
  | [], _, h => h
  | x :: xs, d, h => by
    rw [deliver_cons]
    split
    · rename_i hp; exact hmove (.call hp) h
    · rename_i hp; exact deliver_nothing_keeps xs _ (hmove (.post (by simpa using hp)) h)

theorem deliver_keeps : ∀ (xs : List (Delivery κ)) (d : Dispatcher κ) (ending : Ending),
    I d (.tell xs ending) → I (d.deliver xs ending) .done
  | [], _, .nothing, h => h
  | [], _, .freeWorker _ _ _, h => hmove .free h
  | [], d, .settle key future result, h => by
    rw [deliver_settle]
    exact deliver_nothing_keeps hmove _ _ (hmove .settle h)
  | x :: xs, d, ending, h => by
    rw [deliver_cons]
    split
    · rename_i hp; exact hmove (.call hp) h
    · rename_i hp; exact deliver_keeps xs _ _ (hmove (.post (by simpa using hp)) h)

/-- What every move keeps is kept to the end of the step. -/
theorem perform_keeps {d : Dispatcher κ} {t : Task κ} (h : I d t) : I (d.perform t) .done := by
  cases t with
  | place j =>
    change I (d.enqueue j) .done
    cases hs : (d.lane j.submission.lane).submit? j with
    | some l => rw [enqueue_accepted hs]; exact hmove (.queue hs) h
    | none => rw [enqueue_refused hs]; exact deliver_keeps hmove _ _ _ (hmove (.reject hs) h)
  | tell xs ending => exact deliver_keeps hmove xs d ending h

end Keeping

/-! ### Openings -/

/-- The submission of a command handed in next. -/
def next (d : Dispatcher κ) (c : Command κ) (lane : LaneKind) : Submission κ :=
  ⟨d.stats.submitted, c, lane⟩

/-- The dispatcher that has enrolled a command. -/
def enrolled (d : Dispatcher κ) (c : Command κ) (lane : LaneKind) : Dispatcher κ :=
  (d.enroll c lane).2

/-- The dispatcher that has enrolled a silent command and looked for a result of its key. -/
def consulted (d : Dispatcher κ) (c : Command κ) (now : Moment) : Dispatcher κ :=
  { d.enrolled c .silent with results := (d.results.get c.key now).2 }

theorem consulted_eq (d : Dispatcher κ) (c : Command κ) (now : Moment) : d.consulted c now =
    { d with
      stats := { d.stats with submitted := d.stats.submitted + 1 }
      counters := d.counters.count (.command .silent .attempt)
      journal := d.journal ++ [.noted d.stats.submitted (.started c.apiId c.correlationId .silent)]
      results := (d.results.get c.key now).2 } := by
  simp only [consulted, enrolled, enroll, count, note]

/-- The execution of a command, whose result is `result`. -/
def resultOf (e : Execution κ) (outcome : Outcome) : CommandResult :=
  let c := e.job.submission.command
  ⟨statusOf outcome c.correlationId, c.correlationId⟩

/-- The dispatcher without an execution whose controllers are done; an interactive one has given the
slot back. -/
def retired (d : Dispatcher κ) (e : Execution κ) : Dispatcher κ :=
  { d with
    executions := d.executions.filter fun e' =>
      e'.job.submission.ticket ≠ e.job.submission.ticket
    registry := match e.session with
      | none => d.registry
      | some session => d.registry.release session }

/-- The dispatcher whose execution `e` is over: its result is kept where it may be, nobody can join
it any more, and its future is set. -/
def executed (d : Dispatcher κ) (e : Execution κ) (result : CommandResult) (now : Moment) :
    Dispatcher κ :=
  (((d.retired e).keepResult e.job.key result now).resolve e.job.future result).2

theorem executed_eq (d : Dispatcher κ) (e : Execution κ) (result : CommandResult)
    (now : Moment) : d.executed e result now =
      { d.retired e with
        results := (d.keepResult e.job.key result now).results
        inFlight := (d.leaveFlight e.job.key).inFlight
        futures := (d.resolve e.job.future result).2.futures } := by
  cases hk : e.job.key with
  | none => cases hf : e.job.future <;> simp only [executed, hk, hf] <;> rfl
  | some k => cases hf : e.job.future <;> simp only [executed, hk, hf, keepResult_some] <;> rfl

/-- How a step begins: the dispatcher after it and what is left to do. -/
inductive Opening (d : Dispatcher κ) (now : Moment) : Input κ → Dispatcher κ → Task κ → Prop
  | answered {c result} (shareable : c.isShareable = true)
      (cached : (d.results.get c.key now).1 = some result) :
      Opening d now (.submitSilent c)
        { (d.consulted c now).note d.stats.submitted (.cacheHit c.apiId c.correlationId) with
          stats := { (d.consulted c now).stats with cacheHits := d.stats.cacheHits + 1 }
          futures := d.futures ++ [.completed (result.attributedTo c.correlationId)] }
        (.tell [⟨d.next c .silent, result.attributedTo c.correlationId⟩] .nothing)
  | joined {c n} (shareable : c.isShareable = true)
      (missed : (d.results.get c.key now).1 = none) (found : d.inFlight.lookup c.key = some n)
      (unset : (d.future n).value = none) :
      Opening d now (.submitSilent c)
        { d.consulted c now with
          stats := { (d.consulted c now).stats with deduplicated := d.stats.deduplicated + 1 }
          futures := d.futures.set n
            { d.future n with listeners := (d.future n).listeners ++ [d.next c .silent] } }
        .done
  | joinedLate {c n result} (shareable : c.isShareable = true)
      (missed : (d.results.get c.key now).1 = none) (found : d.inFlight.lookup c.key = some n)
      (set : (d.future n).value = some result) :
      Opening d now (.submitSilent c)
        { d.consulted c now with
          stats := { (d.consulted c now).stats with deduplicated := d.stats.deduplicated + 1 } }
        (.tell [⟨d.next c .silent, result⟩] .nothing)
  | launched {c} (shareable : c.isShareable = true)
      (missed : (d.results.get c.key now).1 = none) (free : d.inFlight.lookup c.key = none) :
      Opening d now (.submitSilent c)
        { d.consulted c now with
          futures := d.futures ++ [.pending]
          inFlight := d.inFlight ++ [(c.key, d.futures.length)] }
        (.place ⟨d.next c .silent, some c.key, some d.futures.length⟩)
  | alone {c} (unshareable : c.isShareable = false) :
      Opening d now (.submitSilent c)
        { d.enrolled c .silent with futures := d.futures ++ [.pending] }
        (.place ⟨d.next c .silent, none, some d.futures.length⟩)
  | forgotten {c} :
      Opening d now (.submitAndForget c) (d.enrolled c .silent)
        (.place ⟨d.next c .silent, none, none⟩)
  | begun {c} :
      Opening d now (.beginInteractive c)
        ((d.enrolled c .interactive).makeWay (d.next c .interactive))
        (.place ⟨d.next c .interactive, none, none⟩)
  | continuation {k} :
      Opening d now (.completeInteractive k) { d with registry := (d.registry.deliver k).2 } .done
  | stopped :
      Opening d now .stopSilent { d with silent := d.silent.close } .done
  | reset :
      Opening d now .resetSilent
        { d with
          silent := d.silent.close
          continued := d.continued ++ [.reopenSilent d.silent.open?] } .done
  | shutDown :
      Opening d now .shutdown
        { d with
          registry := d.registry.cancelActive.2
          interactive := d.interactive.close
          continued := d.continued ++ [.closeSilent d.interactive.open?] } .done
  | cleared :
      Opening d now .clearResults { d with results := d.results.clear } .done
  | closed {place after} (call : d.continued[place]? = some (.closeSilent after)) :
      Opening d now (.goOn place)
        { d with continued := d.continued.eraseIdx place, silent := d.silent.close } .done
  | reopened {place after} (call : d.continued[place]? = some (.reopenSilent after)) :
      Opening d now (.goOn place)
        { d with continued := d.continued.eraseIdx place, silent := d.silent.reopen } .done
  | waits {place} : Opening d now (.goOn place) d .done
  | startedSilent {pool job lane} (taken : d.silent.start? pool = some (job, lane)) :
      Opening d now (.startJob .silent pool)
        { d with
          silent := lane
          executions := d.executions ++ [⟨job, .silent, pool, none⟩] } .done
  | startedInteractive {pool job lane} (taken : d.interactive.start? pool = some (job, lane)) :
      Opening d now (.startJob .interactive pool)
        { d with
          interactive := lane
          registry := (d.registry.acquire job.submission.command.correlationId).2
          executions := d.executions ++ [⟨job, .interactive, pool,
            some (d.registry.acquire job.submission.command.correlationId).1⟩] } .done
  | idle {lane pool} (none : (d.lane lane).start? pool = none) :
      Opening d now (.startJob lane pool) d .done
  | finished {ticket outcome e}
      (found : d.executions.find? (fun e => e.job.submission.ticket = ticket) = some e) :
      Opening d now (.finishJob ticket outcome)
        (d.executed e (resultOf e outcome) now)
        (.tell (d.listeners e.job.future (resultOf e outcome)
            ++ [⟨e.job.submission, resultOf e outcome⟩]) (.freeWorker e.lane e.pool ticket))
  | unfinished {ticket outcome}
      (missing : d.executions.find? (fun e => e.job.submission.ticket = ticket) = none) :
      Opening d now (.finishJob ticket outcome) d .done
  | expired {session} :
      Opening d now (.expireSession session)
        { d with registry := (d.registry.resolve session .cancelled).2 } .done
  | ended {strand s} (found : d.strands.find? (fun s => s.id = strand) = some s) :
      Opening d now (.endCallback strand false)
        ({ d with strands := d.strands.filter fun t => t.id ≠ strand }.flush s.current)
        (.tell s.rest s.ending)
  | broke {strand s} (found : d.strands.find? (fun s => s.id = strand) = some s) :
      Opening d now (.endCallback strand true)
        ({ d with strands := d.strands.filter fun t => t.id ≠ strand }.breakOff s.ending) .done
  | noStrand {strand brokeOff}
      (missing : d.strands.find? (fun s => s.id = strand) = none) :
      Opening d now (.endCallback strand brokeOff) d .done
  | ran {place x} (found : d.posted[place]? = some x) :
      Opening d now (.runPosted place)
        ({ d with posted := d.posted.eraseIdx place }.openCallback x [] .nothing) .done
  | nonePosted {place} (missing : d.posted[place]? = none) :
      Opening d now (.runPosted place) d .done

theorem listeners_of_futures {d d' : Dispatcher κ} (h : d'.futures = d.futures)
    (future : Option Nat) (result : CommandResult) :
    d'.listeners future result = d.listeners future result := by
  cases future with
  | none => rfl
  | some n => simp only [listeners, resolve, Dispatcher.future, h]

theorem ticket_of_found {d : Dispatcher κ} {ticket : Nat} {e : Execution κ}
    (he : d.executions.find? (fun e => e.job.submission.ticket = ticket) = some e) :
    e.job.submission.ticket = ticket := by
  simpa using List.find?_some he

theorem submitSilent_of_opening {d d' : Dispatcher κ} {t : Task κ} {now : Moment} {c : Command κ}
    (ho : Opening d now (.submitSilent c) d' t) : (d.submitSilent c now).2 = d'.perform t := by
  rcases hg : d.results.get c.key now with ⟨cached, results⟩
  cases ho with
  | answered hs hc =>
    rw [hg] at hc
    obtain rfl : cached = _ := hc
    simp only [submitSilent, hs, if_true, enroll, count, note, hg]
    simp only [consulted, hg]
    rfl
  | joined hs hc hl hv =>
    rw [hg] at hc
    obtain rfl : cached = none := hc
    simp only [submitSilent, hs, if_true, enroll, count, note, hg, hl, attach, Dispatcher.future,
      Future.whenComplete] at hv ⊢
    simp only [hv]
    simp only [consulted, hg]
    rfl
  | joinedLate hs hc hl hv =>
    rw [hg] at hc
    obtain rfl : cached = none := hc
    simp only [submitSilent, hs, if_true, enroll, count, note, hg, hl, attach, Dispatcher.future,
      Future.whenComplete] at hv ⊢
    simp only [hv]
    simp only [consulted, hg]
    rfl
  | launched hs hc hl =>
    rw [hg] at hc
    obtain rfl : cached = none := hc
    simp only [submitSilent, hs, if_true, enroll, count, note, hg, hl]
    simp only [consulted, hg]
    rfl
  | alone hs =>
    simp only [submitSilent, hs]
    rfl

theorem exists_opening_submitSilent (d : Dispatcher κ) (now : Moment) (c : Command κ) :
    ∃ d' t, Opening d now (.submitSilent c) d' t := by
  by_cases hs : c.isShareable = true
  · rcases hc : (d.results.get c.key now).1 with _ | result
    · rcases hl : d.inFlight.lookup c.key with _ | n
      · exact ⟨_, _, .launched hs hc hl⟩
      · rcases hv : (d.future n).value with _ | result
        · exact ⟨_, _, .joined hs hc hl hv⟩
        · exact ⟨_, _, .joinedLate hs hc hl hv⟩
    · exact ⟨_, _, .answered hs hc⟩
  · exact ⟨_, _, .alone (by simpa using hs)⟩

theorem finishJob_eq {d : Dispatcher κ} {e : Execution κ}
    (he : d.executions.find? (fun e' => e'.job.submission.ticket = e.job.submission.ticket) =
      some e)
    (outcome : Outcome) (now : Moment) : d.finishJob e.job.submission.ticket outcome now =
      (d.executed e (resultOf e outcome) now).deliver
          (d.listeners e.job.future (resultOf e outcome) ++
            [⟨e.job.submission, resultOf e outcome⟩])
          (.freeWorker e.lane e.pool e.job.submission.ticket) := by
  have hf : ((d.retired e).keepResult e.job.key (resultOf e outcome) now).futures = d.futures := by
    rw [keepResult_eq]; rfl
  rw [← listeners_of_futures hf]
  simp only [finishJob, he]
  rcases hsession : e.session with _ | session <;> simp only [executed, retired, hsession] <;> rfl

theorem finishJob_opening (d : Dispatcher κ) (now : Moment) (ticket : Nat) (outcome : Outcome) :
    ∃ d' t, Opening d now (.finishJob ticket outcome) d' t ∧
      d.finishJob ticket outcome now = d'.perform t := by
  rcases he : d.executions.find? (fun e => e.job.submission.ticket = ticket) with _ | e
  · exact ⟨_, _, .unfinished he, by simp only [finishJob, he]; rfl⟩
  · obtain rfl := ticket_of_found he
    exact ⟨_, _, .finished he, finishJob_eq he outcome now⟩

/-- **A step is an opening** and what is left to do after it. -/
theorem step_opening (d : Dispatcher κ) (now : Moment) (i : Input κ) :
    ∃ d' t, Opening d now i d' t ∧ d.step now i = d'.perform t := by
  cases i with
  | submitSilent c =>
    obtain ⟨d', t, ho⟩ := exists_opening_submitSilent d now c
    exact ⟨d', t, ho, submitSilent_of_opening ho⟩
  | submitAndForget c => exact ⟨_, _, .forgotten, rfl⟩
  | beginInteractive c => exact ⟨_, _, .begun, rfl⟩
  | completeInteractive k => exact ⟨_, _, .continuation, rfl⟩
  | stopSilent => exact ⟨_, _, .stopped, rfl⟩
  | resetSilent => exact ⟨_, _, .reset, rfl⟩
  | shutdown => exact ⟨_, _, .shutDown, rfl⟩
  | clearResults => exact ⟨_, _, .cleared, rfl⟩
  | goOn place =>
    rcases hc : d.continued[place]? with _ | call
    · exact ⟨_, _, .waits, by simp only [step, goOn, hc]; rfl⟩
    · by_cases hm : d.mayGoOn call = true
      · cases call with
        | closeSilent after => exact ⟨_, _, .closed hc, by simp only [step, goOn, hc, hm]; rfl⟩
        | reopenSilent after => exact ⟨_, _, .reopened hc, by simp only [step, goOn, hc, hm]; rfl⟩
      · exact ⟨_, _, .waits, by simp only [step, goOn, hc, hm]; rfl⟩
  | startJob lane pool =>
    rcases hs : (d.lane lane).start? pool with _ | ⟨job, l⟩
    · exact ⟨_, _, .idle hs, by simp only [step, startJob?, hs]; rfl⟩
    · cases lane with
      | silent => exact ⟨_, _, .startedSilent hs, by simp only [step, startJob?, hs]; rfl⟩
      | interactive => exact ⟨_, _, .startedInteractive hs, by simp only [step, startJob?, hs]; rfl⟩
  | finishJob ticket outcome => exact finishJob_opening d now ticket outcome
  | expireSession session => exact ⟨_, _, .expired, rfl⟩
  | endCallback strand brokeOff =>
    rcases hs : d.strands.find? (fun s => s.id = strand) with _ | s
    · exact ⟨_, _, .noStrand hs, by simp only [step, endCallback, hs]; rfl⟩
    · cases brokeOff with
      | true => exact ⟨_, _, .broke hs, by simp only [step, endCallback, hs]; rfl⟩
      | false => exact ⟨_, _, .ended hs, by simp only [step, endCallback, hs]; rfl⟩
  | runPosted place =>
    rcases hx : d.posted[place]? with _ | x
    · exact ⟨_, _, .nonePosted hx, by simp only [step, runPosted, hx]; rfl⟩
    · exact ⟨_, _, .ran hx, by simp only [step, runPosted, hx]; rfl⟩

/-- An opening is that of its step; a call that goes on or waits is told apart by where it stands
only. -/
theorem step_of_opening {d d' : Dispatcher κ} {t : Task κ} {now : Moment} {i : Input κ}
    (ho : Opening d now i d' t) (hi : ∀ place, i ≠ .goOn place) : d.step now i = d'.perform t := by
  cases ho with
  | answered hs hc => exact submitSilent_of_opening (.answered hs hc)
  | joined hs hc hl hv => exact submitSilent_of_opening (.joined hs hc hl hv)
  | joinedLate hs hc hl hv => exact submitSilent_of_opening (.joinedLate hs hc hl hv)
  | launched hs hc hl => exact submitSilent_of_opening (.launched hs hc hl)
  | alone hs => exact submitSilent_of_opening (.alone hs)
  | closed | reopened | waits => exact absurd rfl (hi _)
  | startedSilent taken =>
    simp only [step, startJob?, lane, taken]
    rfl
  | startedInteractive taken =>
    simp only [step, startJob?, lane, taken]
    rfl
  | idle none =>
    simp only [step, startJob?, none]
    rfl
  | finished found =>
    obtain rfl := ticket_of_found found
    exact finishJob_eq found _ now
  | unfinished missing =>
    simp only [step, finishJob, missing]
    rfl
  | ended found | broke found =>
    simp only [step, endCallback, found]
    rfl
  | noStrand missing =>
    simp only [step, endCallback, missing]
    rfl
  | ran found =>
    simp only [step, runPosted, found]
    rfl
  | nonePosted missing =>
    simp only [step, runPosted, missing]
    rfl
  | _ => rfl

/-- What every opening and every move keep is kept by a step. -/
theorem step_keeps {I : Dispatcher κ → Task κ → Prop} {d : Dispatcher κ} {now : Moment}
    {i : Input κ} (hopen : ∀ {d' t}, Opening d now i d' t → I d .done → I d' t)
    (hmove : ∀ {d t d' t'}, Move d t d' t' → I d t → I d' t') (h : I d .done) :
    I (d.step now i) .done := by
  obtain ⟨d', t, ho, he⟩ := step_opening d now i
  rw [he]
  exact perform_keeps hmove (hopen ho h)

/-! ### Runs -/

theorem run_append (d : Dispatcher κ) (xs ys : List (Moment × Input κ)) :
    d.run (xs ++ ys) = (d.run xs).run ys := by
  simp [run, List.foldl_append]

theorem run_concat (d : Dispatcher κ) (xs : List (Moment × Input κ)) (now : Moment)
    (i : Input κ) : d.run (xs ++ [(now, i)]) = (d.run xs).step now i := by
  simp [run, List.foldl_append]

/-- What holds at the start and is kept by each further step holds of every run. -/
theorem run_induction {P : List (Moment × Input κ) → Prop} (start : P [])
    (further : ∀ inputs now i, P inputs → P (inputs ++ [(now, i)])) :
    ∀ inputs, P inputs := by
  have hall : ∀ after before, P before → P (before ++ after) := by
    intro after
    induction after with
    | nil => intro before h; simpa using h
    | cons i after ih =>
      intro before h
      rw [List.append_cons]
      exact ih _ (further before i.1 i.2 h)
  intro inputs
  simpa using hall inputs [] start

/-- What a run adds to a history, each step the part that `f` tells of it. -/
def chronicle {α : Type} (f : Dispatcher κ → Moment → Input κ → List α) :
    Dispatcher κ → List (Moment × Input κ) → List α
  | _, [] => []
  | d, (now, i) :: inputs => f d now i ++ chronicle f (d.step now i) inputs

theorem chronicle_append {α : Type} (f : Dispatcher κ → Moment → Input κ → List α) :
    ∀ (d : Dispatcher κ) (xs ys : List (Moment × Input κ)),
      chronicle f d (xs ++ ys) = chronicle f d xs ++ chronicle f (d.run xs) ys
  | _, [], _ => rfl
  | d, (now, i) :: xs, ys => by
    simp only [List.cons_append, chronicle, chronicle_append f (d.step now i) xs ys,
      List.append_assoc]
    rfl

theorem chronicle_concat {α : Type} (f : Dispatcher κ → Moment → Input κ → List α)
    (d : Dispatcher κ) (xs : List (Moment × Input κ)) (now : Moment) (i : Input κ) :
    chronicle f d (xs ++ [(now, i)]) = chronicle f d xs ++ f (d.run xs) now i := by
  simp [chronicle_append, chronicle]

theorem mem_chronicle {α : Type} {f : Dispatcher κ → Moment → Input κ → List α} {x : α} :
    ∀ {inputs : List (Moment × Input κ)} {d : Dispatcher κ}, x ∈ chronicle f d inputs →
      ∃ before now i after, inputs = before ++ (now, i) :: after ∧ x ∈ f (d.run before) now i
  | [], _, h => by cases h
  | (now, i) :: inputs, d, h => by
    rcases List.mem_append.mp h with h | h
    · exact ⟨[], now, i, inputs, rfl, h⟩
    · obtain ⟨before, now', i', after, rfl, hx⟩ := mem_chronicle h
      exact ⟨(now, i) :: before, now', i', after, rfl, hx⟩

theorem chronicle_eq_nil {α : Type} {f : Dispatcher κ → Moment → Input κ → List α} :
    ∀ {inputs : List (Moment × Input κ)} (_ : ∀ i ∈ inputs, ∀ d, f d i.1 i.2 = [])
      (d : Dispatcher κ), chronicle f d inputs = []
  | [], _, _ => rfl
  | (now, i) :: inputs, h, d => by
    rw [chronicle, h (now, i) (by simp), chronicle_eq_nil (fun j hj => h j (by simp [hj]))]
    rfl

/-- What every opening and every move keep is kept by a run. -/
theorem run_keeps {I : Dispatcher κ → Task κ → Prop}
    (hopen : ∀ {d now i d' t}, Opening d now i d' t → I d .done → I d' t)
    (hmove : ∀ {d t d' t'}, Move d t d' t' → I d t → I d' t') :
    ∀ (inputs : List (Moment × Input κ)) (d : Dispatcher κ), I d .done → I (d.run inputs) .done
  | [], _, h => h
  | (now, i) :: inputs, d, h =>
    run_keeps hopen hmove inputs (d.step now i) (step_keeps hopen hmove h)

end Dispatcher

end SignOn
