import SignOn.Proofs.Dispatch.Accepted
import SignOn.Proofs.Dispatch.FreshLane
import SignOn.Proofs.Dispatch.Refusal
import SignOn.Proofs.Dispatch.Reuse

/-! # A stopped silent lane

A silent lane that was stopped stays so until somebody asks to start it anew (`IsStopped`). Until
then it turns away every command that is to be executed. A command that shares a stored result or an
execution under way does not come as far as the lane, and is answered with that
(`stopped_lane_rejects`). -/

namespace SignOn

variable {κ : Type}

/-- Who shares is answered with a stored result, with that of an execution under way, or with a
rejection that is being told under its key. -/
theorem Answer.of_shares {start : Dispatcher κ} {o : Occasion κ} {s : Submission κ} {c : Command κ}
    {r : CommandResult} (h : Answer start o s r) (input : o.input = .submitSilent c)
    (shared : (o.state start).shares o.now o.input = true) :
    (∃ cached, ((o.state start).results.get c.key o.now).1 = some cached ∧
      r = cached.attributedTo c.correlationId) ∨
    (∃ x ∈ o.endedSince start, r = x.result ∧ x.execution.job ∈ (o.state start).jobs ∧
      x.execution.job.key = some c.key) ∨
    ∃ s' ∈ Dispatcher.chronicle Dispatcher.refusedBy start o.before, s'.command.key = c.key ∧
      (∃ x ∈ (o.state start).strands, x.ending.key = some c.key) ∧ r = Dispatcher.rejected s' := by
  cases h with
  | cached input' _ hit =>
    obtain rfl := Input.submitSilent.inj (input.symm.trans input')
    exact .inl ⟨_, hit, rfl⟩
  | joined input' _ _ _ ended underWay key =>
    obtain rfl := Input.submitSilent.inj (input.symm.trans input')
    exact .inr (.inl ⟨_, ended, rfl, underWay, key⟩)
  | refusal input' _ _ _ refused key telling ending =>
    obtain rfl := Input.submitSilent.inj (input.symm.trans input')
    exact .inr (.inr ⟨_, refused, key, ⟨_, telling, ending⟩, rfl⟩)
  | own alone | refused alone =>
    rw [shared] at alone
    cases alone

namespace Lane

variable {α : Type} {l l' : Lane α}

theorem new_submit {j : α} (h : l.submit? j = some l') :
    (new l'.kind l'.workers : Lane α) = new l.kind l.workers := by
  unfold submit? at h
  split at h
  · obtain rfl := Option.some.inj h
    rfl
  · cases h

theorem new_start {n : Nat} {j : α} (h : l.start? n = some (j, l')) :
    (new l'.kind l'.workers : Lane α) = new l.kind l.workers := by
  obtain ⟨rest, running, -, -, rfl⟩ := start?_eq_some h
  rfl

end Lane

namespace Dispatcher

variable {d d' : Dispatcher κ} {t t' : Task κ} {now : Moment} {i : Input κ}

/-! ### Stopping -/

/-- A step stops the silent lane: because that is asked for, or because a shutdown has come as
far. -/
inductive Stops (d : Dispatcher κ) : Input κ → Prop
  | asked : Stops d .stopSilent
  | shutDown {place after} (call : d.continued[place]? = some (.closeSilent after))
      (drained : d.mayGoOn (.closeSilent after) = true) : Stops d (.goOn place)

/-- The silent lane takes no commands, and no call is going to start it anew. -/
structure IsStopped (d : Dispatcher κ) : Prop where
  closed : d.silent.accepting = false
  final : ∀ pool, .reopenSilent pool ∉ d.continued

theorem Stops.isStopped (h : d.Stops i) (hfinal : ∀ pool, .reopenSilent pool ∉ d.continued)
    (now : Moment) : (d.step now i).IsStopped := by
  cases h with
  | asked => exact ⟨rfl, hfinal⟩
  | shutDown call drained =>
    simp only [step, goOn, call, drained, if_true]
    exact ⟨rfl, fun pool hmem => hfinal pool (List.mem_of_mem_eraseIdx hmem)⟩

theorem IsStopped.move (hm : Move d t d' t') (h : d.IsStopped) : d'.IsStopped := by
  cases hm with
  | @queue j l accepted =>
    cases hk : j.submission.lane with
    | interactive => exact ⟨h.closed, h.final⟩
    | silent =>
      rw [hk] at accepted
      have hnone : d.silent.submit? j = none := by
        rw [Lane.submit?, h.closed]
      cases hnone.symm.trans accepted
  | @free kind => cases kind <;> exact ⟨h.closed, h.final⟩
  | settle => rw [settle_eq]; exact ⟨h.closed, h.final⟩
  | reject | post | call => exact ⟨h.closed, h.final⟩

theorem IsStopped.opening (ho : Opening d now i d' t) (hi : i ≠ .resetSilent) (h : d.IsStopped) :
    d'.IsStopped := by
  cases ho with
  | reset => exact absurd rfl hi
  | reopened call => exact absurd (List.mem_of_getElem? call) (h.final _)
  | closed => exact ⟨rfl, fun pool hmem => h.final pool (List.mem_of_mem_eraseIdx hmem)⟩
  | stopped => exact ⟨rfl, h.final⟩
  | shutDown =>
    refine ⟨h.closed, fun pool hmem => ?_⟩
    rcases List.mem_append.mp hmem with hmem | hmem
    · exact h.final pool hmem
    · cases List.mem_singleton.mp hmem
  | startedSilent taken =>
    obtain ⟨rest, running, -, -, rfl⟩ := Lane.start?_eq_some taken
    exact ⟨h.closed, h.final⟩
  | finished => rw [executed_eq]; exact ⟨h.closed, h.final⟩
  | begun => rw [makeWay_eq]; exact ⟨h.closed, h.final⟩
  | @broke strand s =>
    cases hending : s.ending with
    | freeWorker kind => cases kind <;> exact ⟨h.closed, h.final⟩
    | nothing | settle => exact ⟨h.closed, h.final⟩
  | _ => exact ⟨h.closed, h.final⟩

/-- **A stopped lane stays stopped** until it is asked to be started anew. -/
theorem IsStopped.run : ∀ {inputs : List (Moment × Input κ)} {d : Dispatcher κ}, d.IsStopped →
    (∀ i ∈ inputs, i.2 ≠ .resetSilent) → (d.run inputs).IsStopped
  | [], _, h, _ => h
  | (now, i) :: inputs, d, h, hi => by
    have hstep : (d.step now i).IsStopped :=
      step_keeps (I := fun d _ => d.IsStopped)
        (fun ho h => h.opening ho (hi _ (List.mem_cons_self ..)))
        (fun hm h => h.move hm) h
    exact hstep.run fun j hj => hi j (List.mem_cons_of_mem _ hj)

/-! ### Starting anew -/

theorem new_silent_move (hm : Move d t d' t') :
    (.new d'.silent.kind d'.silent.workers : Lane (Job κ)) =
      .new d.silent.kind d.silent.workers := by
  cases hm with
  | @queue j l accepted =>
    cases hk : j.submission.lane with
    | interactive => rfl
    | silent =>
      rw [hk] at accepted
      exact Lane.new_submit accepted
  | @free kind => cases kind <;> rfl
  | settle => rw [settle_eq]
  | reject | post | call => rfl

theorem new_silent_opening (ho : Opening d now i d' t) :
    (.new d'.silent.kind d'.silent.workers : Lane (Job κ)) =
      .new d.silent.kind d.silent.workers := by
  cases ho with
  | startedSilent taken => exact Lane.new_start taken
  | finished => rw [executed_eq]; rfl
  | begun => rw [makeWay_eq]; rfl
  | @broke strand s =>
    cases hending : s.ending with
    | freeWorker kind => cases kind <;> rfl
    | nothing | settle => rfl
  | _ => rfl

/-- A new lane of the kind is the one that the dispatcher had at first. -/
theorem new_silent_run (settings : Settings) (poster : Poster) (registry : Option Registry)
    (inputs : List (Moment × Input κ)) :
    (.new ((ofSettings settings poster registry : Dispatcher κ).run inputs).silent.kind
        ((ofSettings settings poster registry : Dispatcher κ).run inputs).silent.workers :
        Lane (Job κ))
      = (ofSettings settings poster registry).silent :=
  run_keeps (I := fun d _ => (.new d.silent.kind d.silent.workers : Lane (Job κ))
      = (ofSettings settings poster registry).silent)
    (fun ho h => (new_silent_opening ho).trans h) (fun hm h => (new_silent_move hm).trans h)
    inputs _ rfl

theorem exists_of_shares (h : d.shares now i = true) : ∃ c, i = .submitSilent c := by
  cases i with
  | submitSilent c => exact ⟨c, rfl⟩
  | _ => cases h

/-! ### A call that waits -/

/-- **A call that waits** hands the command in and ends with what its future is set to, or too
late. -/
theorem submitSilentSync_ends {σ : Type} (place : Place σ (Dispatcher κ)) (clock : σ → Clock)
    (c : Command κ) : ∃ rest : σ → Work σ (Except Failure CommandOutput),
      submitSilentSync place clock c = (Work.look fun s =>
        .put (place.modify (fun d => d.step (clock s).now (.submitSilent c)) s) (rest s)) ∧
      ∀ s, (rest s).Watches ∧ (rest s).EndsIn fun a => a = .error lateResult ∨
        ∃ s' r, ((place.get s').future ((place.get s).submitSilent c (clock s).now).1).value =
          some r ∧
          a = (r.attributedTo c.correlationId).toExcept := by
  refine ⟨_, rfl, fun s => ⟨.wait _ _ fun s' _ => ?_, .wait _ _ fun s' _ => ?_⟩⟩
  · dsimp only
    split
    · exact .broken _
    · refine .wait _ _ fun s'' _ => ?_
      split <;> exact .ended _
  · dsimp only
    split
    · exact .broken _
    · refine .wait _ _ fun s'' _ => ?_
      split
      · rename_i r hr
        exact .ended (.inr ⟨s'', r, hr, rfl⟩)
      · exact .ended (.inl rfl)

/-! ### In every run -/

section Reached

variable (settings : Settings) (poster : Poster) (registry : Option Registry)

/-- **A stopped silent lane turns away** every command that shares neither a stored result nor an
execution under way, from when it was stopped until it is asked to be started anew; the cache and
the in-flight map stay as they were. A command that shares is answered with what it shares. Jobs
that were accepted before are worked off, and a lane that was started anew, once its older pools are
worked off, is as good as the one at first. -/
theorem stopped_lane_rejects :
    let start : Dispatcher κ := ofSettings settings poster registry
    (∀ before m stop middle (o : Occasion κ), o.before = before ++ (m, stop) :: middle →
      (start.run before).Stops stop → (∀ pool, .reopenSilent pool ∉ (start.run before).continued) →
      (∀ i ∈ middle, i.2 ≠ .resetSilent) → ∀ s ∈ o.handedIn start, s.lane = .silent →
        (o.state start).silent.accepting = false ∧
        ((o.state start).shares o.now o.input = false → TurnedAway start o s ∧
          LeavesShared start o s) ∧
        ((o.state start).shares o.now o.input = true → ∃ c, o.input = .submitSilent c ∧
          (start.run o.inputs).TellsOnly s.ticket ((o.state start).futureFor o.now o.input) fun r =>
            (∃ cached, ((o.state start).results.get c.key o.now).1 = some cached ∧
              r = cached.attributedTo c.correlationId) ∨
            (∃ x ∈ o.endedSince start, r = x.result ∧ x.execution.job ∈ (o.state start).jobs ∧
              x.execution.job.key = some c.key) ∨
            ∃ s' ∈ chronicle refusedBy start o.before, s'.command.key = c.key ∧
              (∃ x ∈ (o.state start).strands, x.ending.key = some c.key) ∧ r = rejected s')) ∧
    (rejection .silent = .plain Code.executorShutdown "The silent lane is not accepting commands." ∧
      ∀ (s : Submission κ) correlationId,
        ((rejected s).attributedTo correlationId).toExcept = .error (rejection s.lane)) ∧
    (∀ {σ : Type} (place : Place σ (Dispatcher κ)) (clock : σ → Clock) (c : Command κ),
      ∃ rest : σ → Work σ (Except Failure CommandOutput),
        submitSilentSync place clock c = (Work.look fun s =>
          .put (place.modify (fun d => d.step (clock s).now (.submitSilent c)) s) (rest s)) ∧
        ∀ s, (rest s).Watches ∧ (rest s).EndsIn fun a => a = .error lateResult ∨
          ∃ s' r, ((place.get s').future ((place.get s).submitSilent c (clock s).now).1).value =
            some r ∧
            a = (r.attributedTo c.correlationId).toExcept) ∧
    (∀ before since, ∀ j ∈ (start.run before).jobs, Honored start before since j) ∧
    (∀ inputs, ∀ p ∈ (start.run inputs).silent.pools, p.queue ≠ [] →
      ((start.run inputs).silent.start? p.number).isSome ∨
        (start.run inputs).silent.poolSize ≤ p.running.length) ∧
    ∀ before place after now inputs,
      (start.run before).continued[place]? = some (.reopenSilent after) →
      (start.run before).silent.IsWorkedOff →
      (∀ pool, .reopenSilent pool ∉ (start.run before).continued.eraseIdx place) →
      ((start.run before).step now (.goOn place)).run
          (inputs.map fun i => (i.1, i.2.raised (start.run before).silent.formed))
        = ({ start.run before with
            continued := (start.run before).continued.eraseIdx place
            silent := start.silent }.run inputs).atop
          (start.run before).silent.pools (start.run before).silent.formed := by
  intro start
  refine ⟨fun before m stop middle o hbefore hstops hfinal hmiddle s hs hlane => ?_,
    ⟨rfl, fun _ _ => rfl⟩, fun place clock c => submitSilentSync_ends place clock c,
    fun before since j hj => honored_of_job settings poster registry hj since,
    fun inputs p hp hwaits =>
      Lane.start_of_waiting (numbered_reached settings poster registry inputs).silent hp hwaits,
    fun before place after now inputs hcall hidle hpending => ?_⟩
  · have hstopped : (o.state start).IsStopped := by
      unfold Occasion.state
      rw [hbefore, run_append]
      exact (hstops.isStopped hfinal m).run hmiddle
    have hclosed : ((o.state start).lane s.lane).accepting = false := by
      rw [hlane]
      exact hstopped.closed
    refine ⟨hstopped.closed,
      fun alone => ⟨turnedAway_of_closed settings poster registry hs alone hclosed,
        leavesShared_of_closed settings poster registry hs alone hclosed⟩, fun shared => ?_⟩
    obtain ⟨c, hc⟩ := exists_of_shares shared
    exact ⟨c, hc, (tellsOnly_reached settings poster registry o hs).mono fun r hr =>
      hr.of_shares hc shared⟩
  · rw [← new_silent_run settings poster registry before]
    exact run_startedAnew (numbered_reached settings poster registry before)
      (staffed_reached settings poster registry before) hcall hidle hpending now inputs

end Reached

theorem stopped_lane_rejects_turnedAwayRun :
    let start : Dispatcher Unit := ofSettings .standard .inline none
    let c := Sample.command .getDeviceMode "a"
    let o : Occasion Unit := ⟨[(Sample.second 0, .stopSilent)], Sample.second 1, .submitSilent c,
      [(Sample.second 1, .endCallback 0 false)]⟩
    let d := start.run o.inputs
    TurnedAway start o (start.next c .silent) ∧ LeavesShared start o (start.next c .silent) ∧
      (entriesOf d.journal 0).filter Entry.isCall = [.called 0 "a" (.failed (rejection .silent))] ∧
      (d.future 0).value = some (rejected (start.next c .silent)) ∧ d.inFlight = [] ∧
      ∃ fresh : Dispatcher Unit, fresh.silent = start.silent ∧
        start.run [(Sample.second 0, .resetSilent), (Sample.second 1, .goOn 0),
            (Sample.second 2, .submitSilent c), (Sample.second 3, .startJob .silent 1)]
          = (fresh.run [(Sample.second 2, .submitSilent c),
              (Sample.second 3, .startJob .silent 0)]).atop [⟨0, [], []⟩] 1 := by
  intro start c o d
  obtain ⟨hrejects, -, -, -, -, hanew⟩ := stopped_lane_rejects (κ := Unit) .standard .inline none
  obtain ⟨-, hturned, -⟩ := hrejects [] (Sample.second 0) .stopSilent [] o rfl .asked
    (by simp [ofSettings, run]) (by simp) (start.next c .silent) (List.mem_singleton_self _) rfl
  obtain ⟨haway, hleaves⟩ := hturned rfl
  have hcalm : ∀ i ∈ o.inputs, i.2.IsCalm := by simp [o, Occasion.inputs, Input.IsCalm]
  have hsettled : d.IsSettled := isSettled_of_isQuiet (by decide)
  obtain ⟨hcalls, hvalue⟩ := haway.settled hcalm hsettled
  refine ⟨haway, hleaves, hcalls, hvalue 0 (by decide), by decide, _, rfl, ?_⟩
  exact hanew [(Sample.second 0, .resetSilent)] 0 (some 0) (Sample.second 1)
    [(Sample.second 2, .submitSilent c), (Sample.second 3, .startJob .silent 0)] rfl
    (by intro p hp; obtain rfl := List.mem_singleton.mp hp; exact ⟨rfl, rfl⟩)
    (by simp [run, step, resetSilent, stopSilent, ofSettings])

/-- A command that is handed in after the lane was stopped is told a result that was stored
before. -/
theorem stopped_lane_answers_from_cache :
    let start : Dispatcher Unit := ofSettings .standard .inline none
    let before := Sample.servedRun (Sample.command .acquireSilent "a") (Sample.second 900)
    let stopped := start.run (before ++ [(Sample.second 3, .stopSilent)])
    let d := stopped.step (Sample.second 4) (.submitSilent (Sample.command .acquireSilent "b"))
    stopped.silent.accepting = false ∧ stopped.isQuiet = true ∧ d.stats.failed = 0 ∧
      .called 1 "b" (.completed (.token { Sample.issued with correlationId := some "b" })) ∈
        d.journal := by
  decide

end Dispatcher

end SignOn
