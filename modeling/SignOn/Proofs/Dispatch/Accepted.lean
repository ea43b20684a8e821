import SignOn.Proofs.Dispatch.Answer
import SignOn.Proofs.Dispatch.BrokenOff

/-! # Jobs that were accepted

A job that a lane has accepted is there until its execution has ended (`job_stays`), and a future
keeps its first value (`value_run`). So whatever happens later, stopping the lane included, the job
comes to its end with the result of its own execution (`honored_of_job`), and as long as it waits a
worker of its pool can take it or all of them are busy (`Lane.start_of_waiting`). -/

namespace SignOn

variable {κ : Type}

/-- A job that was there after the first steps of a run: it is there still or was executed since,
and its future has the result of that execution. Nothing else is told or comes to be the value of
its future. Where all is settled it was executed, and if no callback broke off its command was told
so. -/
structure Honored (start : Dispatcher κ) (before since : List (Moment × Input κ)) (j : Job κ) :
    Prop where
  kept : j ∈ (start.run (before ++ since)).jobs ∨
    ∃ x ∈ Dispatcher.chronicle Dispatcher.endedBy (start.run before) since, x.execution.job = j ∧
      ∀ n, j.future = some n → ((start.run (before ++ since)).future n).value = some x.result
  tells : (start.run (before ++ since)).TellsOnly j.submission.ticket j.future fun r =>
    ∃ x ∈ Dispatcher.chronicle Dispatcher.endedBy (start.run before) since,
      x.execution.job = j ∧ r = x.result
  executed : (start.run (before ++ since)).IsSettled →
    ∃ x ∈ Dispatcher.chronicle Dispatcher.endedBy (start.run before) since, x.execution.job = j
  told : (∀ i ∈ before ++ since, i.2.IsCalm) → (start.run (before ++ since)).IsSettled →
    ∃ x ∈ Dispatcher.chronicle Dispatcher.endedBy (start.run before) since, x.execution.job = j ∧
      .called j.submission.ticket j.submission.command.correlationId
        (x.result.attributedTo j.submission.command.correlationId).status
          ∈ (start.run (before ++ since)).journal

namespace Dispatcher

variable {d d' : Dispatcher κ} {t t' : Task κ} {now : Moment} {i : Input κ} {j : Job κ}

/-! ### Jobs stay -/

theorem jobs_le_of_move (hm : Move d t d' t') : d.jobs ≤ d'.jobs := by
  cases hm with
  | queue accepted =>
    rw [jobs_withLane (Lane.waiting_submit accepted)]
    exact Multiset.le_cons_self _ _
  | reject | post | call => exact le_refl _
  | free => exact (jobs_freeWorker _ _ _ _).symm.le
  | settle => rw [settle_eq]; exact le_refl _

/-- **A job stays** until its execution has ended. -/
theorem job_stays (hd : d.Numbered) (hn : (d.executions.map fun e => e.job.submission.ticket).Nodup)
    (hj : j ∈ d.jobs) (now : Moment) (i : Input κ) :
    j ∈ (d.step now i).jobs ∨ ∃ x ∈ d.endedBy now i, x.execution.job = j := by
  obtain ⟨d', t, ho, he⟩ := step_opening d now i
  rw [jobs_of_opening ho hd hn] at hj
  rcases Multiset.mem_add.mp hj with hended | hstays
  · exact .inr (List.mem_map.mp (Multiset.mem_coe.mp hended))
  · have hle : d'.jobs ≤ (d'.perform t).jobs :=
      perform_keeps (I := fun d'' _ => d'.jobs ≤ d''.jobs)
        (fun hm h => h.trans (jobs_le_of_move hm)) (le_refl _)
    rw [he]
    exact .inl (Multiset.mem_of_le hle hstays)

/-! ### Futures keep their value -/

variable {n : Nat} {r : CommandResult}

theorem lt_of_value (hv : (d.future n).value = some r) : n < d.futures.length := by
  by_contra hge
  rw [(listeners_future_of_le (not_lt.mp hge)).2] at hv
  cases hv

theorem value_append (hv : (d.future n).value = some r)
    {more : List (Future CommandResult (Submission κ))} (hf : d'.futures = d.futures ++ more) :
    (d'.future n).value = some r := by
  rw [future, hf, List.getElem?_append_left (lt_of_value hv)]
  exact hv

theorem value_set (hv : (d.future n).value = some r) {m : Nat}
    {f : Future CommandResult (Submission κ)} (hf : d'.futures = d.futures.set m f)
    (hkept : (d.future m).value = some r → f.value = some r) : (d'.future n).value = some r := by
  by_cases hnm : n = m
  · subst hnm
    rw [future_set_self hf (lt_of_value hv)]
    exact hkept hv
  · rw [future_set_of_ne hf hnm]
    exact hv

theorem value_resolved (hv : (d.future n).value = some r) {future : Option Nat}
    {result : CommandResult} (hf : d'.futures = (d.resolve future result).2.futures) :
    (d'.future n).value = some r := by
  cases future with
  | none => rwa [future_congr hf]
  | some m =>
    refine value_set hv (f := ((d.future m).set result).2.2) hf fun hm => ?_
    rw [Future.set, hm]
    exact hm

theorem value_move (hm : Move d t d' t') (hv : (d.future n).value = some r) :
    (d'.future n).value = some r := by
  cases hm with
  | queue => rw [withLane_eq]; exact hv
  | free => rw [freeWorker_eq]; exact hv
  | settle => exact value_resolved hv (by rw [settle_eq])
  | reject | post | call => exact hv

theorem value_opening (ho : Opening d now i d' t) (hv : (d.future n).value = some r) :
    (d'.future n).value = some r := by
  cases ho with
  | answered | launched | alone => exact value_append hv rfl
  | joined => exact value_set hv rfl id
  | finished => exact value_resolved hv (by rw [executed_eq])
  | begun => rw [makeWay_eq]; exact hv
  | broke => rw [breakOff_eq]; exact hv
  | _ => exact hv

/-- **A future keeps its value.** -/
theorem value_run (inputs : List (Moment × Input κ)) (hv : (d.future n).value = some r) :
    ((d.run inputs).future n).value = some r :=
  run_keeps (I := fun d _ => (d.future n).value = some r) (fun ho h => value_opening ho h)
    (fun hm h => value_move hm h) inputs d hv

/-- An execution that ends sets the future of its job. -/
theorem value_of_ended {lost : Multiset Claim} (hflight : Flight lost d .done) {x : Ended κ}
    (hx : x ∈ d.endedBy now i) (hn : x.execution.job.future = some n) :
    ((d.step now i).future n).value = some x.result := by
  obtain ⟨ticket, outcome, rfl, hresult, -, found⟩ := endedBy_cases hx
  have hu : x.execution.job ∈ d.unfinished .done :=
    Multiset.mem_add.mpr (.inl (mem_jobs_of_execution (List.mem_of_find?_eq_some found)))
  obtain ⟨hlt, hunset⟩ := hflight.unset (mem_openFutures_of_job hu hn)
  have hset : ((d.executed x.execution (resultOf x.execution outcome) now).future n).value
      = some x.result := by
    have hfutures : (d.executed x.execution (resultOf x.execution outcome) now).futures
        = (d.resolve (some n) (resultOf x.execution outcome)).2.futures := by
      rw [executed_eq, hn]
    rw [future_congr hfutures, value_resolve hlt hunset, if_pos rfl, hresult]
  rw [step_of_opening (.finished found) (by simp)]
  exact perform_keeps (I := fun d' _ => (d'.future n).value = some x.result)
    (fun hm h => value_move hm h) hset

/-! ### In every run -/

section Reached

variable (settings : Settings) (poster : Poster) (registry : Option Registry)

theorem job_kept :
    ∀ (since : List (Moment × Input κ)) {before : List (Moment × Input κ)} {j : Job κ},
      j ∈ ((ofSettings settings poster registry : Dispatcher κ).run before).jobs →
      j ∈ ((ofSettings settings poster registry).run (before ++ since)).jobs ∨
        ∃ x ∈ chronicle endedBy ((ofSettings settings poster registry).run before) since,
          x.execution.job = j ∧ ∀ n, j.future = some n →
            (((ofSettings settings poster registry).run (before ++ since)).future n).value =
              some x.result
  | [], before, j, hj => by rw [List.append_nil]; exact .inl hj
  | (now, i) :: since, before, j, hj => by
    have hd := numbered_reached (κ := κ) settings poster registry before
    have hn := executions_nodup_reached (κ := κ) settings poster registry before
    have hflight := flight_reached (κ := κ) settings poster registry before
    rw [List.append_cons]
    rcases job_stays hd hn hj now i with hstays | ⟨x, hx, rfl⟩
    · rw [← run_concat] at hstays
      rcases job_kept since hstays with hkept | ⟨x, hx, hjob, hvalue⟩
      · exact .inl hkept
      · rw [run_concat] at hx
        exact .inr ⟨x, List.mem_append_right _ hx, hjob, hvalue⟩
    · refine .inr ⟨x, List.mem_append_left _ hx, rfl, fun n hfuture => ?_⟩
      rw [run_append, run_concat]
      exact value_run since (value_of_ended hflight hx hfuture)

/-- **A job that was accepted is honored**, however the run goes on. -/
theorem honored_of_job {before : List (Moment × Input κ)} {j : Job κ}
    (hj : j ∈ ((ofSettings settings poster registry : Dispatcher κ).run before).jobs)
    (since : List (Moment × Input κ)) :
    Honored (ofSettings settings poster registry) before since j := by
  obtain ⟨through, hledger⟩ := ledger_reached (κ := κ) settings poster registry before
  have hkept := job_kept settings poster registry since hj
  have htells := ((answers_of_job (fun r => ∃ x ∈ chronicle endedBy ((ofSettings settings poster
      registry : Dispatcher κ).run before) since, x.execution.job = j ∧ r = x.result) hledger
    (flight_reached settings poster registry before) hj).run settings poster registry since
      fun x hx hjob => ⟨x, hx, hjob, rfl⟩).tellsOnly
  refine ⟨hkept, htells, fun hsettled => ?_, fun hcalm hsettled => ?_⟩
  · rcases hkept with hstays | ⟨x, hx, hjob, -⟩
    · rw [hsettled.jobs_eq (staffed_reached settings poster registry _)] at hstays
      exact absurd hstays (Multiset.notMem_zero _)
    · exact ⟨x, hx, hjob⟩
  · have hin : j.submission ∈
        chronicle handedIn (ofSettings settings poster registry) (before ++ since) := by
      have hphase := hledger.mem_of_phases (waiting_mem_phases hj)
      have hsubmission :
          j.submission ∈ chronicle handedIn (ofSettings settings poster registry) before := by
        rw [← Multiset.mem_coe, ← hledger.accounted.complete]
        exact Multiset.mem_map_of_mem _ hphase
      rw [chronicle_append]
      exact List.mem_append_left _ hsubmission
    obtain ⟨status, hcalled⟩ :=
      called_of_served (served_of_settled settings poster registry hcalm hsettled _ hin)
    obtain ⟨r, ⟨x, hx, hjob, rfl⟩, rfl⟩ := htells.1 _ _ hcalled
    exact ⟨x, hx, hjob, hcalled⟩

end Reached

end Dispatcher

end SignOn
