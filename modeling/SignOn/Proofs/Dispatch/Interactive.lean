import SignOn.Proofs.Dispatch.Slot

/-! # Interactive commands one at a time

What the order of the interactive lane and the ownership of the slot come to for those who use the
dispatcher: commands are executed one at a time in the order in which they began, the slot is held
by the session of the one that is executed and is free again when its callback is called, a command
that begins finds the session before it resolved, and a continuation reaches the session in the slot
and no other (`interactive_serialized`). -/

namespace SignOn

variable {κ : Type}

namespace Dispatcher

variable {d : Dispatcher κ}

/-- An interactive command that is done is told its result by a dispatcher whose slot is free. -/
def FreesSlotFirst (d : Dispatcher κ) : Prop :=
  ∀ now ticket outcome e,
    d.executions.find? (fun e => e.job.submission.ticket = ticket) = some e →
      e.lane = .interactive →
      ∃ d₁ : Dispatcher κ, d₁.registry.active = none ∧ d₁.journal = d.journal ∧
        d.step now (.finishJob ticket outcome) =
          d₁.deliver [⟨e.job.submission, resultOf e outcome⟩] (.freeWorker e.lane e.pool ticket)

/-- A command that begins is noted to cancel a session just if one holds the slot, and that session
is resolved before the job is given to the lane. -/
def CancelsBefore (d : Dispatcher κ) : Prop :=
  ∀ now c, ∃ d₁ : Dispatcher κ,
    d₁.interactive = d.interactive ∧
      d₁.journal = d.journal ++ (d.next c .interactive).startEntry ::
        (if d.registry.active.isSome then
          [.noted d.stats.submitted (.cancelBroadcast c.correlationId)] else []) ∧
      (∀ id, d.registry.active = some id →
        ∃ s, d₁.registry.session? id = some s ∧ s.isResolved = true) ∧
      d.step now (.beginInteractive c) = d₁.enqueue ⟨d.next c .interactive, none, none⟩

/-- A continuation is taken just if a session holds the slot that is not resolved; it then resolves
that session and no other, and else it changes nothing. -/
def ContinuesActive (d : Dispatcher κ) : Prop :=
  ∀ k, ((d.completeInteractive k).1 = true ↔
      ∃ id s, d.registry.active = some id ∧ d.registry.session? id = some s ∧
        s.isResolved = false) ∧
    (∀ id s, d.registry.active = some id → d.registry.session? id = some s → s.isResolved = false →
      (d.completeInteractive k).2.registry.session? id
          = some { s with signal := some (.completed k) } ∧
        ∀ id', id' ≠ id →
          (d.completeInteractive k).2.registry.session? id' = d.registry.session? id') ∧
    ((d.completeInteractive k).1 = false → (d.completeInteractive k).2 = d)

theorem Slot.freesSlotFirst (h : Slot d) (hf : Formed d .done)
    (hn : (d.executions.map fun e => e.job.submission.ticket).Nodup) : d.FreesSlotFirst := by
  intro now ticket outcome e he hlane
  obtain rfl := ticket_of_found he
  have hmem := List.mem_of_find?_eq_some he
  have hfuture : e.job.future = none := by
    have hj := mem_jobs_of_execution hmem
    exact (hf.jobs _ hj).unwatched ((hf.executions e hmem).lane_eq ▸ hlane)
  have hsession : e.session.isSome := (hf.executions e hmem).session.mpr hlane
  obtain ⟨d', t, ho, hstep⟩ := step_opening d now (.finishJob e.job.submission.ticket outcome)
  cases ho with
  | unfinished missing => rw [he] at missing; cases missing
  | @finished _ _ e' found =>
    obtain rfl : e' = e := Option.some.inj (found.symm.trans he)
    refine ⟨d.executed e' (resultOf e' outcome) now, ?_, ?_, hstep.trans ?_⟩
    · rw [executed_eq]
      exact (h.retire hn he).2 hsession
    · rw [executed_eq]
      rfl
    · rw [hfuture]
      rfl

theorem Slot.cancelsBefore (h : Slot d) : d.CancelsBefore := by
  intro now c
  have hactive : (d.enrolled c .interactive).registry.cancelActive.1 = d.registry.active.isSome :=
    (Registry.cancelActive_eq _).1
  refine ⟨(d.enrolled c .interactive).makeWay (d.next c .interactive), by rw [makeWay_eq]; rfl, ?_,
    fun id ha => ?_, rfl⟩
  · cases ha : d.registry.active with
    | none =>
      rw [ha] at hactive
      rw [makeWay_of_free hactive]
      rfl
    | some id =>
      rw [ha] at hactive
      rw [makeWay_of_active hactive]
      exact List.append_assoc _ _ _
  · obtain ⟨s, hs⟩ := h.registry.held id ha
    refine ⟨(s.resolve .cancelled).2, ?_, Registry.isResolved_resolve s _⟩
    have hr : ((d.enrolled c .interactive).makeWay (d.next c .interactive)).registry
        = (d.registry.resolve id .cancelled).2 := by
      rw [makeWay_eq]
      change d.registry.cancelActive.2 = _
      rw [Registry.cancelActive, ha]
    rw [hr]
    exact Registry.session?_resolve_self hs _

theorem Slot.continuesActive (h : Slot d) : d.ContinuesActive := by
  intro k
  refine ⟨Registry.deliver_eq_true_iff k, fun id s ha hs hr => ?_, fun hk => ?_⟩
  · have hd : (d.completeInteractive k).2.registry = (d.registry.resolve id (.completed k)).2 := by
      change (d.registry.deliver k).2 = _
      rw [Registry.deliver, ha]
    rw [hd]
    refine ⟨?_, fun id' hne => Registry.session?_resolve_of_ne hne _⟩
    rw [Registry.session?_resolve_self hs, Session.resolve, hr]
    rfl
  · have hd : (d.registry.deliver k).2 = d.registry := Registry.deliver_of_false h.registry hk
    change { d with registry := (d.registry.deliver k).2 } = d
    rw [hd]

/-- A command that is executed has not been told its result. -/
theorem Ledger.not_called {calm : Prop} {handed : List (Submission κ)}
    {through : Multiset (Phase κ)} (h : Ledger calm handed through d .done) {e : Execution κ}
    (he : e ∈ d.executions) (correlationId : String) (status : CommandStatus) :
    Entry.called e.job.submission.ticket correlationId status ∉ d.journal := by
  intro hm
  have hg := h.mem_of_phases (waiting_mem_phases (mem_jobs_of_execution he))
  have hentry : Entry.called e.job.submission.ticket correlationId status
      ∈ entriesOf d.journal e.job.submission.ticket :=
    List.mem_filter.mpr ⟨hm, by simp [Entry.ticket]⟩
  exact (h.accounted.matched _ hg).not_called _ _ _ hentry

theorem execution_eq (hn : (d.executions.map fun e => e.job.submission.ticket).Nodup)
    {e e' : Execution κ} (he : e ∈ d.executions) (he' : e' ∈ d.executions)
    (h : e.job.submission = e'.job.submission) : e = e' :=
  List.inj_on_of_nodup_map hn he he' (by rw [h])

/-- **Interactive commands are executed one at a time**, in the order in which they began: those
that were started are the first of those that began, and the last of them is the only one that is
executed. The slot is held just by the session of that one, is given back before its callback is
called, and what is sent to the slot reaches the session in it. -/
theorem interactive_serialized (settings : Settings) (poster : Poster)
    (inputs : List (Moment × Input κ)) :
    let start : Dispatcher κ := ofSettings settings poster none
    let d := start.run inputs
    (∃ queue : List (Submission κ),
        chronicle begunBy start inputs = chronicle startedBy start inputs ++ queue ∧
          (queue : Multiset (Submission κ)) = d.interactive.waiting.map (·.submission)) ∧
      (∀ e ∈ d.executions, e.lane = .interactive →
        (chronicle startedBy start inputs).getLast? = some e.job.submission ∧
          (∀ e' ∈ d.executions, e'.lane = .interactive → e' = e) ∧
          (∃ id, e.session = some id ∧ d.registry.active = some id ∧
            d.registry.Owns id e.job.submission.command.correlationId) ∧
          ∀ correlationId status,
            Entry.called e.job.submission.ticket correlationId status ∉ d.journal) ∧
      (∀ id, d.registry.active = some id →
        ∃ e ∈ d.executions, e.lane = .interactive ∧ e.session = some id) ∧
      d.FreesSlotFirst ∧ d.CancelsBefore ∧ d.ContinuesActive := by
  intro start d
  have hslot := slot_reached (κ := κ) settings poster inputs
  have hformed := formed_reached (κ := κ) settings poster none inputs
  have hnodup := executions_nodup_reached (κ := κ) settings poster none inputs
  have hlatest := latest_reached (κ := κ) settings poster none inputs
  obtain ⟨through, hledger⟩ := ledger_reached (κ := κ) settings poster none inputs
  obtain ⟨-, queue, running, hpool, -, horder⟩ := line_reached (κ := κ) settings poster none inputs
  refine ⟨⟨queue.map (·.submission), by simpa [placing, Task.done] using horder, ?_⟩,
    fun e he hlane => ⟨hlatest e he hlane, fun e' he' hlane' => ?_, ?_, hledger.not_called he⟩,
    fun id ha => ?_, hslot.freesSlotFirst hformed hnodup, hslot.cancelsBefore,
    hslot.continuesActive⟩
  · have hpool : d.interactive.pools = [⟨0, queue, running⟩] := hpool
    simp [Lane.waiting, hpool]
  · have hsame := (hlatest e' he' hlane').symm.trans (hlatest e he hlane)
    exact execution_eq hnodup he' he (Option.some.inj hsame)
  · obtain ⟨id, hid⟩ := Option.isSome_iff_exists.mp ((hformed.executions e he).session.mpr hlane)
    exact ⟨id, hid, hslot.active_iff.mpr ⟨e, he, hid⟩, hslot.owner e he id hid⟩
  · obtain ⟨e, he, hid⟩ := hslot.active_iff.mp ha
    exact ⟨e, he, (hformed.executions e he).session.mp (by rw [hid]; rfl), hid⟩

end Dispatcher

end SignOn
