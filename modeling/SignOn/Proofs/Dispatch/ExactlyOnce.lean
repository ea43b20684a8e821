import SignOn.Proofs.Dispatch.Flight
import SignOn.Proofs.Dispatch.Workers
import SignOn.Proofs.Identity.Key
import SignOn.Proofs.Time.Moment

/-! # Every command is told its result exactly once

No command has its callback called twice, whatever is handed in, started and finished in whatever
order. Once no lane has a job and no callback runs or is posted, every command that was handed in
has been told its result: its journal holds its start, its end, its callback and the flush
(`told_exactly_once`). A call that waits for the result hands the command in and from then on only
looks (`submitSilentSync_eq`). -/

namespace SignOn

/-- Work that changes nothing. -/
inductive Work.Watches {σ α : Type} : Work σ α → Prop
  | ended (a : α) : Watches (.ended a)
  | broken (payload : Failure.Payload) : Watches (.broken payload)
  | wait (alarm : Option Nat) (ready : σ → Bool) {next : (s : σ) → ready s = true → Work σ α}
      (h : ∀ s hr, Watches (next s hr)) : Watches (.wait alarm ready next)

variable {κ : Type}

/-- The entries about a command that has been told its result: one start, one end, one callback and
one flush, in this order. The flush carries the failure that the callback told of, if it told of
one. -/
def Submission.IsServed (s : Submission κ) (entries : List Entry) : Prop :=
  ∃ asides status failure, (∀ e ∈ asides, s.IsAside e) ∧
    entries = s.startEntry :: asides ++
      [.noted s.ticket (.ended s.command.apiId s.command.correlationId status.label),
        .called s.ticket s.command.correlationId status,
        .flushed s.ticket s.command.correlationId failure] ∧
    ∀ f, failure = some f ↔ status = .failed f

theorem Phase.Matches.served {x : Delivery κ} {entries : List Entry}
    (h : (flushed x).Matches entries) : x.submission.IsServed entries := by
  obtain ⟨before, ⟨asides, ha, rfl⟩, rfl⟩ := h
  refine ⟨asides, x.status, x.status.failure?, ha, rfl, fun f => ?_⟩
  cases x.status <;> simp [CommandStatus.failure?]

namespace Dispatcher

variable {d : Dispatcher κ}

/-- No lane has a job that waits or is in work, and no callback runs or waits to be run. -/
structure IsSettled (d : Dispatcher κ) : Prop where
  silent : d.silent.IsWorkedOff
  interactive : d.interactive.IsWorkedOff
  strands : d.strands = []
  posted : d.posted = []

theorem IsSettled.jobs_eq (h : d.IsSettled) (hs : Staffed d .done) : d.jobs = 0 := by
  rw [jobs, h.silent.waiting_eq, h.interactive.waiting_eq,
    hs.executions_eq_nil h.silent h.interactive]
  rfl

theorem IsSettled.inFlight_eq (h : d.IsSettled) (hj : d.jobs = 0) (hf : Flight 0 d .done) :
    d.inFlight = [] := by
  have hnone : allClaims 0 d .done = 0 := by
    rw [allClaims, claims, hj, h.strands]
    rfl
  have he := hf.entries
  rw [hnone] at he
  exact (Multiset.coe_eq_zero _).mp he

theorem listening_eq (hf : Flight 0 d .done) (hi : d.inFlight = []) : d.listening = 0 := by
  refine Multiset.eq_zero_iff_forall_notMem.mpr fun s hs => ?_
  obtain ⟨f, hmem, hl⟩ := Multiset.mem_bind.mp hs
  obtain ⟨n, hn, rfl⟩ := List.getElem_of_mem (Multiset.mem_coe.mp hmem)
  have hfuture : d.future n = d.futures[n] := by simp [future, hn]
  obtain ⟨k, hk⟩ := hf.attached n (by rw [hfuture]; exact List.ne_nil_of_mem hl)
  rw [hi] at hk
  exact List.not_mem_nil hk

theorem IsSettled.phases_eq (h : d.IsSettled) (hj : d.jobs = 0) (hl : d.listening = 0) :
    d.phases = 0 := by
  rw [phases, hj, hl, h.strands, h.posted]
  rfl

/-- **Handing in and waiting** is handing in, and then nothing is changed. -/
theorem submitSilentSync_eq {σ : Type} (place : Place σ (Dispatcher κ)) (clock : σ → Clock)
    (c : Command κ) : ∃ rest : σ → Work σ (Except Failure CommandOutput), (∀ s, (rest s).Watches) ∧
      submitSilentSync place clock c = Work.look fun s =>
        .put (place.modify (fun d => d.step (clock s).now (.submitSilent c)) s) (rest s) := by
  refine ⟨_, fun s => ?_, rfl⟩
  refine .wait _ _ fun s' _ => ?_
  dsimp only
  split
  · exact .broken _
  · refine .wait _ _ fun s'' _ => ?_
    split <;> exact .ended _

theorem isSettled_of_isQuiet (h : d.isQuiet = true) : d.IsSettled := by
  simp only [isQuiet, Bool.and_eq_true, List.isEmpty_iff, List.all_eq_true, List.mem_append] at h
  obtain ⟨⟨⟨-, hs⟩, hp⟩, hpools⟩ := h
  exact ⟨fun p hm => hpools p (.inl hm), fun p hm => hpools p (.inr hm), hs, hp⟩

/-- In a state that is settled after a run without a callback that broke off, every command is
through. -/
theorem ledger_settled {handed : List (Submission κ)} {through : Multiset (Phase κ)}
    (h : d.IsSettled) (hs : Staffed d .done) (hf : Flight 0 d .done)
    (hl : Ledger True handed through d .done) :
    (∀ s ∈ handed, s.IsServed (entriesOf d.journal s.ticket)) ∧
      handed.map (·.ticket) = List.range d.stats.submitted ∧ d.inFlight = [] ∧
      d.stats.submitted = d.stats.completed + d.stats.cancelled + d.stats.failed := by
  have hj := h.jobs_eq hs
  have hi := h.inFlight_eq hj hf
  have hg := h.phases_eq hj (listening_eq hf hi)
  obtain ⟨ha, hn, hc, hflushed⟩ := hl
  rw [hg, Task.phases_done, zero_add, zero_add] at ha hc
  refine ⟨fun s hm => ?_, by rw [hn]; exact ha.tickets, hi, ?_⟩
  · obtain ⟨g, hgm, rfl⟩ := ha.exists_phase hm
    obtain ⟨x, rfl⟩ := hflushed trivial g hgm
    exact (ha.matched _ hgm).served
  · have htold : through.countP Phase.IsTold = Multiset.card through := by
      refine Multiset.countP_eq_card.mpr fun g hgm => ?_
      obtain ⟨x, rfl⟩ := hflushed trivial g hgm
      trivial
    have hcard : Multiset.card through = handed.length := by
      rw [← Multiset.card_map Phase.submission, ha.complete, Multiset.coe_card]
    rw [hc, htold, hcard, hn]

/-- **Every command is told its result exactly once.** In every state of every run each command has
had at most one callback. Where no lane has a job, no callback is under way and none broke off, each
command that was handed in has been served: it has one start, one end, one callback and one flush,
nothing is in flight any more, and the counts add up. A call that waits for the result is a
submission like others. -/
theorem told_exactly_once (settings : Settings) (poster : Poster) (registry : Option Registry)
    (inputs : List (Moment × Input κ)) :
    let start : Dispatcher κ := ofSettings settings poster registry
    let d := start.run inputs
    (∀ ticket, ((entriesOf d.journal ticket).filter Entry.isCall).length ≤ 1) ∧
      ((∀ i ∈ inputs, i.2.IsCalm) → d.IsSettled →
        (∀ s ∈ chronicle handedIn start inputs, s.IsServed (entriesOf d.journal s.ticket)) ∧
          (chronicle handedIn start inputs).map (·.ticket) = List.range d.stats.submitted ∧
          d.inFlight = [] ∧
          d.stats.submitted = d.stats.completed + d.stats.cancelled + d.stats.failed) ∧
      ∀ {σ : Type} (place : Place σ (Dispatcher κ)) (clock : σ → Clock) (c : Command κ),
        ∃ rest : σ → Work σ (Except Failure CommandOutput), (∀ s, (rest s).Watches) ∧
          submitSilentSync place clock c = Work.look fun s =>
            .put (place.modify (fun d => d.step (clock s).now (.submitSilent c)) s) (rest s) := by
  intro start d
  obtain ⟨through, hl⟩ := ledger_reached (κ := κ) settings poster registry inputs
  refine ⟨hl.accounted.calls_le, fun hcalm hsettled => ?_, submitSilentSync_eq⟩
  have hf := flight_reached (κ := κ) settings poster registry inputs
  rw [chronicle_eq_nil fun i hi d => lostBy_of_calm (hcalm i hi)] at hf
  exact ledger_settled hsettled (staffed_reached settings poster registry inputs) hf
    ⟨hl.accounted, hl.submitted, hl.counted, fun _ => hl.flushed hcalm⟩

end Dispatcher

namespace Sample

/-- Controllers that say whether the device is shared. -/
def answer (shared : Bool) : Outcome := .ok (.ok (.output (.sharedDevice shared)))

/-- Two requests that ask for the same: the second listens to the execution of the first. -/
def sharedRun : List (Moment × Input Unit) :=
  [(second 0, .submitSilent (command .getDeviceMode "a")),
    (second 0, .submitSilent (command .getDeviceMode "b")),
    (second 1, .startJob .silent 0),
    (second 2, .finishJob 0 (answer true)),
    (second 2, .endCallback 0 false),
    (second 2, .endCallback 1 false)]

end Sample

namespace Dispatcher

theorem told_exactly_once_sharedRun :
    let start : Dispatcher Unit := ofSettings .standard .inline none
    let d := start.run Sample.sharedRun
    (∀ i ∈ Sample.sharedRun, i.2.IsCalm) ∧ d.IsSettled ∧
      (∀ s ∈ chronicle handedIn start Sample.sharedRun, s.IsServed (entriesOf d.journal s.ticket)) ∧
      (chronicle handedIn start Sample.sharedRun).length = 2 ∧ d.inFlight = [] := by
  have hcalm : ∀ i ∈ Sample.sharedRun, i.2.IsCalm := by simp [Sample.sharedRun, Input.IsCalm]
  have hsettled := isSettled_of_isQuiet
    (d := (ofSettings .standard .inline none : Dispatcher Unit).run Sample.sharedRun) (by decide)
  obtain ⟨-, h, -⟩ := told_exactly_once .standard .inline none Sample.sharedRun
  obtain ⟨hserved, -, hempty, -⟩ := h hcalm hsettled
  exact ⟨hcalm, hsettled, hserved, rfl, hempty⟩

end Dispatcher

end SignOn
