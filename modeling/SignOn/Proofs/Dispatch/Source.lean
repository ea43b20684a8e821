import SignOn.Proofs.Dispatch.Apart
import SignOn.Proofs.Dispatch.KeptResults

/-! # Where results come from

A command is handed in on an occasion: after some steps of a run, and before others. `Source` lists
where its result may come from, seen from there: its own execution, an execution of its key that was
under way then, the one that was last stored under its key, or a lane that took no commands. A
source stays one however the run goes on (`Source.further`). -/

namespace SignOn

variable {κ : Type}

/-- When something is handed in: the steps before, the moment and the step, and the steps after. -/
structure Occasion (κ : Type) where
  before : List (Moment × Input κ)
  now : Moment
  input : Input κ
  after : List (Moment × Input κ)

namespace Occasion

/-- The run that the occasion is part of. -/
def inputs (o : Occasion κ) : List (Moment × Input κ) := o.before ++ (o.now, o.input) :: o.after

/-- The occasion in a run that goes on for another step. -/
def further (o : Occasion κ) (now : Moment) (i : Input κ) : Occasion κ :=
  { o with after := o.after ++ [(now, i)] }

theorem inputs_further (o : Occasion κ) (now : Moment) (i : Input κ) :
    (o.further now i).inputs = o.inputs ++ [(now, i)] := by
  simp [inputs, further]

/-- The last step of a run, as an occasion. -/
def last (inputs : List (Moment × Input κ)) (now : Moment) (i : Input κ) : Occasion κ :=
  ⟨inputs, now, i, []⟩

/-- The dispatcher on the occasion. -/
def state (o : Occasion κ) (start : Dispatcher κ) : Dispatcher κ := start.run o.before

/-- The commands that are handed in on the occasion. -/
def handedIn (o : Occasion κ) (start : Dispatcher κ) : List (Submission κ) :=
  (o.state start).handedIn o.now o.input

/-- The commands that are handed in on the occasion to be shared. -/
def sharedIn (o : Occasion κ) (start : Dispatcher κ) : List (Submission κ) :=
  (o.state start).sharedBy o.now o.input

/-- The executions that have ended since. -/
def endedSince (o : Occasion κ) (start : Dispatcher κ) : List (Ended κ) :=
  Dispatcher.chronicle Dispatcher.endedBy ((o.state start).step o.now o.input) o.after

theorem mem_ended {o : Occasion κ} {start : Dispatcher κ} {x : Ended κ}
    (h : x ∈ o.endedSince start) :
    x ∈ Dispatcher.chronicle Dispatcher.endedBy start o.inputs := by
  unfold inputs
  rw [Dispatcher.chronicle_append]
  exact List.mem_append_right _ (List.mem_append_right _ h)

end Occasion

namespace Dispatcher

/-- Does a command that is handed in share a result that is stored, or an execution under way? -/
def shares (d : Dispatcher κ) (now : Moment) : Input κ → Bool
  | .submitSilent c => c.isShareable &&
    ((d.results.get c.key now).1.isSome || (d.inFlight.lookup c.key).isSome)
  | _ => false

theorem shares_of_hit {d : Dispatcher κ} {now : Moment} {c : Command κ} {r : CommandResult}
    (shareable : c.isShareable = true) (hit : (d.results.get c.key now).1 = some r) :
    d.shares now (.submitSilent c) = true := by
  simp [shares, shareable, hit]

theorem shares_of_found {d : Dispatcher κ} {now : Moment} {c : Command κ}
    (shareable : c.isShareable = true) (found : (d.inFlight.lookup c.key).isSome) :
    d.shares now (.submitSilent c) = true := by
  simp [shares, shareable, found]

/-- The command that a step hands in to be executed, to a lane that takes no commands. -/
def refusedBy (d : Dispatcher κ) (now : Moment) (i : Input κ) : List (Submission κ) :=
  (d.handedIn now i).filter fun s => !d.shares now i && !(d.lane s.lane).accepting

end Dispatcher

variable {start : Dispatcher κ} {o : Occasion κ} {s : Submission κ} {now : Moment} {i : Input κ}
  {inputs : List (Moment × Input κ)}

/-- Where the result of a command comes from that was handed in on an occasion. -/
inductive Source (start : Dispatcher κ) (o : Occasion κ) (s : Submission κ) : CommandResult → Prop
  | own {x} (ended : x ∈ o.endedSince start) (same : x.execution.job.submission = s) :
      Source start o s x.result
  | joined {x} (shared : s ∈ o.sharedIn start) (ended : x ∈ o.endedSince start)
      (underWay : x.execution.job ∈ (o.state start).jobs)
      (key : x.execution.job.key = some s.command.key) : Source start o s x.result
  | cached {x} (shared : s ∈ o.sharedIn start)
      (latest : ((Dispatcher.chronicle Dispatcher.endedBy start o.before).filter
        (·.stores s.command.key)).getLast? = some x)
      (fresh : o.now.since x.moment < start.settings.resultCacheTtl.nanos) :
      Source start o s x.result
  | refused {s'}
      (refused : s' ∈ Dispatcher.chronicle Dispatcher.refusedBy start
        (o.before ++ [(o.now, o.input)]))
      (key : s'.command.key = s.command.key) : Source start o s (Dispatcher.rejected s')

theorem Source.further {r : CommandResult} (h : Source start o s r) (now : Moment) (i : Input κ) :
    Source start (o.further now i) s r := by
  have hended {x : Ended κ} (hx : x ∈ o.endedSince start) :
      x ∈ (o.further now i).endedSince start := by
    unfold Occasion.endedSince Occasion.further
    rw [Dispatcher.chronicle_concat]
    exact List.mem_append_left _ hx
  cases h with
  | own ended same => exact .own (hended ended) same
  | joined shared ended underWay key => exact .joined shared (hended ended) underWay key
  | cached shared latest fresh => exact .cached shared latest fresh
  | refused refused key => exact .refused refused key

/-- The command was handed in on an occasion of the run. -/
def WasHandedIn (start : Dispatcher κ) (inputs : List (Moment × Input κ)) (s : Submission κ) :
    Prop :=
  ∃ o : Occasion κ, o.inputs = inputs ∧ s ∈ o.handedIn start

/-- The status is that of a result from a source of the command, attributed to it. -/
def IsSourced (start : Dispatcher κ) (inputs : List (Moment × Input κ)) (s : Submission κ)
    (status : CommandStatus) : Prop :=
  ∃ o : Occasion κ, o.inputs = inputs ∧ s ∈ o.handedIn start ∧
    ∃ r, Source start o s r ∧ status = (r.attributedTo s.command.correlationId).status

theorem WasHandedIn.further (h : WasHandedIn start inputs s) (now : Moment) (i : Input κ) :
    WasHandedIn start (inputs ++ [(now, i)]) s := by
  obtain ⟨o, rfl, hs⟩ := h
  exact ⟨o.further now i, o.inputs_further now i, hs⟩

theorem IsSourced.further {status : CommandStatus} (h : IsSourced start inputs s status)
    (now : Moment) (i : Input κ) : IsSourced start (inputs ++ [(now, i)]) s status := by
  obtain ⟨o, rfl, hs, r, hr, hstatus⟩ := h
  exact ⟨o.further now i, o.inputs_further now i, hs, r, hr.further now i, hstatus⟩

/-! ### One occasion for each ticket -/

section Reached

variable (settings : Settings) (poster : Poster) (registry : Option Registry)

theorem submitted_reached (inputs : List (Moment × Input κ)) :
    ((Dispatcher.ofSettings settings poster registry : Dispatcher κ).run inputs).stats.submitted
      = (Dispatcher.chronicle Dispatcher.handedIn
        (Dispatcher.ofSettings settings poster registry) inputs).length := by
  obtain ⟨through, h⟩ := Dispatcher.ledger_reached (κ := κ) settings poster registry inputs
  exact h.submitted

theorem handedIn_eq_singleton {d : Dispatcher κ} {now : Moment} {i : Input κ}
    (h : s ∈ d.handedIn now i) : d.handedIn now i = [s] ∧ s.ticket = d.stats.submitted := by
  cases i with
  | submitSilent | submitAndForget | beginInteractive =>
    rw [List.mem_singleton.mp h]
    exact ⟨rfl, rfl⟩
  | _ => cases h

/-- Of two occasions of a run, the later one hands in a later ticket. -/
theorem ticket_lt_of_before {o o' : Occasion κ} {s s' : Submission κ}
    {between : List (Moment × Input κ)} (h : o'.before = o.before ++ (o.now, o.input) :: between)
    (hs : s ∈ o.handedIn (Dispatcher.ofSettings settings poster registry))
    (hs' : s' ∈ o'.handedIn (Dispatcher.ofSettings settings poster registry)) :
    s.ticket < s'.ticket := by
  obtain ⟨hone, ht⟩ := handedIn_eq_singleton hs
  obtain ⟨-, ht'⟩ := handedIn_eq_singleton hs'
  rw [Occasion.state, submitted_reached] at ht ht'
  rw [ht, ht', h, Dispatcher.chronicle_append, List.length_append, Dispatcher.chronicle,
    List.length_append]
  have hlen : ((o.state (Dispatcher.ofSettings settings poster registry)).handedIn o.now
      o.input).length = 1 := by rw [hone]; rfl
  unfold Occasion.state at hlen
  omega

/-- **A ticket is given out on one occasion** of a run. -/
theorem occasion_unique {o o' : Occasion κ} {s s' : Submission κ} (h : o.inputs = o'.inputs)
    (hs : s ∈ o.handedIn (Dispatcher.ofSettings settings poster registry))
    (hs' : s' ∈ o'.handedIn (Dispatcher.ofSettings settings poster registry))
    (ht : s.ticket = s'.ticket) : o = o' ∧ s = s' := by
  have heq : o = o' := by
    -- if one occasion came before the other, its ticket would be the smaller one
    rcases List.append_eq_append_iff.mp h with ⟨between, hb, ha⟩ | ⟨between, hb, ha⟩
    · rcases between with _ | ⟨x, between⟩
      · obtain ⟨before, now, i, after⟩ := o
        obtain ⟨before', now', i', after'⟩ := o'
        simp_all
      · obtain ⟨rfl, -⟩ := List.cons.inj ha
        exact absurd ht (ticket_lt_of_before settings poster registry hb hs hs').ne
    · rcases between with _ | ⟨x, between⟩
      · obtain ⟨before, now, i, after⟩ := o
        obtain ⟨before', now', i', after'⟩ := o'
        simp_all
      · obtain ⟨rfl, -⟩ := List.cons.inj ha
        exact absurd ht (ticket_lt_of_before settings poster registry hb hs' hs).ne'
  subst heq
  have hone := (handedIn_eq_singleton hs).1
  unfold Occasion.handedIn at hs'
  rw [hone] at hs'
  exact ⟨rfl, (List.mem_singleton.mp hs').symm⟩

end Reached

end SignOn
