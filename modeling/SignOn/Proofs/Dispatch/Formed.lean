import SignOn.Proofs.Dispatch.Ledger

/-! # Jobs as they are made

A job has a key only if its command may be shared; the key is then that of the command, and there is
a future for its result. It waits in the lane it was handed to, and an execution has a session just
when it is interactive. `Formed` states this of a dispatcher, and of a job that a step has in
hand. -/

namespace SignOn

variable {κ : Type}

/-- A key stands for a shareable silent command and comes with a future; an interactive command has
neither. -/
structure Job.Formed (j : Job κ) : Prop where
  shared : ∀ k, j.key = some k → j.submission.lane = .silent ∧
    j.submission.command.isShareable = true ∧ j.submission.command.key = k
  hasFuture : j.key.isSome → j.future.isSome
  unwatched : j.submission.lane = .interactive → j.future = none

/-- What is settled under a key has a future. -/
def Ending.Formed : Ending → Prop
  | .settle key future _ => key.isSome → future.isSome
  | .nothing | .freeWorker _ _ _ => True

/-- An execution is in the lane of its command, and has a session just if that is the interactive
one. -/
structure Execution.Formed (e : Execution κ) : Prop where
  lane_eq : e.lane = e.job.submission.lane
  session : e.session.isSome ↔ e.lane = .interactive

/-- What is left to do is formed. -/
def Task.Formed : Task κ → Prop
  | .place j => j.Formed
  | .tell _ ending => ending.Formed

namespace Dispatcher

variable {d d' : Dispatcher κ} {t t' : Task κ} {xs : List (Delivery κ)} {ending : Ending}

/-- Jobs, executions and what callbacks leave to do are formed, and jobs wait in their lanes. -/
structure Formed (d : Dispatcher κ) (t : Task κ) : Prop where
  waiting : ∀ kind, ∀ j ∈ (d.lane kind).waiting, j.submission.lane = kind
  jobs : ∀ j ∈ d.jobs, j.Formed
  executions : ∀ e ∈ d.executions, e.Formed
  strands : ∀ s ∈ d.strands, s.ending.Formed
  task : t.Formed

theorem formed_ofSettings (settings : Settings) (poster : Poster) (registry : Option Registry) :
    Formed (ofSettings settings poster registry : Dispatcher κ) .done := by
  refine ⟨fun kind j hj => ?_, fun j hj => ?_, by simp [ofSettings], by simp [ofSettings], trivial⟩
  · cases kind <;> simp [lane, ofSettings, Lane.waiting, Lane.new] at hj
  · simp [Dispatcher.jobs, ofSettings, Lane.waiting, Lane.new] at hj

theorem Formed.keep (h : Formed d t) (hi : d'.interactive.waiting = d.interactive.waiting)
    (hl : d'.silent.waiting = d.silent.waiting) (hx : d'.executions = d.executions)
    (hs : d'.strands = d.strands) (ht : t'.Formed) : Formed d' t' := by
  obtain ⟨hw, hj, he, hst, -⟩ := h
  refine ⟨fun kind => ?_, ?_, by rw [hx]; exact he, by rw [hs]; exact hst, ht⟩
  · cases kind
    · rw [lane, hi]; exact hw .interactive
    · rw [lane, hl]; exact hw .silent
  · rw [Dispatcher.jobs, hi, hl, hx]
    exact hj

theorem Formed.call (h : Formed d (.tell xs ending)) (x : Delivery κ) (rest : List (Delivery κ)) :
    Formed (d.openCallback x rest ending) .done := by
  obtain ⟨hw, hj, he, hs, ht⟩ := h
  refine ⟨hw, hj, he, fun s hm => ?_, trivial⟩
  rcases List.mem_cons.mp hm with rfl | hm
  · exact ht
  · exact hs s hm

theorem Formed.free {kind : LaneKind} {pool ticket : Nat}
    (h : Formed d (.tell xs (.freeWorker kind pool ticket))) :
    Formed (d.freeWorker kind pool ticket) .done := by
  cases kind
  · exact h.keep (Lane.waiting_finish _ _ _) rfl rfl rfl trivial
  · exact h.keep rfl (Lane.waiting_finish _ _ _) rfl rfl trivial

theorem Formed.queue {j : Job κ} {l : Lane (Job κ)} (h : Formed d (.place j))
    (accepted : (d.lane j.submission.lane).submit? j = some l) :
    Formed (d.withLane j.submission.lane l) .done := by
  obtain ⟨hw, hj, he, hs, ht⟩ := h
  have hwait := Lane.waiting_submit accepted
  refine ⟨fun kind j' hm => ?_, fun j' hm => ?_, ?_, ?_, trivial⟩
  · by_cases hk : kind = j.submission.lane
    · subst hk
      have hsame : ((d.withLane j.submission.lane l).lane j.submission.lane) = l := by
        cases j.submission.lane <;> rfl
      rw [hsame, hwait] at hm
      rcases Multiset.mem_cons.mp hm with rfl | hm
      · rfl
      · exact hw _ _ hm
    · have hother : (d.withLane j.submission.lane l).lane kind = d.lane kind := by
        revert hk
        cases kind <;> cases j.submission.lane <;> intro hk <;> first | rfl | exact absurd rfl hk
      rw [hother] at hm
      exact hw _ _ hm
  · rw [jobs_withLane hwait] at hm
    rcases Multiset.mem_cons.mp hm with rfl | hm
    · exact ht
    · exact hj _ hm
  · rw [withLane_eq]; exact he
  · rw [withLane_eq]; exact hs

theorem Formed.move (hm : Move d t d' t') (h : Formed d t) : Formed d' t' := by
  cases hm with
  | queue accepted => exact h.queue accepted
  | reject => exact h.keep rfl rfl rfl rfl h.task.hasFuture
  | post => exact h.keep rfl rfl rfl rfl h.task
  | @call x xs ending atOnce =>
    have ha : Formed (d.announce x) (.tell xs ending) := h.keep rfl rfl rfl rfl h.task
    exact ha.call _ _
  | free => exact h.free
  | settle =>
    rw [settle_eq]
    exact h.keep rfl rfl rfl rfl trivial

theorem Formed.start (kind : LaneKind) (h : Formed d .done) (hd : d.Numbered) {pool : Nat}
    {j : Job κ} {l : Lane (Job κ)} (taken : (d.lane kind).start? pool = some (j, l))
    {session : Option Nat} (hk : session.isSome ↔ kind = .interactive)
    (hi : d'.interactive = (d.withLane kind l).interactive)
    (hl : d'.silent = (d.withLane kind l).silent)
    (hx : d'.executions = d.executions ++ [⟨j, kind, pool, session⟩])
    (hs : d'.strands = d.strands) : Formed d' .done := by
  obtain ⟨hw, hj, he, hst, -⟩ := h
  have hwait := Lane.waiting_start (hd.lane kind) taken
  refine ⟨fun kind' j' hm => ?_, ?_, ?_, by rw [hs]; exact hst, trivial⟩
  · have hle : (d'.lane kind').waiting ≤ (d.lane kind').waiting := by
      cases kind <;> cases kind' <;> simp only [lane, withLane] at hi hl hwait ⊢ <;>
        simp only [hi, hl, hwait, le_refl] <;> exact Multiset.le_cons_self _ _
    exact hw _ _ (Multiset.mem_of_le hle hm)
  · rw [jobs_started kind hd taken rfl hl hi hx]
    exact hj
  · intro e hm
    rw [hx] at hm
    rcases List.mem_append.mp hm with hm | hm
    · exact he e hm
    · rw [List.mem_singleton.mp hm]
      refine ⟨?_, hk⟩
      exact (hw kind j (by rw [hwait]; exact Multiset.mem_cons_self _ _)).symm

theorem Formed.finish (h : Formed d .done)
    (hn : (d.executions.map fun e => e.job.submission.ticket).Nodup) {ticket : Nat}
    {e : Execution κ} (he : d.executions.find? (fun e => e.job.submission.ticket = ticket) = some e)
    (result : CommandResult) (now : Moment) (ht : t.Formed) :
    Formed (d.executed e result now) t := by
  obtain rfl := ticket_of_found he
  have hj : (d.executed e result now).jobs ≤ d.jobs := by
    rw [jobs_executed hn he result now]
    exact Multiset.le_cons_self _ _
  refine ⟨?_, fun j hm => h.jobs j (Multiset.mem_of_le hj hm), ?_, ?_, ht⟩
  · rw [executed_eq]
    exact h.waiting
  · rw [executed_eq]
    exact fun e' hm => h.executions e' (List.mem_filter.mp hm).1
  · rw [executed_eq]
    exact h.strands

theorem Formed.endCallback (h : Formed d .done) {strand : Nat} {s : Strand κ}
    (hs : d.strands.find? (fun s => s.id = strand) = some s) :
    Formed { d with strands := d.strands.filter fun t => t.id ≠ strand } (.tell s.rest s.ending) :=
  ⟨h.waiting, h.jobs, h.executions, fun s' hm => h.strands s' (List.mem_filter.mp hm).1,
    h.strands s (List.mem_of_find?_eq_some hs)⟩

theorem Formed.breakOff (h : Formed d (.tell xs ending)) : Formed (d.breakOff ending) .done := by
  cases ending with
  | freeWorker => exact h.free
  | nothing | settle => exact h.keep rfl rfl rfl rfl trivial

theorem formed_launched (d : Dispatcher κ) {c : Command κ} (h : c.isShareable = true) (n : Nat) :
    Job.Formed ⟨d.next c .silent, some c.key, some n⟩ :=
  ⟨fun _ hk => ⟨rfl, h, Option.some.inj hk⟩, fun _ => rfl, by simp [next]⟩

theorem formed_alone (d : Dispatcher κ) (c : Command κ) (n : Nat) :
    Job.Formed ⟨d.next c .silent, none, some n⟩ :=
  ⟨by simp, by simp, by simp [next]⟩

theorem formed_unwatched (d : Dispatcher κ) (c : Command κ) (kind : LaneKind) :
    Job.Formed ⟨d.next c kind, none, none⟩ :=
  ⟨by simp, by simp, fun _ => rfl⟩

/-- **What a step makes is formed**: a job that is handed in, and what a strand leaves to do. -/
theorem Formed.opening {now : Moment} {i : Input κ} (ho : Opening d now i d' t) (hd : d.Numbered)
    (hn : (d.executions.map fun e => e.job.submission.ticket).Nodup) (h : Formed d .done) :
    Formed d' t := by
  cases ho with
  | answered | joined | joinedLate => exact h.keep rfl rfl rfl rfl trivial
  | launched shareable => exact h.keep rfl rfl rfl rfl (formed_launched _ shareable _)
  | alone => exact h.keep rfl rfl rfl rfl (formed_alone _ _ _)
  | forgotten => exact h.keep rfl rfl rfl rfl (formed_unwatched _ _ _)
  | begun =>
    rw [makeWay_eq]
    exact h.keep rfl rfl rfl rfl (formed_unwatched _ _ _)
  | continuation | cleared | expired => exact h.keep rfl rfl rfl rfl trivial
  | waits | idle | unfinished | noStrand | nonePosted => exact h
  | stopped | reset | shutDown | closed => exact h.keep rfl rfl rfl rfl trivial
  | reopened => exact h.keep rfl (Lane.waiting_reopen _) rfl rfl trivial
  | startedSilent taken => exact h.start .silent hd taken (by simp) rfl rfl rfl rfl
  | startedInteractive taken => exact h.start .interactive hd taken (by simp) rfl rfl rfl rfl
  | finished found => exact h.finish hn found _ _ trivial
  | ended found =>
    have he := h.endCallback found
    exact he.keep rfl rfl rfl rfl he.task
  | broke found => exact (h.endCallback found).breakOff
  | @ran place x found =>
    have hp : Formed { d with posted := d.posted.eraseIdx place } (.tell [] .nothing) :=
      h.keep rfl rfl rfl rfl trivial
    exact hp.call _ _

theorem formed_reached (settings : Settings) (poster : Poster) (registry : Option Registry)
    (inputs : List (Moment × Input κ)) :
    Formed ((ofSettings settings poster registry : Dispatcher κ).run inputs) .done :=
  reached_keeps (I := fun _ d t => Formed d t) (formed_ofSettings settings poster registry)
    (fun _ hd hn ho h => h.opening ho hd hn) (fun _ hm h => h.move hm) inputs

end Dispatcher

end SignOn
