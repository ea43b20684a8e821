import SignOn.Proofs.Dispatch.Ledger

/-! # Busy workers

A worker is busy from when it takes a job until the result has been delivered: first its controllers
are at work, and then a callback runs that frees it when it has ended, or the step under way does.
`Staffed` states that the jobs in work are those of these workers, so that no controllers are at
work once no lane has a job in work (`Staffed.executions_eq_nil`). -/

namespace SignOn

/-- A busy worker: its lane, its pool and the ticket of its job. -/
abbrev Worker := LaneKind × Nat × Nat

/-- The worker that is freed at the end. -/
def Ending.workers : Ending → Multiset Worker
  | .freeWorker lane pool ticket => {(lane, pool, ticket)}
  | .nothing | .settle _ _ _ => 0

variable {κ : Type}

/-- The worker that a step is to free. -/
def Task.workers : Task κ → Multiset Worker
  | .place _ => 0
  | .tell _ ending => ending.workers

/-- The worker whose controllers are at work. -/
def Execution.worker (e : Execution κ) : Worker := (e.lane, e.pool, e.job.submission.ticket)

namespace Dispatcher

variable {d d' : Dispatcher κ} {t t' : Task κ} {deliveries : List (Delivery κ)} {ending : Ending}

/-- The workers of a lane that have a job in work. -/
def busyIn (d : Dispatcher κ) (kind : LaneKind) : Multiset Worker :=
  (d.lane kind).inWork.map fun w => (kind, w.1, w.2.submission.ticket)

/-- The workers that have a job in work. -/
def busy (d : Dispatcher κ) : Multiset Worker := d.busyIn .interactive + d.busyIn .silent

/-- The workers whose controllers are at work and those that wait for a callback. -/
def engaged (d : Dispatcher κ) : Multiset Worker :=
  (d.executions : Multiset (Execution κ)).map Execution.worker
    + (d.strands : Multiset (Strand κ)).bind fun s => s.ending.workers

/-- The workers with a job in work are those that are engaged or about to be freed. -/
structure Staffed (d : Dispatcher κ) (t : Task κ) : Prop where
  busy_eq : d.busy = d.engaged + t.workers

theorem staffed_ofSettings (settings : Settings) (poster : Poster) (registry : Option Registry) :
    Staffed (ofSettings settings poster registry : Dispatcher κ) .done :=
  ⟨by simp [busy, busyIn, engaged, ofSettings, lane, Lane.new, Lane.inWork, Task.done,
    Task.workers, Ending.workers]⟩

/-- Nothing is done that workers notice. -/
theorem Staffed.keep (h : Staffed d t) (hi : d'.interactive.inWork = d.interactive.inWork)
    (hl : d'.silent.inWork = d.silent.inWork) (hx : d'.executions = d.executions)
    (hs : d'.strands = d.strands) (hw : t'.workers = t.workers) : Staffed d' t' := by
  have hb := h.busy_eq
  unfold busy busyIn engaged lane at hb
  refine ⟨?_⟩
  unfold busy busyIn engaged lane
  rw [hi, hl, hx, hs, hw]
  exact hb

theorem mem_busyIn {kind : LaneKind} {pool ticket : Nat} (h : (kind, pool, ticket) ∈ d.busy) :
    ∃ j, (pool, j) ∈ (d.lane kind).inWork ∧ j.submission.ticket = ticket := by
  simp only [busy, busyIn, Multiset.mem_add, Multiset.mem_map, Prod.mk.injEq] at h
  rcases h with ⟨⟨p, j⟩, hw, rfl, rfl, rfl⟩ | ⟨⟨p, j⟩, hw, rfl, rfl, rfl⟩
  · exact ⟨j, hw, rfl⟩
  · exact ⟨j, hw, rfl⟩

/-- A worker that is freed is busy no longer, and no other worker changes. -/
theorem busy_freeWorker (hd : d.Numbered) {kind : LaneKind} {pool ticket : Nat}
    (h : (kind, pool, ticket) ∈ d.busy) :
    d.busy = (kind, pool, ticket) ::ₘ (d.freeWorker kind pool ticket).busy := by
  obtain ⟨j, hj, ht⟩ := mem_busyIn h
  obtain ⟨j', hj', he⟩ := Lane.inWork_finish (hd.lane kind)
    (fun j => j.submission.ticket = ticket) hj (by simpa using ht)
  have hj' : j'.submission.ticket = ticket := by simpa using hj'
  cases kind
  · simp only [busy, busyIn, freeWorker, withLane, lane] at he ⊢
    rw [he, Multiset.map_cons, Multiset.cons_add, hj']
  · simp only [busy, busyIn, freeWorker, withLane, lane] at he ⊢
    rw [he, Multiset.map_cons, Multiset.add_cons, hj']

theorem engaged_openCallback (d : Dispatcher κ) (x : Delivery κ) (rest : List (Delivery κ))
    (ending : Ending) : (d.openCallback x rest ending).engaged = d.engaged + ending.workers := by
  have hs : ((d.openCallback x rest ending).strands : Multiset (Strand κ))
      = ⟨d.strandCount, x, rest, ending⟩ ::ₘ (d.strands : Multiset (Strand κ)) := rfl
  rw [engaged, hs, Multiset.cons_bind, add_comm ending.workers, ← add_assoc]
  rfl

theorem Staffed.call (h : Staffed d (.tell deliveries ending)) (x : Delivery κ)
    (rest : List (Delivery κ)) : Staffed (d.openCallback x rest ending) .done := by
  refine ⟨?_⟩
  rw [engaged_openCallback]
  exact h.busy_eq.trans (add_zero _).symm

theorem Staffed.free {kind : LaneKind} {pool ticket : Nat} (hd : d.Numbered)
    (h : Staffed d (.tell deliveries (.freeWorker kind pool ticket))) :
    Staffed (d.freeWorker kind pool ticket) .done := by
  have hmem : (kind, pool, ticket) ∈ d.busy := by
    rw [h.busy_eq]
    exact Multiset.mem_add.mpr (.inr (Multiset.mem_singleton_self _))
  have hb := h.busy_eq
  rw [busy_freeWorker hd hmem, Task.workers, Ending.workers, add_singleton_eq_cons] at hb
  refine ⟨((Multiset.cons_inj_right _).mp hb).trans ?_⟩
  rw [freeWorker_eq]
  exact (add_zero _).symm

theorem Staffed.move (hm : Move d t d' t') (hd : d.Numbered) (h : Staffed d t) : Staffed d' t' := by
  cases hm with
  | @queue j l accepted =>
    have hw := Lane.inWork_submit accepted
    cases hk : j.submission.lane
    · rw [hk] at hw
      exact h.keep hw rfl rfl rfl rfl
    · rw [hk] at hw
      exact h.keep rfl hw rfl rfl rfl
  | reject | post => exact h.keep rfl rfl rfl rfl rfl
  | @call x xs ending atOnce =>
    have ha : Staffed (d.announce x) (.tell xs ending) := h.keep rfl rfl rfl rfl rfl
    exact ha.call _ _
  | free => exact h.free hd
  | settle =>
    rw [settle_eq]
    exact h.keep rfl rfl rfl rfl rfl

theorem busy_started {kind : LaneKind} {pool : Nat} {j : Job κ} {l : Lane (Job κ)} (hd : d.Numbered)
    (hs : (d.lane kind).start? pool = some (j, l)) :
    (d.withLane kind l).busy = (kind, pool, j.submission.ticket) ::ₘ d.busy := by
  have hw := Lane.inWork_start (hd.lane kind) hs
  cases kind
  · simp only [busy, busyIn, withLane, lane] at hw ⊢
    rw [hw, Multiset.map_cons, Multiset.cons_add]
  · simp only [busy, busyIn, withLane, lane] at hw ⊢
    rw [hw, Multiset.map_cons, Multiset.add_cons]

theorem engaged_started (e : Execution κ) (hx : d'.executions = d.executions ++ [e])
    (hs : d'.strands = d.strands) : d'.engaged = e.worker ::ₘ d.engaged := by
  rw [engaged, engaged, hx, hs, ← Multiset.coe_add, Multiset.map_add, Multiset.coe_singleton,
    Multiset.map_singleton, ← Multiset.singleton_add]
  ac_rfl

theorem engaged_withoutStrand (hd : d.Numbered) {strand : Nat} {s : Strand κ}
    (hs : d.strands.find? (fun s => s.id = strand) = some s) :
    d.engaged = { d with strands := d.strands.filter fun t => t.id ≠ strand }.engaged
      + s.ending.workers := by
  rw [engaged, split_of_find hd.strands hs, Multiset.cons_bind, add_comm s.ending.workers,
    ← add_assoc]
  rfl

theorem Staffed.start (kind : LaneKind) (h : Staffed d .done) (hd : d.Numbered) {pool : Nat}
    {j : Job κ} {l : Lane (Job κ)} (taken : (d.lane kind).start? pool = some (j, l))
    {session : Option Nat} (hi : d'.interactive = (d.withLane kind l).interactive)
    (hl : d'.silent = (d.withLane kind l).silent)
    (hx : d'.executions = d.executions ++ [⟨j, kind, pool, session⟩])
    (hs : d'.strands = d.strands) : Staffed d' .done := by
  have hb : d'.busy = (kind, pool, j.submission.ticket) ::ₘ d.busy := by
    rw [← busy_started hd taken]
    unfold busy busyIn lane
    rw [hi, hl]
  refine ⟨?_⟩
  rw [hb, engaged_started _ hx hs, h.busy_eq, Multiset.cons_add]
  rfl

/-- The controllers of a job are done; its worker is freed when the results have been delivered. -/
theorem Staffed.finish (h : Staffed d .done)
    (hn : (d.executions.map fun e => e.job.submission.ticket).Nodup) {ticket : Nat}
    {e : Execution κ} (he : d.executions.find? (fun e => e.job.submission.ticket = ticket) = some e)
    {deliveries : List (Delivery κ)} (result : CommandResult) (now : Moment) :
    Staffed (d.executed e result now)
      (.tell deliveries (.freeWorker e.lane e.pool ticket)) := by
  obtain rfl := ticket_of_found he
  rw [executed_eq]
  refine ⟨?_⟩
  have hb := h.busy_eq
  rw [engaged, split_of_find hn he, Multiset.map_cons] at hb
  refine hb.trans ?_
  rw [Task.workers, Ending.workers, add_singleton_eq_cons, Multiset.cons_add, Multiset.cons_add]
  exact congrArg _ (add_zero _)

theorem Staffed.endCallback (h : Staffed d .done) (hd : d.Numbered) {strand : Nat} {s : Strand κ}
    (hs : d.strands.find? (fun s => s.id = strand) = some s) :
    Staffed { d with strands := d.strands.filter fun t => t.id ≠ strand }
      (.tell s.rest s.ending) := by
  refine ⟨?_⟩
  rw [Task.workers, ← engaged_withoutStrand hd hs]
  exact h.busy_eq.trans (add_zero _)

theorem Staffed.breakOff (hd : d.Numbered) (h : Staffed d (.tell deliveries ending)) :
    Staffed (d.breakOff ending) .done := by
  cases ending with
  | freeWorker => exact h.free hd
  | nothing | settle => exact h.keep rfl rfl rfl rfl rfl

theorem Staffed.opening {now : Moment} {i : Input κ} (ho : Opening d now i d' t) (hd : d.Numbered)
    (hn : (d.executions.map fun e => e.job.submission.ticket).Nodup) (h : Staffed d .done) :
    Staffed d' t := by
  cases ho with
  | answered | joined | joinedLate | launched | alone | forgotten =>
    exact h.keep rfl rfl rfl rfl rfl
  | begun =>
    rw [makeWay_eq]
    exact h.keep rfl rfl rfl rfl rfl
  | continuation | cleared | expired => exact h.keep rfl rfl rfl rfl rfl
  | waits | idle | unfinished | noStrand | nonePosted => exact h
  | stopped | reset | shutDown | closed => exact h.keep rfl rfl rfl rfl rfl
  | reopened => exact h.keep rfl (Lane.inWork_reopen _) rfl rfl rfl
  | startedSilent taken => exact h.start .silent hd taken rfl rfl rfl rfl
  | startedInteractive taken => exact h.start .interactive hd taken rfl rfl rfl rfl
  | finished found => exact h.finish hn found _ _
  | ended found => exact (h.endCallback hd found).keep rfl rfl rfl rfl rfl
  | broke found => exact (h.endCallback hd found).breakOff (hd.withoutStrand _)
  | @ran place x found =>
    have hp : Staffed { d with posted := d.posted.eraseIdx place } (.tell [] .nothing) :=
      h.keep rfl rfl rfl rfl rfl
    exact hp.call _ _

/-- **In every run** the jobs in work are those of the workers that are engaged. -/
theorem staffed_reached (settings : Settings) (poster : Poster) (registry : Option Registry)
    (inputs : List (Moment × Input κ)) :
    Staffed ((ofSettings settings poster registry : Dispatcher κ).run inputs) .done :=
  reached_keeps (I := fun _ d t => Staffed d t) (staffed_ofSettings settings poster registry)
    (fun _ hd hn ho h => h.opening ho hd hn) (fun hd hm h => h.move hm hd) inputs

/-- Once no lane has a job in work, no controllers are at work. -/
theorem Staffed.executions_eq_nil (h : Staffed d .done) (hs : d.silent.IsWorkedOff)
    (hi : d.interactive.IsWorkedOff) : d.executions = [] := by
  have hb := h.busy_eq
  rw [busy, busyIn, busyIn, lane, lane, hs.inWork_eq, hi.inWork_eq] at hb
  have hnone : d.engaged = 0 := by simpa [Task.done, Task.workers, Ending.workers] using hb.symm
  refine List.eq_nil_iff_forall_not_mem.mpr fun e he => ?_
  have hm : e.worker ∈ d.engaged := Multiset.mem_add.mpr (.inl (Multiset.mem_map_of_mem _ he))
  rw [hnone] at hm
  exact Multiset.notMem_zero _ hm

end Dispatcher

end SignOn
