import SignOn.Proofs.Dispatch.ExactlyOnce

/-! # A lane started anew

A lane that is started anew has a fresh pool on top of those it had, and a number is all that tells
this pool from the only one of a new lane. `Lane.atop` sets a lane on top of older pools, and the
operations of the lane do not notice (`Lane.submit?_atop`, `Lane.start?_atop`). So a run of the
dispatcher with a new lane is a run of the dispatcher whose lane was started anew, with other
numbers (`run_atop`). -/

namespace SignOn

/-! ### Lanes -/

/-- The pool with a number that is so much higher. -/
def Pool.raised {α : Type} (n : Nat) (p : Pool α) : Pool α := { p with number := p.number + n }

namespace Lane

variable {α : Type} {l : Lane α} {old : List (Pool α)} {n : Nat}

/-- The lane on top of older pools; its own are numbered from `n` on. -/
def atop (l : Lane α) (old : List (Pool α)) (n : Nat) : Lane α :=
  { l with formed := l.formed + n, pools := l.pools.map (Pool.raised n) ++ old }

theorem new_atop (l : Lane α) : (new l.kind l.workers).atop l.pools l.formed = l.reopen := by
  simp [new, atop, reopen, Pool.raised, Nat.add_comm]

theorem reopen_atop (l : Lane α) (old : List (Pool α)) (n : Nat) :
    (l.atop old n).reopen = l.reopen.atop old n := by
  simp [reopen, atop, Pool.raised, Nat.add_right_comm]

theorem submit?_atop (h : l.Numbered) (j : α) :
    (l.atop old n).submit? j = (l.submit? j).map fun l => l.atop old n := by
  obtain ⟨kind, workers, formed, accepting, pools⟩ := l
  have hopen := h.isOpen
  rcases accepting with _ | _
  · rfl
  · rcases pools with _ | ⟨p, ps⟩
    · exact absurd rfl (hopen rfl)
    · rfl

theorem open?_atop (h : l.Numbered) : (l.atop old n).open? = l.open?.map (· + n) := by
  obtain ⟨kind, workers, formed, accepting, pools⟩ := l
  have hopen := h.isOpen
  rcases accepting with _ | _
  · rfl
  · rcases pools with _ | ⟨p, ps⟩
    · exact absurd rfl (hopen rfl)
    · rfl

section Older

variable (hold : ∀ p ∈ old, p.number < n)

include hold

theorem pool?_atop (m : Nat) : (l.atop old n).pool? (m + n) = (l.pool? m).map (Pool.raised n) := by
  have hown : (fun p : Pool α => decide (p.number = m + n)) ∘ Pool.raised n
      = fun p => decide (p.number = m) := by
    funext p
    simp [Pool.raised]
  have hnone : old.find? (fun p => p.number = m + n) = none := by
    refine List.find?_eq_none.mpr fun p hp => ?_
    have := hold p hp
    simp only [decide_eq_true_eq]
    omega
  rw [pool?, atop, List.find?_append, List.find?_map, hown, hnone, Option.or_none]
  rfl

theorem isIdle_atop (m : Nat) : (l.atop old n).isIdle (m + n) = l.isIdle m := by
  rw [isIdle, pool?_atop hold, Option.map_map]
  rfl

theorem changePool_atop {f : Pool α → Pool α} (hf : ∀ p, f (p.raised n) = (f p).raised n)
    (m : Nat) :
    (l.atop old n).changePool (m + n) f = (l.changePool m f).atop old n := by
  have hfresh : m + n ∉ old.map (·.number) := by
    intro hm
    obtain ⟨p, hp, hn⟩ := List.mem_map.mp hm
    have := hold p hp
    omega
  simp only [changePool, atop, List.map_append, map_change_of_fresh hfresh, List.map_map]
  congr 2
  refine List.map_congr_left fun p _ => ?_
  simp only [Function.comp_apply, Pool.raised, Nat.add_right_cancel_iff]
  split
  · exact hf p
  · rfl

theorem start?_atop (m : Nat) :
    (l.atop old n).start? (m + n) = (l.start? m).map fun w => (w.1, w.2.atop old n) := by
  rw [start?, start?, pool?_atop hold]
  rcases l.pool? m with _ | ⟨number, _ | ⟨j, rest⟩, running⟩
  · rfl
  · rfl
  · simp only [Option.map_some, Pool.raised]
    change (if running.length < l.poolSize then _ else _) = _
    split
    · rw [changePool_atop (f := fun p => { p with queue := rest, running := running ++ [j] }) hold
        fun _ => rfl]
      rfl
    · rfl

theorem finish_atop (m : Nat) (isDone : α → Bool) :
    (l.atop old n).finish (m + n) isDone = (l.finish m isDone).atop old n :=
  changePool_atop (f := fun p => { p with running := p.running.eraseP isDone }) hold
    (fun _ => rfl) m

end Older

end Lane

/-! ### Numbers that are so much higher -/

variable {κ : Type}

/-- The pool number of a lane, raised on the silent lane. -/
def LaneKind.raised (n : Nat) : LaneKind → Nat → Nat
  | .silent, pool => pool + n
  | .interactive, pool => pool

def Execution.raised (n : Nat) (e : Execution κ) : Execution κ :=
  { e with pool := e.lane.raised n e.pool }

def Ending.raised (n : Nat) : Ending → Ending
  | .nothing => .nothing
  | .freeWorker lane pool ticket => .freeWorker lane (lane.raised n pool) ticket
  | .settle key future result => .settle key future result

def Strand.raised (n : Nat) (s : Strand κ) : Strand κ := { s with ending := s.ending.raised n }

def Continued.raised (n : Nat) : Continued → Continued
  | .closeSilent after => .closeSilent after
  | .reopenSilent after => .reopenSilent (after.map (· + n))

def Input.raised (n : Nat) : Input κ → Input κ
  | .startJob lane pool => .startJob lane (lane.raised n pool)
  | i => i

def Task.raised (n : Nat) : Task κ → Task κ
  | .tell deliveries ending => .tell deliveries (ending.raised n)
  | t => t

namespace Dispatcher

variable {d d' : Dispatcher κ} {t : Task κ} {now : Moment} {i : Input κ} {n : Nat}
  {old : List (Pool (Job κ))}

/-- The dispatcher whose silent lane stands on older pools. -/
def atop (d : Dispatcher κ) (old : List (Pool (Job κ))) (n : Nat) : Dispatcher κ :=
  { d with
    silent := d.silent.atop old n
    executions := d.executions.map (Execution.raised n)
    strands := d.strands.map (Strand.raised n)
    continued := d.continued.map (Continued.raised n) }

theorem lane_atop (d : Dispatcher κ) (old : List (Pool (Job κ))) (n : Nat) (kind : LaneKind) :
    (d.atop old n).lane kind
      = match kind with
        | .silent => d.silent.atop old n
        | .interactive => d.interactive := by
  cases kind <;> rfl

theorem listeners_atop (d : Dispatcher κ) (old : List (Pool (Job κ))) (n : Nat)
    (future : Option Nat) (result : CommandResult) :
    (d.atop old n).listeners future result = d.listeners future result :=
  listeners_of_futures (show (d.atop old n).futures = d.futures from rfl) future result

theorem settle_atop (d : Dispatcher κ) (old : List (Pool (Job κ))) (n : Nat)
    (key : Option CommandKey) (future : Option Nat) (result : CommandResult) :
    (d.atop old n).settle key future result = (d.settle key future result).atop old n := by
  cases key <;> cases future <;> rfl

theorem makeWay_atop (d : Dispatcher κ) (old : List (Pool (Job κ))) (n : Nat) (s : Submission κ) :
    (d.atop old n).makeWay s = (d.makeWay s).atop old n := by
  rcases h : d.registry.cancelActive.1 with _ | _
  · rw [makeWay_of_free h, makeWay_of_free (d := d.atop old n) h]
    rfl
  · rw [makeWay_of_active h, makeWay_of_active (d := d.atop old n) h]
    rfl

theorem find?_executions_atop (d : Dispatcher κ) (old : List (Pool (Job κ))) (n ticket : Nat) :
    (d.atop old n).executions.find? (fun e => e.job.submission.ticket = ticket)
      = (d.executions.find? fun e => e.job.submission.ticket = ticket).map (Execution.raised n) :=
  List.find?_map

theorem find?_strands_atop (d : Dispatcher κ) (old : List (Pool (Job κ))) (n strand : Nat) :
    (d.atop old n).strands.find? (fun s => s.id = strand)
      = (d.strands.find? fun s => s.id = strand).map (Strand.raised n) :=
  List.find?_map

theorem withoutStrand_atop (d : Dispatcher κ) (old : List (Pool (Job κ))) (n strand : Nat) :
    { d.atop old n with strands := (d.atop old n).strands.filter fun t => t.id ≠ strand }
      = { d with strands := d.strands.filter fun t => t.id ≠ strand }.atop old n := by
  change { d.atop old n with
    strands := (d.strands.map (Strand.raised n)).filter fun t => t.id ≠ strand } = _
  rw [List.filter_map]
  rfl

theorem retired_atop (d : Dispatcher κ) (old : List (Pool (Job κ))) (n : Nat) (e : Execution κ) :
    (d.atop old n).retired (e.raised n) = (d.retired e).atop old n := by
  have hrest : (d.executions.map (Execution.raised n)).filter
        (fun e' => e'.job.submission.ticket ≠ e.job.submission.ticket)
      = (d.executions.filter fun e' => e'.job.submission.ticket ≠ e.job.submission.ticket).map
        (Execution.raised n) := List.filter_map
  exact congrArg (fun executions => { d.atop old n with
    executions
    registry := (d.retired e).registry }) hrest

theorem keepResult_atop (d : Dispatcher κ) (old : List (Pool (Job κ))) (n : Nat)
    (key : Option CommandKey) (result : CommandResult) (now : Moment) :
    (d.atop old n).keepResult key result now = (d.keepResult key result now).atop old n := by
  cases key with
  | none => rfl
  | some k =>
    rw [keepResult_some, keepResult_some]
    rfl

theorem executed_atop (d : Dispatcher κ) (old : List (Pool (Job κ))) (n : Nat) (e : Execution κ)
    (result : CommandResult) (now : Moment) :
    (d.atop old n).executed (e.raised n) result now = (d.executed e result now).atop old n := by
  unfold executed
  rw [retired_atop]
  change ((((d.retired e).atop old n).keepResult e.job.key result now).resolve e.job.future
    result).2 = _
  rw [keepResult_atop]
  cases e.job.future <;> rfl

theorem deliver_nothing_atop (old : List (Pool (Job κ))) (n : Nat) :
    ∀ (xs : List (Delivery κ)) (d : Dispatcher κ),
      (d.atop old n).deliver xs .nothing = (d.deliver xs .nothing).atop old n
  | [], _ => rfl
  | x :: xs, d => by
    rw [deliver_cons, deliver_cons]
    change (if d.poster.runsAtOnce _ then _ else _) = _
    split
    · rfl
    · exact deliver_nothing_atop old n xs (d.post x)

section Older

variable (hold : ∀ p ∈ old, p.number < n)

include hold

theorem freeWorker_atop (kind : LaneKind) (pool ticket : Nat) :
    (d.atop old n).freeWorker kind (kind.raised n pool) ticket
      = (d.freeWorker kind pool ticket).atop old n := by
  cases kind with
  | silent =>
    have hfinish := Lane.finish_atop (l := d.silent) hold pool fun j => j.submission.ticket = ticket
    unfold freeWorker
    rw [lane_atop]
    exact congrArg ((d.atop old n).withLane .silent) hfinish
  | interactive => rfl

theorem breakOff_atop (ending : Ending) :
    (d.atop old n).breakOff (ending.raised n) = (d.breakOff ending).atop old n := by
  cases ending with
  | freeWorker kind pool ticket => exact freeWorker_atop hold kind pool ticket
  | _ => rfl

theorem deliver_atop : ∀ (xs : List (Delivery κ)) (d : Dispatcher κ) (ending : Ending),
    (d.atop old n).deliver xs (ending.raised n) = (d.deliver xs ending).atop old n
  | [], _, .nothing => rfl
  | [], _, .freeWorker kind pool ticket => freeWorker_atop hold kind pool ticket
  | [], d, .settle key future result => by
    rw [deliver_settle, ← deliver_nothing_atop, ← settle_atop, Ending.raised, deliver_settle,
      listeners_atop]
  | x :: xs, d, ending => by
    rw [deliver_cons, deliver_cons]
    change (if d.poster.runsAtOnce _ then _ else _) = _
    split
    · rfl
    · exact deliver_atop xs (d.post x) ending

theorem perform_atop (hd : d.Numbered) (t : Task κ) :
    (d.atop old n).perform (t.raised n) = (d.perform t).atop old n := by
  cases t with
  | tell xs ending => exact deliver_atop hold xs d ending
  | place j =>
    change (d.atop old n).enqueue j = (d.enqueue j).atop old n
    have hsubmit : ((d.atop old n).lane j.submission.lane).submit? j
        = ((d.lane j.submission.lane).submit? j).map fun l =>
          match j.submission.lane with
          | .silent => l.atop old n
          | .interactive => l := by
      cases j.submission.lane with
      | silent => exact Lane.submit?_atop hd.silent j
      | interactive => exact Option.map_id'.symm
    cases hs : (d.lane j.submission.lane).submit? j with
    | some l =>
      rw [hs] at hsubmit
      rw [enqueue_accepted hs, enqueue_accepted hsubmit]
      cases j.submission.lane <;> rfl
    | none =>
      rw [hs] at hsubmit
      rw [enqueue_refused hs, enqueue_refused hsubmit]
      exact deliver_atop hold _ d (.settle j.key j.future (rejected j.submission))

theorem Opening.atop (ho : Opening d now i d' t) (hd : d.Numbered) (hi : ∀ place, i ≠ .goOn place) :
    Opening (d.atop old n) now (i.raised n) (d'.atop old n) (t.raised n) := by
  cases ho with
  | answered shareable cached => exact .answered (d := d.atop old n) shareable cached
  | joined shareable missed found unset =>
    exact .joined (d := d.atop old n) shareable missed found unset
  | joinedLate shareable missed found set =>
    exact .joinedLate (d := d.atop old n) shareable missed found set
  | launched shareable missed free => exact .launched (d := d.atop old n) shareable missed free
  | alone unshareable => exact .alone (d := d.atop old n) unshareable
  | forgotten => exact .forgotten (d := d.atop old n)
  | @begun c =>
    rw [← makeWay_atop]
    exact .begun (d := d.atop old n)
  | continuation => exact .continuation (d := d.atop old n)
  | stopped => exact .stopped (d := d.atop old n)
  | reset =>
    have hpending :
        (d.continued ++ [Continued.reopenSilent d.silent.open?]).map (Continued.raised n)
          = (d.atop old n).continued ++ [Continued.reopenSilent (d.atop old n).silent.open?] := by
      rw [List.map_append]
      change _ = _ ++ [Continued.reopenSilent (d.silent.atop old n).open?]
      rw [Lane.open?_atop hd.silent]
      rfl
    change Opening _ now .resetSilent { d.atop old n with
      silent := (d.atop old n).silent.close
      continued :=
        (d.continued ++ [Continued.reopenSilent d.silent.open?]).map (Continued.raised n) } .done
    rw [hpending]
    exact .reset (d := d.atop old n)
  | shutDown =>
    have hpending :
        (d.continued ++ [Continued.closeSilent d.interactive.open?]).map (Continued.raised n)
          = (d.atop old n).continued ++ [Continued.closeSilent (d.atop old n).interactive.open?] :=
      List.map_append
    change Opening _ now .shutdown { d.atop old n with
      registry := (d.atop old n).registry.cancelActive.2
      interactive := (d.atop old n).interactive.close
      continued :=
        (d.continued ++ [Continued.closeSilent d.interactive.open?]).map
          (Continued.raised n) } .done
    rw [hpending]
    exact .shutDown (d := d.atop old n)
  | cleared => exact .cleared (d := d.atop old n)
  | closed | reopened | waits => exact absurd rfl (hi _)
  | @startedSilent pool job lane taken =>
    have hbusy :
        (d.executions ++ [(⟨job, .silent, pool, none⟩ : Execution κ)]).map (Execution.raised n)
          = (d.atop old n).executions ++ [⟨job, .silent, pool + n, none⟩] := List.map_append
    have htaken : (d.atop old n).silent.start? (pool + n) = some (job, lane.atop old n) := by
      change (d.silent.atop old n).start? (pool + n) = _
      rw [Lane.start?_atop hold, taken]
      rfl
    change Opening _ now (.startJob .silent (pool + n)) { d.atop old n with
      silent := lane.atop old n
      executions :=
        (d.executions ++ [(⟨job, .silent, pool, none⟩ : Execution κ)]).map
          (Execution.raised n) } .done
    rw [hbusy]
    exact .startedSilent htaken
  | @startedInteractive pool job lane taken =>
    have hbusy (session : Nat) :
        (d.executions ++ [(⟨job, .interactive, pool, some session⟩ : Execution κ)]).map
          (Execution.raised n)
          = (d.atop old n).executions ++ [⟨job, .interactive, pool, some session⟩] :=
      List.map_append
    change Opening _ now (.startJob .interactive pool) { d.atop old n with
      interactive := lane
      registry := (d.registry.acquire job.submission.command.correlationId).2
      executions := (d.executions ++ [(⟨job, .interactive, pool,
        some (d.registry.acquire job.submission.command.correlationId).1⟩ : Execution κ)]).map
          (Execution.raised n) } .done
    rw [hbusy]
    exact .startedInteractive (d := d.atop old n) taken
  | @idle lane pool none =>
    refine .idle ?_
    cases lane with
    | silent =>
      change (d.silent.atop old n).start? (pool + n) = _
      rw [Lane.start?_atop hold, show d.silent.start? pool = _ from none]
      rfl
    | interactive => exact none
  | @finished ticket outcome e found =>
    rw [← executed_atop, ← listeners_atop d old n]
    refine .finished (e := e.raised n) ?_
    rw [find?_executions_atop, found]
    rfl
  | unfinished missing =>
    refine .unfinished ?_
    rw [find?_executions_atop, missing]
    rfl
  | expired => exact .expired (d := d.atop old n)
  | @ended strand s found =>
    change Opening _ now (.endCallback strand false)
      (({ d with strands := d.strands.filter fun t => t.id ≠ strand }.atop old n).flush s.current)
      (.tell s.rest (s.ending.raised n))
    rw [← withoutStrand_atop]
    refine .ended (s := s.raised n) ?_
    rw [find?_strands_atop, found]
    rfl
  | @broke strand s found =>
    rw [← breakOff_atop hold, ← withoutStrand_atop]
    refine .broke (s := s.raised n) ?_
    rw [find?_strands_atop, found]
    rfl
  | noStrand missing =>
    refine .noStrand ?_
    rw [find?_strands_atop, missing]
    rfl
  | ran found => exact .ran (d := d.atop old n) found
  | nonePosted missing => exact .nonePosted (d := d.atop old n) missing

/-- A call goes on as it does without the older pools. -/
theorem goOn_atop (place : Nat) : (d.atop old n).goOn place = (d.goOn place).atop old n := by
  have hplace : (d.atop old n).continued[place]? = d.continued[place]?.map (Continued.raised n) :=
    List.getElem?_map
  have hrest : (d.atop old n).continued.eraseIdx place
      = (d.continued.eraseIdx place).map (Continued.raised n) := List.eraseIdx_map _ _ _
  have hmay (call : Continued) : (d.atop old n).mayGoOn (call.raised n) = d.mayGoOn call := by
    rcases call with after | _ | pool
    · cases after <;> rfl
    · rfl
    · exact Lane.isIdle_atop hold pool
  unfold goOn
  rw [hplace]
  rcases d.continued[place]? with _ | call
  · rfl
  · simp only [Option.map_some, hmay, hrest]
    split
    · cases call with
      | closeSilent after => rfl
      | reopenSilent after =>
        exact congrArg
          (fun l => { { d with continued := d.continued.eraseIdx place }.atop old n with
          silent := l }) (Lane.reopen_atop d.silent old n)
    · rfl

theorem step_atop (hd : d.Numbered) (now : Moment) (i : Input κ) :
    (d.atop old n).step now (i.raised n) = (d.step now i).atop old n := by
  by_cases hi : ∀ place, i ≠ .goOn place
  · obtain ⟨d', t, ho, he⟩ := step_opening d now i
    have hraised : ∀ place, i.raised n ≠ .goOn place := by
      cases i with
      | goOn place => exact absurd rfl (hi place)
      | _ => simp [Input.raised]
    rw [he, ← perform_atop hold (hd.opening ho)]
    exact step_of_opening (ho.atop hold hd hi) hraised
  · obtain ⟨place, rfl⟩ := not_forall_not.mp hi
    exact goOn_atop hold place

/-- **A run on top of older pools** is a run without them. -/
theorem run_atop : ∀ (inputs : List (Moment × Input κ)) {d : Dispatcher κ}, d.Numbered →
    (d.atop old n).run (inputs.map fun i => (i.1, i.2.raised n)) = (d.run inputs).atop old n
  | [], _, _ => rfl
  | (now, i) :: inputs, d, hd => by
    have hstep := step_atop hold hd now i
    change ((d.atop old n).step now (i.raised n)).run _ = ((d.step now i).run inputs).atop old n
    rw [hstep]
    exact run_atop inputs (hd.run [(now, i)])

end Older

/-! ### Where the older pools are worked off -/

/-- Where no job of the silent lane is in work, nobody is to free a worker of it. -/
theorem Staffed.interactive_of_workedOff (h : Staffed d .done) (hidle : d.silent.IsWorkedOff) :
    ∀ w ∈ d.engaged, w.1 = .interactive := by
  rintro ⟨kind, pool, ticket⟩ hw
  have hbusy : (kind, pool, ticket) ∈ d.busy := by
    rw [h.busy_eq]
    exact Multiset.mem_add.mpr (.inl hw)
  obtain ⟨j, hj, -⟩ := mem_busyIn hbusy
  cases kind with
  | interactive => rfl
  | silent =>
    change (pool, j) ∈ d.silent.inWork at hj
    rw [hidle.inWork_eq] at hj
    exact absurd hj (Multiset.notMem_zero _)

/-- A lane that is worked off and started anew is a new lane on top of older pools. -/
theorem atop_new (h : Staffed d .done) (hidle : d.silent.IsWorkedOff)
    (hpending : ∀ after, .reopenSilent after ∉ d.continued) :
    { d with silent := .new d.silent.kind d.silent.workers }.atop d.silent.pools d.silent.formed
      = { d with silent := d.silent.reopen } := by
  have hengaged := h.interactive_of_workedOff hidle
  have hexecutions : d.executions.map (Execution.raised d.silent.formed) = d.executions := by
    refine (List.map_congr_left fun e he => ?_).trans (List.map_id _)
    have hlane : e.lane = .interactive :=
      hengaged _ (Multiset.mem_add.mpr (.inl (Multiset.mem_map_of_mem _ he)))
    obtain ⟨job, lane, pool, session⟩ := e
    obtain rfl : lane = .interactive := hlane
    rfl
  have hstrands : d.strands.map (Strand.raised d.silent.formed) = d.strands := by
    refine (List.map_congr_left fun s hs => ?_).trans (List.map_id _)
    have hending : s.ending.raised d.silent.formed = s.ending := by
      cases he : s.ending with
      | freeWorker kind pool ticket =>
        have hlane : kind = .interactive := by
          refine hengaged (kind, pool, ticket) (Multiset.mem_add.mpr (.inr ?_))
          refine Multiset.mem_bind.mpr ⟨s, hs, ?_⟩
          rw [he]
          exact Multiset.mem_singleton_self _
        rw [hlane]
        rfl
      | nothing | settle => rfl
    rw [Strand.raised, hending]
    rfl
  have hcontinued : d.continued.map (Continued.raised d.silent.formed) = d.continued := by
    refine (List.map_congr_left fun call hcall => ?_).trans (List.map_id _)
    cases call with
    | closeSilent => rfl
    | reopenSilent after => exact absurd hcall (hpending after)
  unfold atop
  simp only [hexecutions, hstrands, hcontinued, Lane.new_atop]

/-- A call to start the silent lane anew, the only one, goes on once the lane is worked off. -/
theorem goOn_of_workedOff {place : Nat} {after : Option Nat}
    (hcall : d.continued[place]? = some (.reopenSilent after)) (hidle : d.silent.IsWorkedOff) :
    d.goOn place =
      { d with continued := d.continued.eraseIdx place, silent := d.silent.reopen } := by
  have hmay : d.mayGoOn (.reopenSilent after) = true := by
    cases after with
    | none => rfl
    | some pool =>
      change ((d.silent.pool? pool).map _).getD true = true
      rcases hp : d.silent.pool? pool with _ | p
      · rfl
      · obtain ⟨hqueue, hrunning⟩ := hidle p (List.mem_of_find?_eq_some hp)
        simp [hqueue, hrunning]
  simp only [goOn, hcall, hmay, if_true]

/-- **A silent lane that was started anew is as good as new**: with the jobs of its older pools
done, and no other call to start it anew, the dispatcher goes on as it would with a new lane. Only
its pools have other numbers. -/
theorem run_startedAnew (hd : d.Numbered) (h : Staffed d .done) {place : Nat} {after : Option Nat}
    (hcall : d.continued[place]? = some (.reopenSilent after)) (hidle : d.silent.IsWorkedOff)
    (hpending : ∀ after, .reopenSilent after ∉ d.continued.eraseIdx place) (now : Moment)
    (inputs : List (Moment × Input κ)) :
    (d.step now (.goOn place)).run (inputs.map fun i => (i.1, i.2.raised d.silent.formed))
      = ({ d with
          continued := d.continued.eraseIdx place
          silent := .new d.silent.kind d.silent.workers }.run inputs).atop
        d.silent.pools d.silent.formed := by
  have hanew := atop_new (d := { d with continued := d.continued.eraseIdx place })
    (h.keep rfl rfl rfl rfl rfl) hidle hpending
  change (d.goOn place).run _ = _
  rw [goOn_of_workedOff hcall hidle, ← hanew]
  exact run_atop hd.silent.formed inputs { hd with silent := Lane.numbered_new _ _ }

end Dispatcher

end SignOn
