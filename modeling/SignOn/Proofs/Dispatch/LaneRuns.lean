import Mathlib.Data.List.Induction
import SignOn.Proofs.Dispatch.Lane

/-! # A lane in use

Jobs are handed in, the lane is stopped or started anew, and workers take jobs and come to their
end, in any order. `Lane.Floor` keeps the lane together with the calls that wait for a pool and a
log. A job goes by the number with which it was handed in. A job that breaks off ends like any
other; the log keeps the difference.

* `Kept`: what every step keeps. In each pool the jobs that were taken and those that wait are the
  jobs that were accepted, in that order, and those that ended and those in work are the jobs that
  were taken.
* `isRunning_run_iff`: the lane runs until somebody stops it, and again from the return of a call
  that starts it anew. No call goes astray: it has returned, or it waits (`callsMade_run`).
* `Orderly`: what is kept besides if nobody stops the lane while somebody else waits for it. All
  pools but one are worked off.
* `nothing_lost`: what follows for a whole run. -/

namespace SignOn

namespace Lane

/-! ### One pool -/

section Pool

variable {α : Type} {l : Lane α} {n p : Nat} {q : Pool α} {f : Pool α → Pool α}

/-- The jobs that wait in the pool of a number, in their order. -/
def queueOf (l : Lane α) (p : Nat) : List α := ((l.pool? p).map (·.queue)).getD []

/-- The jobs in work in the pool of a number. -/
def runningOf (l : Lane α) (p : Nat) : List α := ((l.pool? p).map (·.running)).getD []

theorem isIdle_iff : l.isIdle p = true ↔ l.queueOf p = [] ∧ l.runningOf p = [] := by
  unfold isIdle queueOf runningOf
  rcases l.pool? p with _ | q <;> simp

theorem queueOf_of_pool (h : l.pool? p = some q) : l.queueOf p = q.queue := by rw [queueOf, h]; rfl

theorem runningOf_of_pool (h : l.pool? p = some q) : l.runningOf p = q.running := by
  rw [runningOf, h]
  rfl

theorem exists_pool_of_mem {j : α} (h : j ∈ l.queueOf p ∨ j ∈ l.runningOf p) :
    ∃ q, l.pool? p = some q ∧ l.queueOf p = q.queue ∧ l.runningOf p = q.running := by
  rcases hq : l.pool? p with _ | q
  · simp [queueOf, runningOf, hq] at h
  · exact ⟨q, rfl, queueOf_of_pool hq, runningOf_of_pool hq⟩

theorem pool?_changePool_self (hf : ∀ q, (f q).number = q.number) (h : l.pool? n = some q) :
    (l.changePool n f).pool? n = some (f q) := by
  have hcomp :
      (fun q : Pool α => decide (q.number = n)) ∘ (fun q => if q.number = n then f q else q) =
        fun q => decide (q.number = n) := by
    funext q
    by_cases hq : q.number = n <;> simp [hq, hf]
  rw [pool?, changePool, List.find?_map, hcomp]
  change (l.pool? n).map _ = _
  rw [h, Option.map_some, if_pos (number_of_pool? h)]

theorem pool?_changePool_of_ne (hf : ∀ q, (f q).number = q.number) (hne : p ≠ n) :
    (l.changePool n f).pool? p = l.pool? p := by
  have hcomp :
      (fun q : Pool α => decide (q.number = p)) ∘ (fun q => if q.number = n then f q else q) =
        fun q => decide (q.number = p) := by
    funext q
    by_cases hq : q.number = n <;> simp [hq, hf]
  rw [pool?, changePool, List.find?_map, hcomp]
  change (l.pool? p).map _ = _
  rcases h : l.pool? p with _ | q
  · rfl
  · rw [Option.map_some, if_neg fun hn => hne ((number_of_pool? h).symm.trans hn)]

theorem open?_changePool (hf : ∀ q, (f q).number = q.number) (l : Lane α) (n : Nat) :
    (l.changePool n f).open? = l.open? := by
  have hmap := congrArg List.head? (map_number_changePool (l := l) (n := n) hf)
  rw [List.head?_map, List.head?_map] at hmap
  unfold open?
  rw [hmap]
  rfl

theorem open?_of_stopped (h : l.isRunning = false) : l.open? = none :=
  if_neg (by rw [show l.accepting = false from h]; exact Bool.false_ne_true)

/-- A lane that takes jobs has a pool for them, and a job that is handed in waits there behind the
others. -/
theorem submit?_of_running (h : l.Numbered) (ha : l.isRunning = true) (j : α) :
    ∃ q, l.open? = some q.number ∧ l.pool? q.number = some q ∧
      l.submit? j = some (l.changePool q.number fun q => { q with queue := q.queue ++ [j] }) := by
  obtain ⟨q, ps, hps⟩ := List.exists_cons_of_ne_nil (h.isOpen ha)
  have hfresh : q.number ∉ ps.map (·.number) := by
    have hd := h.distinct
    rw [hps, List.map_cons] at hd
    exact (List.nodup_cons.mp hd).1
  change l.accepting = true at ha
  refine ⟨q, by simp [open?, ha, hps], by simp [pool?, hps], ?_⟩
  simp only [submit?, changePool, ha, hps, List.map_cons, if_true, map_change_of_fresh hfresh]

theorem pool?_reopen (l : Lane α) (p : Nat) :
    l.reopen.pool? p = if l.formed = p then some ⟨l.formed, [], []⟩ else l.pool? p := by
  rw [pool?, reopen, List.find?_cons]
  by_cases hp : l.formed = p <;> simp [hp, pool?]

theorem pool?_eq_none (h : l.Numbered) (hp : l.formed ≤ p) : l.pool? p = none := by
  rw [pool?, List.find?_eq_none]
  intro q hq
  have hlt := h.formed q hq
  simp only [decide_eq_true_eq]
  omega

theorem queueOf_reopen (h : l.Numbered) (p : Nat) : l.reopen.queueOf p = l.queueOf p := by
  rw [queueOf, queueOf, pool?_reopen]
  split
  · rw [pool?_eq_none h (by omega)]
    rfl
  · rfl

theorem runningOf_reopen (h : l.Numbered) (p : Nat) : l.reopen.runningOf p = l.runningOf p := by
  rw [runningOf, runningOf, pool?_reopen]
  split
  · rw [pool?_eq_none h (by omega)]
    rfl
  · rfl

end Pool

/-! ### What happens to a lane -/

/-- A call that stopped the lane and has not returned: whether it is to start the lane anew, and the
pool it waits for. -/
structure Stopping where
  restarts : Bool
  pool : Option Nat

/-- What is logged: a job was accepted for a pool or handed back, a worker of a pool took a job, a
job ended or broke off, somebody stopped the lane, or such a call returned. -/
inductive Entry where
  | accepted (pool job : Nat)
  | handedBack (job : Nat)
  | started (pool job : Nat)
  | ended (pool job : Nat) (brokeOff : Bool)
  | stopped (pool : Option Nat)
  | returned (restarts : Bool) (pool : Option Nat)

/-- The lane, the number of jobs handed in, the calls that have not returned, and the log. -/
structure Floor where
  lane : Lane Nat
  handed : Nat
  calls : List Stopping
  log : List Entry

/-- Calls of the lane, and what its workers do. -/
inductive Event where
  | submit
  | stop (restarts : Bool)
  | goOn (place : Nat)
  | start (pool : Nat)
  | finish (pool job : Nat) (brokeOff : Bool)

namespace Floor

/-- A lane that has just been started. -/
def opened (kind : LaneKind) (workers : Nat) : Floor := ⟨.new kind workers, 0, [], []⟩

/-- May the call return? Its pool has to be worked off. -/
def mayReturn (x : Floor) (call : Stopping) : Bool := (call.pool.map x.lane.isIdle).getD true

/-- The lane in use after an event. One that does not apply changes nothing. -/
def step (x : Floor) : Event → Floor
  | .submit =>
    match x.lane.open?, x.lane.submit? x.handed with
    | some pool, some lane =>
      { x with lane, handed := x.handed + 1, log := x.log ++ [.accepted pool x.handed] }
    | _, _ => { x with handed := x.handed + 1, log := x.log ++ [.handedBack x.handed] }
  | .stop restarts =>
    { x with
      lane := x.lane.close
      calls := x.calls ++ [⟨restarts, x.lane.open?⟩]
      log := x.log ++ [.stopped x.lane.open?] }
  | .goOn place =>
    match x.calls[place]? with
    | none => x
    | some call =>
      if x.mayReturn call then
        { x with
          lane := if call.restarts then x.lane.reopen else x.lane
          calls := x.calls.eraseIdx place
          log := x.log ++ [.returned call.restarts call.pool] }
      else x
  | .start pool =>
    match x.lane.start? pool with
    | none => x
    | some (job, lane) => { x with lane, log := x.log ++ [.started pool job] }
  | .finish pool job brokeOff =>
    if job ∈ x.lane.runningOf pool then
      { x with lane := x.lane.finish pool (· = job), log := x.log ++ [.ended pool job brokeOff] }
    else x

/-- The lane in use after a row of events. -/
def run (x : Floor) (events : List Event) : Floor := events.foldl step x

theorem run_append (x : Floor) (xs ys : List Event) : x.run (xs ++ ys) = (x.run xs).run ys :=
  List.foldl_append

end Floor

/-! ### The log -/

/-- How far a job has got. -/
inductive Stage where
  | accepted
  | started
  | ended

/-- The job that an entry says has got so far, with its pool. -/
def Entry.job? : Stage → Entry → Option (Nat × Nat)
  | .accepted, .accepted pool job => some (pool, job)
  | .started, .started pool job => some (pool, job)
  | .ended, .ended pool job _ => some (pool, job)
  | _, _ => none

/-- The job that an entry says was handed in. -/
def Entry.handed? : Entry → Option Nat
  | .accepted _ job => some job
  | .handedBack job => some job
  | _ => none

/-- The jobs handed in, in their order. -/
def handedIn (log : List Entry) : List Nat := log.filterMap Entry.handed?

/-- The jobs of a pool that have got so far, in the order in which they did. -/
def jobs (stage : Stage) (pool : Nat) (log : List Entry) : List Nat :=
  (log.filterMap (Entry.job? stage)).filterMap fun a => if a.1 = pool then some a.2 else none

variable {stage : Stage} {log : List Entry} {e : Entry} {pool pool' job : Nat}

theorem jobs_concat_self (h : e.job? stage = some (pool, job)) :
    jobs stage pool (log ++ [e]) = jobs stage pool log ++ [job] := by
  simp [jobs, h]

theorem jobs_concat_of_ne (h : e.job? stage = some (pool, job)) (hne : pool' ≠ pool) :
    jobs stage pool' (log ++ [e]) = jobs stage pool' log := by
  simp [jobs, h, hne.symm]

theorem jobs_concat_of_none (h : e.job? stage = none) (pool : Nat) :
    jobs stage pool (log ++ [e]) = jobs stage pool log := by
  simp [jobs, h]

/-- An entry tells of a job of a pool. -/
inductive Entry.Of (pool : Nat) : Entry → Prop
  | accepted (job : Nat) : Of pool (.accepted pool job)
  | started (job : Nat) : Of pool (.started pool job)
  | ended (job : Nat) (brokeOff : Bool) : Of pool (.ended pool job brokeOff)

theorem Entry.Of.jobs_of_ne (h : e.Of pool) (hne : pool' ≠ pool) (stage : Stage)
    (log : List Entry) :
    jobs stage pool' (log ++ [e]) = jobs stage pool' log := by
  cases h with
  | accepted | started | ended =>
    cases stage <;> first | exact jobs_concat_of_ne rfl hne | exact jobs_concat_of_none rfl pool'

theorem handedIn_concat_of_none (h : e.handed? = none) : handedIn (log ++ [e]) = handedIn log := by
  simp [handedIn, h]

theorem handedIn_concat (h : e.handed? = some job) :
    handedIn (log ++ [e]) = handedIn log ++ [job] := by
  simp [handedIn, h]

/-- The job that an entry says was handed back. -/
def Entry.handedBack? : Entry → Option Nat
  | .handedBack job => some job
  | _ => none

/-- A job that was handed in was accepted for a pool or handed back. -/
theorem handedIn_perm (log : List Entry) : (handedIn log).Perm
    ((log.filterMap (Entry.job? .accepted)).map Prod.snd ++ log.filterMap Entry.handedBack?) := by
  induction log with
  | nil => exact .nil
  | cons e log ih =>
    cases e with
    | accepted pool job => exact ih.cons job
    | handedBack job => exact (ih.cons job).trans List.perm_middle.symm
    | started | ended | stopped | returned => exact ih

theorem mem_jobs : job ∈ jobs stage pool log ↔ (pool, job) ∈ log.filterMap (Entry.job? stage) := by
  simp only [jobs, List.mem_filterMap, Option.ite_none_right_eq_some, Option.some.injEq,
    Prod.exists]
  constructor
  · rintro ⟨pool', job', hmem, rfl, rfl⟩
    exact hmem
  · exact fun hmem => ⟨pool, job, hmem, rfl, rfl⟩

theorem jobs_sublist :
    (jobs stage pool log).Sublist ((log.filterMap (Entry.job? stage)).map Prod.snd) := by
  unfold jobs
  induction log.filterMap (Entry.job? stage) with
  | nil => exact .slnil
  | cons a rest ih =>
    by_cases ha : a.1 = pool
    · simpa [ha] using ih
    · simpa [ha] using ih.cons a.2

/-- The call that an entry says has returned: whether it has started the lane anew. -/
def Entry.returned? : Entry → Option Bool
  | .returned restarts _ => some restarts
  | _ => none

/-- The call that is made with an event: whether it is to start the lane anew. -/
def Event.stop? : Event → Option Bool
  | .stop restarts => some restarts
  | _ => none

namespace Floor

variable {x : Floor}

/-! ### What every step keeps -/

/-- In a pool, the jobs that were taken and those that wait are the jobs that were accepted, in that
order, and those that ended and those in work are the jobs that were taken. -/
structure Tallied (l : Lane Nat) (log : List Entry) (pool : Nat) : Prop where
  queued : jobs .started pool log ++ l.queueOf pool = jobs .accepted pool log
  working : (jobs .ended pool log : Multiset Nat) + l.runningOf pool = jobs .started pool log
  manned : (l.runningOf pool).length ≤ l.poolSize

theorem Tallied.congr {l l' : Lane Nat} {log log' : List Entry} (h : Tallied l log pool)
    (hqueue : l'.queueOf pool = l.queueOf pool) (hrunning : l'.runningOf pool = l.runningOf pool)
    (hsize : l'.poolSize = l.poolSize)
    (hjobs : ∀ stage, jobs stage pool log' = jobs stage pool log) :
    Tallied l' log' pool where
  queued := by rw [hjobs, hqueue, hjobs, h.queued]
  working := by rw [hjobs, hrunning, hjobs, h.working]
  manned := by rw [hrunning, hsize]; exact h.manned

/-- What is the case in a lane in use. -/
structure Kept (x : Floor) : Prop where
  numbered : x.lane.Numbered
  handed : handedIn x.log = List.range x.handed
  tallied : ∀ pool, Tallied x.lane x.log pool

theorem kept_opened (kind : LaneKind) (workers : Nat) : (opened kind workers).Kept where
  numbered := numbered_new kind workers
  handed := rfl
  tallied pool := by
    have hqueue : (opened kind workers).lane.queueOf pool = [] := by
      by_cases hp : 0 = pool <;> simp [opened, queueOf, pool?, new, hp]
    have hrunning : (opened kind workers).lane.runningOf pool = [] := by
      by_cases hp : 0 = pool <;> simp [opened, runningOf, pool?, new, hp]
    exact ⟨by rw [hqueue]; rfl, by rw [hrunning]; rfl, by rw [hrunning]; exact Nat.zero_le _⟩

section Tallied

variable {l : Lane Nat} {q : Pool Nat} {f : Pool Nat → Pool Nat} (h : ∀ pool, Tallied l log pool)
include h

/-- One pool changes, and an entry tells of it. -/
theorem tallied_changePool (hf : ∀ q, (f q).number = q.number) (hq : l.pool? pool = some q)
    (he : e.Of pool)
    (hqueued : jobs .started pool (log ++ [e]) ++ (f q).queue = jobs .accepted pool (log ++ [e]))
    (hworking : (jobs .ended pool (log ++ [e]) : Multiset Nat) + (f q).running =
      jobs .started pool (log ++ [e]))
    (hmanned : (f q).running.length ≤ l.poolSize) (pool' : Nat) :
    Tallied (l.changePool pool f) (log ++ [e]) pool' := by
  by_cases hne : pool' = pool
  · subst hne
    have hq' := pool?_changePool_self hf hq
    exact ⟨by rw [queueOf_of_pool hq', hqueued], by rw [runningOf_of_pool hq', hworking],
      by rw [runningOf_of_pool hq']; exact hmanned⟩
  · have hpool := pool?_changePool_of_ne (l := l) hf hne
    exact (h pool').congr (by rw [queueOf, hpool]; rfl) (by rw [runningOf, hpool]; rfl) rfl
      fun stage => he.jobs_of_ne hne stage log

theorem tallied_submit (hq : l.pool? pool = some q) (job : Nat) :
    ∀ pool', Tallied (l.changePool pool fun q => { q with queue := q.queue ++ [job] })
      (log ++ [.accepted pool job]) pool' := by
  obtain ⟨hqueued, hworking, hmanned⟩ := h pool
  rw [queueOf_of_pool hq] at hqueued
  rw [runningOf_of_pool hq] at hworking hmanned
  refine tallied_changePool h (fun _ => rfl) hq (.accepted job) ?_ ?_ hmanned
  · rw [jobs_concat_of_none rfl, jobs_concat_self rfl, ← hqueued, List.append_assoc]
  · rw [jobs_concat_of_none rfl, jobs_concat_of_none rfl]
    exact hworking

theorem tallied_start {job : Nat} {rest running : List Nat}
    (hq : l.pool? pool = some ⟨pool, job :: rest, running⟩) (hfree : running.length < l.poolSize) :
    ∀ pool',
      Tallied (l.changePool pool fun q => { q with queue := rest, running := running ++ [job] })
        (log ++ [.started pool job]) pool' := by
  obtain ⟨hqueued, hworking, -⟩ := h pool
  rw [queueOf_of_pool hq] at hqueued
  rw [runningOf_of_pool hq] at hworking
  refine tallied_changePool h (fun _ => rfl) hq (.started job) ?_ ?_ ?_
  · rw [jobs_concat_self rfl, jobs_concat_of_none rfl, ← hqueued, List.append_assoc]
    rfl
  · rw [jobs_concat_of_none rfl, jobs_concat_self rfl, ← Multiset.coe_add, ← Multiset.coe_add,
      ← hworking, add_assoc]
  · rw [List.length_append]
    exact hfree

theorem tallied_finish {job : Nat} (hq : l.pool? pool = some q) (hmem : job ∈ q.running)
    (brokeOff : Bool) :
    ∀ pool', Tallied (l.finish pool (· = job)) (log ++ [.ended pool job brokeOff]) pool' := by
  obtain ⟨hqueued, hworking, hmanned⟩ := h pool
  rw [queueOf_of_pool hq] at hqueued
  rw [runningOf_of_pool hq] at hworking hmanned
  refine tallied_changePool h (fun _ => rfl) hq (.ended job brokeOff) ?_ ?_ ?_
  · rw [jobs_concat_of_none rfl, jobs_concat_of_none rfl]
    exact hqueued
  · obtain ⟨job', hjob', hrunning⟩ : ∃ job', decide (job' = job) = true ∧
        (q.running : Multiset Nat) = job' ::ₘ (q.running.eraseP (· = job) : Multiset Nat) :=
      eq_cons_eraseP hmem (decide_eq_true rfl)
    obtain rfl : job' = job := of_decide_eq_true hjob'
    rw [jobs_concat_self rfl, jobs_concat_of_none rfl, ← hworking, hrunning,
      ← Multiset.coe_add, ← Multiset.singleton_add, ← add_assoc]
    rfl
  · exact (List.length_eraseP_le).trans hmanned

end Tallied

theorem Kept.submit (h : x.Kept) : (x.step .submit).Kept := by
  cases ha : x.lane.isRunning with
  | false =>
    simp only [Floor.step, open?_of_stopped ha]
    exact ⟨h.numbered, by rw [handedIn_concat rfl, h.handed, List.range_succ], fun pool =>
      (h.tallied pool).congr rfl rfl rfl
        fun stage => jobs_concat_of_none (by cases stage <;> rfl) pool⟩
  | true =>
    obtain ⟨q, hopen, hq, hsubmit⟩ := submit?_of_running h.numbered ha x.handed
    simp only [step, hopen, hsubmit]
    exact ⟨h.numbered.changePool fun _ => rfl,
      by rw [handedIn_concat rfl, h.handed, List.range_succ],
      tallied_submit h.tallied hq x.handed⟩

/-- Nothing happens to the jobs of a pool. -/
theorem Kept.quiet (h : x.Kept) {lane : Lane Nat} {calls : List Stopping} {e : Entry}
    (hn : lane.Numbered) (hqueue : ∀ pool, lane.queueOf pool = x.lane.queueOf pool)
    (hrunning : ∀ pool, lane.runningOf pool = x.lane.runningOf pool)
    (hsize : lane.poolSize = x.lane.poolSize) (hjob : ∀ stage, e.job? stage = none)
    (hhanded : e.handed? = none) :
    Kept { x with lane, calls, log := x.log ++ [e] } where
  numbered := hn
  handed := by rw [handedIn_concat_of_none hhanded, h.handed]
  tallied pool := (h.tallied pool).congr (hqueue pool) (hrunning pool) hsize fun stage =>
    jobs_concat_of_none (hjob stage) pool

/-- A call returns, and may have started the lane anew. -/
theorem Kept.returned (h : x.Kept) (call : Stopping) (calls : List Stopping) :
    Kept { x with
      lane := if call.restarts then x.lane.reopen else x.lane
      calls
      log := x.log ++ [.returned call.restarts call.pool] } := by
  refine h.quiet ?_ ?_ ?_ ?_ (fun stage => by cases stage <;> rfl) rfl
  · split
    · exact h.numbered.reopen
    · exact h.numbered
  · intro pool
    split
    · exact queueOf_reopen h.numbered pool
    · rfl
  · intro pool
    split
    · exact runningOf_reopen h.numbered pool
    · rfl
  · split <;> rfl

/-- **What every step keeps.** -/
theorem Kept.step (h : x.Kept) (event : Event) : (x.step event).Kept := by
  cases event with
  | submit => exact h.submit
  | stop restarts =>
    exact h.quiet h.numbered.close (fun _ => rfl) (fun _ => rfl) rfl
      (fun stage => by cases stage <;> rfl) rfl
  | goOn place =>
    simp only [Floor.step]
    split
    · exact h
    · split
      · exact h.returned _ _
      · exact h
  | start pool =>
    simp only [Floor.step]
    split
    · exact h
    next job lane hstart =>
      obtain ⟨rest, running, hq, hfree, rfl⟩ := start?_eq_some hstart
      exact ⟨h.numbered.start hstart, by rw [handedIn_concat_of_none rfl, h.handed],
        tallied_start h.tallied hq hfree⟩
  | finish pool job brokeOff =>
    simp only [Floor.step]
    split
    next hmem =>
      obtain ⟨q, hq, -, hrunning⟩ := exists_pool_of_mem (.inr hmem)
      exact ⟨h.numbered.finish pool _, by rw [handedIn_concat_of_none rfl, h.handed],
        tallied_finish h.tallied hq (hrunning ▸ hmem) brokeOff⟩
    · exact h

theorem kept_run (h : x.Kept) (events : List Event) : (x.run events).Kept := by
  induction events using List.reverseRecOn with
  | nil => exact h
  | append_singleton events event ih => exact run_append x events [event] ▸ ih.step event

/-! ### When the lane runs -/

/-- The event is the return of a call that starts the lane anew. -/
def Reopens (x : Floor) (event : Event) : Prop :=
  ∃ place call, event = .goOn place ∧ x.calls[place]? = some call ∧ call.restarts = true ∧
    x.mayReturn call = true

/-- Nobody has stopped the lane since it was opened, or since a call that started it anew
returned. -/
def RunsAfter (start : Floor) (events : List Event) : Prop :=
  ∃ before after, events = before ++ after ∧ (∀ restarts, .stop restarts ∉ after) ∧
    (before = [] ∨
      ∃ earlier event, before = earlier ++ [event] ∧ (start.run earlier).Reopens event)

section Running

variable {start : Floor} {event : Event} {events : List Event}

theorem submit?_keeps {l l' : Lane Nat} (h : l.submit? job = some l') :
    l'.isRunning = l.isRunning ∧ l'.poolSize = l.poolSize := by
  unfold submit? at h
  split at h
  · cases h
    exact ⟨rfl, rfl⟩
  · cases h

/-- Neither a job that is handed in nor what workers do stops the lane or opens it, and nothing
changes how many workers there are. -/
theorem step_keeps (hstop : ∀ restarts, event ≠ .stop restarts)
    (hgoOn : ∀ place, event ≠ .goOn place) :
    (x.step event).lane.isRunning = x.lane.isRunning ∧
      (x.step event).lane.poolSize = x.lane.poolSize := by
  cases event with
  | submit =>
    simp only [Floor.step]
    split
    next hsubmit => exact submit?_keeps hsubmit
    · exact ⟨rfl, rfl⟩
  | stop restarts => exact absurd rfl (hstop restarts)
  | goOn place => exact absurd rfl (hgoOn place)
  | start pool =>
    simp only [Floor.step]
    split
    · exact ⟨rfl, rfl⟩
    next hstart =>
      obtain ⟨rest, running, -, -, rfl⟩ := start?_eq_some hstart
      exact ⟨rfl, rfl⟩
  | finish pool job brokeOff =>
    simp only [Floor.step]
    split <;> exact ⟨rfl, rfl⟩

theorem isRunning_goOn_iff (x : Floor) (place : Nat) :
    (x.step (.goOn place)).lane.isRunning = true ↔
      x.Reopens (.goOn place) ∨ x.lane.isRunning = true := by
  rcases hplace : x.calls[place]? with _ | call
  · have hnone : ¬ x.Reopens (.goOn place) := by
      rintro ⟨place', call, heq, hcall, -⟩
      cases heq
      cases hplace.symm.trans hcall
    simp [Floor.step, hplace, hnone]
  · have hreopens : x.Reopens (.goOn place) ↔
        call.restarts = true ∧ x.mayReturn call = true := by
      simp [Reopens, hplace]
    rw [hreopens]
    simp only [Floor.step, hplace]
    cases x.mayReturn call <;> cases call.restarts <;> simp [reopen, isRunning]

/-- **A lane runs after an event** if a call that starts it anew has just returned, or if it ran
before and is not stopped. -/
theorem isRunning_step_iff (x : Floor) (event : Event) :
    (x.step event).lane.isRunning = true ↔
      x.Reopens event ∨ x.lane.isRunning = true ∧ ∀ restarts, event ≠ .stop restarts := by
  have hquiet : (∀ place, event ≠ .goOn place) → ¬ x.Reopens event := by
    rintro hne ⟨place, call, heq, -⟩
    exact hne place heq
  have hkeeps (hstop : ∀ restarts, event ≠ .stop restarts) (hgoOn : ∀ place, event ≠ .goOn place) :
      (x.step event).lane.isRunning = x.lane.isRunning := (step_keeps hstop hgoOn).1
  cases event with
  | stop restarts =>
    have hstops : (x.step (.stop restarts)).lane.isRunning = false := rfl
    simp [hstops, hquiet]
  | goOn place => simp [isRunning_goOn_iff]
  | submit | start | finish =>
    rw [hkeeps (by simp) (by simp)]
    simp [hquiet]

/-- One more event reopens the lane, or it leaves it running. -/
theorem runsAfter_concat_iff : start.RunsAfter (events ++ [event]) ↔
    (start.run events).Reopens event ∨
      start.RunsAfter events ∧ ∀ restarts, event ≠ .stop restarts := by
  constructor
  · rintro ⟨before, after, heq, hnone, hbefore⟩
    rcases List.eq_nil_or_concat after with rfl | ⟨after, last, rfl⟩
    · rw [List.append_nil] at heq
      obtain rfl | ⟨earlier, event', rfl, hreopens⟩ := hbefore
      · simp at heq
      · obtain ⟨rfl, hevent⟩ := List.append_inj' heq rfl
        cases hevent
        exact .inl hreopens
    · rw [List.concat_eq_append] at heq hnone
      rw [← List.append_assoc] at heq
      obtain ⟨rfl, hevent⟩ := List.append_inj' heq rfl
      cases hevent
      refine .inr ⟨⟨before, after, rfl, fun restarts hmem => ?_, hbefore⟩, fun restarts he => ?_⟩
      · exact hnone restarts (List.mem_append_left _ hmem)
      · exact hnone restarts (List.mem_append_right _ (List.mem_singleton.mpr he.symm))
  · rintro (hreopens | ⟨⟨before, after, rfl, hnone, hbefore⟩, hne⟩)
    · refine ⟨events ++ [event], [], (List.append_nil _).symm, by simp, .inr ?_⟩
      exact ⟨events, event, rfl, hreopens⟩
    · refine ⟨before, after ++ [event], List.append_assoc .., fun restarts hmem => ?_, hbefore⟩
      rcases List.mem_append.mp hmem with hmem | hmem
      · exact hnone restarts hmem
      · exact hne restarts (List.mem_singleton.mp hmem).symm

/-- **A lane runs until it is stopped**, and again from the return of a call that starts it anew. -/
theorem isRunning_run_iff (h : start.lane.isRunning = true) (events : List Event) :
    (start.run events).lane.isRunning = true ↔ start.RunsAfter events := by
  induction events using List.reverseRecOn with
  | nil => exact iff_of_true h ⟨[], [], rfl, by simp, .inl rfl⟩
  | append_singleton events event ih =>
    rw [runsAfter_concat_iff, run_append, ← ih]
    exact isRunning_step_iff (start.run events) event

theorem poolSize_step (x : Floor) (event : Event) :
    (x.step event).lane.poolSize = x.lane.poolSize := by
  cases event with
  | stop restarts => rfl
  | goOn place =>
    simp only [Floor.step]
    split
    · rfl
    · split
      · dsimp only
        split <;> rfl
      · rfl
  | submit | start | finish => exact (step_keeps (by simp) (by simp)).2

theorem poolSize_run (x : Floor) (events : List Event) :
    (x.run events).lane.poolSize = x.lane.poolSize := by
  induction events using List.reverseRecOn with
  | nil => rfl
  | append_singleton events event ih =>
    rw [run_append]
    exact (poolSize_step _ event).trans ih

/-- The calls that have returned, and those that wait. -/
def callsMade (x : Floor) : List Bool :=
  x.log.filterMap Entry.returned? ++ x.calls.map (·.restarts)

theorem callsMade_step (x : Floor) (event : Event) :
    (x.step event).callsMade.Perm (x.callsMade ++ event.stop?.toList) := by
  cases event with
  | stop restarts => simp [callsMade, Floor.step, List.filterMap_cons, Entry.returned?, Event.stop?]
  | goOn place =>
    rw [show (Event.goOn place).stop?.toList = [] from rfl, List.append_nil]
    simp only [Floor.step]
    split
    · exact .refl _
    next call hcall =>
      split
      · -- The call moves from those that wait to those that have returned.
        obtain ⟨hplace, rfl⟩ := List.getElem?_eq_some_iff.mp hcall
        have hcalls := (List.getElem_cons_eraseIdx_perm hplace).map Stopping.restarts
        simpa [callsMade, List.filterMap_cons, Entry.returned?] using hcalls.append_left _
      · exact .refl _
  | submit | start | finish =>
    simp only [Floor.step]
    split <;> simp [callsMade, List.filterMap_cons, Entry.returned?, Event.stop?]

/-- Every call that is made has returned, or it waits. -/
theorem callsMade_run (x : Floor) (events : List Event) :
    (x.run events).callsMade.Perm (x.callsMade ++ events.filterMap Event.stop?) := by
  induction events using List.reverseRecOn with
  | nil => simp [run]
  | append_singleton events event ih =>
    rw [run_append, List.filterMap_append, ← List.append_assoc]
    exact (callsMade_step _ event).trans (ih.append_right _)

end Running

/-! ### Calls that wait -/

/-- A pool that is worked off has brought every job to its end that was accepted for it. -/
theorem Tallied.perm_of_idle {l : Lane Nat} (h : Tallied l log pool)
    (hidle : l.isIdle pool = true) :
    (jobs .ended pool log).Perm (jobs .accepted pool log) := by
  obtain ⟨hqueue, hrunning⟩ := isIdle_iff.mp hidle
  rw [← h.queued, hqueue, List.append_nil]
  refine Multiset.coe_eq_coe.mp ?_
  rw [← h.working, hrunning]
  exact (add_zero _).symm

/-- Nobody stops the lane while somebody else who has stopped it waits for it: who did would find no
pool to wait for, and return at once. -/
def InTurn (start : Floor) (events : List Event) : Prop :=
  ∀ before restarts after, events = before ++ .stop restarts :: after →
    (start.run before).calls = []

/-- The pool is open, or somebody waits for it. -/
def Attended (x : Floor) (pool : Nat) : Prop :=
  x.lane.open? = some pool ∨ ∃ call ∈ x.calls, call.pool = some pool

/-- What is the case besides where calls come in turn: every pool is worked off, but for the one
that is open or waited for. -/
structure Orderly (x : Floor) : Prop where
  alone : x.calls.length ≤ 1
  closed : x.calls ≠ [] → x.lane.open? = none
  others : ∀ pool, x.Attended pool ∨ x.lane.isIdle pool = true

theorem orderly_opened (kind : LaneKind) (workers : Nat) : (opened kind workers).Orderly where
  alone := Nat.zero_le 1
  closed h := absurd rfl h
  others pool := by
    by_cases hp : 0 = pool
    · exact .inl (.inl (by simp [opened, open?, new, hp]))
    · exact .inr (by simp [opened, isIdle, pool?, new, hp])

section Orderly

variable (h : x.Orderly)
include h

/-- No other pool is attended besides the one that somebody waits for. -/
theorem Orderly.attended_of_call {call : Stopping} (hcall : call ∈ x.calls)
    (hpool : x.Attended pool) :
    call.pool = some pool := by
  rcases hpool with hopen | ⟨call', hcall', hpool⟩
  · rw [h.closed (List.ne_nil_of_mem hcall)] at hopen
    cases hopen
  · obtain ⟨only, honly⟩ : ∃ only, x.calls = [only] :=
      List.length_eq_one_iff.mp (Nat.le_antisymm h.alone (List.length_pos_of_mem hcall))
    rw [honly, List.mem_singleton] at hcall hcall'
    rw [hcall, ← hcall', hpool]

/-- Where a call may return, every pool is worked off. -/
theorem Orderly.isIdle_of_mayReturn {call : Stopping} (hcall : call ∈ x.calls)
    (hmay : x.mayReturn call = true) (pool : Nat) : x.lane.isIdle pool = true := by
  rcases h.others pool with hpool | hidle
  · rw [mayReturn, h.attended_of_call hcall hpool] at hmay
    exact hmay
  · exact hidle

/-- Only one pool is not worked off. -/
theorem Orderly.isIdle_of_ne (hbusy : x.lane.isIdle pool = false) (hne : pool' ≠ pool) :
    x.lane.isIdle pool' = true := by
  have hpool := (h.others pool).resolve_right (by simp [hbusy])
  refine (h.others pool').resolve_left fun hpool' => hne ?_
  rcases hpool with hopen | ⟨call, hcall, hcallPool⟩
  · rcases hpool' with hopen' | ⟨call, hcall, -⟩
    · exact Option.some.inj (hopen'.symm.trans hopen)
    · rw [h.closed (List.ne_nil_of_mem hcall)] at hopen
      cases hopen
  · exact Option.some.inj ((h.attended_of_call hcall hpool').symm.trans hcallPool)

/-- A pool changes that is not worked off. -/
theorem Orderly.changePool {f : Pool Nat → Pool Nat} (hf : ∀ q, (f q).number = q.number)
    (hpool : x.Attended pool ∨ x.lane.isIdle pool = false) (handed : Nat) (log : List Entry) :
    Orderly { x with lane := x.lane.changePool pool f, handed, log } where
  alone := h.alone
  closed hne := (open?_changePool hf x.lane pool).trans (h.closed hne)
  others pool' := by
    have hopen := open?_changePool hf x.lane pool
    by_cases hp : pool' = pool
    · subst hp
      have hattended := hpool.elim id fun hbusy => (h.others pool').resolve_right (by simp [hbusy])
      exact .inl (hattended.imp_left hopen.trans)
    · refine (h.others pool').imp (Or.imp_left hopen.trans) fun hidle => ?_
      change (x.lane.changePool pool f).isIdle pool' = true
      rw [isIdle, pool?_changePool_of_ne hf hp]
      exact hidle

/-- A call returns. -/
theorem Orderly.returned {call : Stopping} (hn : x.lane.Numbered) (hcall : call ∈ x.calls)
    (hmay : x.mayReturn call = true) (log : List Entry) :
    Orderly { x with
      lane := if call.restarts then x.lane.reopen else x.lane
      calls := []
      log } where
  alone := Nat.zero_le 1
  closed hne := absurd rfl hne
  others pool := by
    obtain ⟨hqueue, hrunning⟩ := isIdle_iff.mp (h.isIdle_of_mayReturn hcall hmay pool)
    refine .inr (isIdle_iff.mpr ?_)
    dsimp only
    split
    · exact ⟨(queueOf_reopen hn pool).trans hqueue, (runningOf_reopen hn pool).trans hrunning⟩
    · exact ⟨hqueue, hrunning⟩

/-- **What every step keeps besides**, where calls come in turn. -/
theorem Orderly.step (hk : x.Kept) (event : Event)
    (hturn : ∀ restarts, event = .stop restarts → x.calls = []) : (x.step event).Orderly := by
  cases event with
  | submit =>
    cases ha : x.lane.isRunning with
    | false =>
      simp only [Floor.step, open?_of_stopped ha]
      exact ⟨h.alone, h.closed, h.others⟩
    | true =>
      obtain ⟨q, hopen, -, hsubmit⟩ := submit?_of_running hk.numbered ha x.handed
      simp only [Floor.step, hopen, hsubmit]
      refine h.changePool ?_ (.inl (.inl hopen)) _ _
      exact fun _ => rfl
  | stop restarts =>
    have hnone := hturn restarts rfl
    refine ⟨by simp [Floor.step, hnone], fun _ => rfl, fun pool => ?_⟩
    refine (h.others pool).imp_left fun hpool => ?_
    rcases hpool with hopen | ⟨call, hcall, -⟩
    · exact .inr ⟨_, List.mem_append_right _ (List.mem_singleton_self _), hopen⟩
    · rw [hnone] at hcall
      cases hcall
  | goOn place =>
    simp only [Floor.step]
    split
    · exact h
    next call hplace =>
      split
      next hmay =>
        have hcall := List.mem_of_getElem? hplace
        have hnone : x.calls.eraseIdx place = [] := by
          refine List.eq_nil_of_length_eq_zero ?_
          have hlt := (List.getElem?_eq_some_iff.mp hplace).1
          have halone := h.alone
          rw [List.length_eraseIdx_of_lt hlt]
          omega
        rw [hnone]
        exact h.returned hk.numbered hcall hmay _
      · exact h
  | start pool =>
    simp only [Floor.step]
    split
    · exact h
    next job lane hstart =>
      obtain ⟨rest, running, hq, -, rfl⟩ := start?_eq_some hstart
      have hbusy : x.lane.isIdle pool = false := by simp [isIdle, hq]
      refine h.changePool ?_ (.inr hbusy) _ _
      exact fun _ => rfl
  | finish pool job brokeOff =>
    simp only [Floor.step]
    split
    next hmem =>
      obtain ⟨q, hq, -, hrunning⟩ := exists_pool_of_mem (.inr hmem)
      rw [hrunning] at hmem
      have hbusy : x.lane.isIdle pool = false := by simp [isIdle, hq, List.ne_nil_of_mem hmem]
      refine h.changePool ?_ (.inr hbusy) _ _
      exact fun _ => rfl
    · exact h

end Orderly

/-- **Where calls come in turn**, that is kept by a whole run. -/
theorem orderly_run (h : x.Orderly) (hk : x.Kept) (events : List Event) (hturn : x.InTurn events) :
    (x.run events).Orderly := by
  induction events using List.reverseRecOn with
  | nil => exact h
  | append_singleton events event ih =>
    have hbefore : x.InTurn events := fun before restarts after heq =>
      hturn before restarts (after ++ [event]) (by rw [heq, List.append_assoc, List.cons_append])
    rw [run_append]
    exact (ih hbefore).step (kept_run hk events) event fun restarts heq =>
      hturn events restarts [] (by rw [heq])

/-! ### Work -/

/-- A worker takes a job, or one comes to its end: those that `breaks` tells break off. -/
inductive IsWork (breaks : Nat → Bool) : Event → Prop
  | start (pool : Nat) : IsWork breaks (.start pool)
  | finish (pool job : Nat) : IsWork breaks (.finish pool job (breaks job))

/-- How often workers can still do something. -/
def todo (x : Floor) : Nat := 2 * x.lane.waiting.card + x.lane.inWork.card

/-- What workers do takes them nearer to the end, and is nothing to who is outside. -/
theorem Kept.todo_step (h : x.Kept) {event : Event} {breaks : Nat → Bool}
    (hwork : IsWork breaks event) (hstep : x.step event ≠ x) :
    (x.step event).todo < x.todo ∧ (x.step event).calls = x.calls ∧
      ∀ pool, jobs .accepted pool (x.step event).log = jobs .accepted pool x.log := by
  cases hwork with
  | start pool =>
    rcases hstart : x.lane.start? pool with _ | ⟨job, lane⟩
    · exact absurd (by rw [Floor.step, hstart]) hstep
    · rw [Floor.step, hstart]
      refine ⟨?_, rfl, fun pool' => jobs_concat_of_none rfl pool'⟩
      have hwaiting := congrArg Multiset.card (waiting_start h.numbered hstart)
      have hinWork := congrArg Multiset.card (inWork_start h.numbered hstart)
      rw [Multiset.card_cons] at hwaiting hinWork
      simp only [todo]
      omega
  | finish pool job =>
    by_cases hmem : job ∈ x.lane.runningOf pool
    · rw [Floor.step, if_pos hmem]
      refine ⟨?_, rfl, fun pool' => jobs_concat_of_none rfl pool'⟩
      obtain ⟨q, hq, -, hrunning⟩ := exists_pool_of_mem (.inr hmem)
      have hinWork : (pool, job) ∈ x.lane.inWork := by
        refine Multiset.mem_bind.mpr ⟨q, List.mem_of_find?_eq_some hq, ?_⟩
        rw [number_of_pool? hq]
        exact List.mem_map_of_mem (hrunning ▸ hmem)
      obtain ⟨job', -, hfinish⟩ := inWork_finish h.numbered (· = job) hinWork (decide_eq_true rfl)
      have hcard := congrArg Multiset.card hfinish
      rw [Multiset.card_cons] at hcard
      simp only [todo, waiting_finish]
      omega
    · exact absurd (by rw [Floor.step, if_neg hmem]) hstep

/-- Where a pool is not worked off, a worker of it can do something. -/
theorem Kept.exists_work (h : x.Kept) (breaks : Nat → Bool) (hbusy : x.lane.isIdle pool = false) :
    ∃ event, IsWork breaks event ∧ x.step event ≠ x := by
  have hgrown : ∀ {y : Floor} {e : Entry}, y.log = x.log ++ [e] → y ≠ x := by
    rintro y e hlog rfl
    simpa using congrArg List.length hlog
  by_cases hrunning : x.lane.runningOf pool = []
  · obtain ⟨job, hjob⟩ : ∃ job, job ∈ x.lane.queueOf pool := by
      refine List.exists_mem_of_ne_nil _ fun hqueue => ?_
      rw [isIdle_iff.mpr ⟨hqueue, hrunning⟩] at hbusy
      cases hbusy
    obtain ⟨q, hq, hqueue, hrunning'⟩ := exists_pool_of_mem (.inl hjob)
    obtain rfl := number_of_pool? hq
    have hstart : (x.lane.start? q.number).isSome := by
      refine (start_of_waiting h.numbered (List.mem_of_find?_eq_some hq)
        (List.ne_nil_of_mem (hqueue ▸ hjob))).resolve_right fun hfull => ?_
      have hone : 1 ≤ x.lane.poolSize := Nat.le_max_right _ _
      rw [← hrunning', hrunning, List.length_nil] at hfull
      omega
    obtain ⟨⟨job', lane⟩, hstart⟩ := Option.isSome_iff_exists.mp hstart
    refine ⟨.start q.number, .start _, hgrown (e := .started q.number job') ?_⟩
    rw [Floor.step, hstart]
  · obtain ⟨job, hjob⟩ := List.exists_mem_of_ne_nil _ hrunning
    refine ⟨.finish pool job (breaks job), .finish _ _,
      hgrown (e := .ended pool job (breaks job)) ?_⟩
    rw [Floor.step, if_pos hjob]

/-- **Every job comes to its end**, whichever break off, if workers only go on. -/
theorem Kept.exists_workedOff (h : x.Kept) (breaks : Nat → Bool) :
    ∃ work, (∀ event ∈ work, IsWork breaks event) ∧ (∀ pool, (x.run work).lane.isIdle pool = true) ∧
      (x.run work).calls = x.calls ∧
      ∀ pool, jobs .accepted pool (x.run work).log = jobs .accepted pool x.log := by
  induction htodo : x.todo using Nat.strong_induction_on generalizing x with
  | _ todo ih =>
    by_cases hidle : ∀ pool, x.lane.isIdle pool = true
    · exact ⟨[], by simp, hidle, rfl, fun _ => rfl⟩
    · push Not at hidle
      obtain ⟨pool, hbusy⟩ := hidle
      obtain ⟨event, hwork, hstep⟩ := h.exists_work breaks (Bool.eq_false_iff.mpr hbusy)
      obtain ⟨hlt, hcalls, hjobs⟩ := h.todo_step hwork hstep
      obtain ⟨work, hall, hdone, hcalls', hjobs'⟩ := ih _ (htodo ▸ hlt) (h.step event) rfl
      refine ⟨event :: work, ?_, hdone, hcalls'.trans hcalls,
        fun pool => (hjobs' pool).trans (hjobs pool)⟩
      rintro event' hmem
      rcases List.mem_cons.mp hmem with rfl | hmem
      · exact hwork
      · exact hall event' hmem

/-! ### In every run -/

/-- A job is accepted once, for one pool, or it is handed back. -/
theorem Kept.accepted_once (h : x.Kept) : (∀ pool, (jobs .accepted pool x.log).Nodup) ∧
    (∀ pool pool' job, job ∈ jobs .accepted pool x.log → job ∈ jobs .accepted pool' x.log →
      pool = pool') ∧
    ∀ job, .handedBack job ∈ x.log → ∀ pool, job ∉ jobs .accepted pool x.log := by
  have hnodup : ((x.log.filterMap (Entry.job? .accepted)).map Prod.snd ++
      x.log.filterMap Entry.handedBack?).Nodup :=
    (handedIn_perm x.log).nodup_iff.mp (h.handed ▸ List.nodup_range)
  obtain ⟨haccepted, -, hdisjoint⟩ := List.nodup_append.mp hnodup
  refine ⟨fun pool => haccepted.sublist jobs_sublist, fun pool pool' job hmem hmem' => ?_,
    fun job hback pool hmem => ?_⟩
  · exact congrArg Prod.fst
      (List.inj_on_of_nodup_map haccepted (mem_jobs.mp hmem) (mem_jobs.mp hmem') rfl)
  · exact hdisjoint job (List.mem_map_of_mem (mem_jobs.mp hmem)) job
      (List.mem_filterMap.mpr ⟨_, hback, rfl⟩) rfl

/-- A worker that is alone takes a job only after the job before has ended. -/
theorem Kept.perm_of_start (h : x.Kept) (hone : x.lane.poolSize ≤ 1) {lane : Lane Nat}
    (hstart : x.lane.start? pool = some (job, lane)) :
    (jobs .ended pool x.log).Perm (jobs .started pool x.log) := by
  obtain ⟨rest, running, hq, hfree, -⟩ := start?_eq_some hstart
  obtain rfl : running = [] := List.eq_nil_of_length_eq_zero (by omega)
  have hworking := (h.tallied pool).working
  rw [runningOf_of_pool hq] at hworking
  exact Multiset.coe_eq_coe.mp ((add_zero _).symm.trans hworking)

/-- Where calls come in turn, a worker that is alone takes a job only after every job before has
ended, also those of other pools. -/
theorem Orderly.perm_of_start (h : x.Orderly) (hk : x.Kept) (hone : x.lane.poolSize ≤ 1)
    {lane : Lane Nat} (hstart : x.lane.start? pool = some (job, lane)) (pool' : Nat) :
    (jobs .ended pool' x.log).Perm (jobs .started pool' x.log) := by
  by_cases hp : pool' = pool
  · exact hp ▸ hk.perm_of_start hone hstart
  · obtain ⟨rest, running, hq, -, -⟩ := start?_eq_some hstart
    have hbusy : x.lane.isIdle pool = false := by simp [isIdle, hq]
    have hworking := (hk.tallied pool').working
    rw [(isIdle_iff.mp (h.isIdle_of_ne hbusy hp)).2] at hworking
    exact Multiset.coe_eq_coe.mp ((add_zero _).symm.trans hworking)

/-- A lane accepts a job just if it is running. -/
theorem Kept.step_submit (h : x.Kept) :
    (x.lane.isRunning = true → ∃ pool lane, x.lane.open? = some pool ∧
      x.step .submit =
        { x with lane, handed := x.handed + 1, log := x.log ++ [.accepted pool x.handed] }) ∧
    (x.lane.isRunning = false →
      x.step .submit =
        { x with handed := x.handed + 1, log := x.log ++ [.handedBack x.handed] }) := by
  refine ⟨fun ha => ?_, fun ha => ?_⟩
  · obtain ⟨q, hopen, -, hsubmit⟩ := submit?_of_running h.numbered ha x.handed
    obtain ⟨lane, hsubmit⟩ : ∃ lane, x.lane.submit? x.handed = some lane := ⟨_, hsubmit⟩
    exact ⟨q.number, lane, hopen, by simp only [Floor.step, hopen, hsubmit]⟩
  · simp only [Floor.step, open?_of_stopped ha]

/-- **A lane loses nothing and does nothing twice**, whatever is called and whatever workers do in
which order. It is running as long as nobody has stopped it since it was opened, or since a call
that started it anew returned: from each stop on it is not, until such a call has returned. Every
call that stopped it has returned or waits still. It accepts a job just if it is running, and then
for the pool that is open; else the job is handed back and never taken. In each pool jobs are taken
in the order in which they were accepted, each of them once, and those that were taken and have not
ended are in work. A worker that is alone takes a job only after the one before has ended. Whichever
jobs break off, as long as a pool is not worked off its workers can do something, that takes them
nearer to the end, and if they go on every job that was accepted comes to its end and every call may
return. A call that stopped a pool returns only when every job of that pool has ended. If calls come
in turn, it returns only when every job that was accepted before has ended, and a worker that is
alone takes a job only after every job before has ended, also those of earlier pools. -/
theorem nothing_lost (kind : LaneKind) (workers : Nat) (events : List Event) :
    let start := opened kind workers
    let x := start.run events
    (x.lane.isRunning = true ↔ start.RunsAfter events) ∧
    x.callsMade.Perm (events.filterMap Event.stop?) ∧
    ((x.lane.isRunning = true → ∃ pool lane, x.lane.open? = some pool ∧
        x.step .submit =
          { x with lane, handed := x.handed + 1, log := x.log ++ [.accepted pool x.handed] }) ∧
      (x.lane.isRunning = false →
        x.step .submit =
          { x with handed := x.handed + 1, log := x.log ++ [.handedBack x.handed] })) ∧
    (handedIn x.log = List.range x.handed ∧ (∀ pool, (jobs .accepted pool x.log).Nodup) ∧
      (∀ pool pool' job, job ∈ jobs .accepted pool x.log → job ∈ jobs .accepted pool' x.log →
        pool = pool') ∧
      ∀ job, .handedBack job ∈ x.log → ∀ pool, job ∉ jobs .accepted pool x.log) ∧
    (∀ pool, jobs .started pool x.log ++ x.lane.queueOf pool = jobs .accepted pool x.log ∧
      (jobs .ended pool x.log ++ x.lane.runningOf pool).Perm (jobs .started pool x.log)) ∧
    (∀ pool job lane, workers ≤ 1 → x.lane.start? pool = some (job, lane) →
      (jobs .ended pool x.log).Perm (jobs .started pool x.log)) ∧
    (∀ breaks : Nat → Bool,
      (∀ pool, x.lane.isIdle pool = false → ∃ event, IsWork breaks event ∧ x.step event ≠ x) ∧
      (∀ event, IsWork breaks event → x.step event ≠ x → (x.step event).todo < x.todo) ∧
      ∃ work, (∀ event ∈ work, IsWork breaks event) ∧
        ((x.run work).calls = x.calls ∧ ∀ call ∈ x.calls, (x.run work).mayReturn call = true) ∧
        ∀ pool, (jobs .ended pool (x.run work).log).Perm (jobs .accepted pool x.log)) ∧
    (∀ call ∈ x.calls, x.mayReturn call = true → ∀ pool, call.pool = some pool →
      (jobs .ended pool x.log).Perm (jobs .accepted pool x.log)) ∧
    (start.InTurn events →
      (∀ call ∈ x.calls, x.mayReturn call = true → ∀ pool,
        (jobs .ended pool x.log).Perm (jobs .accepted pool x.log)) ∧
      ∀ pool job lane, workers ≤ 1 → x.lane.start? pool = some (job, lane) → ∀ pool',
        (jobs .ended pool' x.log).Perm (jobs .started pool' x.log)) := by
  intro start x
  have hstart : start.Kept := kept_opened kind workers
  have h : x.Kept := kept_run hstart events
  have hsize : workers ≤ 1 → x.lane.poolSize ≤ 1 := fun hone => by
    have hrun := poolSize_run start events
    exact hrun.le.trans (max_le hone le_rfl)
  refine ⟨isRunning_run_iff rfl events, callsMade_run start events, h.step_submit,
    ⟨h.handed, h.accepted_once⟩, fun pool => ?_, fun pool job lane hone htake => ?_,
    fun breaks => ⟨fun pool hbusy => h.exists_work breaks hbusy,
      fun event hwork hstep => (h.todo_step hwork hstep).1, ?_⟩,
    fun call hcall hmay pool hpool => ?_, fun hturn => ?_⟩
  · exact ⟨(h.tallied pool).queued, Multiset.coe_eq_coe.mp (h.tallied pool).working⟩
  · exact h.perm_of_start (hsize hone) htake
  · obtain ⟨work, hall, hidle, hcalls, hjobs⟩ := h.exists_workedOff breaks
    refine ⟨work, hall, ⟨hcalls, fun call hcall => ?_⟩, fun pool => ?_⟩
    · unfold mayReturn
      rcases call.pool with _ | pool
      · rfl
      · exact hidle pool
    · exact hjobs pool ▸ ((kept_run h work).tallied pool).perm_of_idle (hidle pool)
  · refine (h.tallied pool).perm_of_idle ?_
    rw [mayReturn, hpool] at hmay
    exact hmay
  · have ho : x.Orderly := orderly_run (orderly_opened kind workers) hstart events hturn
    exact ⟨fun call hcall hmay pool =>
        (h.tallied pool).perm_of_idle (ho.isIdle_of_mayReturn hcall hmay pool),
      fun pool job lane hone htake => ho.perm_of_start h (hsize hone) htake⟩

/-- A lane that was stopped hands jobs back until a call that starts it anew has returned. -/
example : ((opened .silent 2).run
    [.stop false, .goOn 0, .submit, .stop true, .submit, .goOn 0, .submit]).log =
      [.stopped (some 0), .returned false (some 0), .handedBack 0, .stopped none, .handedBack 1,
        .returned true none, .accepted 1 2] := rfl

end Floor

end Lane

end SignOn
