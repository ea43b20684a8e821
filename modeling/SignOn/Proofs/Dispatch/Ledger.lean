import Mathlib.Data.List.Perm.Basic
import Mathlib.Data.Multiset.Filter
import SignOn.Proofs.Dispatch.Numbering
import SignOn.Proofs.Dispatch.Phase

/-! # Where the commands are

A command that has not been told its result is in one of six places: its job waits in a lane, its
controllers are at work, it listens to the future of another command, it stands behind a callback
that runs, or the step under way has its job or its result in hand. One that is being told is posted
or in its callback. `phases` adds these places up, and `Ledger` states that together with the
commands that are through they are all commands handed in, each in a phase that the journal bears
out (`Accounted`). Every opening and every move keeps this (`Ledger.opening`, `Ledger.move`). -/

namespace SignOn

variable {κ : Type}

/-- The phases of the commands whose results are to be told. -/
def waitingPhases (xs : List (Delivery κ)) : Multiset (Phase κ) :=
  (xs : Multiset (Delivery κ)).map fun x => .waiting x.submission

/-- The phases of the commands that a step has in hand. -/
def Task.phases : Task κ → Multiset (Phase κ)
  | .place j => {.waiting j.submission}
  | .tell xs _ => waitingPhases xs

/-- The phases of the commands of a strand: one is in its callback and the others stand behind
it. -/
def Strand.phases (s : Strand κ) : Multiset (Phase κ) := .called s.current ::ₘ waitingPhases s.rest

@[simp] theorem waitingPhases_nil : waitingPhases ([] : List (Delivery κ)) = 0 := rfl

@[simp] theorem Task.phases_done : (Task.done : Task κ).phases = 0 := rfl

theorem waitingPhases_cons (x : Delivery κ) (xs : List (Delivery κ)) :
    waitingPhases (x :: xs) = .waiting x.submission ::ₘ waitingPhases xs := by
  rw [waitingPhases, ← Multiset.cons_coe, Multiset.map_cons]
  rfl

theorem waitingPhases_append (xs ys : List (Delivery κ)) :
    waitingPhases (xs ++ ys) = waitingPhases xs + waitingPhases ys := by
  rw [waitingPhases, ← Multiset.coe_add, Multiset.map_add]
  rfl

/-- Is the step no callback that breaks off? -/
def Input.IsCalm : Input κ → Prop
  | .endCallback _ brokeOff => brokeOff = false
  | _ => True

namespace Dispatcher

variable {d d' : Dispatcher κ} {t t' : Task κ}

/-! ### Places -/

/-- The jobs that wait and those whose controllers are at work. -/
def jobs (d : Dispatcher κ) : Multiset (Job κ) :=
  d.interactive.waiting + d.silent.waiting + (d.executions : Multiset (Execution κ)).map (·.job)

/-- The commands that listen to the future of another command. -/
def listening (d : Dispatcher κ) : Multiset (Submission κ) :=
  (d.futures : Multiset (Future CommandResult (Submission κ))).bind fun f => f.listeners

/-- The commands that are not through and not in hand, each in its phase. -/
def phases (d : Dispatcher κ) : Multiset (Phase κ) :=
  d.jobs.map (fun j => .waiting j.submission) + d.listening.map .waiting
    + (d.posted : Multiset (Delivery κ)).map .announced
    + (d.strands : Multiset (Strand κ)).bind Strand.phases

/-! ### Listeners -/

theorem bind_set {α β : Type} (g : α → Multiset β) {l : List α} {n : Nat} {a : α}
    (h : l[n]? = some a) (b : α) :
    ((l.set n b : List α) : Multiset α).bind g + g a = (l : Multiset α).bind g + g b := by
  obtain ⟨hn, ha⟩ := List.getElem?_eq_some_iff.mp h
  have h1 : ((l.set n b : List α) : Multiset α) = b ::ₘ (l.eraseIdx n : Multiset α) :=
    Multiset.coe_eq_coe.mpr (List.set_perm_cons_eraseIdx hn b)
  have h2 : (l : Multiset α) = a ::ₘ (l.eraseIdx n : Multiset α) := by
    rw [← ha]
    exact Multiset.coe_eq_coe.mpr (List.getElem_cons_eraseIdx_perm hn).symm
  rw [h1, h2, Multiset.cons_bind, Multiset.cons_bind]
  ac_rfl

theorem future_eq_of_lt {n : Nat} (h : n < d.futures.length) :
    d.futures[n]? = some (d.future n) := by
  simp [future, h]

theorem listeners_future_of_le {n : Nat} (h : d.futures.length ≤ n) :
    (d.future n).listeners = [] ∧ (d.future n).value = none := by
  simp [future, h, Future.pending]

/-- **Setting a future** takes its listeners out of those who listen. -/
theorem listening_resolve (d : Dispatcher κ) (future : Option Nat) (result : CommandResult) :
    d.listening = ((d.resolve future result).1 : Multiset (Submission κ))
      + (d.resolve future result).2.listening := by
  cases future with
  | none => simp [resolve]
  | some n =>
    rcases Nat.lt_or_ge n d.futures.length with hn | hn
    · have hf := future_eq_of_lt hn
      have hb := bind_set (fun f : Future CommandResult (Submission κ) =>
        (f.listeners : Multiset (Submission κ))) hf ((d.future n).set result).2.2
      unfold listening
      simp only [resolve]
      unfold Future.set at hb ⊢
      split at hb
      · rename_i hv
        simp only [Multiset.coe_nil, zero_add]
        exact (add_right_cancel hb).symm
      · rename_i hv
        simp only [Multiset.coe_nil, add_zero] at hb ⊢
        rw [← hb, add_comm]
    · obtain ⟨hl, hv⟩ := listeners_future_of_le hn
      unfold listening
      simp only [resolve, Future.set, hv, hl, List.set_eq_of_length_le hn, Multiset.coe_nil,
        zero_add]

theorem listening_append {f : Future CommandResult (Submission κ)} (h : f.listeners = [])
    (hf : d'.futures = d.futures ++ [f]) : d'.listening = d.listening := by
  simp only [listening, hf, ← Multiset.coe_add, Multiset.add_bind, Multiset.coe_singleton,
    Multiset.singleton_bind, h, Multiset.coe_nil, add_zero]

theorem listening_join {n : Nat} (h : n < d.futures.length) {s : Submission κ}
    (hf : d'.futures = d.futures.set n
      { d.future n with listeners := (d.future n).listeners ++ [s] }) :
    d'.listening = s ::ₘ d.listening := by
  have hb := bind_set (fun f : Future CommandResult (Submission κ) =>
    (f.listeners : Multiset (Submission κ))) (future_eq_of_lt h)
    { d.future n with listeners := (d.future n).listeners ++ [s] }
  simp only [← Multiset.coe_add, Multiset.coe_singleton] at hb
  rw [listening, listening, hf]
  refine add_right_cancel (hb.trans ?_)
  rw [← Multiset.singleton_add]
  ac_rfl

/-! ### What changes the phases -/

theorem jobs_congr (hi : d'.interactive.waiting = d.interactive.waiting)
    (hl : d'.silent.waiting = d.silent.waiting) (hx : d'.executions = d.executions) :
    d'.jobs = d.jobs := by
  rw [jobs, jobs, hi, hl, hx]

theorem mem_jobs_of_execution {e : Execution κ} (h : e ∈ d.executions) : e.job ∈ d.jobs :=
  Multiset.mem_add.mpr (.inr (Multiset.mem_map_of_mem _ h))

theorem phases_congr (hj : d'.jobs = d.jobs) (hl : d'.listening = d.listening)
    (hp : d'.posted = d.posted) (hs : d'.strands = d.strands) : d'.phases = d.phases := by
  simp only [phases, hj, hl, hp, hs]

theorem phases_of_job {j : Job κ} (hj : d'.jobs = j ::ₘ d.jobs)
    (hl : d'.listening = d.listening) (hp : d'.posted = d.posted) (hs : d'.strands = d.strands) :
    d'.phases = .waiting j.submission ::ₘ d.phases := by
  simp only [phases, hj, hl, hp, hs, Multiset.map_cons, Multiset.cons_add]

theorem phases_of_listener {s : Submission κ} (hj : d'.jobs = d.jobs)
    (hl : d'.listening = s ::ₘ d.listening) (hp : d'.posted = d.posted)
    (hs : d'.strands = d.strands) : d'.phases = .waiting s ::ₘ d.phases := by
  simp only [phases, hj, hl, hp, hs, Multiset.map_cons, Multiset.cons_add, Multiset.add_cons]

theorem jobs_withLane {kind : LaneKind} {l : Lane (Job κ)} {j : Job κ}
    (hl : l.waiting = j ::ₘ (d.lane kind).waiting) : (d.withLane kind l).jobs = j ::ₘ d.jobs := by
  cases kind
  · change l.waiting + _ + _ = _
    rw [hl, Multiset.cons_add, Multiset.cons_add]
    rfl
  · change _ + l.waiting + _ = _
    rw [hl, Multiset.add_cons, Multiset.cons_add]
    rfl

theorem jobs_withLane_of_eq {kind : LaneKind} {l : Lane (Job κ)}
    (hl : l.waiting = (d.lane kind).waiting) : (d.withLane kind l).jobs = d.jobs := by
  cases kind
  · change l.waiting + _ + _ = _
    rw [hl]
    rfl
  · change _ + l.waiting + _ = _
    rw [hl]
    rfl

theorem jobs_freeWorker (d : Dispatcher κ) (kind : LaneKind) (pool ticket : Nat) :
    (d.freeWorker kind pool ticket).jobs = d.jobs :=
  jobs_withLane_of_eq (Lane.waiting_finish _ _ _)

theorem jobs_breakOff (d : Dispatcher κ) (ending : Ending) : (d.breakOff ending).jobs = d.jobs := by
  cases ending with
  | freeWorker => exact jobs_freeWorker _ _ _ _
  | nothing | settle => rfl

theorem phases_freeWorker (d : Dispatcher κ) (kind : LaneKind) (pool ticket : Nat) :
    (d.freeWorker kind pool ticket).phases = d.phases := by
  refine phases_congr (jobs_freeWorker _ _ _ _) ?_ ?_ ?_ <;>
    cases kind <;> rfl

theorem phases_post (d : Dispatcher κ) (x : Delivery κ) :
    (d.post x).phases = .announced x ::ₘ d.phases := by
  have hp :
      ((d.post x).posted : Multiset (Delivery κ)) = x ::ₘ (d.posted : Multiset (Delivery κ)) :=
    Multiset.coe_eq_coe.mpr (List.perm_append_singleton x d.posted)
  simp only [phases, hp, Multiset.map_cons, Multiset.cons_add, Multiset.add_cons]
  rfl

theorem phases_openCallback (d : Dispatcher κ) (x : Delivery κ) (rest : List (Delivery κ))
    (ending : Ending) : (d.openCallback x rest ending).phases
      = .called x ::ₘ (d.phases + waitingPhases rest) := by
  have hs : ((d.openCallback x rest ending).strands : Multiset (Strand κ))
      = ⟨d.strandCount, x, rest, ending⟩ ::ₘ (d.strands : Multiset (Strand κ)) := rfl
  rw [phases, hs, Multiset.cons_bind, Strand.phases, Multiset.cons_add, Multiset.add_cons,
    add_comm (waitingPhases rest), ← add_assoc]
  rfl

theorem waitingPhases_listeners (d : Dispatcher κ) (future : Option Nat) (result : CommandResult) :
    waitingPhases (d.listeners future result)
      = ((d.resolve future result).1 : Multiset (Submission κ)).map .waiting := by
  rw [waitingPhases, listeners, ← Multiset.map_coe, Multiset.map_map]
  rfl

theorem phases_settle (d : Dispatcher κ) (key : Option CommandKey) (future : Option Nat)
    (result : CommandResult) :
    d.phases = (d.settle key future result).phases + waitingPhases (d.listeners future result) := by
  have hl : d.listening = (d.settle key future result).listening
      + ((d.resolve future result).1 : Multiset (Submission κ)) := by
    rw [listening_resolve d future result, add_comm]
    cases key <;> cases future <;> rfl
  have hd : (d.settle key future result).phases
      = d.jobs.map (fun j => .waiting j.submission)
        + (d.settle key future result).listening.map .waiting
        + (d.posted : Multiset (Delivery κ)).map .announced
        + (d.strands : Multiset (Strand κ)).bind Strand.phases := by
    rw [settle_eq]
    rfl
  rw [hd, waitingPhases_listeners, phases, hl, Multiset.map_add]
  ac_rfl

/-! ### The ledger -/

/-- The commands handed in are those that are not through (in hand or not) and those that are, all
at phases that the journal bears out, and the counts are right. If no callback breaks off, those
that are through have been flushed. -/
structure Ledger (calm : Prop) (handed : List (Submission κ)) (through : Multiset (Phase κ))
    (d : Dispatcher κ) (t : Task κ) : Prop where
  accounted : Accounted handed (d.phases + t.phases + through) d.journal
  submitted : d.stats.submitted = handed.length
  counted : d.stats.completed + d.stats.cancelled + d.stats.failed
    = (d.phases + t.phases + through).countP Phase.IsTold
  flushed : calm → ∀ g ∈ through, ∃ x, g = .flushed x

variable {calm : Prop} {handed : List (Submission κ)} {through : Multiset (Phase κ)}

theorem Ledger.congr (h : Ledger calm handed through d t)
    (hg : d'.phases + t'.phases = d.phases + t.phases) (hj : d'.journal = d.journal)
    (hs : d'.stats = d.stats) : Ledger calm handed through d' t' := by
  obtain ⟨ha, hn, hc, hf⟩ := h
  exact ⟨by rw [hg, hj]; exact ha, by rw [hs]; exact hn, by rw [hs, hg]; exact hc, hf⟩

theorem waiting_mem_phases {j : Job κ} (h : j ∈ d.jobs) : .waiting j.submission ∈ d.phases :=
  Multiset.mem_add.mpr (.inl (Multiset.mem_add.mpr (.inl (Multiset.mem_add.mpr
    (.inl (Multiset.mem_map_of_mem _ h))))))

theorem Ledger.mem_of_phases (_ : Ledger calm handed through d t) {g : Phase κ}
    (hg : g ∈ d.phases) :
    g ∈ d.phases + t.phases + through :=
  Multiset.mem_add.mpr (.inl (Multiset.mem_add.mpr (.inl hg)))

theorem told_ended (s : Stats) (status : CommandStatus) :
    (s.ended status).completed + (s.ended status).cancelled + (s.ended status).failed
      = s.completed + s.cancelled + s.failed + 1 := by
  cases status <;> simp only [Stats.ended] <;> omega

theorem submitted_ended (s : Stats) (status : CommandStatus) :
    (s.ended status).submitted = s.submitted := by
  cases status <;> rfl

/-- The next result is announced: its command comes a phase further, and its end is counted. -/
theorem Ledger.announce {x : Delivery κ} {xs : List (Delivery κ)} {ending : Ending}
    (h : Ledger calm handed through d (.tell (x :: xs) ending)) :
    Accounted handed (.announced x ::ₘ (d.phases + waitingPhases xs + through))
        (d.announce x).journal ∧
      (d.announce x).stats.submitted = handed.length ∧
      (d.announce x).stats.completed + (d.announce x).stats.cancelled + (d.announce x).stats.failed
        = (d.phases + waitingPhases xs + through).countP Phase.IsTold + 1 := by
  have hsplit : d.phases + (Task.tell (x :: xs) ending).phases + through
      = .waiting x.submission ::ₘ (d.phases + waitingPhases xs + through) := by
    rw [Task.phases, waitingPhases_cons, Multiset.add_cons, Multiset.cons_add]
  have ha := h.accounted
  have hc := h.counted
  rw [hsplit] at ha hc
  rw [Multiset.countP_cons_of_neg _ (fun h : Phase.IsTold (.waiting x.submission) => h)] at hc
  refine ⟨ha.announce, ?_, ?_⟩
  · change (d.stats.ended x.status).submitted = _
    rw [submitted_ended, h.submitted]
  · change (d.stats.ended x.status).completed + (d.stats.ended x.status).cancelled
      + (d.stats.ended x.status).failed = _
    rw [told_ended, hc]

/-- **A move keeps the ledger**: a job is placed or turned away, the next result is announced and
its callback posted or called, listeners are taken in hand. -/
theorem Ledger.move (hm : Move d t d' t') (h : Ledger calm handed through d t) :
    Ledger calm handed through d' t' := by
  cases hm with
  | @queue j l accepted =>
    have hs : (d.withLane j.submission.lane l).phases = .waiting j.submission ::ₘ d.phases := by
      refine phases_of_job (jobs_withLane (Lane.waiting_submit accepted)) ?_ ?_ ?_ <;>
        cases j.submission.lane <;> rfl
    refine h.congr ?_ (by rw [withLane_eq]) (by rw [withLane_eq])
    rw [hs, Task.phases_done, add_zero, Task.phases, ← Multiset.singleton_add, add_comm]
  | reject refused =>
    refine h.congr ?_ rfl rfl
    rw [Task.phases, Task.phases, waitingPhases_cons, waitingPhases_nil]
    rfl
  | @post x xs ending later =>
    obtain ⟨ha, hn, hc⟩ := h.announce
    have hg : (d.post x).phases + (Task.tell xs ending).phases + through
        = .announced x ::ₘ (d.phases + waitingPhases xs + through) := by
      rw [phases_post, Task.phases, Multiset.cons_add, Multiset.cons_add]
    refine ⟨by rw [hg]; exact ha, hn, ?_, h.flushed⟩
    rw [hg, Multiset.countP_cons_of_pos _ trivial]
    exact hc
  | @call x xs ending atOnce =>
    obtain ⟨ha, hn, hc⟩ := h.announce
    have hg : ((d.announce x).openCallback x xs ending).phases + Task.done.phases + through
        = .called x ::ₘ (d.phases + waitingPhases xs + through) := by
      rw [phases_openCallback, Task.phases_done, add_zero, Multiset.cons_add]
      rfl
    refine ⟨by rw [hg]; exact ha.call, hn, ?_, h.flushed⟩
    rw [hg, Multiset.countP_cons_of_pos _ trivial]
    exact hc
  | free =>
    refine h.congr ?_ ?_ ?_
    · rw [phases_freeWorker]; rfl
    · rw [freeWorker, withLane_eq]
    · rw [freeWorker, withLane_eq]
  | @settle key future result =>
    refine h.congr ?_ ?_ ?_
    · rw [phases_settle d key future result, Task.phases, Task.phases, waitingPhases_nil, add_zero]
    · rw [settle_eq]
    · rw [settle_eq]

/-! ### Handing in -/

/-- The command that a step hands in. -/
def handedIn (d : Dispatcher κ) (_ : Moment) : Input κ → List (Submission κ)
  | .submitSilent c | .submitAndForget c => [d.next c .silent]
  | .beginInteractive c => [d.next c .interactive]
  | _ => []

/-- A step that hands a command in, and leaves it in the dispatcher or in hand. -/
theorem Ledger.enroll {c : Command κ} {kind : LaneKind} (asides : List Entry)
    (h : Ledger calm handed through d .done)
    (ha : ∀ e ∈ asides, (d.next c kind).IsAside e)
    (hg : d'.phases + t.phases = .waiting (d.next c kind) ::ₘ d.phases)
    (hj : d'.journal = d.journal ++ (d.next c kind).startEntry :: asides)
    (hn : d'.stats.submitted = d.stats.submitted + 1)
    (hc : d'.stats.completed + d'.stats.cancelled + d'.stats.failed
      = d.stats.completed + d.stats.cancelled + d.stats.failed) :
    Ledger calm (handed ++ [d.next c kind]) through d' t := by
  have hs := h.accounted
  have hcount := h.counted
  rw [Task.phases_done, add_zero] at hs hcount
  have he := (hs.enroll (s := d.next c kind) h.submitted).asides ha
  rw [← List.append_cons, ← hj] at he
  refine ⟨?_, ?_, ?_, h.flushed⟩
  · rw [hg, Multiset.cons_add]; exact he
  · rw [hn, h.submitted, List.length_append, List.length_singleton]
  · rw [hc, hg, Multiset.cons_add, hcount,
      Multiset.countP_cons_of_neg _ (fun h : Phase.IsTold (.waiting _) => h)]

theorem phases_tell_one (s : Submission κ) (result : CommandResult) (ending : Ending) :
    (Task.tell [⟨s, result⟩] ending).phases = {.waiting s} := by
  rw [Task.phases, waitingPhases_cons]
  rfl

theorem add_singleton_eq_cons {α : Type} (m : Multiset α) (a : α) : m + {a} = a ::ₘ m := by
  rw [add_comm, Multiset.singleton_add]

/-! ### Strands and posted callbacks -/

theorem split_of_find {α : Type} {f : α → Nat} {l : List α} (hd : (l.map f).Nodup) {n : Nat}
    {a : α} (h : l.find? (fun a => f a = n) = some a) :
    (l : Multiset α) = a ::ₘ ((l.filter fun a => f a ≠ n : List α) : Multiset α) := by
  obtain ⟨hn, before, after, rfl, hb⟩ := List.find?_eq_some_iff_append.mp h
  have hn : f a = n := by simpa using hn
  rw [List.map_append, List.map_cons, List.nodup_append] at hd
  have hbefore : before.filter (fun a => f a ≠ n) = before :=
    List.filter_eq_self.mpr fun b hm => by simpa using hb b hm
  have hafter : after.filter (fun a => f a ≠ n) = after := by
    refine List.filter_eq_self.mpr fun b hm => ?_
    have hne : f b ≠ f a := fun e => (List.nodup_cons.mp hd.2.1).1 (e ▸ List.mem_map_of_mem hm)
    simpa [hn] using hne
  rw [List.filter_append, hbefore, List.filter_cons_of_neg (by simp [hn]), hafter]
  exact Multiset.coe_eq_coe.mpr List.perm_middle

/-- The strand of a callback, taken out. -/
theorem phases_withoutStrand (h : d.Numbered) {strand : Nat} {s : Strand κ}
    (hs : d.strands.find? (fun s => s.id = strand) = some s) :
    d.phases = { d with strands := d.strands.filter fun t => t.id ≠ strand }.phases
      + (.called s.current ::ₘ waitingPhases s.rest) := by
  rw [phases, phases, split_of_find h.strands hs, Multiset.cons_bind, Strand.phases]
  change _ = d.jobs.map _ + d.listening.map _ + _ + _ + _
  ac_rfl

theorem Ledger.executions_nodup (h : Ledger calm handed through d t) :
    (d.executions.map fun e => e.job.submission.ticket).Nodup := by
  have hle : (d.executions : Multiset (Execution κ)).map (fun e => Phase.waiting e.job.submission)
      ≤ d.phases + t.phases + through := by
    simp only [phases, jobs, Multiset.map_add, Multiset.map_map]
    have hadd {a b c : Multiset (Phase κ)} (h : a ≤ b) : a ≤ b + c :=
      h.trans (Multiset.le_add_right _ _)
    exact hadd <| hadd <| hadd <| hadd <| hadd <| Multiset.le_add_left _ _
  have hnodup := Multiset.nodup_of_le (Multiset.map_le_map hle) h.accounted.nodup
  rw [Multiset.map_map] at hnodup
  exact Multiset.coe_nodup.mp hnodup

/-- An execution that is over takes its job with it. -/
theorem jobs_executed (hn : (d.executions.map fun e => e.job.submission.ticket).Nodup)
    {e : Execution κ}
    (he : d.executions.find? (fun e' => e'.job.submission.ticket = e.job.submission.ticket) =
      some e)
    (result : CommandResult) (now : Moment) :
    d.jobs = e.job ::ₘ (d.executed e result now).jobs := by
  rw [executed_eq, jobs, split_of_find hn he, Multiset.map_cons, Multiset.add_cons]
  rfl

/-- The controllers of a job are done: the job and those who listen to its future are in hand. -/
theorem Ledger.finish (h : Ledger calm handed through d .done) {ticket : Nat} {e : Execution κ}
    (he : d.executions.find? (fun e => e.job.submission.ticket = ticket) = some e)
    (result : CommandResult) (now : Moment) (ending : Ending) :
    Ledger calm handed through (d.executed e result now)
      (.tell (d.listeners e.job.future result ++ [⟨e.job.submission, result⟩]) ending) := by
  obtain rfl := ticket_of_found he
  have hl : d.listening = ((d.resolve e.job.future result).1 : Multiset (Submission κ))
      + (d.executed e result now).listening := by
    rw [listening_resolve d e.job.future result, executed_eq]
    rfl
  have hj := jobs_executed h.executions_nodup he result now
  refine h.congr ?_ (by rw [executed_eq]; rfl) (by rw [executed_eq]; rfl)
  rw [Task.phases_done, add_zero, Task.phases, waitingPhases_append, waitingPhases_cons,
    waitingPhases_nil, waitingPhases_listeners]
  have hs : d.phases = d.jobs.map (fun j => .waiting j.submission) + d.listening.map .waiting
    + ((d.executed e result now).posted : Multiset (Delivery κ)).map .announced
    + ((d.executed e result now).strands : Multiset (Strand κ)).bind Strand.phases := by
    rw [executed_eq]
    rfl
  rw [hs, hl, hj, phases, Multiset.map_add, Multiset.map_cons, ← Multiset.singleton_add,
    ← Multiset.singleton_add]
  ac_rfl

theorem Ledger.begin {c : Command κ} (h : Ledger calm handed through d .done) :
    Ledger calm (handed ++ [d.next c .interactive]) through
      ((d.enrolled c .interactive).makeWay (d.next c .interactive))
      (.place ⟨d.next c .interactive, none, none⟩) := by
  have hg : ((d.enrolled c .interactive).makeWay (d.next c .interactive)).phases
      + (Task.place ⟨d.next c .interactive, none, none⟩).phases
        = .waiting (d.next c .interactive) ::ₘ d.phases := by
    rw [Task.phases, add_singleton_eq_cons, makeWay_eq]
    rfl
  rcases hc : (d.enrolled c .interactive).registry.cancelActive.1 with _ | _
  · refine h.enroll [] (by simp) hg ?_ ?_ ?_ <;> rw [makeWay_of_free hc] <;> rfl
  · refine h.enroll [.noted d.stats.submitted (.cancelBroadcast c.correlationId)] ?_ hg ?_ ?_ ?_
    · intro e he
      rw [List.mem_singleton.mp he]
      exact .inr rfl
    · rw [makeWay_of_active hc]
      exact List.append_assoc _ _ _
    · rw [makeWay_of_active hc]
      rfl
    · rw [makeWay_of_active hc]
      rfl

/-- A silent command that may be shared or not is handed in. -/
theorem Ledger.submitSilent {c : Command κ} {now : Moment}
    (ho : Opening d now (.submitSilent c) d' t) (hd : d.Numbered)
    (h : Ledger calm handed through d .done) :
    Ledger calm (handed ++ [d.next c .silent]) through d' t := by
  cases ho with
  | answered shareable cached =>
    simp only [consulted_eq, note]
    refine h.enroll [.noted d.stats.submitted (.cacheHit c.apiId c.correlationId)] ?_ ?_ ?_ rfl rfl
    · intro e he
      rw [List.mem_singleton.mp he]
      exact .inl rfl
    · rw [phases_tell_one, add_singleton_eq_cons]
      exact congrArg _ (phases_congr (jobs_congr rfl rfl rfl) (listening_append rfl rfl) rfl rfl)
    · exact List.append_assoc _ _ _
  | @joined _ n shareable missed found unset =>
    refine h.enroll [] (by simp) ?_ rfl rfl rfl
    rw [Task.phases_done, add_zero]
    exact phases_of_listener rfl (listening_join (hd.inFlight _ (mem_inFlight found)) rfl) rfl rfl
  | joinedLate shareable missed found set =>
    refine h.enroll [] (by simp) ?_ rfl rfl rfl
    rw [phases_tell_one, add_singleton_eq_cons]
    rfl
  | launched shareable missed free =>
    refine h.enroll [] (by simp) ?_ rfl rfl rfl
    rw [Task.phases, add_singleton_eq_cons]
    exact congrArg _ (phases_congr (jobs_congr rfl rfl rfl) (listening_append rfl rfl) rfl rfl)
  | alone unshareable =>
    refine h.enroll [] (by simp) ?_ rfl rfl rfl
    rw [Task.phases, add_singleton_eq_cons]
    exact congrArg _ (phases_congr (jobs_congr rfl rfl rfl) (listening_append rfl rfl) rfl rfl)

/-! ### Openings -/

/-- The phases in which a step leaves the commands it is through with: a callback that has ended
leaves its command flushed, one that broke off leaves its command called and those behind it
waiting. -/
def throughBy (d : Dispatcher κ) (_ : Moment) : Input κ → List (Phase κ)
  | .endCallback strand brokeOff =>
    match d.strands.find? fun s => s.id = strand with
    | none => []
    | some s =>
      if brokeOff then .called s.current :: s.rest.map fun x => .waiting x.submission
      else [.flushed s.current]
  | _ => []

theorem Ledger.unchanged (h : Ledger calm handed through d t) :
    Ledger calm (handed ++ []) (through + (([] : List (Phase κ)) : Multiset (Phase κ))) d t := by
  rw [List.append_nil, Multiset.coe_nil, add_zero]
  exact h

theorem Ledger.handedOn {s : Submission κ} (h : Ledger calm (handed ++ [s]) through d t) :
    Ledger calm (handed ++ [s]) (through + (([] : List (Phase κ)) : Multiset (Phase κ))) d t := by
  rw [Multiset.coe_nil, add_zero]
  exact h

theorem Ledger.keep (h : Ledger calm handed through d .done) (hg : d'.phases = d.phases)
    (hj : d'.journal = d.journal) (hs : d'.stats = d.stats) :
    Ledger calm (handed ++ []) (through + (([] : List (Phase κ)) : Multiset (Phase κ))) d' .done :=
  (h.congr (by rw [hg]) hj hs).unchanged

theorem jobs_started (kind : LaneKind) {pool : Nat} {j : Job κ} {l : Lane (Job κ)}
    (hd : d.Numbered) (hs : (d.lane kind).start? pool = some (j, l)) {e : Execution κ}
    (he : e.job = j) (hl : d'.silent = (d.withLane kind l).silent)
    (hi : d'.interactive = (d.withLane kind l).interactive)
    (hx : d'.executions = d.executions ++ [e]) : d'.jobs = d.jobs := by
  have hw := Lane.waiting_start (hd.lane kind) hs
  rw [jobs, jobs, hl, hi, hx, ← Multiset.coe_add, Multiset.map_add, Multiset.coe_singleton,
    Multiset.map_singleton, he]
  cases kind
  · change l.waiting + d.silent.waiting + _ = d.interactive.waiting + d.silent.waiting + _
    rw [show d.interactive.waiting = j ::ₘ l.waiting from hw, ← Multiset.singleton_add]
    ac_rfl
  · change d.interactive.waiting + l.waiting + _ = d.interactive.waiting + d.silent.waiting + _
    rw [show d.silent.waiting = j ::ₘ l.waiting from hw, ← Multiset.singleton_add]
    ac_rfl

/-- A callback has come to its end: its command is through. -/
theorem Ledger.endCallback (h : Ledger calm handed through d .done) (hd : d.Numbered) {strand : Nat}
    {s : Strand κ} (hs : d.strands.find? (fun s => s.id = strand) = some s) :
    Ledger calm handed (.flushed s.current ::ₘ through)
      ({ d with strands := d.strands.filter fun t => t.id ≠ strand }.flush s.current)
      (.tell s.rest s.ending) := by
  obtain ⟨ha, hn, hc, hf⟩ := h
  have hsplit : d.phases + Task.done.phases + through = .called s.current ::ₘ
      ({ d with strands := d.strands.filter fun t => t.id ≠ strand }.phases
        + waitingPhases s.rest + through) := by
    rw [phases_withoutStrand hd hs, Task.phases_done, add_zero, Multiset.add_cons,
      Multiset.cons_add]
  rw [hsplit] at ha hc
  have hnew : ({ d with strands := d.strands.filter fun t => t.id ≠ strand }.flush
        s.current).phases + (Task.tell s.rest s.ending).phases + (.flushed s.current ::ₘ through)
      = .flushed s.current ::ₘ
        ({ d with strands := d.strands.filter fun t => t.id ≠ strand }.phases
          + waitingPhases s.rest + through) := Multiset.add_cons _ _ _
  refine ⟨by rw [hnew]; exact ha.flush, hn, ?_, fun hcalm g hg => ?_⟩
  · rw [hnew, Multiset.countP_cons_of_pos _ trivial]
    rw [Multiset.countP_cons_of_pos _ trivial] at hc
    exact hc
  · rcases Multiset.mem_cons.mp hg with rfl | hg
    · exact ⟨_, rfl⟩
    · exact hf hcalm g hg

/-- A callback has broken off: its command and those behind it come no further. -/
theorem Ledger.breakOff (h : Ledger calm handed through d .done) (hd : d.Numbered) {strand : Nat}
    {s : Strand κ} (hs : d.strands.find? (fun s => s.id = strand) = some s) (hcalm : ¬ calm) :
    Ledger calm handed (.called s.current ::ₘ waitingPhases s.rest + through)
      ({ d with strands := d.strands.filter fun t => t.id ≠ strand }.breakOff s.ending) .done := by
  obtain ⟨ha, hn, hc, -⟩ := h
  have hkeep : ({ d with strands := d.strands.filter fun t => t.id ≠ strand }.breakOff
      s.ending).phases = { d with strands := d.strands.filter fun t => t.id ≠ strand }.phases := by
    cases s.ending with
    | freeWorker => exact phases_freeWorker _ _ _ _
    | nothing | settle => rfl
  have hsplit : d.phases + Task.done.phases + through
      = ({ d with strands := d.strands.filter fun t => t.id ≠ strand }.breakOff s.ending).phases
        + Task.done.phases + (.called s.current ::ₘ waitingPhases s.rest + through) := by
    rw [phases_withoutStrand hd hs, hkeep, Task.phases_done, add_zero, add_zero, add_assoc]
  rw [hsplit] at ha hc
  refine ⟨?_, ?_, ?_, fun h => absurd h hcalm⟩
  · rw [breakOff_eq] at ha ⊢
    exact ha
  · rw [breakOff_eq]
    exact hn
  · rw [breakOff_eq] at hc ⊢
    exact hc

theorem posted_split {place : Nat} {x : Delivery κ} (h : d.posted[place]? = some x) :
    (d.posted : Multiset (Delivery κ)) = x ::ₘ
      (d.posted.eraseIdx place : Multiset (Delivery κ)) := by
  obtain ⟨hn, rfl⟩ := List.getElem?_eq_some_iff.mp h
  exact Multiset.coe_eq_coe.mpr (List.getElem_cons_eraseIdx_perm hn).symm

/-- A posted callback runs. -/
theorem Ledger.runPosted (h : Ledger calm handed through d .done) {place : Nat} {x : Delivery κ}
    (hx : d.posted[place]? = some x) :
    Ledger calm handed through
      ({ d with posted := d.posted.eraseIdx place }.openCallback x [] .nothing) .done := by
  obtain ⟨ha, hn, hc, hf⟩ := h
  have hsplit : d.phases + Task.done.phases + through
      = .announced x ::ₘ ({ d with posted := d.posted.eraseIdx place }.phases + through) := by
    rw [Task.phases_done, add_zero, phases, posted_split hx, Multiset.map_cons, Multiset.add_cons,
      Multiset.cons_add, Multiset.cons_add]
    rfl
  have hnew : ({ d with posted := d.posted.eraseIdx place }.openCallback x [] .nothing).phases
        + Task.done.phases + through
      = .called x ::ₘ ({ d with posted := d.posted.eraseIdx place }.phases + through) := by
    rw [phases_openCallback, waitingPhases_nil, add_zero, Task.phases_done, add_zero,
      Multiset.cons_add]
  rw [hsplit] at ha hc
  rw [Multiset.countP_cons_of_pos _ trivial] at hc
  refine ⟨by rw [hnew]; exact ha.call, hn, ?_, hf⟩
  rw [hnew, Multiset.countP_cons_of_pos _ trivial]
  exact hc

/-- **An opening keeps the ledger**: a command is handed in, or a job, a strand or a posted callback
comes to its turn. -/
theorem Ledger.opening {now : Moment} {i : Input κ} (ho : Opening d now i d' t) (hd : d.Numbered)
    (hcalm : calm → i.IsCalm) (h : Ledger calm handed through d .done) :
    Ledger calm (handed ++ d.handedIn now i) (through + (d.throughBy now i : Multiset (Phase κ)))
      d' t := by
  cases i with
  | submitSilent c => exact (h.submitSilent ho hd).handedOn
  | submitAndForget c =>
    cases ho
    refine Ledger.handedOn (s := d.next c .silent) (h.enroll [] (by simp) ?_ rfl rfl rfl)
    rw [Task.phases, add_singleton_eq_cons]
    rfl
  | beginInteractive c => cases ho; exact h.begin.handedOn
  | completeInteractive | stopSilent | resetSilent | shutdown | clearResults | expireSession =>
    cases ho; exact h.keep rfl rfl rfl
  | goOn place =>
    cases ho with
    | closed | waits => exact h.keep rfl rfl rfl
    | reopened =>
      refine h.keep (phases_congr ?_ rfl rfl rfl) rfl rfl
      simp only [jobs, Lane.waiting_reopen]
  | startJob kind pool =>
    cases ho with
    | startedSilent taken =>
      exact h.keep (phases_congr (jobs_started .silent hd taken rfl rfl rfl rfl) rfl rfl
        rfl) rfl rfl
    | startedInteractive taken =>
      exact h.keep (phases_congr (jobs_started .interactive hd taken rfl rfl rfl rfl) rfl
        rfl rfl) rfl rfl
    | idle => exact h.keep rfl rfl rfl
  | finishJob ticket outcome =>
    cases ho with
    | finished found => exact (h.finish found _ _ _).unchanged
    | unfinished => exact h.keep rfl rfl rfl
  | endCallback strand brokeOff =>
    have hhanded : handed ++ d.handedIn now (.endCallback strand brokeOff) = handed :=
      List.append_nil handed
    cases ho with
    | @ended _ s found =>
      have hthrough : d.throughBy now (.endCallback strand false) = [.flushed s.current] := by
        simp [throughBy, found]
      rw [hthrough, Multiset.coe_singleton, add_singleton_eq_cons, hhanded]
      exact h.endCallback hd found
    | @broke _ s found =>
      have hbroke : ¬ calm := fun hc => absurd (hcalm hc) (by simp [Input.IsCalm])
      have hthrough : (d.throughBy now (.endCallback strand true) : Multiset (Phase κ))
          = .called s.current ::ₘ waitingPhases s.rest := by
        simp [throughBy, found, waitingPhases]
      rw [hthrough, add_comm through, hhanded]
      exact h.breakOff hd found hbroke
    | noStrand missing =>
      have hthrough : d.throughBy now (.endCallback strand brokeOff) = [] := by
        simp [throughBy, missing]
      rw [hthrough]
      exact h.keep rfl rfl rfl
  | runPosted place =>
    cases ho with
    | ran found => exact (h.runPosted found).unchanged
    | nonePosted => exact h.keep rfl rfl rfl

/-! ### Runs -/

theorem ledger_ofSettings (settings : Settings) (poster : Poster) (registry : Option Registry) :
    Ledger calm [] 0 (ofSettings settings poster registry : Dispatcher κ) .done := by
  have hnone : (ofSettings settings poster registry : Dispatcher κ).phases = 0 := by
    simp [phases, jobs, listening, ofSettings, Lane.new, Lane.waiting]
  refine ⟨?_, rfl, ?_, by simp⟩
  · rw [hnone]; exact Accounted.nil
  · rw [hnone]; rfl

/-- **Every run keeps the ledger.** -/
theorem ledger_run : ∀ (inputs : List (Moment × Input κ)) {d : Dispatcher κ}
    {handed : List (Submission κ)} {through : Multiset (Phase κ)},
    (calm → ∀ i ∈ inputs, i.2.IsCalm) → d.Numbered → Ledger calm handed through d .done →
      Ledger calm (handed ++ chronicle handedIn d inputs)
        (through + (chronicle throughBy d inputs : Multiset (Phase κ))) (d.run inputs) .done
  | [], _, _, _, _, _, h => h.unchanged
  | (now, i) :: inputs, d, handed, through, hcalm, hd, h => by
    obtain ⟨d', t, ho, he⟩ := step_opening d now i
    have h' := h.opening ho hd fun hc => hcalm hc (now, i) (by simp)
    have hstep : Ledger calm (handed ++ d.handedIn now i)
        (through + (d.throughBy now i : Multiset (Phase κ))) (d.step now i) .done := by
      rw [he]
      exact perform_keeps (fun hm h => h.move hm) h'
    rw [chronicle, chronicle, ← List.append_assoc, ← Multiset.coe_add, ← add_assoc]
    exact ledger_run inputs (fun hc j hj => hcalm hc j (by simp [hj])) (hd.run [(now, i)]) hstep

section Reached

variable (settings : Settings) (poster : Poster) (registry : Option Registry)
  (inputs : List (Moment × Input κ))

theorem numbered_reached :
    ((ofSettings settings poster registry : Dispatcher κ).run inputs).Numbered :=
  (numbered_ofSettings settings poster registry).run inputs

theorem ledger_through :
    Ledger (∀ i ∈ inputs, i.2.IsCalm)
      (chronicle handedIn (ofSettings settings poster registry) inputs)
      (chronicle throughBy (ofSettings settings poster registry) inputs : Multiset (Phase κ))
      ((ofSettings settings poster registry : Dispatcher κ).run inputs) .done := by
  have h := ledger_run inputs id (numbered_ofSettings (κ := κ) settings poster registry)
    (ledger_ofSettings settings poster registry)
  rwa [List.nil_append, zero_add] at h

theorem ledger_reached : ∃ through,
    Ledger (∀ i ∈ inputs, i.2.IsCalm)
      (chronicle handedIn (ofSettings settings poster registry) inputs) through
      ((ofSettings settings poster registry : Dispatcher κ).run inputs) .done :=
  ⟨_, ledger_through settings poster registry inputs⟩

theorem executions_nodup_reached :
    (((ofSettings settings poster registry : Dispatcher κ).run inputs).executions.map
      fun e => e.job.submission.ticket).Nodup := by
  obtain ⟨through, h⟩ := ledger_reached settings poster registry inputs
  exact h.executions_nodup

end Reached

/-- What holds at the start and is kept by each step, as it opens from a state that a run has
reached and in its moves, holds after every run. -/
theorem reached_keeps {settings : Settings} {poster : Poster} {registry : Option Registry}
    {I : List (Moment × Input κ) → Dispatcher κ → Task κ → Prop}
    (start : I [] (ofSettings settings poster registry) .done)
    (hopen : ∀ {inputs d now i d' t}, (ofSettings settings poster registry).run inputs = d →
      d.Numbered → (d.executions.map fun e => e.job.submission.ticket).Nodup →
        Opening d now i d' t → I inputs d .done → I (inputs ++ [(now, i)]) d' t)
    (hmove : ∀ {inputs d t d' t'}, d.Numbered → Move d t d' t' → I inputs d t → I inputs d' t')
    (inputs : List (Moment × Input κ)) :
    I inputs ((ofSettings settings poster registry).run inputs) .done := by
  refine run_induction
    (P := fun inputs => I inputs ((ofSettings settings poster registry).run inputs) .done) start
    (fun inputs now i h => ?_) inputs
  have hd := numbered_reached (κ := κ) settings poster registry inputs
  obtain ⟨d', t, ho, he⟩ := step_opening
    ((ofSettings settings poster registry : Dispatcher κ).run inputs) now i
  have hkept := perform_keeps (I := fun d t => d.Numbered ∧ I (inputs ++ [(now, i)]) d t)
    (fun hm h => ⟨h.1.move hm, hmove h.1 hm h.2⟩)
    ⟨hd.opening ho, hopen rfl hd (executions_nodup_reached settings poster registry inputs) ho h⟩
  rw [run_concat, he]
  exact hkept.2

end Dispatcher

end SignOn
