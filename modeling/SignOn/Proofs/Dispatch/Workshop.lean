import SignOn.Proofs.Dispatch.Answer
import SignOn.Proofs.Work.Turns

/-! # Executions at work

A dispatcher leaves it to others how the controllers of a command end. `Workshop` puts the two
together: each execution is a piece of work over common surroundings, the executions under way take
turns in any order, and one that has come to its end ends so for the dispatcher. Calls, callbacks
and whatever else changes the surroundings come in between as they like; one part of the
surroundings is left to the executions.

* `staffed_reached`: what is at work is what the dispatcher has under way.
* `exists_moment`: if an execution ends otherwise than it would while a property holds, there was a
  moment at which it was at work and the property did not hold.
* `exists_moment_of_break`: likewise if it breaks off.
* `exists_turn`: what changes the part that is left to the executions is the turn of one of them. -/

namespace SignOn

variable {σ κ τ : Type}

/-! ### Executions of a dispatcher -/

/-- Is the step the beginning or the end of an execution? -/
def Input.isOfWork : Input κ → Bool
  | .startJob _ _ | .finishJob _ _ => true
  | _ => false

namespace Dispatcher

variable {d d' : Dispatcher κ} {t t' : Task κ} {now : Moment} {i : Input κ}

theorem executions_move (hm : Move d t d' t') : d'.executions = d.executions := by
  cases hm with
  | queue => rw [withLane_eq]
  | reject | post | call => rfl
  | free => rw [freeWorker_eq]
  | settle => rw [settle_eq]

theorem executions_perform (d : Dispatcher κ) (t : Task κ) :
    (d.perform t).executions = d.executions :=
  perform_keeps (I := fun d' _ => d'.executions = d.executions)
    (fun hm h => (executions_move hm).trans h) rfl

theorem executions_step (h : i.isOfWork = false) : (d.step now i).executions = d.executions := by
  obtain ⟨d', t, ho, he⟩ := step_opening d now i
  rw [he, executions_perform]
  cases ho with
  | begun => rw [makeWay_eq]; rfl
  | broke => rw [breakOff_eq]
  | startedSilent | startedInteractive | idle | finished | unfinished => cases h
  | _ => rfl

theorem executions_startJob {kind : LaneKind} {pool : Nat} {e : Execution κ}
    (h : d.startJob? kind pool = some (e, d')) : d'.executions = d.executions ++ [e] := by
  unfold startJob? at h
  split at h
  · cases h
  · cases kind <;> cases h <;> rfl

theorem executions_finishJob {ticket : Nat} (outcome : Outcome) {e : Execution κ}
    (found : d.executions.find? (fun e => e.job.submission.ticket = ticket) = some e) :
    (d.step now (.finishJob ticket outcome)).executions =
      d.executions.filter fun e => e.job.submission.ticket ≠ ticket := by
  obtain ⟨d', t, ho, he⟩ := step_opening d now (.finishJob ticket outcome)
  rw [he, executions_perform]
  cases ho with
  | finished found' =>
    rw [executed_eq, ← ticket_of_found found']
    rfl
  | unfinished missing =>
    rw [missing] at found
    cases found

end Dispatcher

/-! ### The workshop -/

/-- How executions go to work, and the part of the surroundings that is left to them. -/
structure Workshop (σ κ τ : Type) where
  does : Execution κ → Work σ (Except Failure CommandValue)
  kept : Place σ τ

namespace Workshop

/-- The dispatcher, the surroundings, and what is left to do of the executions under way. -/
structure State (σ κ : Type) where
  dispatcher : Dispatcher κ
  around : σ
  underway : List (Execution κ × Work σ (Except Failure CommandValue))

/-- What happens: a call, a callback or anything else of the dispatcher that is not about
executions; an execution begins, has a turn, or ends; others change the surroundings. -/
inductive Event (σ κ : Type) where
  | call (now : Moment) (i : Input κ)
  | start (now : Moment) (lane : LaneKind) (pool : Nat)
  | turn (place : Nat)
  | finish (now : Moment) (place : Nat)
  | others (s : σ)

/-- Nothing is at work yet. -/
def State.idle (d : Dispatcher κ) (s : σ) : State σ κ := ⟨d, s, []⟩

/-- The step that the dispatcher takes. -/
def State.input? (x : State σ κ) : Event σ κ → Option (Moment × Input κ)
  | .call now i => if i.isOfWork then none else some (now, i)
  | .start now lane pool => some (now, .startJob lane pool)
  | .turn _ | .others _ => none
  | .finish now place => do
    let (e, work) ← x.underway[place]?
    let outcome ← work.ended?
    return (now, .finishJob e.job.submission.ticket outcome)

variable (w : Workshop σ κ τ)

/-- The surroundings after an event. -/
def change (x : State σ κ) : Event σ κ → σ
  | .turn place =>
    match x.underway[place]? with
    | none => x.around
    | some (_, work) => (work.turn x.around).2
  | .others s => w.kept.set (w.kept.get x.around) s
  | .call _ _ | .start _ _ _ | .finish _ _ => x.around

/-- What is at work after an event. -/
def staff (x : State σ κ) : Event σ κ → List (Execution κ × Work σ (Except Failure CommandValue))
  | .start _ lane pool =>
    match x.dispatcher.startJob? lane pool with
    | none => x.underway
    | some (e, _) => x.underway ++ [(e, w.does e)]
  | .turn place =>
    match x.underway[place]? with
    | none => x.underway
    | some (e, work) => x.underway.set place (e, (work.turn x.around).1)
  | .finish _ place =>
    match x.underway[place]? with
    | none => x.underway
    | some (_, work) => if work.ended?.isSome then x.underway.eraseIdx place else x.underway
  | .call _ _ | .others _ => x.underway

/-- The workshop after an event. One that does not apply changes nothing. -/
def step (x : State σ κ) (e : Event σ κ) : State σ κ where
  dispatcher := x.dispatcher.run (x.input? e).toList
  around := w.change x e
  underway := w.staff x e

/-- The workshop after a row of events. -/
def run (x : State σ κ) (events : List (Event σ κ)) : State σ κ := events.foldl w.step x

/-- The steps that the dispatcher takes. -/
def inputs : State σ κ → List (Event σ κ) → List (Moment × Input κ)
  | _, [] => []
  | x, e :: events => (x.input? e).toList ++ inputs (w.step x e) events

theorem run_append (x : State σ κ) (xs ys : List (Event σ κ)) :
    w.run x (xs ++ ys) = w.run (w.run x xs) ys := List.foldl_append

theorem run_concat (x : State σ κ) (xs : List (Event σ κ)) (e : Event σ κ) :
    w.run x (xs ++ [e]) = w.step (w.run x xs) e := w.run_append x xs [e]

theorem inputs_append : ∀ (x : State σ κ) (xs ys : List (Event σ κ)),
    w.inputs x (xs ++ ys) = w.inputs x xs ++ w.inputs (w.run x xs) ys
  | _, [], _ => rfl
  | x, e :: xs, ys => by
    rw [List.cons_append, inputs, inputs, inputs_append (w.step x e) xs ys, List.append_assoc]
    rfl

/-- **To the dispatcher** it is a run like any other. -/
theorem dispatcher_run : ∀ (x : State σ κ) (events : List (Event σ κ)),
    (w.run x events).dispatcher = x.dispatcher.run (w.inputs x events)
  | _, [] => rfl
  | x, e :: events => by
    rw [inputs, Dispatcher.run_append]
    exact dispatcher_run (w.step x e) events

/-! ### Who is at work -/

theorem eraseIdx_eq_filter {α β : Type} [DecidableEq β] {f : α → β} {l : List α}
    (hn : (l.map f).Nodup) {n : Nat} {a : α} (h : l[n]? = some a) :
    l.eraseIdx n = l.filter fun b => f b ≠ f a := by
  induction l generalizing n with
  | nil => cases h
  | cons b l ih =>
    obtain ⟨hb, hn⟩ := List.nodup_cons.mp hn
    cases n with
    | zero =>
      obtain rfl := Option.some.inj h
      rw [List.eraseIdx_cons_zero, List.filter_cons_of_neg (by simp), List.filter_eq_self.mpr]
      intro a' ha'
      exact decide_eq_true fun he => hb (he ▸ List.mem_map_of_mem ha')
    | succ n =>
      have hne : f b ≠ f a := fun he => hb (he ▸ List.mem_map_of_mem (List.mem_of_getElem? h))
      rw [List.eraseIdx_cons_succ, List.filter_cons_of_pos (by simpa using hne), ih hn h]

/-- What is at work is what the dispatcher has under way. -/
def State.Staffed (x : State σ κ) : Prop := x.underway.map Prod.fst = x.dispatcher.executions

variable {w} {x : State σ κ} {e : Execution κ} {work : Work σ (Except Failure CommandValue)}

theorem State.Staffed.mem (h : x.Staffed) (he : (e, work) ∈ x.underway) :
    e ∈ x.dispatcher.executions :=
  h ▸ List.mem_map_of_mem he

theorem State.Staffed.find? (h : x.Staffed)
    (hn : (x.dispatcher.executions.map fun e => e.job.submission.ticket).Nodup) {place : Nat}
    (he : x.underway[place]? = some (e, work)) :
    x.dispatcher.executions.find? (fun e' => e'.job.submission.ticket = e.job.submission.ticket)
      = some e := by
  have hmem := h.mem (List.mem_of_getElem? he)
  have hsome : (x.dispatcher.executions.find? fun e' =>
      e'.job.submission.ticket = e.job.submission.ticket).isSome :=
    List.find?_isSome.mpr ⟨e, hmem, decide_eq_true rfl⟩
  obtain ⟨e', hfound⟩ := Option.isSome_iff_exists.mp hsome
  rw [hfound, List.inj_on_of_nodup_map hn (List.mem_of_find?_eq_some hfound) hmem
    (Dispatcher.ticket_of_found hfound)]

theorem State.Staffed.step (h : x.Staffed)
    (hn : (x.dispatcher.executions.map fun e => e.job.submission.ticket).Nodup)
    (event : Event σ κ) :
    (w.step x event).Staffed := by
  cases event with
  | call now i =>
    change x.underway.map Prod.fst = (x.dispatcher.run (x.input? (.call now i)).toList).executions
    rw [State.input?]
    cases hi : i.isOfWork with
    | true => exact h
    | false => exact h.trans (Dispatcher.executions_step hi).symm
  | start now lane pool =>
    change (w.staff x (.start now lane pool)).map Prod.fst =
      (x.dispatcher.step now (.startJob lane pool)).executions
    rw [staff, Dispatcher.step]
    cases hs : x.dispatcher.startJob? lane pool with
    | none => exact h
    | some started =>
      obtain ⟨e, d'⟩ := started
      have happended : d'.executions = x.dispatcher.executions ++ [e] :=
        Dispatcher.executions_startJob hs
      change (x.underway ++ [(e, w.does e)]).map Prod.fst = d'.executions
      rw [happended, List.map_append, h]
      rfl
  | turn place =>
    change (w.staff x (.turn place)).map Prod.fst = x.dispatcher.executions
    rw [staff]
    cases hp : x.underway[place]? with
    | none => exact h
    | some entry =>
      have hentry : (x.underway.map Prod.fst)[place]? = some entry.1 := by
        rw [List.getElem?_map, hp]
        rfl
      obtain ⟨hlt, heq⟩ := List.getElem?_eq_some_iff.mp hentry
      rw [← h, List.map_set]
      exact heq ▸ List.set_getElem_self hlt
  | finish now place =>
    change (w.staff x (.finish now place)).map Prod.fst =
      (x.dispatcher.run (x.input? (.finish now place)).toList).executions
    rw [staff, State.input?]
    cases hp : x.underway[place]? with
    | none => exact h
    | some entry =>
      obtain ⟨e, work⟩ := entry
      cases hw : work.ended? with
      | none =>
        simp only [Option.bind_eq_bind, Option.bind_some, hw, Option.isSome_none]
        exact h
      | some outcome =>
        have hentry : x.dispatcher.executions[place]? = some e := by
          rw [← h, List.getElem?_map, hp]
          rfl
        simp only [Option.bind_eq_bind, Option.bind_some, hw, Option.isSome_some, if_true]
        change _ = (x.dispatcher.step now (.finishJob e.job.submission.ticket outcome)).executions
        rw [Dispatcher.executions_finishJob outcome (h.find? hn hp), ← eraseIdx_eq_filter hn hentry,
          ← h, List.eraseIdx_map]
  | others s => exact h

/-- What is at work after an event was at work before, has just begun, or has just had its turn. -/
theorem mem_staff {event : Event σ κ} (h : (e, work) ∈ w.staff x event) :
    (e, work) ∈ x.underway ∨ work = w.does e ∨ ∃ place earlier, event = .turn place ∧
      x.underway[place]? = some (e, earlier) ∧ work = (earlier.turn x.around).1 := by
  cases event with
  | call | others => exact .inl h
  | start now lane pool =>
    rw [staff] at h
    split at h
    · exact .inl h
    · rcases List.mem_append.mp h with h | h
      · exact .inl h
      · obtain ⟨rfl, rfl⟩ := Prod.mk.inj (List.mem_singleton.mp h)
        exact .inr (.inl rfl)
  | turn place =>
    rw [staff] at h
    split at h
    · exact .inl h
    · rename_i e' earlier hp
      rcases List.mem_or_eq_of_mem_set h with h | h
      · exact .inl h
      · obtain ⟨rfl, rfl⟩ := Prod.mk.inj h
        exact .inr (.inr ⟨place, earlier, rfl, hp, rfl⟩)
  | finish now place =>
    rw [staff] at h
    split at h
    · exact .inl h
    · split at h
      · exact .inl (List.mem_of_mem_eraseIdx h)
      · exact .inl h

/-- The dispatcher ends an execution as it has come to its end at work. -/
theorem State.exists_of_finish {event : Event σ κ} {now : Moment} {ticket : Nat} {outcome : Outcome}
    (h : x.input? event = some (now, .finishJob ticket outcome)) :
    ∃ (place : Nat) (e : Execution κ) (work : Work σ (Except Failure CommandValue)),
      x.underway[place]? = some (e, work) ∧ work.ended? = some outcome ∧
        e.job.submission.ticket = ticket := by
  cases event with
  | call now i =>
    rw [input?] at h
    split at h
    · cases h
    · rename_i hi
      cases h
      exact absurd rfl hi
  | finish now place =>
    obtain ⟨⟨e, work⟩, hp, h⟩ := Option.bind_eq_some_iff.mp h
    obtain ⟨ended, hended, h⟩ := Option.bind_eq_some_iff.mp h
    cases h
    exact ⟨place, e, work, hp, hended, rfl⟩
  | start | turn | others => cases h

theorem State.Staffed.exists_of_ended (h : x.Staffed)
    (hn : (x.dispatcher.executions.map fun e => e.job.submission.ticket).Nodup) {event : Event σ κ}
    {y : Ended κ}
    (hy : y ∈ Dispatcher.chronicle Dispatcher.endedBy x.dispatcher (x.input? event).toList) :
    ∃ work outcome, (y.execution, work) ∈ x.underway ∧ work.ended? = some outcome ∧
      y.result = Dispatcher.resultOf y.execution outcome := by
  cases hinput : x.input? event with
  | none =>
    rw [hinput] at hy
    cases hy
  | some input =>
    obtain ⟨now, i⟩ := input
    rw [hinput] at hy
    rcases List.mem_append.mp hy with hy | hy
    · obtain ⟨ticket, outcome, rfl, hresult, -, hfound⟩ := Dispatcher.endedBy_cases hy
      obtain ⟨place, e, work, hp, hended, rfl⟩ := State.exists_of_finish hinput
      obtain rfl : e = y.execution := Option.some.inj ((h.find? hn hp).symm.trans hfound)
      exact ⟨work, outcome, List.mem_of_getElem? hp, hended, hresult⟩
    · cases hy

section Reached

variable (w) (settings : Settings) (poster : Poster) (registry : Option Registry) (s₀ : σ)

/-- A workshop around a dispatcher that has done nothing yet. -/
def opened : State σ κ := .idle (.ofSettings settings poster registry) s₀

theorem tickets_nodup (events : List (Event σ κ)) :
    ((w.run (opened settings poster registry s₀) events).dispatcher.executions.map
      fun e => e.job.submission.ticket).Nodup := by
  rw [dispatcher_run]
  exact Dispatcher.executions_nodup_reached settings poster registry _

theorem staffed_reached (events : List (Event σ κ)) :
    (w.run (opened settings poster registry s₀) events).Staffed := by
  induction events using List.reverseRecOn with
  | nil => rfl
  | append_singleton events event ih =>
    rw [run_concat]
    exact ih.step (tickets_nodup w settings poster registry s₀ events) event

/-! ### What executions come upon -/

variable {w settings poster registry s₀}

/-- What holds of an execution when it begins, and of what is left of it after a turn in
surroundings with a property, holds of it as long as the surroundings have the property whenever it
is at work. -/
theorem kept_reached {A : σ → Prop} {Q : Work σ (Except Failure CommandValue) → Prop}
    {events : List (Event σ κ)} {e : Execution κ} {work : Work σ (Except Failure CommandValue)}
    (at_work : (e, work) ∈ (w.run (opened settings poster registry s₀) events).underway)
    (does : Q (w.does e)) (turn : ∀ {work s}, Q work → A s → A (work.turn s).2 → Q (work.turn s).1)
    (holds : ∀ m, m <+: events →
      e ∈ (w.run (opened settings poster registry s₀) m).dispatcher.executions →
        A (w.run (opened settings poster registry s₀) m).around) : Q work := by
  induction events using List.reverseRecOn generalizing work with
  | nil => cases at_work
  | append_singleton events event ih =>
    have hheld := holds (events ++ [event]) (List.prefix_refl _)
      ((staffed_reached w settings poster registry s₀ _).mem at_work)
    have hbefore {earlier}
        (h : (e, earlier) ∈ (w.run (opened settings poster registry s₀) events).underway) :
          Q earlier :=
      ih h fun m hm => holds m (hm.trans (List.prefix_append _ _))
    rw [run_concat] at at_work hheld
    rcases mem_staff at_work with hold | rfl | ⟨place, earlier, rfl, hp, rfl⟩
    · exact hbefore hold
    · exact does
    · have hmem := List.mem_of_getElem? hp
      have hfound := holds events (List.prefix_append _ _)
        ((staffed_reached w settings poster registry s₀ events).mem hmem)
      refine turn (hbefore hmem) hfound ?_
      rw [step, change, hp] at hheld
      exact hheld

/-- An execution that is at work found and left the property whenever it had a turn, if the property
held whenever it was at work. -/
theorem while_reached {A : σ → Prop} {P : Except Failure CommandValue → Prop}
    {events : List (Event σ κ)} {e : Execution κ} {work : Work σ (Except Failure CommandValue)}
    (at_work : (e, work) ∈ (w.run (opened settings poster registry s₀) events).underway)
    (does : (w.does e).While A P)
    (holds : ∀ m, m <+: events →
      e ∈ (w.run (opened settings poster registry s₀) m).dispatcher.executions →
        A (w.run (opened settings poster registry s₀) m).around) :
    work.While A P :=
  kept_reached at_work does (fun h found left => h.turn found left) holds

theorem upholds_reached {A : σ → Prop} {events : List (Event σ κ)} {e : Execution κ}
    {work : Work σ (Except Failure CommandValue)}
    (at_work : (e, work) ∈ (w.run (opened settings poster registry s₀) events).underway)
    (does : (w.does e).Upholds A) : work.Upholds A :=
  kept_reached at_work does (fun h (_ : True) _ => (h.turn _).2) fun _ _ _ => trivial

/-- An execution that ends for the dispatcher has come to its end at work. -/
theorem exists_finish {earlier later : List (Event σ κ)} {y : Ended κ}
    (h : y ∈ Dispatcher.chronicle Dispatcher.endedBy
      (w.run (opened settings poster registry s₀) earlier).dispatcher
      (w.inputs (w.run (opened settings poster registry s₀) earlier) later)) :
    ∃ m work outcome, m <+: later ∧
      (y.execution, work) ∈ (w.run (opened settings poster registry s₀) (earlier ++ m)).underway ∧
      work.ended? = some outcome ∧ y.result = Dispatcher.resultOf y.execution outcome := by
  induction later generalizing earlier with
  | nil => cases h
  | cons event later ih =>
    rw [inputs, Dispatcher.chronicle_append] at h
    rcases List.mem_append.mp h with h | h
    · obtain ⟨work, outcome, hended⟩ :=
        (staffed_reached w settings poster registry s₀ earlier).exists_of_ended
        (tickets_nodup w settings poster registry s₀ earlier) h
      exact ⟨[], work, outcome, List.nil_prefix, by rwa [List.append_nil]⟩
    · have hlater : y ∈ Dispatcher.chronicle Dispatcher.endedBy
          (w.run (opened settings poster registry s₀) (earlier ++ [event])).dispatcher
          (w.inputs (w.run (opened settings poster registry s₀) (earlier ++ [event])) later) := by
        rw [run_concat]
        exact h
      obtain ⟨m, work, outcome, hm, hended⟩ := ih hlater
      refine ⟨event :: m, work, outcome, (List.prefix_cons_inj event).mpr hm, ?_⟩
      rwa [List.append_cons]

/-- **An execution that ends otherwise** than it does while a property holds was at work at a moment
when the property did not hold. -/
theorem exists_moment {A : σ → Prop} {P : CommandValue → Prop} {earlier later : List (Event σ κ)}
    {y : Ended κ}
    (ended : y ∈ Dispatcher.chronicle Dispatcher.endedBy
      (w.run (opened settings poster registry s₀) earlier).dispatcher
      (w.inputs (w.run (opened settings poster registry s₀) earlier) later))
    (does : Flow.While A P (w.does y.execution))
    (otherwise : ∀ outcome : Outcome, y.result = Dispatcher.resultOf y.execution outcome →
      ∃ v, outcome = .ok (.ok v) ∧ ¬ P v) :
    ∃ m, m <+: earlier ++ later ∧
      y.execution ∈ (w.run (opened settings poster registry s₀) m).dispatcher.executions ∧
      ¬ A (w.run (opened settings poster registry s₀) m).around := by
  obtain ⟨m, work, outcome, hm, hmem, hended, hresult⟩ := exists_finish ended
  obtain ⟨v, rfl, hv⟩ := otherwise outcome hresult
  by_contra hnever
  refine hv (Work.While.of_ended? (while_reached hmem does fun m' hm' hwork => ?_) hended v rfl)
  by_contra hfailed
  exact hnever ⟨m', hm'.trans ((List.prefix_append_right_inj earlier).mpr hm), hwork, hfailed⟩

theorem exists_of_mem_inputs {x : State σ κ} {now : Moment} {ticket : Nat} {outcome : Outcome}
    {events : List (Event σ κ)} (h : (now, .finishJob ticket outcome) ∈ w.inputs x events) :
    ∃ m e work, m <+: events ∧ (e, work) ∈ (w.run x m).underway ∧ work.ended? = some outcome ∧
      e.job.submission.ticket = ticket := by
  induction events generalizing x with
  | nil => cases h
  | cons event events ih =>
    rcases List.mem_append.mp h with h | h
    · obtain ⟨place, e, work, hp, hended, hticket⟩ :=
        State.exists_of_finish (Option.mem_toList.mp h)
      exact ⟨[], e, work, List.nil_prefix, List.mem_of_getElem? hp, hended, hticket⟩
    · obtain ⟨m, e, work, hm, hended⟩ := ih h
      exact ⟨event :: m, e, work, (List.prefix_cons_inj event).mpr hm, hended⟩

/-- **An execution that breaks off** as it does not while a property holds was at work at a moment
when the property did not hold. -/
theorem exists_moment_of_break {A : Execution κ → σ → Prop} {B : Failure.Payload → Prop}
    {events : List (Event σ κ)} {now : Moment} {ticket : Nat} {payload : Failure.Payload}
    (broke : (now, .finishJob ticket (.error payload)) ∈
      w.inputs (opened settings poster registry s₀) events)
    (does : ∀ e, (w.does e).BreaksOnly (A e) B) (otherwise : ¬ B payload) :
    ∃ m e, m <+: events ∧ e ∈ (w.run (opened settings poster registry s₀) m).dispatcher.executions ∧
      e.job.submission.ticket = ticket ∧
      ¬ A e (w.run (opened settings poster registry s₀) m).around := by
  obtain ⟨m, e, work, hm, hmem, hended, hticket⟩ := exists_of_mem_inputs broke
  by_contra hnever
  have hbreaks : work.BreaksOnly (A e) B := by
    refine kept_reached hmem (does e) (fun h found _ => h.turn found) fun m' hm' hwork => ?_
    by_contra hfailed
    exact hnever ⟨m', e, hm'.trans hm, hwork, hticket, hfailed⟩
  exact otherwise (hbreaks.of_ended? hended)

/-- **What changes the part that is left to the executions**: the turn of one of them that does not
uphold what was the case. -/
theorem exists_turn {I : τ → Prop} {earlier later : List (Event σ κ)}
    (before : I (w.kept.get (w.run (opened settings poster registry s₀) earlier).around))
    (after : ¬ I
      (w.kept.get (w.run (opened settings poster registry s₀) (earlier ++ later)).around)) :
    ∃ (m : List (Event σ κ)) (place : Nat) (e : Execution κ)
      (work : Work σ (Except Failure CommandValue)),
      m ++ [.turn place] <+: later ∧
      (w.run (opened settings poster registry s₀) (earlier ++ m)).underway[place]? =
        some (e, work) ∧
      I (w.kept.get (w.run (opened settings poster registry s₀) (earlier ++ m)).around) ∧
      ¬ I (w.kept.get
        (w.run (opened settings poster registry s₀) (earlier ++ m ++ [.turn place])).around) ∧
      ¬ (w.does e).Upholds fun s => I (w.kept.get s) := by
  induction later generalizing earlier with
  | nil =>
    rw [List.append_nil] at after
    exact absurd before after
  | cons event later ih =>
    by_cases hstep :
      I (w.kept.get (w.run (opened settings poster registry s₀) (earlier ++ [event])).around)
    · obtain ⟨m, place, e, work, hm, hwork⟩ := ih hstep (by rwa [List.append_cons] at after)
      refine ⟨event :: m, place, e, work, (List.prefix_cons_inj event).mpr hm, ?_⟩
      rwa [List.append_cons earlier event m]
    · have hchanged := hstep
      rw [run_concat] at hchanged
      cases event with
      | call | start | finish => exact absurd before hchanged
      | others s =>
        refine absurd before fun _ => hchanged ?_
        change I (w.kept.get (w.kept.set _ s))
        rwa [w.kept.get_set]
      | turn place =>
        rw [step, change] at hchanged
        split at hchanged
        · exact absurd before hchanged
        · rename_i e work hp
          refine ⟨[], place, e, work, List.prefix_append [_] later, ?_⟩
          rw [List.append_nil]
          refine ⟨hp, before, hstep, fun hup => ?_⟩
          exact hchanged (((upholds_reached (List.mem_of_getElem? hp) hup).turn _).1 before)

end Reached

/-! ### Occasions -/

open Dispatcher

section Occasions

variable (w) {settings : Settings} {poster : Poster} {registry : Option Registry} {s₀ : σ}
  {before after : List (Event σ κ)} {now : Moment} {i : Input κ}

theorem isOfWork_of_handedIn {d : Dispatcher κ} {s : Submission κ} (h : s ∈ d.handedIn now i) :
    i.isOfWork = false := by
  cases i with
  | startJob | finishJob => cases h
  | _ => rfl

/-- A call on which a command is handed in, as an occasion of the dispatcher's run. -/
def occasion (x : State σ κ) (before : List (Event σ κ)) (now : Moment) (i : Input κ)
    (after : List (Event σ κ)) : Occasion κ :=
  ⟨w.inputs x before, now, i, w.inputs (w.run x (before ++ [.call now i])) after⟩

theorem inputs_occasion (x : State σ κ) (h : i.isOfWork = false) :
    (w.occasion x before now i after).inputs = w.inputs x (before ++ .call now i :: after) := by
  have hcall : (w.run x before).input? (.call now i) = some (now, i) := by
    rw [State.input?, if_neg (by simp [h])]
  rw [inputs_append, inputs, hcall, ← run_concat]
  rfl

theorem state_occasion (x : State σ κ) :
    (w.occasion x before now i after).state x.dispatcher = (w.run x before).dispatcher :=
  (w.dispatcher_run x before).symm

theorem endedSince_occasion (x : State σ κ) (h : i.isOfWork = false) :
    (w.occasion x before now i after).endedSince x.dispatcher =
      chronicle endedBy (w.run x (before ++ [.call now i])).dispatcher
        (w.inputs (w.run x (before ++ [.call now i])) after) := by
  have hstep : (w.run x (before ++ [.call now i])).dispatcher =
      ((w.occasion x before now i after).state x.dispatcher).step now i := by
    rw [run_concat, state_occasion]
    change (w.run x before).dispatcher.run ((w.run x before).input? (.call now i)).toList = _
    rw [State.input?, if_neg (by simp [h])]
    rfl
  rw [hstep]
  rfl

theorem handedIn_occasion (x : State σ κ) :
    (w.occasion x before now i after).handedIn x.dispatcher =
      (w.run x before).dispatcher.handedIn now i := by
  rw [Occasion.handedIn, state_occasion]
  rfl

/-- In the workshop, too, a command is told of its answers only. -/
theorem tellsOnly_call {s : Submission κ}
    (handed : s ∈ (w.run (opened settings poster registry s₀) before).dispatcher.handedIn now i) :
    (w.run (opened settings poster registry s₀)
      (before ++ .call now i :: after)).dispatcher.TellsOnly s.ticket
      ((w.run (opened settings poster registry s₀) before).dispatcher.futureFor now i)
      (Answer (ofSettings settings poster registry)
        (w.occasion (opened settings poster registry s₀) before now i after) s) := by
  let start : State σ κ := opened settings poster registry s₀
  let o := w.occasion start before now i after
  have hin : s ∈ o.handedIn start.dispatcher := by rwa [handedIn_occasion]
  have hrun :
      (w.run start (before ++ .call now i :: after)).dispatcher =
        start.dispatcher.run o.inputs := by
    rw [dispatcher_run, w.inputs_occasion start (isOfWork_of_handedIn handed)]
  have hfuture : (w.run start before).dispatcher.futureFor now i =
      (o.state start.dispatcher).futureFor o.now o.input := by
    rw [state_occasion]
    rfl
  rw [hrun, hfuture]
  exact tellsOnly_reached settings poster registry o hin

/-- An execution of a command that was handed in later had not begun. -/
theorem prefix_of_handedIn {s : Submission κ} {e : Execution κ} {m events : List (Event σ κ)}
    (handed : s ∈ (w.run (opened settings poster registry s₀) before).dispatcher.handedIn now i)
    (work : e ∈ (w.run (opened settings poster registry s₀) m).dispatcher.executions)
    (same : e.job.submission = s) (hm : m <+: events) (hbefore : before <+: events) :
    before <+: m := by
  refine (List.prefix_or_prefix_of_prefix hbefore hm).resolve_right fun hearly => ?_
  obtain ⟨rest, rfl⟩ := hearly
  have hsubmitted (es : List (Event σ κ)) :
      (w.run (opened settings poster registry s₀) es).dispatcher.stats.submitted =
        (chronicle handedIn (ofSettings settings poster registry)
          (w.inputs (opened settings poster registry s₀) es)).length := by
    rw [dispatcher_run]
    exact submitted_reached settings poster registry _
  have hticket := (handedIn_eq_singleton handed).2
  rw [← same] at hticket
  obtain ⟨through, hledger⟩ := ledger_reached (κ := κ) settings poster registry
    (w.inputs (opened settings poster registry s₀) m)
  rw [dispatcher_run] at work
  have hlt := hledger.job_lt (Multiset.mem_add.mpr (.inl (Dispatcher.mem_jobs_of_execution work)))
  change _ < ((ofSettings settings poster registry).run _).stats.submitted at hlt
  rw [hticket, hsubmitted, submitted_reached, inputs_append, chronicle_append, List.length_append]
    at hlt
  omega

end Occasions

end Workshop

end SignOn
