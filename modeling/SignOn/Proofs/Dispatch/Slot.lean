import SignOn.Proofs.Dispatch.Workers
import SignOn.Proofs.Dispatch.Formed
import SignOn.Proofs.Session.Registry

/-! # The interactive lane and the slot

The interactive lane keeps its one pool for good, and a pool of one worker has one job in work at
most, so commands are executed one after another in the order in which they began (`Line`). The slot
is held by the session of the one that is executed, and by nobody if there is none (`Slot`). -/

namespace SignOn

variable {κ : Type}

namespace Dispatcher

variable {d d' : Dispatcher κ} {t t' : Task κ} {begun started : List (Submission κ)}

/-! ### The order of interactive commands -/

/-- The interactive command that a step begins, if its lane takes it. -/
def begunBy (d : Dispatcher κ) (_ : Moment) : Input κ → List (Submission κ)
  | .beginInteractive c => if d.interactive.accepting then [d.next c .interactive] else []
  | _ => []

/-- The interactive command whose execution a step starts. -/
def startedBy (d : Dispatcher κ) (_ : Moment) : Input κ → List (Submission κ)
  | .startJob .interactive pool => (d.interactive.start? pool).toList.map fun s => s.1.submission
  | _ => []

/-- The interactive command that a step is about to give to its lane. -/
def placing (d : Dispatcher κ) : Task κ → List (Submission κ)
  | .place j =>
    if j.submission.lane = .interactive ∧ d.interactive.accepting then [j.submission] else []
  | .tell _ _ => []

/-- The interactive lane has one pool with one worker. The commands that began are those that were
started and those that wait, in this order. -/
structure Line (begun started : List (Submission κ)) (d : Dispatcher κ) (t : Task κ) : Prop where
  workers : d.interactive.workers = 1
  pool : ∃ queue running, d.interactive.pools = [⟨0, queue, running⟩] ∧ running.length ≤ 1 ∧
    begun = started ++ queue.map (·.submission) ++ d.placing t

theorem placing_of_silent {j : Job κ} (h : j.submission.lane = .silent) :
    d.placing (.place j) = [] :=
  if_neg (by simp [h])

theorem line_ofSettings (settings : Settings) (poster : Poster) (registry : Option Registry) :
    Line [] [] (ofSettings settings poster registry : Dispatcher κ) .done :=
  ⟨rfl, [], [], rfl, Nat.zero_le _, rfl⟩

theorem Line.keep (h : Line begun started d t) (hw : d'.interactive.workers = d.interactive.workers)
    (hp : d'.interactive.pools = d.interactive.pools) (ht : d'.placing t' = d.placing t) :
    Line begun started d' t' := by
  obtain ⟨hworkers, queue, running, hpool, hlen, he⟩ := h
  exact ⟨hw.trans hworkers, queue, running, hp.trans hpool, hlen, by rw [ht]; exact he⟩

theorem Line.queue {j : Job κ} {l : Lane (Job κ)} (h : Line begun started d (.place j))
    (accepted : (d.lane j.submission.lane).submit? j = some l) :
    Line begun started (d.withLane j.submission.lane l) .done := by
  obtain ⟨hworkers, queue, running, hpool, hlen, he⟩ := h
  cases hk : j.submission.lane with
  | silent =>
    refine ⟨hworkers, queue, running, hpool, hlen, ?_⟩
    rw [he, placing, if_neg (by simp [hk])]
    rfl
  | interactive =>
    rw [hk] at accepted
    have hacc : d.interactive.accepting = true := by
      by_contra hno
      simp [lane, Lane.submit?, hno] at accepted
    simp only [lane, Lane.submit?, hacc, hpool, Option.some.injEq] at accepted
    subst accepted
    refine ⟨hworkers, queue ++ [j], running, rfl, hlen, ?_⟩
    rw [he, placing, if_pos ⟨hk, hacc⟩, List.map_append, List.append_assoc, List.append_assoc,
      List.append_assoc]
    rfl

theorem Line.free {xs : List (Delivery κ)} {kind : LaneKind} {pool ticket : Nat}
    (h : Line begun started d (.tell xs (.freeWorker kind pool ticket))) :
    Line begun started (d.freeWorker kind pool ticket) .done := by
  cases kind with
  | silent => exact h.keep rfl rfl rfl
  | interactive =>
    obtain ⟨hworkers, queue, running, hpool, hlen, he⟩ := h
    by_cases h0 : pool = 0
    · refine ⟨hworkers, queue, running.eraseP fun j => j.submission.ticket = ticket, ?_, ?_, he⟩
      · simp [freeWorker, withLane, lane, Lane.finish, Lane.changePool, hpool, h0]
      · exact (List.length_eraseP_le).trans hlen
    · refine ⟨hworkers, queue, running, ?_, hlen, he⟩
      simp [freeWorker, withLane, lane, Lane.finish, Lane.changePool, hpool, Ne.symm h0]

theorem Line.breakOff {xs : List (Delivery κ)} {ending : Ending}
    (h : Line begun started d (.tell xs ending)) :
    Line begun started (d.breakOff ending) .done := by
  cases ending with
  | freeWorker => exact h.free
  | nothing | settle => exact h.keep rfl rfl rfl

theorem Line.placing_refused {j : Job κ} (h : Line begun started d (.place j))
    (refused : (d.lane j.submission.lane).submit? j = none) : d.placing (.place j) = [] := by
  obtain ⟨-, queue, running, hpool, -, -⟩ := h
  refine if_neg fun ⟨hk, hacc⟩ => ?_
  rw [hk] at refused
  simp [lane, Lane.submit?, hacc, hpool] at refused

theorem Line.move (hm : Move d t d' t') (h : Line begun started d t) :
    Line begun started d' t' := by
  cases hm with
  | queue accepted => exact h.queue accepted
  | @reject j refused => exact h.keep rfl rfl (h.placing_refused refused).symm
  | post | call => exact h.keep rfl rfl rfl
  | free => exact h.free
  | settle =>
    rw [settle_eq]
    exact h.keep rfl rfl rfl

/-- A worker that takes a job finds no other job in work. -/
theorem Line.taken (h : Line begun started d .done) {pool : Nat} {j : Job κ} {l : Lane (Job κ)}
    (taken : d.interactive.start? pool = some (j, l)) :
    ∃ rest, d.interactive.pools = [⟨0, j :: rest, []⟩] ∧ l.pools = [⟨0, rest, [j]⟩] ∧
      l.workers = 1 ∧ begun = started ++ (j :: rest).map (·.submission) := by
  obtain ⟨hworkers, queue, running, hpool, hlen, he⟩ := h
  obtain ⟨rest, running', hfind, hfree, hnew⟩ := Lane.start?_eq_some taken
  have hmem := List.mem_of_find?_eq_some hfind
  rw [hpool, List.mem_singleton, Pool.mk.injEq] at hmem
  obtain ⟨rfl, rfl, rfl⟩ := hmem
  have hnone : running' = [] := by
    rw [Lane.poolSize, hworkers] at hfree
    exact List.length_eq_zero_iff.mp (by omega)
  subst hnone
  refine ⟨rest, hpool, ?_, by rw [hnew]; exact hworkers, by rw [he]; exact List.append_nil _⟩
  rw [hnew]
  simp [Lane.changePool, hpool]

theorem Line.start (h : Line begun started d .done) {pool : Nat} {j : Job κ} {l : Lane (Job κ)}
    (taken : d.interactive.start? pool = some (j, l)) (hl : d'.interactive = l) :
    Line begun (started ++ [j.submission]) d' .done := by
  obtain ⟨rest, -, hnew, hworkers, he⟩ := h.taken taken
  refine ⟨by rw [hl]; exact hworkers, rest, [j], by rw [hl]; exact hnew, by simp, ?_⟩
  rw [he]
  simp [placing, Task.done]

theorem Line.inWork_eq_of_taken (h : Line begun started d .done) {pool : Nat} {j : Job κ}
    {l : Lane (Job κ)} (taken : d.interactive.start? pool = some (j, l)) :
    d.interactive.inWork = 0 := by
  obtain ⟨rest, hpool, -⟩ := h.taken taken
  simp [Lane.inWork, hpool]

theorem Line.begin {c : Command κ} (h : Line begun started d .done)
    (hd : d'.interactive = d.interactive) {key : Option CommandKey} {future : Option Nat} :
    Line (begun ++ if d.interactive.accepting then [d.next c .interactive] else []) started d'
      (.place ⟨d.next c .interactive, key, future⟩) := by
  obtain ⟨hworkers, queue, running, hpool, hlen, he⟩ := h
  refine ⟨by rw [hd]; exact hworkers, queue, running, by rw [hd]; exact hpool, hlen, ?_⟩
  rw [he, placing, hd]
  by_cases hacc : d.interactive.accepting = true
  · rw [if_pos hacc, if_pos ⟨rfl, hacc⟩]
    simp [placing, Task.done]
  · rw [if_neg hacc, if_neg fun h => hacc h.2]
    simp [placing, Task.done]

/-- A step that neither begins nor starts an interactive command. -/
theorem Line.pass {begun' started' : List (Submission κ)} (h : Line begun started d .done)
    (hb : begun' = []) (hs : started' = []) (hw : d'.interactive.workers = d.interactive.workers)
    (hp : d'.interactive.pools = d.interactive.pools) (ht : d'.placing t' = []) :
    Line (begun ++ begun') (started ++ started') d' t' := by
  rw [hb, hs, List.append_nil, List.append_nil]
  exact h.keep hw hp ht

/-- **Commands keep their order** as they begin and as they are started. -/
theorem Line.opening {now : Moment} {i : Input κ} (ho : Opening d now i d' t)
    (h : Line begun started d .done) :
    Line (begun ++ d.begunBy now i) (started ++ d.startedBy now i) d' t := by
  cases ho with
  | @begun c =>
    have hs : d.startedBy now (.beginInteractive c) = [] := rfl
    rw [hs, List.append_nil]
    exact h.begin (by rw [makeWay_eq]; rfl)
  | @startedInteractive pool job l taken =>
    have hb : d.begunBy now (.startJob .interactive pool) = [] := rfl
    have hs : d.startedBy now (.startJob .interactive pool) = [job.submission] := by
      rw [startedBy, taken]
      rfl
    rw [hb, hs, List.append_nil]
    exact h.start taken rfl
  | @idle kind pool missing =>
    cases kind with
    | silent => exact h.pass rfl rfl rfl rfl rfl
    | interactive =>
      refine h.pass rfl ?_ rfl rfl rfl
      rw [startedBy, show d.interactive.start? pool = none from missing]
      rfl
  | launched | alone | forgotten => exact h.pass rfl rfl rfl rfl (placing_of_silent rfl)
  | answered | joined | joinedLate => exact h.pass rfl rfl rfl rfl rfl
  | continuation | cleared | expired | stopped | reset | shutDown | closed | reopened =>
    exact h.pass rfl rfl rfl rfl rfl
  | startedSilent | waits | unfinished | noStrand | nonePosted | ended | ran =>
    exact h.pass rfl rfl rfl rfl rfl
  | finished =>
    rw [executed_eq]
    exact h.pass rfl rfl rfl rfl rfl
  | @broke strand s found =>
    have hw : Line begun started { d with strands := d.strands.filter fun t => t.id ≠ strand }
      (.tell s.rest s.ending) := h.keep rfl rfl rfl
    have hb : d.begunBy now (.endCallback strand true) = [] := rfl
    have hs : d.startedBy now (.endCallback strand true) = [] := rfl
    rw [hb, hs, List.append_nil, List.append_nil]
    exact hw.breakOff

theorem line_reached (settings : Settings) (poster : Poster) (registry : Option Registry)
    (inputs : List (Moment × Input κ)) :
    Line (chronicle begunBy (ofSettings settings poster registry) inputs)
      (chronicle startedBy (ofSettings settings poster registry) inputs)
      ((ofSettings settings poster registry).run inputs) .done :=
  reached_keeps (I := fun inputs d t =>
      Line (chronicle begunBy (ofSettings settings poster registry) inputs)
        (chronicle startedBy (ofSettings settings poster registry) inputs) d t)
    (line_ofSettings settings poster registry)
    (fun hr _ _ ho h => by
      rw [chronicle_concat, chronicle_concat, hr]
      exact h.opening ho)
    (fun _ hm h => h.move hm) inputs

/-! ### The slot -/

/-- The slot is held by the session of the execution that has one, which is for its command. -/
structure Slot (d : Dispatcher κ) : Prop where
  registry : d.registry.Sound
  held : (d.executions : Multiset (Execution κ)).filterMap (·.session)
    = (d.registry.active.toList : Multiset Nat)
  owner : ∀ e ∈ d.executions, ∀ id, e.session = some id →
    d.registry.Owns id e.job.submission.command.correlationId

theorem slot_ofSettings (settings : Settings) (poster : Poster) :
    Slot (ofSettings settings poster none : Dispatcher κ) :=
  ⟨Registry.sound_new _, rfl, by simp [ofSettings]⟩

theorem Slot.keep (h : Slot d) (hr : d'.registry = d.registry) (hx : d'.executions = d.executions) :
    Slot d' := by
  obtain ⟨hs, hh, ho⟩ := h
  exact ⟨by rw [hr]; exact hs, by rw [hr, hx]; exact hh, by rw [hr, hx]; exact ho⟩

theorem Slot.active_iff (h : Slot d) {id : Nat} :
    d.registry.active = some id ↔ ∃ e ∈ d.executions, e.session = some id := by
  have hmem : id ∈ (d.registry.active.toList : Multiset Nat) ↔
      ∃ e ∈ d.executions, e.session = some id := by
    rw [← h.held, Multiset.mem_filterMap]
    rfl
  rw [← hmem, Multiset.mem_coe, Option.mem_toList]

/-- A signal to a session leaves the slot to whom it belongs. -/
theorem Slot.signal (h : Slot d) (hs : d'.registry.Sound)
    (ha : d'.registry.active = d.registry.active)
    (ho : ∀ id c, d.registry.Owns id c → d'.registry.Owns id c)
    (hx : d'.executions = d.executions) : Slot d' :=
  ⟨hs, by rw [ha, hx]; exact h.held, fun e he id hid => by
    rw [hx] at he
    exact ho _ _ (h.owner e he id hid)⟩

theorem Slot.move (hm : Move d t d' t') (h : Slot d) : Slot d' := by
  cases hm with
  | queue => rw [withLane_eq]; exact h.keep rfl rfl
  | reject | post | call => exact h.keep rfl rfl
  | free => rw [freeWorker_eq]; exact h.keep rfl rfl
  | settle =>
    rw [settle_eq]
    exact h.keep rfl rfl

theorem not_interactive_of_idle (hs : Staffed d .done) (hi : d.interactive.inWork = 0) :
    ∀ e ∈ d.executions, e.lane ≠ .interactive := by
  intro e he hlane
  have hbusy : (LaneKind.interactive, e.pool, e.job.submission.ticket) ∈ d.busy := by
    rw [hs.busy_eq]
    refine Multiset.mem_add.mpr (.inl (Multiset.mem_add.mpr (.inl ?_)))
    exact Multiset.mem_map.mpr ⟨e, he, by rw [Execution.worker, hlane]⟩
  obtain ⟨j, hj, -⟩ := mem_busyIn hbusy
  rw [lane, hi] at hj
  exact Multiset.notMem_zero _ hj

/-- While no interactive job is in work, nobody holds the slot. -/
theorem Slot.free_of_idle (h : Slot d) (hs : Staffed d .done) (hf : Formed d .done)
    (hi : d.interactive.inWork = 0) : d.registry.active = none := by
  have hnone : (d.executions : Multiset (Execution κ)).filterMap (·.session) = 0 := by
    refine Multiset.eq_zero_iff_forall_notMem.mpr fun id hm => ?_
    obtain ⟨e, he, hid⟩ := (Multiset.mem_filterMap _ _).mp hm
    exact not_interactive_of_idle hs hi e he ((hf.executions e he).session.mp (by rw [hid]; rfl))
  have hh := h.held
  rw [hnone] at hh
  cases ha : d.registry.active with
  | none => rfl
  | some id =>
    rw [ha] at hh
    exact absurd hh.symm (by simp)

theorem Slot.start (h : Slot d) (hfree : d.registry.active = none) {j : Job κ} {pool : Nat}
    {kind : LaneKind}
    (hr : d'.registry = (d.registry.acquire j.submission.command.correlationId).2)
    (hx : d'.executions = d.executions
      ++ [⟨j, kind, pool, some (d.registry.acquire j.submission.command.correlationId).1⟩]) :
    Slot d' := by
  have ha : d.registry.acquire j.submission.command.correlationId
      = d.registry.grant j.submission.command.correlationId := by
    simp [Registry.acquire, Registry.cancelActive, hfree]
  rw [ha] at hr hx
  refine ⟨by rw [hr]; exact h.registry.grant _, ?_, fun e he id hid => ?_⟩
  · have hh := h.held
    rw [hfree] at hh
    rw [hx, hr, ← Multiset.coe_add, Multiset.filterMap_add, hh]
    rfl
  · rw [hr]
    rw [hx] at he
    rcases List.mem_append.mp he with he | he
    · exact (h.owner e he id hid).grant h.registry _
    · rw [List.mem_singleton.mp he] at hid ⊢
      rw [← Option.some.inj hid]
      exact Registry.owns_grant _ _

/-- **An execution that is done** leaves the slot free if it held it, and otherwise as it was. -/
theorem Slot.retire (h : Slot d) (hn : (d.executions.map fun e => e.job.submission.ticket).Nodup)
    {e : Execution κ}
    (he : d.executions.find? (fun e' => e'.job.submission.ticket = e.job.submission.ticket) =
      some e) :
    Slot (d.retired e) ∧ (e.session.isSome → (d.retired e).registry.active = none) := by
  have hh := h.held
  rw [split_of_find hn he] at hh
  cases hs : e.session with
  | none =>
    have hr : (d.retired e).registry = d.registry := by rw [retired, hs]
    rw [Multiset.filterMap_cons_none _ _ hs] at hh
    refine ⟨⟨by rw [hr]; exact h.registry, by rw [hr]; exact hh, fun e' hm id hid => ?_⟩, by simp⟩
    rw [hr]
    exact h.owner e' (List.mem_filter.mp hm).1 id hid
  | some session =>
    have hr : (d.retired e).registry = d.registry.release session := by rw [retired, hs]
    rw [Multiset.filterMap_cons_some _ _ _ hs] at hh
    have hactive : d.registry.active = some session := by
      cases ha : d.registry.active with
      | none => rw [ha] at hh; exact absurd hh (by simp)
      | some id =>
        rw [ha] at hh
        have hm : session ∈ (([id] : List Nat) : Multiset Nat) := by
          rw [show (([id] : List Nat) : Multiset Nat) = _ from hh.symm]
          exact Multiset.mem_cons_self _ _
        rw [List.mem_singleton.mp hm]
    have hnone : (d.retired e).registry.active = none := by
      rw [hr]
      exact Registry.release_active_of_eq hactive
    refine ⟨⟨by rw [hr]; exact h.registry.release _, ?_, fun e' hm id hid => ?_⟩, fun _ => hnone⟩
    · rw [hnone]
      rw [hactive] at hh
      exact (Multiset.cons_inj_right session).mp hh
    · obtain ⟨s, hs, hc⟩ := h.owner e' (List.mem_filter.mp hm).1 id hid
      exact ⟨s, by rw [hr, Registry.session?_release]; exact hs, hc⟩

/-- **Every step keeps the slot with its owner.** -/
theorem Slot.opening {now : Moment} {i : Input κ} (ho : Opening d now i d' t)
    (hn : (d.executions.map fun e => e.job.submission.ticket).Nodup) (hs : Staffed d .done)
    (hf : Formed d .done) (hl : Line begun started d .done) (h : Slot d) : Slot d' := by
  cases ho with
  | answered | joined | joinedLate | launched | alone | forgotten => exact h.keep rfl rfl
  | begun =>
    rw [makeWay_eq]
    exact h.signal h.registry.cancelActive (Registry.cancelActive_eq _).2
      (fun _ _ ho => ho.cancelActive) rfl
  | continuation =>
    exact h.signal (h.registry.deliver _) (Registry.deliver_active _ _)
      (fun _ _ ho => ho.deliver _) rfl
  | expired => exact h.signal (h.registry.resolve _ _) rfl (fun _ _ ho => ho.resolve _ _) rfl
  | shutDown =>
    exact h.signal h.registry.cancelActive (Registry.cancelActive_eq _).2
      (fun _ _ ho => ho.cancelActive) rfl
  | stopped | reset | cleared | closed | reopened => exact h.keep rfl rfl
  | waits | idle | unfinished | noStrand | nonePosted => exact h
  | startedSilent taken =>
    have hnew : ∀ e : Execution κ, e.session = none →
        ((d.executions ++ [e] : List (Execution κ)) : Multiset (Execution κ)).filterMap (·.session)
          = (d.executions : Multiset (Execution κ)).filterMap (·.session) := by
      intro e he
      rw [← Multiset.coe_add, Multiset.filterMap_add, Multiset.coe_singleton,
        ← Multiset.cons_zero, Multiset.filterMap_cons_none _ _ he]
      exact add_zero _
    refine ⟨h.registry, (hnew _ rfl).trans h.held, fun e he id hid => ?_⟩
    rcases List.mem_append.mp he with he | he
    · exact h.owner e he id hid
    · rw [List.mem_singleton.mp he] at hid
      cases hid
  | startedInteractive taken =>
    exact h.start (h.free_of_idle hs hf (hl.inWork_eq_of_taken taken)) rfl rfl
  | @finished ticket outcome e found =>
    obtain rfl := ticket_of_found found
    rw [executed_eq]
    exact (h.retire hn found).1.keep rfl rfl
  | ended | ran => exact h.keep rfl rfl
  | broke => rw [breakOff_eq]; exact h.keep rfl rfl

theorem slot_reached (settings : Settings) (poster : Poster) (inputs : List (Moment × Input κ)) :
    Slot ((ofSettings settings poster none : Dispatcher κ).run inputs) :=
  reached_keeps (I := fun _ d _ => Slot d) (slot_ofSettings settings poster)
    (fun hr _ hn ho h => by
      subst hr
      exact h.opening ho hn (staffed_reached ..) (formed_reached ..) (line_reached ..))
    (fun _ hm h => h.move hm) inputs

/-! ### The command that is executed -/

/-- The interactive command that is executed is the one that was started last. -/
def Latest (started : List (Submission κ)) (d : Dispatcher κ) : Prop :=
  ∀ e ∈ d.executions, e.lane = .interactive → started.getLast? = some e.job.submission

theorem Latest.pass {started' : List (Submission κ)} (h : Latest started d) (hs : started' = [])
    (hx : ∀ e ∈ d'.executions, e ∈ d.executions ∨ e.lane = .silent) :
    Latest (started ++ started') d' := by
  intro e he hlane
  rw [hs, List.append_nil]
  rcases hx e he with hm | hsilent
  · exact h e hm hlane
  · rw [hsilent] at hlane
    cases hlane

theorem Latest.keep (h : Latest started d) (hx : d'.executions = d.executions) :
    Latest started d' := by
  unfold Latest
  rw [hx]
  exact h

theorem Latest.move (hm : Move d t d' t') (h : Latest started d) : Latest started d' := by
  cases hm with
  | queue => rw [withLane_eq]; exact h.keep rfl
  | reject | post | call => exact h.keep rfl
  | free => rw [freeWorker_eq]; exact h.keep rfl
  | settle =>
    rw [settle_eq]
    exact h.keep rfl

theorem Latest.opening {now : Moment} {i : Input κ} (ho : Opening d now i d' t)
    (hs : Staffed d .done) (hl : Line begun started d .done) (h : Latest started d) :
    Latest (started ++ d.startedBy now i) d' := by
  cases ho with
  | answered | joined | joinedLate | launched | alone | forgotten =>
    exact h.pass rfl fun _ he => .inl he
  | begun => exact h.pass rfl fun _ he => .inl (by rw [makeWay_eq] at he; exact he)
  | continuation | cleared | expired | stopped | reset | shutDown | closed | reopened =>
    exact h.pass rfl fun _ he => .inl he
  | waits | unfinished | noStrand | nonePosted | ended | ran => exact h.pass rfl fun _ he => .inl he
  | @idle kind pool missing =>
    refine h.pass ?_ fun _ he => .inl he
    cases kind with
    | silent => rfl
    | interactive =>
      rw [startedBy, show d.interactive.start? pool = none from missing]
      rfl
  | startedSilent =>
    refine h.pass rfl fun e he => ?_
    rcases List.mem_append.mp he with he | he
    · exact .inl he
    · exact .inr (by rw [List.mem_singleton.mp he])
  | @startedInteractive pool job l taken =>
    intro e he hlane
    rw [startedBy, taken]
    rcases List.mem_append.mp he with he | he
    · exact absurd hlane (not_interactive_of_idle hs (hl.inWork_eq_of_taken taken) e he)
    · rw [List.mem_singleton.mp he]
      simp
  | finished =>
    rw [executed_eq]
    exact h.pass rfl fun e he => .inl (List.mem_filter.mp he).1
  | broke => rw [breakOff_eq]; exact h.pass rfl fun _ he => .inl he

theorem latest_reached (settings : Settings) (poster : Poster) (registry : Option Registry)
    (inputs : List (Moment × Input κ)) :
    Latest (chronicle startedBy (ofSettings settings poster registry) inputs)
      ((ofSettings settings poster registry).run inputs) :=
  reached_keeps (I := fun inputs d _ =>
      Latest (chronicle startedBy (ofSettings settings poster registry) inputs) d)
    (by simp [Latest, ofSettings])
    (fun hr _ _ ho h => by
      subst hr
      rw [chronicle_concat]
      exact h.opening ho (staffed_reached ..) (line_reached ..))
    (fun _ hm h => h.move hm) inputs

end Dispatcher

end SignOn
