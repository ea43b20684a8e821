import Mathlib.Data.List.Induction
import SignOn.Proofs.Session.Wait

/-! # A registry in use

Sessions are granted the slot and give it back in any order, signals come from anywhere, and those
who wait in a session go on whenever they are let. `Registry.State` keeps the registry together with
the sessions whose guard has not been dropped, the waits under way and a journal of what happened;
`Registry.step` is one call or one go of a wait.

* `Kept`: what every step keeps. The slot is that of the session granted last unless its guard was
  dropped, a session that has a guard and not the slot is resolved, and the signal of a session is
  the one that was tried first (`attempts`).
* `sessions_resolve_once`: what follows for a whole run. -/

namespace SignOn

open Failure (Payload)

namespace Registry

/-! ### Waits -/

/-- The signal of the session with a number, once there is one. -/
def signal? (r : Registry) (id : Nat) : Option Signal := (r.session? id).bind (·.signal)

/-- A session of a registry, as somebody holds it who sees the registry and the clock. -/
def handle (id : Nat) (s : Session) : SessionHandle (Registry × Clock) where
  correlationId := s.correlationId
  timeout := s.timeout
  signal around := around.1.signal? id
  resolve signal := Place.fst.lift fun r => r.resolve id signal
  clock := Prod.snd

end Registry

namespace SessionHandle

variable {σ : Type} {h : SessionHandle σ} {s : σ} {x : Signal} {w : Work σ (Except Failure Signal)}

/-- What is left of a wait that has begun: it looks for a signal, and if it has a deadline it does
not wait beyond that. -/
inductive Awaits (h : SessionHandle σ) : Work σ (Except Failure Signal) → Prop
  | unbounded : Awaits h (.wait none (fun s => (h.signal s).isSome) fun s hs =>
      .ended (.ok ((h.signal s).get hs)))
  | bounded (deadline : Nat) : Awaits h (.wait (some deadline)
      (fun s => (h.signal s).isSome || decide (deadline ≤ (h.clock s).uptime))
      fun _ _ => Work.act h.conclude.run)

theorem conclude_of_none (hx : h.signal s = none) :
    h.conclude.run s = (.error lateFailure, (h.resolve .cancelled s).2) := by
  simp [conclude, ExceptT.run, hx]

/-- A wait goes on with the signal as soon as there is one. -/
theorem Awaits.advance_of_signal (hw : h.Awaits w) (hx : h.signal s = some x) :
    w.advance s = (.ended (.ok (.ok x)), s) := by
  cases hw with
  | unbounded => simp [Work.advance, hx]
  | bounded deadline => simp [Work.advance, hx, Work.advance_act, conclude_of_signal]

/-- Without a signal a wait stays as it is or ends too late, and then it cancels the session. -/
theorem Awaits.advance_of_none (hw : h.Awaits w) (hx : h.signal s = none) :
    (∃ alarm, w.advance s = (.waiting alarm w, s)) ∨
      w.advance s = (.ended (.ok (.error lateFailure)), (h.resolve .cancelled s).2) := by
  cases hw with
  | unbounded => exact .inl ⟨none, by simp [Work.advance, hx]⟩
  | bounded deadline =>
    by_cases hlate : deadline ≤ (h.clock s).uptime
    · exact .inr (by simp [Work.advance, hlate, Work.advance_act, conclude_of_none hx])
    · exact .inl ⟨some deadline, by simp [Work.advance, hx, hlate]⟩

/-- Where the deadline can be told, a wait gets as far as what is left of a wait that has begun. -/
theorem exists_awaits (hd : ¬ h.Overflows s) :
    ∃ w, h.Awaits w ∧ h.wait.run.advance s = w.advance s := by
  unfold wait
  cases ht : h.timeout with
  | none => exact ⟨_, .unbounded, rfl⟩
  | some timeout =>
    rcases hdl : (h.clock s).deadline? timeout with _ | deadline
    · exact absurd ⟨timeout, ht, hdl⟩ hd
    · refine ⟨_, .bounded deadline, ?_⟩
      change (Work.look _).advance s = _
      rw [Work.advance_look, hdl]

end SessionHandle

namespace Registry

/-! ### What happens to a registry -/

/-- What is noted: a session was granted the slot, somebody was not granted it, somebody tried to
resolve a session and was told whether that was the first time, a wait in a session ended, a guard
was dropped. -/
inductive Entry where
  | granted (id : Nat)
  | refused
  | tried (id : Nat) (signal : Signal) (taken : Bool)
  | told (id : Nat) (result : Except Payload (Except Failure Signal))
  | dropped (id : Nat)

/-- The registry, the clock, the sessions whose guard has not been dropped, the waits under way with
the number of their session, and the journal. -/
structure State where
  registry : Registry
  clock : Clock
  guards : List Nat
  waits : List (Nat × Work (Registry × Clock) (Except Failure Signal))
  journal : List Entry

/-- Calls of the registry, calls of a session that was granted, and what else happens: a guard is
dropped, a wait begins or goes on, time passes. -/
inductive Event where
  | tryAcquire (correlationId : String)
  | acquire (correlationId : String)
  | cancelActive
  | deliver (continuation : Continuation)
  | resolve (id : Nat) (signal : Signal)
  | drop (id : Nat)
  | beginWait (id : Nat)
  | goOn (place : Nat)
  | pass (nanos : Nat)

namespace State

/-- A registry that has just been made. -/
def opened (timeout : Option Duration) (clock : Clock) : State := ⟨.new timeout, clock, [], [], []⟩

/-- The session in the slot was tried with a signal: whether it was resolved by that. -/
def triedActive (x : State) (signal : Signal) : List Entry :=
  x.registry.active.toList.map fun id => .tried id signal (x.registry.resolve id signal).1

/-- A wait of a session goes on as far as it gets. -/
def advance (x : State) (id : Nat) (w : Work (Registry × Clock) (Except Failure Signal)) : State :=
  match w.advance (x.registry, x.clock) with
  | (.ended result, registry, clock) =>
    { x with registry, clock, journal := x.journal ++ [.told id result] }
  | (.waiting _ rest, registry, clock) =>
    { x with registry, clock, waits := x.waits ++ [(id, rest)] }

/-- The registry in use after an event. One that does not apply changes nothing. -/
def step (x : State) : Event → State
  | .tryAcquire correlationId =>
    match x.registry.tryAcquire correlationId with
    | (none, registry) => { x with registry, journal := x.journal ++ [.refused] }
    | (some id, registry) =>
      { x with registry, guards := id :: x.guards, journal := x.journal ++ [.granted id] }
  | .acquire correlationId =>
    let (id, registry) := x.registry.acquire correlationId
    { x with registry, guards := id :: x.guards
             journal := x.journal ++ x.triedActive .cancelled ++ [.granted id] }
  | .cancelActive =>
    { x with
      registry := x.registry.cancelActive.2
      journal := x.journal ++ x.triedActive .cancelled }
  | .deliver k =>
    { x with
      registry := (x.registry.deliver k).2
      journal := x.journal ++ x.registry.active.toList.map fun id =>
        .tried id (.completed k) (x.registry.deliver k).1 }
  | .resolve id signal =>
    if (x.registry.session? id).isSome then
      { x with
        registry := (x.registry.resolve id signal).2
        journal := x.journal ++ [.tried id signal (x.registry.resolve id signal).1] }
    else x
  | .drop id =>
    if id ∈ x.guards then
      { x with
        registry := x.registry.release id
        guards := x.guards.erase id
        journal := x.journal ++ [.dropped id] }
    else x
  | .beginWait id =>
    match x.registry.session? id with
    | none => x
    | some s => x.advance id (handle id s).wait.run
  | .goOn place =>
    match x.waits[place]? with
    | none => x
    | some (id, w) => { x with waits := x.waits.eraseIdx place }.advance id w
  | .pass nanos => { x with clock := x.clock.advance nanos }

/-- The registry in use after a row of events. -/
def run (x : State) (events : List Event) : State := events.foldl step x

theorem run_append (x : State) (xs ys : List Event) : x.run (xs ++ ys) = (x.run xs).run ys :=
  List.foldl_append

theorem run_concat (x : State) (xs : List Event) (e : Event) :
    x.run (xs ++ [e]) = (x.run xs).step e :=
  x.run_append xs [e]

end State

/-! ### The journal -/

/-- The session that an entry says was granted the slot. -/
def Entry.granted? : Entry → Option Nat
  | .granted id => some id
  | _ => none

/-- The attempt to resolve a session that an entry notes: its signal, and whether it was the first.
A wait that ended too late has tried to cancel its session. -/
def Entry.attempt? : Entry → Option (Nat × Signal × Bool)
  | .tried id signal taken => some (id, signal, taken)
  | .told id (.ok (.error _)) => some (id, .cancelled, true)
  | _ => none

/-- The sessions that were granted the slot, in that order. -/
def granted (journal : List Entry) : List Nat := journal.filterMap Entry.granted?

/-- The attempts to resolve a session, in their order. -/
def attempts (id : Nat) (journal : List Entry) : List (Signal × Bool) :=
  (journal.filterMap Entry.attempt?).filterMap fun a => if a.1 = id then some a.2 else none

/-- What an entry says fits what was noted before. The first attempt to resolve a session is taken
and no other one. A wait in a session is told the signal of the first attempt; if it is too late it
is that attempt, and if it breaks off its deadline could not be told. -/
def Entry.Fits (before : List Entry) : Entry → Prop
  | .granted id => id ∉ Registry.granted before
  | .tried id _ taken => taken = true ↔ attempts id before = []
  | .told id (.ok (.ok signal)) => (attempts id before).head?.map Prod.fst = some signal
  | .told id (.ok (.error failure)) => failure = SessionHandle.lateFailure ∧ attempts id before = []
  | .told _ (.error payload) => payload = .text SessionHandle.overflowMessage
  | .refused => True
  | .dropped id => id ∈ Registry.granted before

/-- Every entry fits those before it. -/
def Consistent (journal : List Entry) : Prop :=
  ∀ before e after, journal = before ++ e :: after → e.Fits before

variable {r : Registry} {x : State} {id id' : Nat} {signal : Signal} {taken : Bool} {e : Entry}
  {journal : List Entry}

theorem granted_concat (h : e.granted? = none) : granted (journal ++ [e]) = granted journal := by
  simp [granted, h]

theorem attempts_concat_self (h : e.attempt? = some (id, signal, taken)) :
    attempts id (journal ++ [e]) = attempts id journal ++ [(signal, taken)] := by
  simp [attempts, h]

theorem attempts_concat_of_ne (h : e.attempt? = some (id, signal, taken)) (hne : id ≠ id') :
    attempts id' (journal ++ [e]) = attempts id' journal := by
  simp [attempts, h, hne]

theorem attempts_concat_of_none (h : e.attempt? = none) :
    attempts id (journal ++ [e]) = attempts id journal := by
  simp [attempts, h]

theorem Consistent.concat (h : Consistent journal) (he : e.Fits journal) :
    Consistent (journal ++ [e]) := by
  intro before e' after heq
  rcases List.eq_nil_or_concat after with rfl | ⟨after, last, rfl⟩
  · obtain ⟨rfl, hlast⟩ := List.append_inj' heq rfl
    obtain rfl := List.singleton_inj.mp hlast
    exact he
  · rw [List.concat_eq_append, ← List.cons_append, ← List.append_assoc] at heq
    exact h before e' after (List.append_inj' heq rfl).1

theorem Consistent.mem_granted_of_dropped (h : Consistent journal) (hmem : .dropped id ∈ journal) :
    id ∈ granted journal := by
  obtain ⟨before, after, rfl⟩ := List.append_of_mem hmem
  have hin : id ∈ granted before := h before _ after rfl
  rw [granted, List.filterMap_append]
  exact List.mem_append_left _ hin

/-! ### Signals -/

theorem signal?_resolve_self (h : (r.session? id).isSome) (signal : Signal) :
    (r.resolve id signal).2.signal? id = some ((r.signal? id).getD signal) := by
  obtain ⟨s, hs⟩ := Option.isSome_iff_exists.mp h
  rw [signal?, signal?, session?_resolve_self hs, hs, Option.bind_some, Option.bind_some]
  cases hx : s.signal with
  | none => simp [Session.resolve, Session.isResolved, hx]
  | some y => simp [Session.resolve, Session.isResolved, hx]

theorem signal?_resolve_of_ne (h : id' ≠ id) (signal : Signal) :
    (r.resolve id signal).2.signal? id' = r.signal? id' := by
  rw [signal?, signal?, session?_resolve_of_ne h]

theorem isSome_session?_resolve (r : Registry) (id id' : Nat) (signal : Signal) :
    ((r.resolve id signal).2.session? id').isSome = (r.session? id').isSome := by
  rw [session?_resolve, Option.isSome_map]

theorem resolve_eq_isNone (h : (r.session? id).isSome) (signal : Signal) :
    (r.resolve id signal).1 = (r.signal? id).isNone := by
  obtain ⟨s, hs⟩ := Option.isSome_iff_exists.mp h
  rw [signal?, hs, Option.bind_some]
  rw [Bool.eq_iff_iff, resolve_eq_true_iff, hs]
  simp [Session.isResolved]

theorem session?_of_le (h : r.Sound) (hid : r.nextId ≤ id) : r.session? id = none := by
  rw [session?, List.find?_eq_none]
  intro s hs
  have hlt := h.below s hs
  simp only [decide_eq_true_eq]
  omega

theorem lt_of_session? (h : r.Sound) (hid : (r.session? id).isSome) : id < r.nextId := by
  by_contra hge
  rw [session?_of_le h (Nat.not_lt.mp hge)] at hid
  cases hid

theorem isSome_session?_grant (h : r.Sound) (correlationId : String)
    (hid : (r.session? id).isSome) :
    ((r.grant correlationId).2.session? id).isSome := by
  rw [session?_grant_of_lt correlationId (lt_of_session? h hid)]
  exact hid

theorem signal?_grant (h : r.Sound) (correlationId : String) (id : Nat) :
    (r.grant correlationId).2.signal? id = r.signal? id := by
  rcases Nat.lt_trichotomy id r.nextId with hlt | rfl | hgt
  · rw [signal?, signal?, session?_grant_of_lt correlationId hlt]
  · rw [signal?, signal?, session?_grant_self, session?_of_le h (Nat.le_refl _)]
    rfl
  · rw [signal?, signal?, session?_of_le h (Nat.le_of_lt hgt),
      session?_of_le (h.grant correlationId) (Nat.succ_le_of_lt hgt)]

/-! ### What every step keeps -/

namespace State

/-- What is the case in a registry in use. -/
structure Kept (x : State) : Prop where
  sound : x.registry.Sound
  timed : ∀ s ∈ x.registry.sessions, s.timeout = x.registry.timeout
  numbered : x.registry.sessions.map (·.id) = (granted x.journal).reverse
  guarded : ∀ id ∈ x.guards, (x.registry.session? id).isSome
  distinct : x.guards.Nodup
  undropped : ∀ id, id ∈ x.guards ↔ id ∈ granted x.journal ∧ .dropped id ∉ x.journal
  slot : x.registry.active = (granted x.journal).getLast?.filter (· ∈ x.guards)
  replaced : ∀ id ∈ x.guards, x.registry.active = some id ∨ (x.registry.signal? id).isSome
  first : ∀ id, x.registry.signal? id = (attempts id x.journal).head?.map Prod.fst
  consistent : Consistent x.journal
  awaited : ∀ id w, (id, w) ∈ x.waits → (x.registry.session? id).isSome ∧
    ∃ s, (handle id s).Awaits w
  overflown : ∀ id payload, .told id (.error payload) ∈ x.journal → ∃ timeout,
    x.registry.timeout = some timeout ∧ x.clock.deadline? timeout = none

theorem kept_opened (timeout : Option Duration) (clock : Clock) : (opened timeout clock).Kept where
  sound := sound_new timeout
  timed := by simp [opened, new]
  numbered := rfl
  guarded := by simp [opened]
  distinct := .nil
  undropped := by simp [opened, granted]
  slot := rfl
  replaced := by simp [opened]
  first _ := rfl
  consistent := by simp [opened, Consistent]
  awaited := by simp [opened]
  overflown := by simp [opened]

theorem Kept.isSome_of_active (h : x.Kept) (ha : x.registry.active = some id) :
    (x.registry.session? id).isSome := Option.isSome_iff_exists.mpr (h.sound.held id ha)

theorem Kept.isTimed (h : x.Kept) : x.registry.Timed x.registry.timeout := ⟨rfl, h.timed⟩

theorem Kept.attempts_eq_nil_iff (h : x.Kept) :
    attempts id x.journal = [] ↔ x.registry.signal? id = none := by
  rw [h.first, Option.map_eq_none_iff, List.head?_eq_none_iff]

/-- Nobody is granted a session that there is. -/
theorem Kept.mem_granted_iff (h : x.Kept) :
    id ∈ granted x.journal ↔ (x.registry.session? id).isSome := by
  rw [← List.mem_reverse, ← h.numbered, session?, List.find?_isSome]
  simp

/-- An entry that grants nothing and tries nothing. -/
theorem Kept.note (h : x.Kept) (hgranted : e.granted? = none) (hattempt : e.attempt? = none)
    (hdropped : ∀ id, e ≠ .dropped id) (hfits : e.Fits x.journal)
    (hover : ∀ id payload, e = .told id (.error payload) → ∃ timeout,
      x.registry.timeout = some timeout ∧ x.clock.deadline? timeout = none) :
    Kept { x with journal := x.journal ++ [e] } where
  sound := h.sound
  timed := h.timed
  numbered := by
    rw [granted_concat hgranted]
    exact h.numbered
  guarded := h.guarded
  distinct := h.distinct
  undropped id := by
    rw [granted_concat hgranted, h.undropped]
    simp [(hdropped id).symm]
  slot := by
    rw [granted_concat hgranted]
    exact h.slot
  replaced := h.replaced
  first id := by
    rw [attempts_concat_of_none hattempt]
    exact h.first id
  consistent := h.consistent.concat hfits
  awaited := h.awaited
  overflown id payload hmem := by
    rcases List.mem_append.mp hmem with hmem | hmem
    · exact h.overflown id payload hmem
    · exact hover id payload (List.mem_singleton.mp hmem).symm

/-- **An attempt to resolve a session.** The session has a signal then, and it is the one tried
first. -/
theorem Kept.attempt (h : x.Kept) (hid : (x.registry.session? id).isSome)
    (he : e.attempt? = some (id, signal, (x.registry.resolve id signal).1))
    (hfits : e.Fits x.journal) :
    Kept { x with
      registry := (x.registry.resolve id signal).2
      journal := x.journal ++ [e] } := by
  have hgranted : e.granted? = none := by cases e <;> first | rfl | cases he
  have hothers :
      ∀ id', id' = id ∨ (x.registry.resolve id signal).2.signal? id' = x.registry.signal? id' := by
    intro id'
    by_cases hne : id' = id
    · exact .inl hne
    · exact .inr (signal?_resolve_of_ne hne signal)
  refine ⟨h.sound.resolve id signal, fun s hs => ?_, ?_, fun id' hg => ?_, h.distinct,
    fun id' => ?_, ?_,
    fun id' hg => ?_, fun id' => ?_, h.consistent.concat hfits, fun id' w hw => ?_,
    fun id' payload hmem => ?_⟩
  · exact ((closed_timed _).resolve h.isTimed id signal).2 s hs
  · rw [granted_concat hgranted, ← h.numbered]
    simp only [Registry.resolve, List.map_map]
    refine List.map_congr_left fun s _ => ?_
    simp only [Function.comp]
    split
    · exact id_resolve s signal
    · rfl
  · rw [isSome_session?_resolve]
    exact h.guarded id' hg
  · rw [granted_concat hgranted, h.undropped]
    have hne : e ≠ .dropped id' := fun heq => by rw [heq] at he; cases he
    simp [hne.symm]
  · rw [granted_concat hgranted]
    exact h.slot
  · refine (h.replaced id' hg).imp_right fun hsome => ?_
    rcases hothers id' with rfl | hsame
    · rw [signal?_resolve_self hid]
      rfl
    · rw [hsame]
      exact hsome
  · rcases eq_or_ne id id' with rfl | hne
    · rw [attempts_concat_self he, signal?_resolve_self hid, h.first]
      cases attempts id x.journal <;> rfl
    · rw [attempts_concat_of_ne he hne, signal?_resolve_of_ne hne.symm]
      exact h.first id'
  · rw [isSome_session?_resolve]
    exact h.awaited id' w hw
  · rcases List.mem_append.mp hmem with hmem | hmem
    · exact h.overflown id' payload hmem
    · rw [← List.mem_singleton.mp hmem] at he
      cases he

/-- An attempt that a call makes. -/
theorem Kept.tried (h : x.Kept) (hid : (x.registry.session? id).isSome) (signal : Signal) :
    Kept { x with
      registry := (x.registry.resolve id signal).2
      journal := x.journal ++ [.tried id signal (x.registry.resolve id signal).1] } := by
  refine h.attempt hid rfl ?_
  change _ = true ↔ _
  rw [resolve_eq_isNone hid, Option.isNone_iff_eq_none, h.attempts_eq_nil_iff]

/-- The slot is granted while nobody who has a guard waits for a signal. -/
theorem Kept.grant (h : x.Kept) (hresolved : ∀ id ∈ x.guards, (x.registry.signal? id).isSome)
    (correlationId : String) :
    Kept { x with
      registry := (x.registry.grant correlationId).2
      guards := x.registry.nextId :: x.guards
      journal := x.journal ++ [.granted x.registry.nextId] } := by
  have hnone : x.registry.session? x.registry.nextId = none :=
    session?_of_le h.sound (Nat.le_refl _)
  have hfresh : x.registry.nextId ∉ granted x.journal := by
    rw [h.mem_granted_iff, hnone]
    exact Bool.false_ne_true
  have hgranted : granted (x.journal ++ [.granted x.registry.nextId])
      = granted x.journal ++ [x.registry.nextId] := by
    simp [granted, Entry.granted?]
  have hunguarded : x.registry.nextId ∉ x.guards := fun hg => by
    have hsome := h.guarded _ hg
    rw [hnone] at hsome
    cases hsome
  refine ⟨h.sound.grant correlationId, fun s hs => ?_, ?_, fun id' hg => ?_,
    h.distinct.cons hunguarded,
    fun id' => ?_, ?_, fun id' hg => ?_, fun id' => ?_, h.consistent.concat hfresh,
    fun id' w hw => ?_,
    fun id' payload hmem => ?_⟩
  · exact ((closed_timed _).grant h.isTimed correlationId).2 s hs
  · rw [hgranted, List.reverse_append, ← h.numbered]
    rfl
  · rcases List.mem_cons.mp hg with rfl | hg
    · rw [session?_grant_self]
      rfl
    · exact isSome_session?_grant h.sound correlationId (h.guarded id' hg)
  · have hdropped : .dropped x.registry.nextId ∉ x.journal :=
      fun hmem => hfresh (h.consistent.mem_granted_of_dropped hmem)
    rw [hgranted, List.mem_cons, List.mem_append, List.mem_singleton, h.undropped]
    constructor
    · rintro (rfl | ⟨hin, hnot⟩)
      · exact ⟨.inr rfl, by simpa using hdropped⟩
      · exact ⟨.inl hin, by simpa using hnot⟩
    · rintro ⟨hin | rfl, hnot⟩
      · exact .inr ⟨hin, fun hmem => hnot (List.mem_append_left _ hmem)⟩
      · exact .inl rfl
  · rw [hgranted, List.getLast?_concat, Option.filter_some, if_pos (by simp)]
    rfl
  · rcases List.mem_cons.mp hg with rfl | hg
    · exact .inl rfl
    · rw [signal?_grant h.sound]
      exact .inr (hresolved id' hg)
  · rw [signal?_grant h.sound, attempts_concat_of_none rfl]
    exact h.first id'
  · obtain ⟨hsome, hawaits⟩ := h.awaited id' w hw
    exact ⟨isSome_session?_grant h.sound correlationId hsome, hawaits⟩
  · rcases List.mem_append.mp hmem with hmem | hmem
    · exact h.overflown id' payload hmem
    · cases List.mem_singleton.mp hmem

/-- **A guard is dropped.** The slot is given back if it is that of the session, which is then the
one granted last. -/
theorem Kept.drop (h : x.Kept) (hg : id ∈ x.guards) :
    Kept { x with
      registry := x.registry.release id
      guards := x.guards.erase id
      journal := x.journal ++ [.dropped id] } := by
  have hsignal : ∀ id', (x.registry.release id).signal? id' = x.registry.signal? id' := by
    intro id'
    rw [signal?, session?_release]
    rfl
  have hactive : (x.registry.release id).active = x.registry.active.filter (· ≠ id) := by
    unfold release
    rcases ha : x.registry.active with _ | holder
    · simp [ha]
    · by_cases hid : holder = id
      · simp [hid, Option.filter_some]
      · simp [hid, ha, Option.filter_some]
  have hmem : ∀ id', id' ∈ x.guards.erase id ↔ id' ≠ id ∧ id' ∈ x.guards :=
    fun id' => h.distinct.mem_erase_iff
  have htimed := (closed_timed _).release h.isTimed id
  refine ⟨h.sound.release id, fun s hs => ?_, ?_, fun id' hg' => ?_, h.distinct.erase id,
    fun id' => ?_, ?_, fun id' hg' => ?_, fun id' => ?_,
    h.consistent.concat ((h.undropped id).mp hg).1, fun id' w hw => ?_,
    fun id' payload hover => ?_⟩
  · exact (htimed.2 s hs).trans htimed.1.symm
  · rw [granted_concat rfl, release_sessions]
    exact h.numbered
  · rw [session?_release]
    exact h.guarded id' ((hmem id').mp hg').2
  · rw [granted_concat rfl, hmem, h.undropped]
    simp only [List.mem_append, List.mem_singleton, Entry.dropped.injEq, not_or]
    tauto
  · rw [granted_concat rfl, hactive, h.slot, Option.filter_filter]
    congr 1
    funext id'
    rw [Bool.and_comm]
    simp [hmem]
  · obtain ⟨hne, hg'⟩ := (hmem id').mp hg'
    rw [hactive, hsignal]
    refine (h.replaced id' hg').imp_left fun hholds => ?_
    simp [hholds, hne]
  · rw [hsignal, attempts_concat_of_none rfl]
    exact h.first id'
  · rw [session?_release]
    exact h.awaited id' w hw
  · rw [htimed.1]
    rcases List.mem_append.mp hover with hover | hover
    · exact h.overflown id' payload hover
    · cases List.mem_singleton.mp hover

/-- A session in the slot is cancelled or not. -/
theorem Kept.cancelActive (h : x.Kept) : Kept { x with
    registry := x.registry.cancelActive.2
    journal := x.journal ++ x.triedActive .cancelled } := by
  unfold triedActive Registry.cancelActive
  rcases ha : x.registry.active with _ | id
  · simpa using h
  · exact h.tried (h.isSome_of_active ha) .cancelled

/-- After that nobody who has a guard waits for a signal. -/
theorem Kept.resolved_cancelActive (h : x.Kept) (hg : id ∈ x.guards) :
    (x.registry.cancelActive.2.signal? id).isSome := by
  unfold Registry.cancelActive
  rcases ha : x.registry.active with _ | holder
  · exact (h.replaced id hg).resolve_left (by simp [ha])
  · change ((x.registry.resolve holder .cancelled).2.signal? id).isSome
    rcases eq_or_ne id holder with rfl | hne
    · rw [signal?_resolve_self (h.isSome_of_active ha)]
      rfl
    · rw [signal?_resolve_of_ne hne]
      exact (h.replaced id hg).resolve_left
        (by rw [ha]; exact fun he => hne (Option.some.inj he).symm)

/-- A continuation reaches the session in the slot or nobody. -/
theorem Kept.deliver (h : x.Kept) (k : Continuation) : Kept { x with
    registry := (x.registry.deliver k).2
    journal := x.journal ++ x.registry.active.toList.map fun id =>
      .tried id (.completed k) (x.registry.deliver k).1 } := by
  unfold Registry.deliver
  rcases ha : x.registry.active with _ | id
  · simpa using h
  · exact h.tried (h.isSome_of_active ha) (.completed k)

theorem advance_congr {w w' : Work (Registry × Clock) (Except Failure Signal)}
    (h : w.advance (x.registry, x.clock) = w'.advance (x.registry, x.clock)) (id : Nat) :
    x.advance id w = x.advance id w' := by
  rw [State.advance, State.advance, h]

/-- A wait that cannot tell its deadline breaks off at once. -/
theorem advance_wait_of_overflows {s : Session}
    (hd : (handle id s).Overflows (x.registry, x.clock)) :
    x.advance id (handle id s).wait.run =
      { x with
        journal := x.journal ++ [.told id (.error (.text SessionHandle.overflowMessage))] } := by
  rw [State.advance, SessionHandle.advance_wait_of_overflows hd]

/-- **A wait goes on**, or begins, as far as what is left of it gets. -/
theorem Kept.advance (h : x.Kept) (hid : (x.registry.session? id).isSome) {s : Session}
    {w : Work (Registry × Clock) (Except Failure Signal)} (hw : (handle id s).Awaits w) :
    (x.advance id w).Kept := by
  unfold State.advance
  rcases hx : (handle id s).signal (x.registry, x.clock) with _ | signal
  · rcases hw.advance_of_none hx with ⟨alarm, hwaits⟩ | hlate
    · rw [hwaits]
      refine { h with awaited := fun id' w' hmem => ?_ }
      rcases List.mem_append.mp hmem with hmem | hmem
      · exact h.awaited id' w' hmem
      · obtain ⟨rfl, rfl⟩ := Prod.mk.inj (List.mem_singleton.mp hmem)
        exact ⟨hid, s, hw⟩
    · rw [hlate]
      have htaken : (x.registry.resolve id .cancelled).1 = true := by
        rw [resolve_eq_isNone hid, Option.isNone_iff_eq_none]
        exact hx
      have hattempt : Entry.attempt? (.told id (.ok (.error SessionHandle.lateFailure))) =
          some (id, .cancelled, (x.registry.resolve id .cancelled).1) := by
        rw [htaken]
        rfl
      refine h.attempt hid hattempt ⟨rfl, ?_⟩
      exact h.attempts_eq_nil_iff.mpr hx
  · rw [hw.advance_of_signal hx]
    refine h.note rfl rfl (by simp) ?_ fun _ _ he => by cases he
    change (attempts id x.journal).head?.map Prod.fst = some signal
    rw [← h.first]
    exact hx

theorem deadline?_advance {c : Clock} {timeout : Duration} (h : c.deadline? timeout = none)
    (nanos : Nat) :
    (c.advance nanos).deadline? timeout = none := by
  rw [Clock.deadline?_eq_none_iff] at h ⊢
  exact Nat.le_trans h (Nat.add_le_add_right (Nat.le_add_right _ _) _)

/-- **Every step keeps it.** -/
theorem Kept.step (h : x.Kept) (event : Event) : (x.step event).Kept := by
  cases event with
  | tryAcquire correlationId =>
    rw [State.step, tryAcquire, isActive]
    rcases ha : x.registry.active with _ | holder
    · exact h.grant (fun id hg => (h.replaced id hg).resolve_left (by simp [ha])) correlationId
    · exact h.note rfl rfl (by simp) trivial fun _ _ he => by cases he
  | acquire correlationId =>
    exact h.cancelActive.grant (fun _ hg => h.resolved_cancelActive hg) correlationId
  | cancelActive => exact h.cancelActive
  | deliver k => exact h.deliver k
  | resolve id signal =>
    rw [State.step]
    split
    · exact h.tried ‹_› signal
    · exact h
  | drop id =>
    rw [State.step]
    split
    · exact h.drop ‹_›
    · exact h
  | beginWait id =>
    rw [State.step]
    rcases hs : x.registry.session? id with _ | s
    · exact h
    · have hid : (x.registry.session? id).isSome := Option.isSome_iff_exists.mpr ⟨s, hs⟩
      by_cases hd : (handle id s).Overflows (x.registry, x.clock)
      · dsimp only
        rw [advance_wait_of_overflows hd]
        refine h.note rfl rfl (by simp) rfl fun _ _ _ => ?_
        obtain ⟨timeout, ht, hnone⟩ := hd
        exact ⟨timeout, (h.timed s (List.mem_of_find?_eq_some hs)).symm.trans ht, hnone⟩
      · obtain ⟨w, hawaits, hw⟩ := SessionHandle.exists_awaits hd
        dsimp only
        rw [advance_congr hw]
        exact h.advance hid hawaits
  | goOn place =>
    rw [State.step]
    rcases hw : x.waits[place]? with _ | ⟨id, w⟩
    · exact h
    · obtain ⟨hid, s, hawaits⟩ := h.awaited id w (List.mem_of_getElem? hw)
      have hrest : Kept { x with waits := x.waits.eraseIdx place } :=
        { h with awaited := fun id' w' hmem => h.awaited id' w' (List.mem_of_mem_eraseIdx hmem) }
      exact hrest.advance hid hawaits
  | pass nanos =>
    refine { h with overflown := fun id payload hmem => ?_ }
    obtain ⟨timeout, ht, hnone⟩ := h.overflown id payload hmem
    exact ⟨timeout, ht, deadline?_advance hnone nanos⟩

/-- A registry is used from when it was made. -/
theorem kept_reached (timeout : Option Duration) (clock : Clock) (events : List Event) :
    ((opened timeout clock).run events).Kept := by
  induction events using List.reverseRecOn with
  | nil => exact kept_opened timeout clock
  | append_singleton events event ih =>
    rw [run_concat]
    exact ih.step event

/-! ### What is never undone -/

section Closed

variable {P : Registry → Prop} (hP : Closed P)

include hP

theorem closed_advance (hr : P x.registry) {s : Session}
    {w : Work (Registry × Clock) (Except Failure Signal)} (hw : (handle id s).Awaits w) :
    P (x.advance id w).registry := by
  unfold State.advance
  rcases hx : (handle id s).signal (x.registry, x.clock) with _ | signal
  · rcases hw.advance_of_none hx with ⟨alarm, hwaits⟩ | hlate
    · rw [hwaits]
      exact hr
    · rw [hlate]
      exact hP.resolve hr id .cancelled
  · rw [hw.advance_of_signal hx]
    exact hr

theorem closed_step (h : x.Kept) (hr : P x.registry) (event : Event) :
    P (x.step event).registry := by
  cases event with
  | tryAcquire correlationId =>
    rw [State.step, tryAcquire]
    split
    · rename_i hnone
      split at hnone
      · exact (Prod.mk.inj hnone).2 ▸ hr
      · cases hnone
    · rename_i hsome
      split at hsome
      · cases hsome
      · exact (Prod.mk.inj hsome).2 ▸ hP.grant hr correlationId
  | acquire correlationId => exact hP.acquire hr correlationId
  | cancelActive => exact hP.cancelActive hr
  | deliver k => exact hP.deliver hr k
  | resolve id signal =>
    rw [State.step]
    split
    · exact hP.resolve hr id signal
    · exact hr
  | drop id =>
    rw [State.step]
    split
    · exact hP.release hr id
    · exact hr
  | beginWait id =>
    rw [State.step]
    rcases hs : x.registry.session? id with _ | s
    · exact hr
    · dsimp only
      by_cases hd : (handle id s).Overflows (x.registry, x.clock)
      · rw [advance_wait_of_overflows hd]
        exact hr
      · obtain ⟨w, hawaits, hw⟩ := SessionHandle.exists_awaits hd
        rw [advance_congr hw]
        exact closed_advance hP hr hawaits
  | goOn place =>
    rw [State.step]
    rcases hw : x.waits[place]? with _ | ⟨id, w⟩
    · exact hr
    · obtain ⟨-, s, hawaits⟩ := h.awaited id w (List.mem_of_getElem? hw)
      exact closed_advance hP (x := { x with waits := x.waits.eraseIdx place }) hr hawaits
  | pass nanos => exact hr

/-- What the operations of a registry cannot undo stays as it is in every registry in use. -/
theorem closed_run (events : List Event) :
    ∀ {x : State}, x.Kept → P x.registry → P (x.run events).registry := by
  induction events with
  | nil => exact fun _ hr => hr
  | cons event events ih => exact fun h hr => ih (h.step event) (closed_step hP h hr event)

end Closed

/-- **A signal is never taken back.** -/
theorem Kept.signal?_run (h : x.Kept) (hx : x.registry.signal? id = some signal)
    (events : List Event) :
    (x.run events).registry.signal? id = some signal := by
  obtain ⟨s, hs, hsignal⟩ := Option.bind_eq_some_iff.mp hx
  obtain ⟨-, s', hs', hsignal'⟩ :=
    closed_run (closed_told id signal) events h ⟨h.sound, s, hs, hsignal⟩
  rw [Registry.signal?, hs']
  exact hsignal'

/-! ### In every run -/

theorem isSome_tryAcquire_iff (r : Registry) (correlationId : String) :
    (r.tryAcquire correlationId).1.isSome = true ↔ r.active = none := by
  unfold Registry.tryAcquire isActive
  rcases r.active with _ | holder <;> simp

/-- Who had the slot when it was granted to another one has a signal. -/
theorem Kept.isSome_signal?_acquire (h : x.Kept) (ha : x.registry.active = some id)
    (correlationId : String) :
    ((x.step (.acquire correlationId)).registry.signal? id).isSome := by
  have hg : id ∈ x.guards := by
    rw [h.slot] at ha
    simpa using (Option.filter_eq_some_iff.mp ha).2
  change ((x.registry.cancelActive.2.grant correlationId).2.signal? id).isSome
  rw [signal?_grant h.sound.cancelActive]
  exact h.resolved_cancelActive hg

/-- Where there is a signal, a wait that can go on ends with it and changes nothing. -/
theorem advance_of_signal {s : Session} {w : Work (Registry × Clock) (Except Failure Signal)}
    (hw : (handle id s).Awaits w) (hx : x.registry.signal? id = some signal) :
    x.advance id w = { x with journal := x.journal ++ [.told id (.ok (.ok signal))] } := by
  rw [State.advance, hw.advance_of_signal (s := (x.registry, x.clock)) hx]

/-- **Sessions of a registry are resolved once**, whatever is called in which order. The slot is
that of the session granted last, unless its guard was dropped, and is granted just if it is free.
Whoever lost it to another session is resolved, so among those who have a guard only the one in the
slot may wait for a signal. The first attempt to resolve a session is taken and no later one,
whether a call made it or a wait that came to its deadline; its signal stays, and every wait in the
session that begins or goes on afterwards is told this signal at once, if it can tell its deadline.
A wait that cannot breaks off, and does nothing. -/
theorem sessions_resolve_once (timeout : Option Duration) (clock : Clock) (events : List Event) :
    let start := opened timeout clock
    let x := start.run events
    (x.registry.active = (granted x.journal).getLast?.filter (· ∈ x.guards) ∧
      (∀ id, id ∈ x.guards ↔ id ∈ granted x.journal ∧ .dropped id ∉ x.journal) ∧
      (granted x.journal).Nodup ∧
      ∀ correlationId, (x.registry.tryAcquire correlationId).1.isSome = true ↔
        x.registry.active = none) ∧
    (∀ before correlationId after id, events = before ++ .acquire correlationId :: after →
      (start.run before).registry.active = some id → (x.registry.signal? id).isSome) ∧
    (∀ id ∈ x.guards, x.registry.signal? id = none → x.registry.active = some id) ∧
    (∀ id, x.registry.signal? id = (attempts id x.journal).head?.map Prod.fst) ∧
    (∀ before e after, x.journal = before ++ e :: after → e.Fits before) ∧
    (∀ id signal, x.registry.signal? id = some signal → ∀ later,
      (x.run later).registry.signal? id = some signal) ∧
    (∀ id s signal, x.registry.session? id = some s → s.signal = some signal →
      ((∀ t, timeout = some t → x.clock.deadline? t ≠ none) → x.step (.beginWait id) =
        { x with journal := x.journal ++ [.told id (.ok (.ok signal))] }) ∧
      ∀ place w, x.waits[place]? = some (id, w) → x.step (.goOn place) =
        { x with
          waits := x.waits.eraseIdx place
          journal := x.journal ++ [.told id (.ok (.ok signal))] }) ∧
    (∀ id, (x.registry.session? id).isSome → (∃ t, timeout = some t ∧ x.clock.deadline? t = none) →
      x.step (.beginWait id) = { x with
        journal := x.journal ++ [.told id (.error (.text SessionHandle.overflowMessage))] }) ∧
    ∀ id payload, .told id (.error payload) ∈ x.journal →
      ∃ t, timeout = some t ∧ x.clock.deadline? t = none := by
  intro start x
  have h : x.Kept := kept_reached timeout clock events
  obtain ⟨htimeout, hsessions⟩ : x.registry.Timed timeout :=
    closed_run (closed_timed timeout) events (kept_opened timeout clock) (timed_new timeout)
  have htimed : ∀ id s, x.registry.session? id = some s → s.timeout = timeout := fun id s hs =>
    hsessions s (List.mem_of_find?_eq_some hs)
  refine ⟨⟨h.slot, h.undropped, ?_, isSome_tryAcquire_iff x.registry⟩, ?_,
    fun id hg hnone => ?_, h.first, h.consistent,
    fun id signal hx later => h.signal?_run hx later, ?_, ?_, fun id payload hmem => ?_⟩
  · rw [← List.nodup_reverse, ← h.numbered]
    exact h.sound.distinct
  · intro before correlationId after id hevents ha
    have hbefore : (start.run before).Kept := kept_reached timeout clock before
    obtain ⟨signal, hsignal⟩ :=
      Option.isSome_iff_exists.mp (hbefore.isSome_signal?_acquire ha correlationId)
    have hafter := (hbefore.step (.acquire correlationId)).signal?_run hsignal after
    rw [← run_concat, ← run_append, List.append_assoc, List.singleton_append, ← hevents] at hafter
    exact Option.isSome_iff_exists.mpr ⟨signal, hafter⟩
  · exact (h.replaced id hg).resolve_right (by rw [hnone]; exact Bool.false_ne_true)
  · intro id s signal hs hsignal
    have hx : x.registry.signal? id = some signal := by rw [Registry.signal?, hs]; exact hsignal
    refine ⟨fun htold => ?_, fun place w hplace => ?_⟩
    · have hd : ¬ (handle id s).Overflows (x.registry, x.clock) := by
        rintro ⟨t, ht, hnone⟩
        exact htold t ((htimed id s hs).symm.trans ht) hnone
      obtain ⟨w, hawaits, hw⟩ := SessionHandle.exists_awaits hd
      rw [State.step, hs]
      exact (advance_congr hw id).trans (advance_of_signal hawaits hx)
    · obtain ⟨-, s', hawaits⟩ := h.awaited id w (List.mem_of_getElem? hplace)
      rw [State.step, hplace]
      exact advance_of_signal (x := { x with waits := x.waits.eraseIdx place }) hawaits hx
  · rintro id hsome ⟨t, ht, hnone⟩
    obtain ⟨s, hs⟩ := Option.isSome_iff_exists.mp hsome
    rw [State.step, hs]
    exact advance_wait_of_overflows ⟨t, (htimed id s hs).trans ht, hnone⟩
  · obtain ⟨t, ht, hnone⟩ := h.overflown id payload hmem
    exact ⟨t, htimeout.symm.trans ht, hnone⟩

/-- A wait in a session that was cancelled is not told so if it cannot tell its deadline. -/
theorem wait_after_cancel_breaks_off :
    ((opened (some Duration.longest) ⟨Sample.opened, nanosPerSecond.toNat⟩).run
      [.acquire "a", .resolve 1 .cancelled, .beginWait 1]).journal =
        [.granted 1, .tried 1 .cancelled true,
          .told 1 (.error (.text SessionHandle.overflowMessage))] := rfl

end State

end Registry

end SignOn
