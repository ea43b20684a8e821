import Mathlib.Data.List.Infix
import SignOn.Broker.Controller
import SignOn.Proofs.Dispatch.Slot
import SignOn.Proofs.Dispatch.Workshop
import SignOn.Proofs.Local.Scripted
import SignOn.Proofs.Local.Told
import SignOn.Proofs.Session.Wait

/-! # Deadlines that cannot be told

A wait that is bounded asks for its deadline first, and breaks off if there is none. The settings
bound two kinds of waits: those for the result of a silent command, and those in the sessions of
interactive commands. They are accepted whatever the length of their timeouts, so it may be that no
deadline can be told:

* a wait for a result, or in a session, breaks off just if it asks where its deadline would lie
  beyond the limit (`submitSilentSync_breaks_iff`, `SessionHandle.wait_breaks_iff`);
* the controllers break off where the waits in their sessions do (`LocalController.breaksOnly`,
  `BrokerController.breaksOnly`), so an execution that breaks off so was at work at a moment when
  the deadline of its session could not be told (`Dispatcher.exists_overflow`).

`waits_break_off_at_limit` says so of every run with settings that are accepted. -/

namespace SignOn

open Failure (Payload)

variable {σ κ : Type}

/-! ### Waits -/

/-- Work that asks for a deadline first, and otherwise does not break off, does so just if there is
none. -/
theorem Work.deadline_breaks_iff {α : Type} {clock : σ → Clock} {bound : σ → Duration}
    {reason payload : Payload} {next : σ → Nat → Work σ α} {found : List σ}
    (never : ∀ s deadline, (next s deadline).BreaksOnly (fun _ => True) fun _ => False) :
    ((look fun s => match (clock s).deadline? (bound s) with
        | none => .broken reason
        | some deadline => next s deadline).after found).ended? = some (.error payload) ↔
      payload = reason ∧ ∃ s rest, found = s :: rest ∧
        Clock.uptimeLimit ≤ (clock s).uptime + (bound s).magnitude := by
  refine (look_breaks_iff fun s => ?_).trans ?_
  · cases (clock s).deadline? (bound s) with
    | none => exact .inl ⟨_, rfl⟩
    | some deadline => exact .inr (never s deadline)
  simp only [← Clock.deadline?_eq_none_iff]
  constructor
  · rintro ⟨s, rest, rfl, hbroke⟩
    cases hd : (clock s).deadline? (bound s) with
    | none =>
      rw [hd] at hbroke
      cases hbroke
      exact ⟨rfl, s, rest, rfl, hd⟩
    | some deadline =>
      rw [hd] at hbroke
      have hnever := never s deadline
      rw [show next s deadline = .broken payload from hbroke] at hnever
      exact hnever.elim
  · rintro ⟨rfl, s, rest, rfl, hd⟩
    exact ⟨s, rest, rfl, by rw [hd]⟩

/-- A wait in a session breaks off just if it begins where its deadline cannot be told. -/
theorem SessionHandle.wait_breaks_iff (h : SessionHandle σ) (found : List σ) (payload : Payload) :
    (h.wait.run.after found).ended? = some (.error payload) ↔
      payload = .text overflowMessage ∧ ∃ s rest, found = s :: rest ∧
        ∃ t ∈ h.timeout, Clock.uptimeLimit ≤ (h.clock s).uptime + t.magnitude := by
  unfold SessionHandle.wait
  cases h.timeout with
  | none =>
    have hnever : (Work.receive none h.signal).BreaksOnly (fun _ => True) fun _ => False :=
      fun _ _ _ => trivial
    constructor
    · intro hbroke
      exact (((Flow.breaksOnly_lift hnever).after fun _ _ => trivial).of_ended? hbroke).elim
    · rintro ⟨-, s, -, -, t, ⟨⟩, -⟩
  | some timeout =>
    simp only [Option.mem_some_iff, exists_eq_left']
    exact Work.deadline_breaks_iff fun _ _ _ _ _ => Work.breaksOnly_act _

/-- A wait for the result of a silent command hands the command in first, and breaks off just if it
then asks where its deadline cannot be told. -/
theorem submitSilentSync_breaks_iff (place : Place σ (Dispatcher κ)) (clock : σ → Clock)
    (c : Command κ) (found : List σ) (payload : Payload) :
    ((submitSilentSync place clock c).run.after found).ended? = some (.error payload) ↔
      payload = .text SessionHandle.overflowMessage ∧ ∃ first s rest, found = first :: s :: rest ∧
        Clock.uptimeLimit ≤ (clock s).uptime +
          (place.get s).settings.silentSyncTimeout.magnitude := by
  cases found with
  | nil => exact ⟨nofun, nofun⟩
  | cons first found =>
    unfold submitSilentSync
    -- the first turn only hands the command in
    rw [ExceptT.run_mk, Work.after_act_bind]
    refine (Work.deadline_breaks_iff fun s deadline => ?_).trans ?_
    · intro s' _ _
      dsimp only
      split <;> trivial
    · simp

/-! ### Controllers -/

variable {B : Payload → Prop}

theorem SessionHandle.breaksOnly_wait (h : SessionHandle σ) :
    h.wait.run.BreaksOnly (fun s => ¬ h.Overflows s) B := by
  unfold SessionHandle.wait Overflows
  cases h.timeout with
  | none => exact Flow.breaksOnly_lift fun _ _ _ => trivial
  | some timeout =>
    intro s _ hover
    cases hd : (h.clock s).deadline? timeout with
    | none => exact absurd ⟨timeout, rfl, hd⟩ hover
    | some deadline =>
      dsimp only
      rw [hd]
      exact fun _ _ _ => Work.breaksOnly_act _

/-- The controller breaks off with certain payloads only, except where the wait in its session
does. -/
structure Controller.BreaksOnly (B : Payload → Prop) (k : Controller σ) : Prop where
  acquireInteractive : ∀ p (h : SessionHandle σ),
    (k.acquireInteractive p h).run.BreaksOnly (fun s => ¬ h.Overflows s) B
  acquireSilent : ∀ p, (k.acquireSilent p).run.BreaksOnly (fun _ => True) B
  accounts : ∀ p, (k.accounts p).run.BreaksOnly (fun _ => True) B
  removeAccount : ∀ p, (k.removeAccount p).run.BreaksOnly (fun _ => True) B
  deviceMode : ∀ p, (k.deviceMode p).run.BreaksOnly (fun _ => True) B
  currentAccount : ∀ p, (k.currentAccount p).run.BreaksOnly (fun _ => True) B
  removeCurrentAccount : ∀ p, (k.removeCurrentAccount p).run.BreaksOnly (fun _ => True) B

theorem breaksOnly_authorizeWith (requestPage : Action σ AuthorizationRequest) (screen : Screen σ)
    (h : SessionHandle σ) (outcome : AuthorizationRequest → Continuation → AuthorizationResult) :
    (authorizeWith requestPage screen h outcome).run.BreaksOnly (fun s => ¬ h.Overflows s) B := by
  unfold authorizeWith
  refine Flow.breaksOnly_bind (Work.breaksOnly_act _) fun page => ?_
  refine Flow.breaksOnly_bind (Work.breaksOnly_act _) fun _ => ?_
  refine Flow.breaksOnly_bind h.breaksOnly_wait fun signal => ?_
  cases signal <;> trivial

/-- A local controller breaks off where its strategy does while it waits for the page. -/
theorem LocalController.breaksOnly (c : LocalController σ)
    (authorize : ∀ p (h : SessionHandle σ),
      (c.strategy.authorize p c.screen h).run.BreaksOnly (fun s => ¬ h.Overflows s) B) :
    c.controller.BreaksOnly B where
  acquireInteractive p h := by
    refine Flow.breaksOnly_bind (authorize p h) fun authorization => ?_
    cases authorization.grant? with
    | none => trivial
    | some grant => exact Work.breaksOnly_act _
  acquireSilent _ := Work.breaksOnly_act _
  accounts _ := Work.breaksOnly_act _
  removeAccount _ := Work.breaksOnly_act _
  deviceMode _ := trivial
  currentAccount _ := Work.breaksOnly_act _
  removeCurrentAccount _ := Work.breaksOnly_act _

theorem BrokerController.breaksOnly (c : BrokerController σ) : c.controller.BreaksOnly B where
  acquireInteractive p h := by
    refine Flow.breaksOnly_bind (Work.breaksOnly_act _) fun payload => ?_
    refine Flow.breaksOnly_bind (Work.breaksOnly_act _) fun _ => ?_
    exact Flow.breaksOnly_bind h.breaksOnly_wait fun _ => trivial
  acquireSilent _ := Work.breaksOnly_act _
  accounts _ := Work.breaksOnly_act _
  removeAccount _ := Work.breaksOnly_act _
  deviceMode _ := Work.breaksOnly_act _
  currentAccount _ := Work.breaksOnly_act _
  removeCurrentAccount _ := Work.breaksOnly_act _

namespace Command

theorem breaksOnly_tryInOrder {α : Type} [MayRetry α] {A : σ → Prop} {attempt : κ → Flow σ α}
    {ks : List κ} (h : ∀ k ∈ ks, (attempt k).run.BreaksOnly A B) :
    (tryInOrder attempt ks).run.BreaksOnly A B :=
  tryInOrder_keeps (fun _ => trivial) Work.BreaksOnly.bind h

/-- **A command breaks off** as its controllers do. -/
theorem breaksOnly_execute {cmd : Command (Controller σ)}
    (h : ∀ k ∈ cmd.controllers, k.BreaksOnly B) (session : Option (SessionHandle σ)) :
    (cmd.execute session).run.BreaksOnly (fun s => ∀ h ∈ session, ¬ h.Overflows s) B := by
  have hplain {α : Type} [MayRetry α] {attempt : Controller σ → Flow σ α} {f : α → CommandValue}
      (hk : ∀ k : Controller σ, k.BreaksOnly B → (attempt k).run.BreaksOnly (fun _ => True) B) :
      (f <$> tryInOrder attempt cmd.controllers).run.BreaksOnly
        (fun s => ∀ h ∈ session, ¬ h.Overflows s) B :=
    Flow.breaksOnly_map (breaksOnly_tryInOrder
      fun k hmem => (hk k (h k hmem)).mono fun _ _ => trivial)
  unfold execute
  dsimp only
  cases cmd.operation with
  | acquireInteractive =>
    cases session with
    | none => trivial
    | some session =>
      refine Flow.breaksOnly_map (breaksOnly_tryInOrder fun k hmem => ?_)
      exact ((h k hmem).acquireInteractive _ session).mono fun s hs => hs session rfl
  | acquireSilent => exact hplain fun k hk => hk.acquireSilent _
  | getAccounts => exact hplain fun k hk => hk.accounts _
  | removeAccount => exact hplain fun k hk => hk.removeAccount _
  | getDeviceMode => exact hplain fun k hk => hk.deviceMode _
  | getCurrentAccount => exact hplain fun k hk => hk.currentAccount _
  | removeCurrentAccount => exact hplain fun k hk => hk.removeCurrentAccount _

end Command

/-- The executions of commands whose controllers are found by name. Others may change all there
is. -/
def Workshop.ofControllers (find : κ → Controller σ)
    (session : Execution κ → Option (SessionHandle σ)) : Workshop σ κ Unit where
  does e := ((e.job.submission.command.withControllers find).execute (session e)).run
  kept := { get := fun _ => (), set := fun _ s => s }

/-! ### Settings -/

namespace Settings

variable {settings : Settings}

/-- Nothing is asked of a duration but that it is positive. -/
theorem problem?_eq_none_iff : settings.problem? = none ↔
    settings.silentWorkers ≠ 0 ∧ settings.resultCacheCapacity ≠ 0 ∧
      ∀ d ∈ settings.durations, d.2.isPositive = true := by
  unfold problem?
  split
  · simp [*]
  · split
    · simp [*]
    · simp [*]

theorem problem?_of_longer {t : Duration} (h : settings.problem? = none)
    (ht : t.isPositive = true) :
    { settings with interactiveTimeout := some t, silentSyncTimeout := t }.problem? = none := by
  obtain ⟨hworkers, hcapacity, hdurations⟩ := problem?_eq_none_iff.mp h
  refine problem?_eq_none_iff.mpr ⟨hworkers, hcapacity, ?_⟩
  simp only [durations, Option.getD_some, List.forall_mem_cons] at hdurations ⊢
  exact ⟨ht, ht, hdurations.2.2⟩

end Settings

/-! ### Dispatchers -/

namespace Dispatcher

open Registry

variable {settings : Settings} {poster : Poster} {start d d' : Dispatcher κ} {t t' : Task κ}

theorem new_eq_ok_iff : new settings poster none = .ok start ↔
    settings.problem? = none ∧ start = ofSettings settings poster none := by
  unfold new
  cases settings.problem? with
  | some problem => simp
  | none => simp [eq_comm]

theorem settings_opening {now : Moment} {i : Input κ} (ho : Opening d now i d' t) :
    d'.settings = d.settings := by
  cases ho with
  | begun =>
    rw [makeWay_eq]
    rfl
  | finished =>
    rw [executed_eq]
    rfl
  | broke => rw [breakOff_eq]
  | _ => rfl

theorem settings_move (hm : Move d t d' t') : d'.settings = d.settings := by
  cases hm with
  | queue => rw [withLane_eq]
  | reject | post | call => rfl
  | free => rw [freeWorker_eq]
  | settle => rw [settle_eq]

theorem settings_run (d : Dispatcher κ) (inputs : List (Moment × Input κ)) :
    (d.run inputs).settings = d.settings :=
  run_keeps (fun ho h => (settings_opening ho).trans h)
    (fun hm h => (settings_move hm).trans h) inputs d rfl

/-- The session of an execution is bounded as the settings say. -/
theorem timeout_reached (settings : Settings) (poster : Poster) (inputs : List (Moment × Input κ))
    {e : Execution κ} {id : Nat}
    (work : e ∈ ((ofSettings settings poster none).run inputs).executions)
    (session : e.session = some id) :
    ∃ s,
      ((ofSettings settings poster none : Dispatcher κ).run inputs).registry.session? id = some s ∧
      s.timeout = settings.interactiveTimeout := by
  obtain ⟨s, hs, -⟩ := (slot_reached settings poster inputs).owner e work id session
  have htimed : ((ofSettings settings poster none : Dispatcher κ).run inputs).registry.Timed
      settings.interactiveTimeout :=
    registry_run (closed_timed _) inputs (timed_new settings.interactiveTimeout)
  exact ⟨s, hs, htimed.2 s (List.mem_of_find?_eq_some hs)⟩

/-- An execution that breaks off for want of a deadline was at work when that of its session could
not be told. -/
theorem exists_overflow (settings : Settings) (poster : Poster) {find : κ → Controller σ}
    {session : Execution κ → Option (SessionHandle σ)} {s₀ : σ} {events : List (Workshop.Event σ κ)}
    {now : Moment} {ticket : Nat}
    (steady : ∀ name, (find name).BreaksOnly (· ≠ .text SessionHandle.overflowMessage))
    (timed : ∀ e, ∀ h ∈ session e, h.timeout = settings.interactiveTimeout)
    (broke : (now, .finishJob ticket (.error (.text SessionHandle.overflowMessage))) ∈
      (Workshop.ofControllers find session).inputs
        (.idle (ofSettings settings poster none) s₀) events) :
    ∃ m e, m <+: events ∧ e.job.submission.ticket = ticket ∧
      e ∈ ((Workshop.ofControllers find session).run (.idle (ofSettings settings poster none) s₀)
        m).dispatcher.executions ∧
      ∃ h ∈ session e, ∃ t ∈ settings.interactiveTimeout, Clock.uptimeLimit ≤
        (h.clock
          ((Workshop.ofControllers find session).run (.idle (ofSettings settings poster none) s₀)
          m).around).uptime + t.magnitude := by
  have hdoes (e : Execution κ) : ((Workshop.ofControllers find session).does e).BreaksOnly
      (fun s => ∀ h ∈ session e, ¬ h.Overflows s) (· ≠ .text SessionHandle.overflowMessage) := by
    refine Command.breaksOnly_execute (fun k hk => ?_) (session e)
    obtain ⟨name, -, rfl⟩ := List.mem_map.mp hk
    exact steady name
  obtain ⟨m, e, hm, hwork, hticket, hover⟩ :=
    Workshop.exists_moment_of_break broke hdoes fun h => h rfl
  simp only [not_forall, not_not] at hover
  obtain ⟨h, hsession, t, htimeout, hdeadline⟩ := hover
  exact ⟨m, e, hm, hticket, hwork, h, hsession, t, (timed e h hsession).symm.trans htimeout,
    Clock.deadline?_eq_none_iff.mp hdeadline⟩

/-- **A wait breaks off just where its deadline lies beyond the limit.** Timeouts are accepted
whatever their length. A wait for the result of a silent command, which has handed it in by then,
breaks off just if it then asks for a deadline that lies beyond the limit, and so does a wait in the
session of an interactive command, which is bounded as the settings say. An execution that breaks
off so, its controllers not doing so of themselves, was at work when such a deadline could not be
told. -/
theorem waits_break_off_at_limit {settings : Settings} {poster : Poster} {start : Dispatcher κ}
    (accepted : new settings poster none = .ok start) :
    (∀ t : Duration, t.isPositive = true → ∃ start' : Dispatcher κ,
        new { settings with interactiveTimeout := some t, silentSyncTimeout := t } poster none =
          .ok start') ∧
      (∀ {σ : Type} (place : Place σ (Dispatcher κ)) (clock : σ → Clock) (c : Command κ)
          (found : List σ) (payload : Payload),
        (∀ s ∈ found, ∃ inputs, place.get s = start.run inputs) →
        (((submitSilentSync place clock c).run.after found).ended? = some (.error payload) ↔
          payload = .text SessionHandle.overflowMessage ∧
          ∃ first s rest, found = first :: s :: rest ∧
            Clock.uptimeLimit ≤ (clock s).uptime + settings.silentSyncTimeout.magnitude)) ∧
      (∀ (inputs : List (Moment × Input κ)), ∀ e ∈ (start.run inputs).executions, ∀ id,
        e.session = some id →
        ∃ s, (start.run inputs).registry.session? id = some s ∧
          s.timeout = settings.interactiveTimeout) ∧
      (∀ {σ : Type} (h : SessionHandle σ) (found : List σ) (payload : Payload),
          h.timeout = settings.interactiveTimeout →
        ((h.wait.run.after found).ended? = some (.error payload) ↔
          payload = .text SessionHandle.overflowMessage ∧ ∃ s rest, found = s :: rest ∧
            ∃ t ∈ settings.interactiveTimeout,
              Clock.uptimeLimit ≤ (h.clock s).uptime + t.magnitude)) ∧
      ∀ {σ : Type} (find : κ → Controller σ)
          (session : Execution κ → Option (SessionHandle σ)) (s₀ : σ)
          (events : List (Workshop.Event σ κ)) (now : Moment) (ticket : Nat),
        let w := Workshop.ofControllers find session
        let x : Workshop.State σ κ := .idle start s₀
        (∀ name, (find name).BreaksOnly (· ≠ .text SessionHandle.overflowMessage)) →
        (∀ e, ∀ h ∈ session e, h.timeout = settings.interactiveTimeout) →
        (now, .finishJob ticket (.error (.text SessionHandle.overflowMessage))) ∈
          w.inputs x events →
          ∃ m e, m <+: events ∧ e.job.submission.ticket = ticket ∧
            e ∈ (w.run x m).dispatcher.executions ∧
            ∃ h ∈ session e, ∃ t ∈ settings.interactiveTimeout,
              Clock.uptimeLimit ≤ (h.clock (w.run x m).around).uptime + t.magnitude := by
  obtain ⟨hproblem, rfl⟩ := new_eq_ok_iff.mp accepted
  refine ⟨fun t ht => ?_, fun place clock c found payload reached => ?_,
    fun inputs e work id session => ?_,
    fun h found payload htimeout => ?_, fun find session s₀ events now ticket => ?_⟩
  · exact ⟨_, new_eq_ok_iff.mpr ⟨Settings.problem?_of_longer hproblem ht, rfl⟩⟩
  · rw [submitSilentSync_breaks_iff]
    -- the settings are those of the start, whatever the others did between the two turns
    refine and_congr_right fun _ => exists₃_congr fun first s rest =>
      and_congr_right fun hfound => ?_
    obtain ⟨inputs, hs⟩ := reached s (hfound ▸ .tail _ (.head _))
    rw [hs, settings_run]
    rfl
  · exact timeout_reached settings poster inputs work session
  · rw [h.wait_breaks_iff, htimeout]
  · exact exists_overflow settings poster

end Dispatcher

namespace Rehearsal.OneApp

open Dispatcher

/-- A dispatcher that has done nothing yet, and the clock of a machine that has been up so long. -/
def upFor (settings : Settings) (uptime : Nat) : Dispatcher Unit × Clock :=
  (ofSettings settings .inline none, ⟨Sample.opened, uptime⟩)

/-- How a wait for a token ends that has had two turns there. -/
def endOfWait (settings : Settings) (uptime : Nat) :
    Option (Except Payload (Except Failure CommandOutput)) :=
  ((submitSilentSync Place.fst Prod.snd (Sample.command .acquireSilent "a")).run.after
    [upFor settings uptime, upFor settings uptime]).ended?

/-- The executions of interactive commands, each in its session. -/
def parlour (settings : Settings) : Workshop Stage Unit Unit :=
  .ofControllers (fun _ => app.controller) fun e => e.session.map fun id =>
    Stage.dispatcherSession e.job.submission.command.correlationId id settings.interactiveTimeout

/-- Nothing is at work yet. -/
def unopened (settings : Settings) : Workshop.State Stage Unit :=
  .idle (ofSettings settings .inline none) (stage [])

/-- An interactive command is executed: its page is requested, is shown, and is waited for. -/
def paging : List (Workshop.Event Stage Unit) :=
  [.call Sample.opened (.beginInteractive (Sample.command .acquireInteractive "a")),
    .start Sample.begun .interactive 0, .turn 0, .turn 0, .turn 0, .finish Sample.begun 0]

/-- With the usual settings a wait for a result breaks off from half a minute before the limit, and
after an hour none in a session does. -/
theorem waits_break_off_at_limit_standard :
    (new .standard .inline none : Except SettingsProblem (Dispatcher Unit)) =
        .ok (ofSettings .standard .inline none) ∧
      endOfWait .standard (Clock.uptimeLimit - 30000000000) =
        some (.error (.text SessionHandle.overflowMessage)) ∧
      endOfWait .standard (Clock.uptimeLimit - 30000000001) ≠
        some (.error (.text SessionHandle.overflowMessage)) ∧
      ∀ now ticket, (now, .finishJob ticket (.error (.text SessionHandle.overflowMessage))) ∉
        (parlour .standard).inputs (unopened .standard) paging := by
  have accepted : (new .standard .inline none : Except SettingsProblem (Dispatcher Unit)) =
      .ok (ofSettings .standard .inline none) := rfl
  obtain ⟨-, hsync, -, -, hwork⟩ := waits_break_off_at_limit accepted
  have hbreaks (uptime : Nat) :
      endOfWait .standard uptime = some (.error (.text SessionHandle.overflowMessage)) ↔
        Clock.uptimeLimit ≤ uptime + 30000000000 := by
    refine (hsync Place.fst Prod.snd _ _ _ fun s hs => ⟨[], ?_⟩).trans ⟨?_, fun hlimit => ?_⟩
    · rcases hs with _ | ⟨_, _ | ⟨_, ⟨⟩⟩⟩ <;> rfl
    · rintro ⟨-, _, _, _, ⟨⟩, hlimit⟩
      exact hlimit
    · exact ⟨rfl, _, _, _, rfl, hlimit⟩
  have hclock :
      ∀ m ∈ paging.inits, ((parlour .standard).run (unopened .standard) m).around.clock.uptime =
        3600000000000 := by decide +kernel
  refine ⟨accepted, (hbreaks _).mpr (by decide), fun h => absurd ((hbreaks _).mp h) (by decide),
    fun now ticket broke => ?_⟩
  obtain ⟨m, e, hm, -, -, h, hsession, t, ht, hlimit⟩ := hwork _ _ (stage []) paging now ticket
    (fun _ => app.breaksOnly fun _ _ => breaksOnly_authorizeWith _ _ _ _)
    (fun e h hsession => by obtain ⟨id, -, rfl⟩ := Option.map_eq_some_iff.mp hsession; rfl) broke
  obtain ⟨id, -, rfl⟩ := Option.map_eq_some_iff.mp hsession
  cases ht
  have hlimit :
      Clock.uptimeLimit ≤ ((parlour .standard).run (unopened .standard) m).around.clock.uptime +
        600000000000 := hlimit
  rw [hclock m ((List.mem_inits _ _).mpr hm)] at hlimit
  exact absurd hlimit (by decide)

/-- Settings with the longest timeouts there are. -/
def boundless : Settings :=
  { Settings.standard with interactiveTimeout := some .longest, silentSyncTimeout := .longest }

/-- The longest timeouts are accepted, and then a wait breaks off as soon as the machine is up, and
so does an execution: its command is told that it was interrupted. -/
theorem longest_timeouts_break_off :
    boundless.problem? = none ∧
      endOfWait boundless 1 = some (.error (.text SessionHandle.overflowMessage)) ∧
      (Sample.begun, .finishJob 0 (.error (.text SessionHandle.overflowMessage))) ∈
        (parlour boundless).inputs (unopened boundless) paging ∧
      .called 0 "a" (.failed (.ofBreak (.text SessionHandle.overflowMessage))) ∈
        ((parlour boundless).run (unopened boundless) paging).dispatcher.journal :=
  ⟨by decide, rfl, .tail _ (.tail _ (.head _)), by decide +kernel⟩

end Rehearsal.OneApp

end SignOn
