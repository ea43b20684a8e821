import SignOn.Proofs.Dispatch.Step
import SignOn.Proofs.Identity.Key
import SignOn.Proofs.Session.Registry
import SignOn.Proofs.Time.Moment
import SignOn.Rehearsal.Play

/-! # What those who wait in a session are told

A wait ends with the signal of its session and nothing else (`signal_of_advance_wait`), and at once
if there is one (`advance_wait_of_signal`). A registry changes by signals, grants and releases only
(`Registry.Closed`), and none of them takes a signal back (`Told`). So whoever waits in a session
later in a run is told what the first one was told, whatever was delivered in between
(`told_alike_however_late`); two controllers of one command, which wait in the same session one
after the other, therefore redeem one and the same continuation (`code_redeemed_twice`). -/

namespace SignOn

/-! ### One wait -/

theorem Clock.deadline?_eq_none_iff {c : Clock} {wait : Duration} :
    c.deadline? wait = none ↔ uptimeLimit ≤ c.uptime + wait.magnitude := by
  simp [deadline?]

theorem Work.advance_look {σ α : Type} (k : σ → Work σ α) (s : σ) :
    (Work.look k).advance s = (k s).advance s := by
  simp [Work.look, Work.advance]

namespace SessionHandle

variable {σ : Type} {h : SessionHandle σ} {s s' : σ} {x : Signal}

/-- A wait that begins at this moment has no deadline that could be told. -/
def Overflows (h : SessionHandle σ) (s : σ) : Prop :=
  ∃ timeout, h.timeout = some timeout ∧ (h.clock s).deadline? timeout = none

theorem conclude_of_signal (hx : h.signal s = some x) : h.conclude.run s = (.ok x, s) := by
  simp [conclude, ExceptT.run, hx]

/-- Where the signal is there, a wait ends with it at once and changes nothing. -/
theorem advance_wait_of_signal (hx : h.signal s = some x) (hd : ¬ h.Overflows s) :
    h.wait.run.advance s = (.ended (.ok (.ok x)), s) := by
  have ready : (h.signal s).isSome = true := by rw [hx]; rfl
  unfold wait
  cases ht : h.timeout with
  | none =>
    change (Work.bind (Work.receive none h.signal) _).advance s = _
    simp only [Work.receive, Work.bind, Work.advance]
    rw [dif_pos ready]
    simp [hx]
    rfl
  | some timeout =>
    rcases hdl : (h.clock s).deadline? timeout with _ | deadline
    · exact absurd ⟨timeout, ht, hdl⟩ hd
    · change (Work.look _).advance s = _
      simp only [Work.look, Work.advance, hdl]
      rw [dif_pos (by simp)]
      simp [ready, Work.advance_act, conclude_of_signal hx]

theorem advance_wait_of_overflows (hd : h.Overflows s) :
    h.wait.run.advance s = (.ended (.error (.text overflowMessage)), s) := by
  obtain ⟨timeout, ht, hdl⟩ := hd
  unfold wait
  rw [ht]
  change (Work.look _).advance s = _
  rw [Work.advance_look, hdl]
  rfl

/-- A wait that ended with a signal found it in its session and changed nothing. -/
theorem signal_of_advance_wait
    (told : h.wait.run.advance s = (.ended (.ok (.ok x)), s')) : h.signal s = some x := by
  unfold wait at told
  cases ht : h.timeout with
  | none =>
    rw [ht] at told
    change (Work.bind (Work.receive none h.signal) _).advance s = _ at told
    simp only [Work.receive, Work.bind, Work.advance] at told
    by_cases ready : (h.signal s).isSome = true
    · rw [dif_pos ready] at told
      obtain ⟨y, hy⟩ := Option.isSome_iff_exists.mp ready
      simp only [hy, Option.get_some] at told
      cases told
      exact hy
    · rw [dif_neg ready] at told
      cases told
  | some timeout =>
    rw [ht] at told
    change (Work.look _).advance s = _ at told
    rw [Work.advance_look] at told
    rcases hdl : (h.clock s).deadline? timeout with _ | deadline
    · simp only [hdl, Work.advance] at told
      cases told
    · simp only [hdl, Work.advance] at told
      split at told
      · rw [Work.advance_act] at told
        unfold conclude at told
        rcases hx : h.signal s with _ | y
        · simp [ExceptT.run, hx] at told
        · simp only [ExceptT.run, hx] at told
          cases told
          rfl
      · cases told

end SessionHandle

/-! ### What a registry does to its sessions -/

namespace Registry

variable {r : Registry} {id : Nat} {x : Signal}

/-- What holds of a registry and cannot be undone by its operations. -/
structure Closed (P : Registry → Prop) : Prop where
  resolve : ∀ {r}, P r → ∀ id signal, P (r.resolve id signal).2
  grant : ∀ {r}, P r → ∀ correlationId, P (r.grant correlationId).2
  release : ∀ {r}, P r → ∀ id, P (r.release id)

section Closed

variable {P : Registry → Prop} (hP : Closed P) (h : P r)

include hP h

theorem Closed.cancelActive : P r.cancelActive.2 := by
  unfold Registry.cancelActive
  split
  · exact hP.resolve h _ _
  · exact h

theorem Closed.deliver (k : Continuation) : P (r.deliver k).2 := by
  unfold Registry.deliver
  split
  · exact hP.resolve h _ _
  · exact h

theorem Closed.acquire (correlationId : String) : P (r.acquire correlationId).2 :=
  hP.grant (hP.cancelActive h) correlationId

end Closed

/-- The session of a number has been resolved by a signal. -/
def Told (id : Nat) (x : Signal) (r : Registry) : Prop :=
  r.Sound ∧ ∃ s, r.session? id = some s ∧ s.signal = some x

/-- The sessions of the registry are bounded as it says. -/
def Timed (timeout : Option Duration) (r : Registry) : Prop :=
  r.timeout = timeout ∧ ∀ s ∈ r.sessions, s.timeout = timeout

theorem timed_new (timeout : Option Duration) : (new timeout).Timed timeout := ⟨rfl, by simp [new]⟩

/-- A timeout never changes. -/
theorem closed_timed (timeout : Option Duration) : Closed (Timed timeout) where
  resolve := by
    rintro r ⟨hr, hs⟩ id signal
    refine ⟨hr, fun s hmem => ?_⟩
    obtain ⟨s', hs', rfl⟩ := List.mem_map.mp hmem
    split
    · exact (timeout_resolve s' signal).trans (hs s' hs')
    · exact hs s' hs'
  grant := by
    rintro r ⟨hr, hs⟩ correlationId
    exact ⟨hr, List.forall_mem_cons.mpr ⟨hr, hs⟩⟩
  release := by
    rintro r h id
    unfold Registry.release
    split <;> exact h

theorem closed_sound : Closed Sound where
  resolve h id signal := h.resolve id signal
  grant h correlationId := h.grant correlationId
  release h id := h.release id

/-- A signal is never taken back. -/
theorem closed_told (id : Nat) (x : Signal) : Closed (Told id x) where
  resolve := by
    rintro r ⟨sound, s, hs, hx⟩ id' signal
    refine ⟨sound.resolve id' signal, _, by rw [session?_resolve, hs, Option.map_some], ?_⟩
    have resolved : s.isResolved = true := by simp [Session.isResolved, hx]
    split
    · simp [Session.resolve, resolved, hx]
    · exact hx
  grant := by
    rintro r ⟨sound, s, hs, hx⟩ correlationId
    have hlt : id < r.nextId := by
      rw [← id_of_session? hs]
      exact sound.below s (List.mem_of_find?_eq_some hs)
    refine ⟨sound.grant correlationId, s, ?_, hx⟩
    rw [session?_grant_of_lt correlationId hlt]
    exact hs
  release := by
    rintro r ⟨sound, s, hs, hx⟩ id'
    refine ⟨sound.release id', s, ?_, hx⟩
    rw [session?_release]
    exact hs

end Registry

/-! ### Runs -/

namespace Dispatcher

open Registry

variable {κ : Type} {P : Registry → Prop} {d d' : Dispatcher κ} {t t' : Task κ}

/-- Every opening changes the registry by its operations. -/
theorem registry_opening (hP : Closed P) {now : Moment} {i : Input κ} (ho : Opening d now i d' t)
    (h : P d.registry) : P d'.registry := by
  cases ho with
  | begun =>
    rw [makeWay_eq]
    exact hP.cancelActive h
  | continuation => exact hP.deliver h _
  | shutDown => exact hP.cancelActive h
  | startedInteractive => exact hP.acquire h _
  | @finished ticket outcome e =>
    rw [executed_eq]
    change P (d.retired e).registry
    unfold retired
    dsimp only
    split
    · exact h
    · exact hP.release h _
  | expired => exact hP.resolve h _ _
  | broke =>
    rw [breakOff_eq]
    exact h
  | _ => exact h

/-- No move touches the registry. -/
theorem registry_move (hm : Move d t d' t') (h : P d.registry) : P d'.registry := by
  cases hm with
  | queue =>
    rw [withLane_eq]
    exact h
  | free =>
    rw [freeWorker_eq]
    exact h
  | settle =>
    rw [settle_eq]
    exact h
  | _ => exact h

theorem registry_run (hP : Closed P) (inputs : List (Moment × Input κ)) (h : P d.registry) :
    P (d.run inputs).registry :=
  run_keeps (fun ho h => registry_opening hP ho h) (fun hm h => registry_move hm h) inputs d h

end Dispatcher

namespace Rehearsal

open Dispatcher Registry

theorem signal_dispatcherSession {correlationId : String} {id : Nat} {timeout : Option Duration}
    {s : Stage} {x : Signal} :
    (Stage.dispatcherSession correlationId id timeout).signal s = some x ↔
      ∃ session, s.dispatcher.registry.session? id = some session ∧ session.signal = some x := by
  simp only [Stage.dispatcherSession, Option.bind_eq_some_iff]

/-- **What one controller was told in a session, each later one is told**, at once and whatever was
delivered since: between them lies an arbitrary run of the dispatcher. The one way not to be told is
a deadline that cannot be told. -/
theorem told_alike_however_late (settings : Settings) (poster : Poster) (registry : Option Registry)
    (sound : ∀ r, registry = some r → r.Sound) (earlier later : List (Moment × Input String))
    (correlationId : String) (id : Nat) (timeout : Option Duration) {first first' again : Stage}
    {x : Signal} (hfirst : first.dispatcher = (ofSettings settings poster registry).run earlier)
    (hagain : again.dispatcher = first.dispatcher.run later)
    (told : (Stage.dispatcherSession correlationId id timeout).wait.run.advance first
      = (.ended (.ok (.ok x)), first')) :
    let session := Stage.dispatcherSession correlationId id timeout
    (¬ session.Overflows again → session.wait.run.advance again = (.ended (.ok (.ok x)), again)) ∧
      (session.Overflows again → session.wait.run.advance again
        = (.ended (.error (.text SessionHandle.overflowMessage)), again)) := by
  intro session
  have start : (ofSettings settings poster registry : Dispatcher String).registry.Sound := by
    cases registry with
    | none => exact sound_new settings.interactiveTimeout
    | some r => exact sound r rfl
  have before : Told id x first.dispatcher.registry := by
    refine ⟨?_, signal_dispatcherSession.mp (SessionHandle.signal_of_advance_wait told)⟩
    rw [hfirst]
    exact registry_run closed_sound earlier start
  have after : Told id x again.dispatcher.registry := by
    rw [hagain]
    exact registry_run (closed_told id x) later before
  have signal : session.signal again = some x := signal_dispatcherSession.mpr after.2
  exact ⟨SessionHandle.advance_wait_of_signal signal, SessionHandle.advance_wait_of_overflows⟩

/-! ### Two controllers of one command -/

namespace TwoApps

/-- What comes back from a page with a code. -/
def page (code : String) : Continuation :=
  ⟨Continuation.browserFlow, Continuation.completed,
    ⟨[("code", .string code), ("state", .string pageState)]⟩⟩

/-- A local controller whose page comes back with a code, and what the server says to it. -/
def app (code : String) (answer : TokenResult) : LocalRole where
  tokens := [answer]
  rejectCached := false
  pageFailure := none
  seed := []
  faults := {}
  expiryBuffer := none
  screen := .respond (page code)

/-- The server does not accept a code. -/
def refused : TokenResult := ⟨none, some (.plain Code.invalidGrant), none⟩

/-- Two local controllers, each with a page of its own; the first one is refused. -/
def cast : Cast :=
  [("first", .localApp (app "code-1" refused)), ("second", .localApp (app "code-2" refused))]

/-- An interactive command for both. -/
def command : Command String where
  operation := .acquireInteractive
  parameters := Sample.parameters "a"
  controllers := ["first", "second"]
  apiId := Operation.acquireInteractive.label
  correlationId := "a"
  hasController := by simp
  isCorrelated := rfl

/-- The command is under way. -/
def underway : List (Moment × Input String) :=
  [(Sample.opened, .beginInteractive command), (Sample.begun, .startJob .interactive 0)]

/-- The stage on which its controllers begin. -/
def stage : Stage :=
  cast.prepare (.ofDispatcher ((ofSettings .standard .inline none).run underway))

/-- The session of the command. -/
def session : SessionHandle Stage := Stage.dispatcherSession "a" 1 none

/-- What comes back from the first page, and later from the second. -/
def answered : List (Moment × Input String) :=
  underway ++ [(Sample.returned, .completeInteractive (page "code-1"))]

/-- A second wait in the session, after both pages came back, ends with what the first brought. -/
theorem told_alike_after_second_page :
    session.wait.run.advance (Stage.ofDispatcher ((ofSettings .standard .inline none).run
        (answered ++ [(Sample.returnedLater, .completeInteractive (page "code-2"))])))
      = (.ended (.ok (.ok (.completed (page "code-1")))), Stage.ofDispatcher
          ((ofSettings .standard .inline none).run
            (answered ++ [(Sample.returnedLater, .completeInteractive (page "code-2"))]))) := by
  have unbounded : ∀ s, ¬ session.Overflows s := by
    rintro s ⟨timeout, ht, -⟩
    cases ht
  have signal :
      session.signal (Stage.ofDispatcher ((ofSettings .standard .inline none).run answered))
        = some (.completed (page "code-1")) := by
    decide +kernel
  have told := SessionHandle.advance_wait_of_signal signal (unbounded _)
  exact (told_alike_however_late .standard .inline none (fun _ h => by cases h) answered
    [(Sample.returnedLater, .completeInteractive (page "code-2"))] "a" 1 none rfl
    (run_append _ _ _) told).1 (unbounded _)

/-- The stage after the controllers of the command. -/
def done : Stage :=
  (((command.withControllers cast.controller).execute (some session)).run.advance stage).2

/-- What a controller had redeemed. -/
def redeemed (name : String) : List TokenGrant :=
  ((Stage.propsOf name).get done).requests.map (·.grant)

/-- The second controller showed a page of its own, and the person answered it with a code of its
own. What it redeemed is the code that the first one had already redeemed in vain. -/
theorem code_redeemed_twice :
    ((Stage.propsOf "second").get done).launches.length = 1 ∧
      redeemed "first" = [.authorizationCode ⟨"code-1"⟩ (some pageVerifier)] ∧
      redeemed "second" = [.authorizationCode ⟨"code-1"⟩ (some pageVerifier)] := by
  decide +kernel

end TwoApps

end Rehearsal

end SignOn
