import SignOn.Broker.Controller
import SignOn.Proofs.Command.Ending
import SignOn.Proofs.Local.Answered

/-! # Continuations of another screen

A continuation says which screen it is from. Neither controller makes anything of it: with every
continuation said to be from another screen, an acquisition with the person is the same work
(`LocalController.acquireInteractive_readdressed`,
`BrokerController.acquireInteractive_readdressed`). What a flow is completed by is its own result
code, and data that it can read. -/

namespace SignOn

open Work (Standing)

variable {σ α β : Type} {R : σ → σ → Prop} {f : Int → Int}

/-! ### Sessions with other request codes -/

/-- The signal, its continuation being said to be from another screen. -/
def Signal.readdressed (f : Int → Int) : Signal → Signal
  | .completed k => .completed { k with requestCode := f k.requestCode }
  | .cancelled => .cancelled

/-- The session, its signals being said to be from other screens. -/
def SessionHandle.readdressed (f : Int → Int) (h : SessionHandle σ) : SessionHandle σ :=
  { h with signal := fun s => (h.signal s).map (Signal.readdressed f) }

theorem Work.wait_congr {alarm : Option Nat} {ready ready' : σ → Bool}
    {next : (s : σ) → ready s = true → Work σ α} {next' : (s : σ) → ready' s = true → Work σ α}
    (hready : ready = ready') (hnext : ∀ s h h', next s h = next' s h') :
    Work.wait alarm ready next = Work.wait alarm ready' next' := by
  subst hready
  exact congrArg _ (funext fun s => funext fun h => hnext s h h)

namespace SessionHandle

variable (h : SessionHandle σ)

theorem isSome_readdressed (s : σ) : ((h.readdressed f).signal s).isSome = (h.signal s).isSome :=
  Option.isSome_map

theorem conclude_readdressed (s : σ) : (h.readdressed f).conclude.run s =
    (Except.map (Signal.readdressed f) (h.conclude.run s).1, (h.conclude.run s).2) := by
  cases hx : h.signal s with
  | none =>
    have hx' : (h.readdressed f).signal s = none := congrArg (Option.map _) hx
    rw [conclude_of_none hx, conclude_of_none hx']
    rfl
  | some x =>
    have hx' : (h.readdressed f).signal s = some (x.readdressed f) := congrArg (Option.map _) hx
    rw [conclude_of_signal hx, conclude_of_signal hx']
    rfl

/-- A wait looks whether there is a signal, and at the signal only when it ends. -/
theorem wait_readdressed : (h.readdressed f).wait = Signal.readdressed f <$> h.wait := by
  refine ExceptT.ext ?_
  rw [ExceptT.run_map]
  have htimeout : (h.readdressed f).timeout = h.timeout := rfl
  unfold wait
  rw [htimeout]
  cases h.timeout with
  | none =>
    refine Work.wait_congr (funext h.isSome_readdressed) fun s hs hs' => ?_
    have hget : ((h.readdressed f).signal s).get hs = ((h.signal s).get hs').readdressed f :=
      Option.get_map
    exact congrArg (fun x => (Work.ended (.ok x) : Work σ (Except Failure Signal))) hget
  | some timeout =>
    refine Work.wait_congr rfl fun s _ _ => ?_
    have hclock : (h.readdressed f).clock s = h.clock s := rfl
    beta_reduce
    rw [hclock]
    cases (h.clock s).deadline? timeout with
    | none => rfl
    | some deadline =>
      refine Work.wait_congr (funext fun s => ?_) fun s _ _ => Work.wait_congr rfl fun s _ _ => ?_
      · rw [h.isSome_readdressed]
        rfl
      · change Work.put _ (.ended _) = Work.put _ (.ended _)
        rw [h.conclude_readdressed]

end SessionHandle

/-! ### Controllers -/

theorem AuthorizationRequest.verdict_readdressed (request : AuthorizationRequest)
    (signal : Signal) :
    request.verdict (signal.readdressed f) = request.verdict signal := by
  cases signal <;> rfl

/-- To a local controller it is all the same which screen a continuation is from. -/
theorem LocalController.acquireInteractive_readdressed {c : LocalController σ}
    (usual : c.AuthorizesAsUsual) (p : Parameters) (session : SessionHandle σ) :
    c.acquireInteractive p (session.readdressed f) = c.acquireInteractive p session := by
  have hsettle : ∀ request signal, c.settle p request (Signal.readdressed f signal) =
      c.settle p request signal := by
    intro request signal
    rw [settle, settle, request.verdict_readdressed]
  rw [acquireInteractive_eq usual, acquireInteractive_eq usual, session.wait_readdressed]
  simp only [bind_map_left, hsettle]

namespace BrokerController

variable {c : BrokerController σ} {p : Parameters} {session : SessionHandle σ} {s s' : σ}

theorem signalResult_readdressed (signal : Signal) :
    signalResult (signal.readdressed f) = signalResult signal := by
  cases signal <;> rfl

/-- To a broker controller as well. -/
theorem acquireInteractive_readdressed (c : BrokerController σ) (p : Parameters)
    (session : SessionHandle σ) :
    c.acquireInteractive p (session.readdressed f) = c.acquireInteractive p session := by
  simp only [acquireInteractive, session.wait_readdressed, bind_map_left, signalResult_readdressed]

/-- The broker's screen has been shown, and the session was resolved with the continuation, for a
wait that began before and did not break off. -/
def Returned (c : BrokerController σ) (R : σ → σ → Prop) (p : Parameters)
    (session : SessionHandle σ) (s : σ) (k : Continuation) (s' : σ) : Prop :=
  ∃ payload s₁ s₂, (c.ask p .interactiveLaunch Bundle.launchReply).run s = (.ok payload, s₁) ∧
    (c.screen.present (.broker Continuation.brokerFlow payload)).run s₁ = (.ok (), s₂) ∧
    ¬ session.Overflows s₂ ∧ session.Resolves R (.completed k) s₂ s'

/-- What succeeds is what the broker's screen came back with as its result. -/
theorem tokenReply_of_succeeded {signal : Signal} {a : Acquisition}
    (h : signalResult signal = .ok a) (succeeded : a.succeeded = true) :
    ∃ k, signal = .completed k ∧
      k.resultCode = Continuation.brokerSucceeded ∧ k.data.tokenReply = .ok a := by
  cases signal with
  | cancelled =>
    cases h
    cases succeeded
  | completed k =>
    change continuationResult k = .ok a at h
    rw [continuationResult] at h
    split_ifs at h with hsucceeded
    · exact ⟨k, rfl, hsucceeded, h⟩
    · cases h
      cases succeeded
    · cases h
      cases succeeded
    · cases he : k.data.checkError with
      | error f =>
        rw [he] at h
        cases h
      | ok _ =>
        rw [he] at h
        cases h

/-- A broker controller succeeds only with what its own screen came back with. -/
theorem returned_of_succeeded {a : Acquisition}
    (h : (c.acquireInteractive p session).run.Stands R s (.done (.ok a)) s')
    (succeeded : a.succeeded = true) :
    ∃ k, c.Returned R p session s k s' ∧ k.resultCode = Continuation.brokerSucceeded ∧
      k.data.tokenReply = .ok a := by
  unfold Returned
  rw [acquireInteractive, Flow.stands_act_bind_iff] at h
  rcases hasked : (c.ask p .interactiveLaunch Bundle.launchReply).run s with ⟨f | payload, s₁⟩
  all_goals rw [hasked] at h
  · cases h.1
  dsimp only at h
  rw [Flow.stands_act_bind_iff] at h
  rcases hshown : (c.screen.present (.broker Continuation.brokerFlow payload)).run s₁
    with ⟨f | _, s₂⟩
  all_goals rw [hshown] at h
  · cases h.1
  rcases Flow.stands_bind_iff.mp h with ⟨signal, s₃, told, hend⟩ | ⟨z, -, hz⟩
  · obtain ⟨he, rfl⟩ := Work.stands_ended_iff.mp hend
    have hresult : signalResult signal = .ok a := (Except.ok.inj (Standing.ended.inj he)).symm
    obtain ⟨k, rfl, hcode, hreply⟩ := tokenReply_of_succeeded hresult succeeded
    have timely := SessionHandle.not_overflows_of_told told
    exact ⟨k, ⟨payload, s₁, s₂, rfl, hshown, timely,
      (SessionHandle.stands_wait_told_iff timely).mp told⟩, hcode, hreply⟩
  · rcases z with (payload | f | signal) | alarm <;> cases hz

end BrokerController

/-- A local controller succeeds only with what its own page came back with. -/
theorem LocalController.agreed_of_succeeded {c : LocalController σ}
    (usual : c.AuthorizesAsUsual) {p : Parameters} {session : SessionHandle σ} {s s' : σ}
    {a : Acquisition} (h : (c.acquireInteractive p session).run.Stands R s (.done (.ok a)) s')
    (succeeded : a.succeeded = true) :
    ∃ request code s₁, c.Agreed R p session s request code s₁ ∧
      (c.redeemFor p request code).run s₁ = (.ok a, s') := by
  rcases (stands_acquireInteractive_iff usual).mp h with ⟨request, code, s₁, agreed, hx, hs'⟩ | h
  · have ha : Except.ok a = ((c.redeemFor p request code).run s₁).1 :=
      Except.ok.inj (Standing.ended.inj hx)
    exact ⟨request, code, s₁, agreed, Prod.ext ha.symm hs'.symm⟩
  · cases h
    cases succeeded

/-- **A flow is completed by what its own screen is to come back with, from whichever screen that
comes.** An acquisition with the person that succeeded was told of the end that its controller waits
for, with data that the controller could read. With every continuation said to be from another
screen, it is the same work. -/
theorem completed_from_any_screen {l : LocalController σ} (usual : l.AuthorizesAsUsual)
    (b : BrokerController σ) (R : σ → σ → Prop) (p : Parameters) (session : SessionHandle σ) :
    (∀ s a s', (l.acquireInteractive p session).run.Stands R s (.done (.ok a)) s' →
      a.succeeded = true →
      ∃ request code s₁, l.Agreed R p session s request code s₁ ∧
        (l.redeemFor p request code).run s₁ = (.ok a, s')) ∧
    (∀ s a s', (b.acquireInteractive p session).run.Stands R s (.done (.ok a)) s' →
      a.succeeded = true →
      ∃ k, b.Returned R p session s k s' ∧ k.resultCode = Continuation.brokerSucceeded ∧
        k.data.tokenReply = .ok a) ∧
    ∀ f, l.acquireInteractive p (session.readdressed f) = l.acquireInteractive p session ∧
      b.acquireInteractive p (session.readdressed f) = b.acquireInteractive p session :=
  ⟨fun _ _ _ h => LocalController.agreed_of_succeeded usual h,
    fun _ _ _ h => BrokerController.returned_of_succeeded h,
    fun _ => ⟨LocalController.acquireInteractive_readdressed usual p session,
      BrokerController.acquireInteractive_readdressed b p session⟩⟩

/-! ### Each of the two screens, in the place of the other -/

namespace Rehearsal.EitherScreen

/-- A local controller whose page comes back with a code, said to be from a screen. -/
def appRole (requestCode : Int) : LocalRole :=
  { OneApp.role [OneApp.given "at-1" "rt-1" (some OneApp.user)] OneApp.ended with
    screen := .respond ⟨requestCode, Continuation.completed,
      ⟨[("code", .string "code-1"), ("state", .string pageState)]⟩⟩ }

/-- A broker controller whose screen comes back with a token, said to be from a screen. -/
def brokerRole (requestCode : Int) : BrokerRole where
  identity := ⟨⟨"com.broker", by decide⟩, "1.2.3"⟩
  transports := [⟨.boundService, [.answer ⟨[(BrokerController.versionKey, .string "9.0")]⟩,
    .answer ⟨[("launch_payload", .object [])]⟩], none⟩]
  maxVersion := none
  helloCache := none
  helloTtl := none
  screen := .respond ⟨requestCode, Continuation.brokerSucceeded,
    ⟨[("authentication_result", Json.Wire.encode Sample.issued)]⟩⟩

/-- The local controller. -/
def app (requestCode : Int) : LocalController Stage := (appRole requestCode).play "app"

/-- The broker controller. -/
def broker (requestCode : Int) : BrokerController Stage := (brokerRole requestCode).play "app" true

/-- The session of the screen. -/
def session : SessionHandle Stage := OneApp.sessionOf none

/-- The stage with one controller, on which the session is open. -/
def stage (role : Role) : Stage :=
  { Cast.prepare [("app", role)] default with session := some (.standalone "a" none) }

/-- How far an acquisition with a page gets at once. -/
def viaPage (requestCode : Int) : Work.Progress Stage (Except Failure Acquisition) × Stage :=
  ((app requestCode).acquireInteractive OneApp.parameters session).run.advance
    (stage (.localApp (appRole requestCode)))

/-- How far one with the broker gets. -/
def viaBroker (requestCode : Int) : Work.Progress Stage (Except Failure Acquisition) × Stage :=
  ((broker requestCode).acquireInteractive OneApp.parameters session).run.advance
    (stage (.broker (brokerRole requestCode)))

/-- An acquisition with a page succeeds, and is the same work with the page said to be from the
broker's screen; so is one with the broker. -/
theorem completed_from_any_screen_page : (∃ request code s₁,
      (app Continuation.browserFlow).Agreed
        (LocalRole.settingOf "app").Passes OneApp.parameters session
        (stage (.localApp (appRole Continuation.browserFlow))) request code s₁) ∧
    (app Continuation.browserFlow).acquireInteractive OneApp.parameters
        (session.readdressed fun _ => Continuation.brokerFlow) =
      (app Continuation.browserFlow).acquireInteractive OneApp.parameters session ∧
    (broker Continuation.brokerFlow).acquireInteractive OneApp.parameters
        (session.readdressed fun _ => Continuation.browserFlow) =
      (broker Continuation.brokerFlow).acquireInteractive OneApp.parameters session := by
  have usual : (app Continuation.browserFlow).AuthorizesAsUsual := ⟨rfl, rfl⟩
  obtain ⟨page, -, same⟩ := completed_from_any_screen usual (broker Continuation.brokerFlow)
    (LocalRole.settingOf "app").Passes OneApp.parameters session
  have hstands := Work.stands_advance (LocalRole.settingOf "app").Passes
    ((app Continuation.browserFlow).acquireInteractive OneApp.parameters session).run
    (stage (.localApp (appRole Continuation.browserFlow)))
  obtain ⟨request, code, s₁, agreed, -⟩ := page _ _ _ hstands rfl
  exact ⟨⟨request, code, s₁, agreed⟩, (same _).1, (same _).2⟩

/-- The acquisition has succeeded. -/
def succeeded : Work.Progress Stage (Except Failure Acquisition) × Stage → Bool
  | (.ended (.ok (.ok a)), _) => a.succeeded
  | _ => false

/-- The screens that the controller showed, and the one that the continuation is from. -/
def screens (came : Work.Progress Stage (Except Failure Acquisition) × Stage) :
    List Int × Option Int :=
  (((Stage.propsOf "app").get came.2).launches.map fun
      | .browser requestCode _ => requestCode
      | .broker requestCode _ => requestCode,
    (session.signal came.2).bind fun
      | .completed k => some k.requestCode
      | .cancelled => none)

/-- A continuation from the broker's screen completes the flow of a page, and one from a page that
of the broker's screen. -/
theorem foreign_completes :
    (succeeded (viaPage Continuation.brokerFlow) = true ∧
      screens (viaPage Continuation.brokerFlow) =
        ([Continuation.browserFlow], some Continuation.brokerFlow)) ∧
    (succeeded (viaBroker Continuation.browserFlow) = true ∧
      screens (viaBroker Continuation.browserFlow) =
        ([Continuation.brokerFlow], some Continuation.browserFlow)) := by
  decide +kernel

end Rehearsal.EitherScreen

end SignOn
