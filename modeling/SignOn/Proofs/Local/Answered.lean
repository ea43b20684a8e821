import SignOn.Proofs.Local.Scripted
import SignOn.Proofs.Local.Silent
import SignOn.Proofs.Session.Resolves

/-! # What is redeemed of a page

With the person a local controller shows a page and waits in the session. Only a signal that brings
a code with the state of the request (`Brings`) is redeemed, and then the code goes to the server
once, with the verifier of that request. Any other end of the wait is told as it is, and nothing is
asked for or stored (`Unredeemed`).

`stands_acquireInteractive_iff` puts the two together: where an acquisition with the person stands
is where one of them says, and each of them may come to pass. A wait whose deadline cannot be told
is the one way for a code to be lost that came back as it should. -/

namespace SignOn

open Work (Standing)

variable {σ : Type} {R : σ → σ → Prop} {w : LocalSetting σ} {c : LocalController σ} {p : Parameters}
  {session : SessionHandle σ} {s s' : σ} {x : Standing (Except Failure Acquisition)}

/-! ### Signals -/

/-- The status of an authorization that the signal ends without a code. -/
def Signal.refusal : Signal → AuthorizationStatus
  | .cancelled => .sdkCancel
  | .completed k =>
    if k.resultCode = Continuation.cancelled then .userCancel
    else if k.resultCode = Continuation.replaced then .sdkCancel
    else .fail

namespace AuthorizationRequest

variable {r : AuthorizationRequest} {signal : Signal} {code : String}

/-- The signal brings a code: the page came back complete, with the code and with the state of the
request. -/
def Brings (r : AuthorizationRequest) (signal : Signal) (code : String) : Prop :=
  ∃ k, signal = .completed k ∧ k.resultCode = Continuation.completed ∧
    k.data.string? "code" = some code ∧ k.data.string? "state" = some r.state

/-- The grant of a code. -/
def granting (r : AuthorizationRequest) (code : String) : AuthorizationGrant :=
  ⟨⟨code⟩, some r.state, r.codeVerifier⟩

/-- The outcome that a signal stands for. -/
def verdict (r : AuthorizationRequest) : Signal → AuthorizationResult
  | .completed k => r.outcome k
  | .cancelled => .replaced

theorem verdict_of_brings (h : r.Brings signal code) :
    r.verdict signal = .success (r.granting code) := by
  obtain ⟨k, rfl, hresult, hcode, hstate⟩ := h
  change r.outcome k = _
  rw [outcome, hresult, if_neg (by decide), if_neg (by decide), if_pos rfl, outcomeOfCode, hcode]
  exact if_pos hstate

/-- A signal that brings no code is no success. -/
theorem verdict_of_not_brings (h : ∀ code, ¬ r.Brings signal code) :
    ∃ error, r.verdict signal = .failure signal.refusal error := by
  cases signal with
  | cancelled => exact ⟨_, rfl⟩
  | completed k =>
    change ∃ error, r.outcome k = .failure (Signal.refusal (.completed k)) error
    rw [outcome, Signal.refusal]
    split_ifs with hcancelled hreplaced hcompleted
    · exact ⟨_, rfl⟩
    · exact ⟨_, rfl⟩
    · rw [outcomeOfCode]
      cases hcode : k.data.string? "code" with
      | none => exact ⟨_, rfl⟩
      | some code =>
        dsimp only
        rw [if_neg fun hstate => h code ⟨k, rfl, hcompleted, hcode, hstate⟩]
        exact ⟨_, rfl⟩
    · exact ⟨_, rfl⟩

end AuthorizationRequest

/-! ### Acquisitions in the usual way -/

/-- The controller authorizes in the usual way. -/
structure LocalController.AuthorizesAsUsual (c : LocalController σ) : Prop where
  outcome : c.strategy.outcome = AuthorizationRequest.outcome
  authorize : c.strategy.authorize = fun p screen session =>
    authorizeWith (c.strategy.requestPage p) screen session c.strategy.outcome

/-- The setting sees what the controller keeps and asks for, and the controller authorizes in the
usual way. That a page is requested and shown is neither stored nor noted. -/
structure LocalSetting.SeesPage (w : LocalSetting σ) (c : LocalController σ) : Prop
    extends w.Sees c, c.AuthorizesAsUsual where
  requestPage : ∀ p s, w.Passes s ((c.strategy.requestPage p).run s).2
  present : ∀ launch s, w.Passes s ((c.screen.present launch).run s).2

namespace LocalController

/-- The page of the request has been shown. -/
def Shows (c : LocalController σ) (p : Parameters) (s : σ) (request : AuthorizationRequest)
    (s' : σ) : Prop :=
  ∃ s₁, (c.strategy.requestPage p).run s = (.ok request, s₁) ∧
    (c.screen.present (.browser Continuation.browserFlow request.url)).run s₁ = (.ok (), s')

/-- The page of the request has been shown, and the session was resolved with a signal that brings
the code, for a wait that began before and did not break off. -/
def Agreed (c : LocalController σ) (R : σ → σ → Prop) (p : Parameters)
    (session : SessionHandle σ) (s : σ) (request : AuthorizationRequest) (code : String) (s' : σ) :
    Prop :=
  ∃ s₁ signal, c.Shows p s request s₁ ∧ ¬ session.Overflows s₁ ∧ session.Resolves R signal s₁ s' ∧
    request.Brings signal code

/-- The code is redeemed for the request. -/
def redeemFor (c : LocalController σ) (p : Parameters) (request : AuthorizationRequest)
    (code : String) : Action σ Acquisition :=
  c.redeem p (.success (request.granting code)) (request.granting code)

/-- Where an acquisition stands, and why it does not redeem a code, or not yet: the page could not
be requested or shown; it is waited for in a session that is not resolved, or was for too long; the
wait broke off, for its deadline could not be told; or the session was resolved with a signal that
brings no code, which is told as what it is. -/
inductive Unredeemed (c : LocalController σ) (R : σ → σ → Prop) (p : Parameters)
    (session : SessionHandle σ) (s : σ) : Standing (Except Failure Acquisition) → σ → Prop
  | unrequested {f s'} (failed : (c.strategy.requestPage p).run s = (.error f, s')) :
    Unredeemed c R p session s (.done (.error f)) s'
  | unshown {request s₁ f s'} (requested : (c.strategy.requestPage p).run s = (.ok request, s₁))
    (failed : (c.screen.present (.browser Continuation.browserFlow request.url)).run s₁ =
      (.error f, s')) :
    Unredeemed c R p session s (.done (.error f)) s'
  | waits {request s₁ alarm s'} (shows : c.Shows p s request s₁)
    (waits : session.wait.run.Stands R s₁ (.waiting alarm) s')
    (unresolved : session.signal s' = none) :
    Unredeemed c R p session s (.waiting alarm) s'
  | late {request s₁ s'} (shows : c.Shows p s request s₁)
    (late : session.wait.run.Stands R s₁ (.done (.error SessionHandle.lateFailure)) s') :
    Unredeemed c R p session s (.done (.error SessionHandle.lateFailure)) s'
  | overflows {request s'} (shows : c.Shows p s request s') (overflows : session.Overflows s') :
    Unredeemed c R p session s (.broken (.text SessionHandle.overflowMessage)) s'
  | refused {request s₁ signal error s'} (shows : c.Shows p s request s₁)
    (timely : ¬ session.Overflows s₁) (resolved : session.Resolves R signal s₁ s')
    (empty : ∀ code, ¬ request.Brings signal code)
    (told : request.verdict signal = .failure signal.refusal error) :
    Unredeemed c R p session s (.done (.ok (.ofAuthorization (.failure signal.refusal error)))) s'

/-- What is done with a signal. -/
def settle (c : LocalController σ) (p : Parameters) (request : AuthorizationRequest)
    (signal : Signal) : Flow σ Acquisition :=
  match (request.verdict signal).grant? with
  | none => return .ofAuthorization (request.verdict signal)
  | some grant => Flow.act (c.redeem p (request.verdict signal) grant)

theorem acquireInteractive_eq (usual : c.AuthorizesAsUsual) (p : Parameters)
    (session : SessionHandle σ) :
    c.acquireInteractive p session = Flow.act (c.strategy.requestPage p) >>= fun request =>
      Flow.act (c.screen.present (.browser Continuation.browserFlow request.url)) >>= fun _ =>
        session.wait >>= c.settle p request := by
  simp only [acquireInteractive, usual.authorize, usual.outcome, authorizeWith, bind_assoc]
  refine congrArg (_ >>= ·) (funext fun request => congrArg (_ >>= ·) (funext fun _ => ?_))
  refine congrArg (_ >>= ·) (funext fun signal => ?_)
  cases signal <;> rfl

theorem settle_of_brings {request : AuthorizationRequest} {signal : Signal} {code : String}
    (h : request.Brings signal code) :
    c.settle p request signal = Flow.act (c.redeemFor p request code) := by
  rw [settle, AuthorizationRequest.verdict_of_brings h]
  rfl

theorem settle_of_refused {request : AuthorizationRequest} {signal : Signal}
    {error : Option AuthorizationError}
    (told : request.verdict signal = .failure signal.refusal error) :
    c.settle p request signal = pure (.ofAuthorization (.failure signal.refusal error)) := by
  have empty : (AuthorizationResult.failure signal.refusal error).grant? = none := by
    rw [AuthorizationResult.grant?]
    exact ite_self none
  rw [settle, told, empty]

/-- Once the page has been shown, what remains is to wait in the session and to settle what comes of
it. -/
theorem stands_of_shows (usual : c.AuthorizesAsUsual) {request : AuthorizationRequest} {s₁ : σ}
    (shows : c.Shows p s request s₁) : (c.acquireInteractive p session).run.Stands R s x s' ↔
      (session.wait >>= c.settle p request).run.Stands R s₁ x s' := by
  obtain ⟨s₀, requested, shown⟩ := shows
  rw [acquireInteractive_eq usual, Flow.stands_act_bind_iff, requested]
  dsimp only
  rw [Flow.stands_act_bind_iff, shown]

theorem stands_of_agreed (usual : c.AuthorizesAsUsual) {request : AuthorizationRequest}
    {code : String} {s₁ : σ} (agreed : c.Agreed R p session s request code s₁) :
    (c.acquireInteractive p session).run.Stands R s (.done ((c.redeemFor p request code).run s₁).1)
      ((c.redeemFor p request code).run s₁).2 := by
  obtain ⟨s₀, signal, shows, timely, resolved, brings⟩ := agreed
  refine (stands_of_shows usual shows).mpr (SessionHandle.stands_wait_bind_iff.mpr (.inl ?_))
  refine ⟨signal, s₁, timely, resolved, ?_⟩
  rw [settle_of_brings brings]
  exact Work.stands_act_iff.mpr ⟨rfl, rfl⟩

theorem Unredeemed.stands (usual : c.AuthorizesAsUsual) (h : c.Unredeemed R p session s x s') :
    (c.acquireInteractive p session).run.Stands R s x s' := by
  cases h with
  | unrequested failed =>
    rw [acquireInteractive_eq usual, Flow.stands_act_bind_iff, failed]
    exact ⟨rfl, rfl⟩
  | unshown requested failed =>
    rw [acquireInteractive_eq usual, Flow.stands_act_bind_iff, requested]
    dsimp only
    rw [Flow.stands_act_bind_iff, failed]
    exact ⟨rfl, rfl⟩
  | waits shows waits unresolved =>
    exact (stands_of_shows usual shows).mpr (SessionHandle.Untold.waits waits unresolved).stands
  | late shows late =>
    exact (stands_of_shows usual shows).mpr (SessionHandle.Untold.late late).stands
  | overflows shows overflows =>
    exact (stands_of_shows usual shows).mpr (SessionHandle.Untold.overflows overflows).stands
  | @refused _ _ signal _ _ shows timely resolved _ told =>
    refine (stands_of_shows usual shows).mpr (SessionHandle.stands_wait_bind_iff.mpr (.inl ?_))
    refine ⟨signal, s', timely, resolved, ?_⟩
    rw [settle_of_refused told]
    exact Work.stands_ended_iff.mpr ⟨rfl, rfl⟩

/-- Once the page has been shown, a code is redeemed or not. -/
theorem agreed_or_unredeemed {request : AuthorizationRequest} {s₁ : σ}
    (shows : c.Shows p s request s₁)
    (h : (session.wait >>= c.settle p request).run.Stands R s₁ x s') :
    (∃ code s₂, c.Agreed R p session s request code s₂ ∧
      x = .done ((c.redeemFor p request code).run s₂).1 ∧
      s' = ((c.redeemFor p request code).run s₂).2) ∨
    c.Unredeemed R p session s x s' := by
  rcases SessionHandle.stands_wait_bind_iff.mp h with ⟨signal, s₂, timely, resolved, hsettle⟩ |
    untold
  · by_cases brings : ∃ code, request.Brings signal code
    · obtain ⟨code, brings⟩ := brings
      rw [settle_of_brings brings] at hsettle
      exact .inl ⟨code, s₂, ⟨s₁, signal, shows, timely, resolved, brings⟩,
        Work.stands_act_iff.mp hsettle⟩
    · have empty : ∀ code, ¬ request.Brings signal code := fun code hcode => brings ⟨code, hcode⟩
      obtain ⟨error, verdict⟩ := AuthorizationRequest.verdict_of_not_brings empty
      rw [settle_of_refused verdict] at hsettle
      obtain ⟨rfl, rfl⟩ := Work.stands_ended_iff.mp hsettle
      exact .inr (.refused shows timely resolved empty verdict)
  · cases untold with
    | waits waits unresolved => exact .inr (.waits shows waits unresolved)
    | late late => exact .inr (.late shows late)
    | overflows overflows => exact .inr (.overflows shows overflows)

/-- **Where an acquisition with the person stands.** -/
theorem stands_acquireInteractive_iff (usual : c.AuthorizesAsUsual) :
    (c.acquireInteractive p session).run.Stands R s x s' ↔
      (∃ request code s₁, c.Agreed R p session s request code s₁ ∧
        x = .done ((c.redeemFor p request code).run s₁).1 ∧
        s' = ((c.redeemFor p request code).run s₁).2) ∨ c.Unredeemed R p session s x s' := by
  constructor
  · intro h
    -- the page is requested, then presented, and only then waited for
    rcases hpage : (c.strategy.requestPage p).run s with ⟨f | request, s₁⟩
    · rw [acquireInteractive_eq usual, Flow.stands_act_bind_iff, hpage] at h
      obtain ⟨rfl, rfl⟩ := h
      exact .inr (.unrequested hpage)
    rcases hshown : (c.screen.present (.browser Continuation.browserFlow request.url)).run s₁ with
      ⟨f | _, s₂⟩
    · rw [acquireInteractive_eq usual, Flow.stands_act_bind_iff, hpage] at h
      dsimp only at h
      rw [Flow.stands_act_bind_iff, hshown] at h
      obtain ⟨rfl, rfl⟩ := h
      exact .inr (.unshown hpage hshown)
    have shows : c.Shows p s request s₂ := ⟨s₁, hpage, hshown⟩
    exact (agreed_or_unredeemed shows ((stands_of_shows usual shows).mp h)).imp_left fun hcode =>
      ⟨request, hcode⟩
  · rintro (⟨request, code, s₁, agreed, rfl, rfl⟩ | h)
    · exact stands_of_agreed usual agreed
    · exact h.stands usual

section Preorder

variable (sees : w.SeesPage c) (passes : ∀ s s', w.Passes s s' → R s s')
  (trans : ∀ {s s' s''}, R s s' → R s' s'' → R s s'') (aside : session.Obeys R)

include sees passes trans in
/-- Requesting a page and presenting it, be it shown or not. -/
theorem allowed_of_presented {request : AuthorizationRequest}
    {result : Except Failure Unit} {s₁ : σ}
    (requested : (c.strategy.requestPage p).run s = (.ok request, s₁))
    (presented : (c.screen.present (.browser Continuation.browserFlow request.url)).run s₁ =
      (result, s')) :
    R s s' := by
  have hpage := passes _ _ (sees.requestPage p s)
  have hpresent := passes _ _ (sees.present (.browser Continuation.browserFlow request.url) s₁)
  rw [requested] at hpage
  rw [presented] at hpresent
  exact trans hpage hpresent

include sees passes trans in
theorem allowed_of_shows {request : AuthorizationRequest} (shows : c.Shows p s request s') :
    R s s' := by
  obtain ⟨s₁, requested, shown⟩ := shows
  exact allowed_of_presented sees passes trans requested shown

include passes trans aside in
theorem allowed_of_stands_wait {y : Standing (Except Failure Signal)}
    (h : session.wait.run.Stands R s y s') : R s s' := by
  obtain ⟨_, hr, -⟩ := h
  have refl : ∀ s, R s s := fun s => passes s s .rfl
  exact (aside.wait refl s).keeps.reaches refl trans hr

include passes trans aside in
theorem allowed_of_resolves {signal : Signal} (timely : ¬ session.Overflows s)
    (h : session.Resolves R signal s s') : R s s' :=
  allowed_of_stands_wait passes trans aside ((SessionHandle.stands_wait_told_iff timely).mpr h)

include sees passes trans aside in
/-- What does not redeem a code keeps to the rule. -/
theorem Unredeemed.allowed (h : c.Unredeemed R p session s x s') : R s s' := by
  cases h with
  | unrequested failed =>
    have hpage := passes _ _ (sees.requestPage p s)
    rwa [failed] at hpage
  | unshown requested failed => exact allowed_of_presented sees passes trans requested failed
  | waits shows waits _ =>
    exact trans (allowed_of_shows sees passes trans shows)
      (allowed_of_stands_wait passes trans aside waits)
  | late shows late =>
    exact trans (allowed_of_shows sees passes trans shows)
      (allowed_of_stands_wait passes trans aside late)
  | overflows shows _ => exact allowed_of_shows sees passes trans shows
  | refused shows timely resolved _ _ =>
    exact trans (allowed_of_shows sees passes trans shows)
      (allowed_of_resolves passes trans aside timely resolved)

include sees passes trans aside in
/-- **A code is redeemed exactly if the page was shown and came back with it, and with the state of
the request.** It is redeemed by one request, with the verifier of the request for the page. In
every other case the acquisition tells what became of the page, and nothing is asked for or stored
but by others, who may keep to any rule that allows what is neither stored nor noted. -/
theorem redeems_iff_brought (p : Parameters) (s : σ) :
    (∀ x s', (c.acquireInteractive p session).run.Stands R s x s' ↔
      (∃ request code s₁, c.Agreed R p session s request code s₁ ∧
        x = .done ((c.redeemFor p request code).run s₁).1 ∧
        s' = ((c.redeemFor p request code).run s₁).2) ∨ c.Unredeemed R p session s x s') ∧
    (∀ request code s₁, c.Agreed R p session s request code s₁ → R s s₁ ∧
      w.requests ((c.redeemFor p request code).run s₁).2 = w.requests s₁ ++
        [.redeeming p (.authorizationCode ⟨code⟩ request.codeVerifier)]) ∧
    ∀ x s', c.Unredeemed R p session s x s' → R s s' := by
  refine ⟨fun _ _ => stands_acquireInteractive_iff sees.toAuthorizesAsUsual, ?_, fun _ _ h =>
    h.allowed sees passes trans aside⟩
  rintro request code s₁ ⟨s₀, signal, shows, timely, resolved, -⟩
  refine ⟨trans (allowed_of_shows sees passes trans shows)
    (allowed_of_resolves passes trans aside timely resolved), ?_⟩
  have hcourse := course_redeem (p := p) (s := s₁) sees.vault (.success (request.granting code))
    (request.granting code)
  exact hcourse.noted sees.toSees

end Preorder

end LocalController

namespace Rehearsal

theorem LocalRole.seesPage_play {owner : String} (role : LocalRole) (faultless : role.faults = {}) :
    (settingOf owner).SeesPage (role.play owner) where
  toSees := (shares_play role faultless).seesSilent.toSees
  outcome := rfl
  authorize := rfl
  requestPage p s := passes_requestPage role p s
  present launch s := passes_present role.screen launch s

namespace OneApp

theorem seesPage_app : (LocalRole.settingOf "app").SeesPage app := LocalRole.seesPage_play _ rfl

/-- The request for its page. -/
def request : AuthorizationRequest := pageOf parameters

/-- What comes back from the page. -/
def answer : Signal := .completed ⟨Continuation.browserFlow, Continuation.completed,
  ⟨[("code", .string "code-1"), ("state", .string pageState)]⟩⟩

/-- The session of the page, bounded or not. -/
def sessionOf (timeout : Option Duration) : SessionHandle Stage :=
  Stage.stepSession (.standalone "a" timeout)

/-- The stage on which the page has not been shown yet. -/
def unshown (timeout : Option Duration) : Stage :=
  { stage [refused] with session := some (.standalone "a" timeout) }

/-- The stage on which it has been shown and has come back. -/
def shown (timeout : Option Duration) : Stage :=
  ((app.screen.present (.browser Continuation.browserFlow request.url)).run (unshown timeout)).2

theorem shows_app (timeout : Option Duration) :
    app.Shows parameters (unshown timeout) request (shown timeout) :=
  ⟨unshown timeout, rfl, rfl⟩

theorem brings_answer : request.Brings answer "code-1" := ⟨_, rfl, rfl, rfl, rfl⟩

/-- The code of the page is redeemed once. -/
theorem redeems_iff_brought_shown :
    let out := (app.redeemFor parameters request "code-1").run (shown none)
    (app.acquireInteractive parameters (sessionOf none)).run.Stands
      (LocalRole.settingOf "app").Passes
      (unshown none) (.done out.1) out.2 ∧
    (LocalRole.settingOf "app").requests out.2 =
      [.redeeming parameters (.authorizationCode ⟨"code-1"⟩ (some pageVerifier))] := by
  intro out
  have aside : (sessionOf none).Obeys (LocalRole.settingOf "app").Passes :=
    LocalRole.obeys_stepSession _
  obtain ⟨stands, redeems, -⟩ := LocalController.redeems_iff_brought seesPage_app (fun _ _ h => h)
    LocalSetting.Passes.trans aside parameters (unshown none)
  have timely : ¬ (sessionOf none).Overflows (shown none) := by
    rintro ⟨_, ht, -⟩
    cases ht
  have agreed :
      app.Agreed (LocalRole.settingOf "app").Passes parameters (sessionOf none) (unshown none)
        request "code-1" (shown none) :=
    ⟨shown none, answer, shows_app none, timely, .already rfl, brings_answer⟩
  exact ⟨(stands _ _).mpr (.inl ⟨request, "code-1", shown none, agreed, rfl, rfl⟩),
    (redeems _ _ _ agreed).2⟩

/-- In a session with the longest timeout the page is shown and the session is resolved with the
code, and the code is not redeemed: the wait breaks off. -/
theorem brought_and_not_redeemed : app.Shows parameters (unshown (some .longest)) request
      (shown (some .longest)) ∧
    (sessionOf (some .longest)).signal (shown (some .longest)) = some answer ∧
    request.Brings answer "code-1" ∧
    (app.acquireInteractive parameters (sessionOf (some .longest))).run.advance
      (unshown (some .longest)) =
      (.ended (.error (.text SessionHandle.overflowMessage)), shown (some .longest)) ∧
    (LocalRole.settingOf "app").requests (shown (some .longest)) = [] :=
  ⟨shows_app _, rfl, brings_answer, rfl, rfl⟩

end OneApp

end Rehearsal

end SignOn
