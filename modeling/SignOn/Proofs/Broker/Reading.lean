import SignOn.Proofs.Broker.Fallback
import SignOn.Proofs.Broker.RoundTrip
import SignOn.Proofs.Command.InOrder
import SignOn.Proofs.Command.RequestCode
import SignOn.Proofs.Failure.OfCode
import SignOn.Proofs.Identity.Key

/-! # How the answers of a broker are read

A bundle comes from a broker in two ways: as the answer to a call, over the first transport that
reaches the broker (`Executor.Answers`), and as the data of a continuation. Either way an error code
in it is looked at first, and only a bundle without one is taken for the reply that is expected
(`Bundle.Read`). What else the bundle holds beside an error code does not count, be it a whole
reply.

* `Bundle.read_reply`: a bundle that is checked for an error and then taken for a record.
* `Executor.run_execute_of_answers`: a call gives what its answer is read as.
* `BrokerController.read_of_hears`, `BrokerController.launch_of_hears`: what operations make of the
  answer, without the person and with the person.
* `BrokerController.stands_onScreen_iff`, `BrokerController.read_continuationResult`: what is made
  of what the broker's screen comes back with. -/

namespace SignOn

open Json

variable {σ π α β ρ : Type}

/-! ### Bundles -/

namespace Bundle

variable {b : Bundle} {means : α → Prop}

/-- The bundle reports an error: it has an error code as a text, and the failure is the one that the
code stands for, with the message, the second code and the name of the person beside it. -/
def Reports (b : Bundle) (f : Failure) : Prop :=
  ∃ code, b.string? "error_code" = some code ∧
    f = .ofCode code ((b.string? "error_message").getD "") (b.string? "sub_error")
      (b.string? "username")

/-- The bundle reads as the record. -/
def Decodes [Wire ρ] (b : Bundle) (r : ρ) : Prop :=
  (Wire.decode (.object b.members) : Except Fault ρ) = .ok r

/-- What is made of a bundle that is expected to mean something: the error that it reports, else
what it means, and if it means nothing of the kind, a failure of the client. -/
inductive Read (b : Bundle) (means : α → Prop) : Except Failure α → Prop
  | reported {f} (reports : b.Reports f) : Read b means (.error f)
  | accepted {a} (silent : b.string? "error_code" = none) (meant : means a) : Read b means (.ok a)
  | unreadable {f} (silent : b.string? "error_code" = none) (meaningless : ∀ a, ¬ means a)
    (kind : f.kind = .client) (code : f.code = Code.invalidBrokerBundle) : Read b means (.error f)

theorem checkError_of_silent (silent : b.string? "error_code" = none) : b.checkError = .ok () := by
  have hcode : b.string? errorKeys.code = none := silent
  rw [checkError, hcode]

theorem Reports.checkError {f : Failure} (reports : b.Reports f) : b.checkError = .error f := by
  obtain ⟨code, hcode, rfl⟩ := reports
  have hcode : b.string? errorKeys.code = some code := hcode
  rw [Bundle.checkError, hcode]
  rfl

theorem silent_or_reports (b : Bundle) : b.string? "error_code" = none ∨ ∃ f, b.Reports f := by
  cases hcode : b.string? "error_code" with
  | none => exact .inl rfl
  | some code => exact .inr ⟨_, code, hcode, rfl⟩

/-- A failure keeps the code that was reported, and the code tells its kind. -/
theorem Reports.code {f : Failure} (reports : b.Reports f) : b.string? "error_code" = some f.code ∧
    ∀ kind, f.kind = kind ↔ Code.StandsFor f.code kind := by
  obtain ⟨code, hcode, rfl⟩ := reports
  rw [Failure.code_ofCode]
  exact ⟨hcode, fun _ => Failure.kind_ofCode_iff⟩

/-- **A reply is read with the error code looked at first.** -/
theorem read_reply [Wire ρ] (b : Bundle) (value : ρ → α) :
    b.Read (fun a => ∃ r : ρ, b.Decodes r ∧ value r = a) (do
      b.checkError
      return value (← b.extractOrFail ρ)) := by
  rcases b.silent_or_reports with silent | ⟨f, reports⟩
  · rw [checkError_of_silent silent]
    change b.Read _ (b.extractOrFail ρ >>= fun r => pure (value r))
    rw [extractOrFail]
    cases hextract : b.extract ρ with
    | ok r => exact .accepted silent ⟨r, extract_eq_ok_iff.mp hextract, rfl⟩
    | error f =>
      refine .unreadable silent ?_ rfl ?_
      · rintro _ ⟨r, hr, -⟩
        rw [extract_eq_ok_iff.mpr hr] at hextract
        cases hextract
      · rw [extract] at hextract
        split at hextract
        · cases hextract
        · cases hextract
          rfl
  · rw [reports.checkError]
    exact .reported reports

/-- The reply with a token is looked through for an error code once more, which finds nothing
new. -/
theorem checkError_tokenReply (b : Bundle) :
    (b.checkError >>= fun _ => b.tokenReply) = b.tokenReply := by
  rcases b.silent_or_reports with silent | ⟨f, reports⟩
  · rw [checkError_of_silent silent]
    rfl
  · rw [tokenReply, reports.checkError]
    rfl

/-- The value that a reply stands for may be wrapped. -/
theorem read_reply_map [Wire ρ] (b : Bundle) (value : ρ → α) (g : α → β) :
    b.Read (fun v => ∃ r : ρ, b.Decodes r ∧ g (value r) = v) (Except.map g (do
      b.checkError
      return value (← b.extractOrFail ρ))) := by
  have hread := b.read_reply fun r : ρ => g (value r)
  rcases hcheck : b.checkError with f | _
  all_goals rw [hcheck] at hread
  · exact hread
  · rcases hextract : b.extractOrFail ρ with f | r
    all_goals
      rw [hextract] at hread
      exact hread

end Bundle

/-! ### Answers to a call -/

namespace Executor

variable {e : Executor σ} {call : BrokerCall σ π α} {ts : List (Transport σ)} {s : σ} {b : Bundle}

/-- A call over transports is answered with the bundle: over one of them its request was sent and
answered, and those before it reached nobody, while the call was prepared or when its request was
sent. -/
inductive Answers (e : Executor σ) (call : BrokerCall σ π α) :
    List (Transport σ) → σ → Bundle → Prop
  | unprepared {t ts f s s₁ b} (prepared : call.prepare t s = (.error (.unreachable f), s₁))
    (later : Answers e call ts (e.report ⟨call.method, t.kind, .unreachable⟩ s₁).2 b) :
    Answers e call (t :: ts) s b
  | unsent {t ts p request f s s₁ s₂ s₃ b} (prepared : call.prepare t s = (.ok p, s₁))
    (built : (call.build p).run s₁ = (.ok request, s₂)) (sent : t.send request s₂ = (.error f, s₃))
    (later : Answers e call ts (e.report ⟨call.method, t.kind, .unreachable⟩ s₃).2 b) :
    Answers e call (t :: ts) s b
  | sent {t ts p request s s₁ s₂ s₃ b} (prepared : call.prepare t s = (.ok p, s₁))
    (built : (call.build p).run s₁ = (.ok request, s₂)) (sent : t.send request s₂ = (.ok b, s₃)) :
    Answers e call (t :: ts) s b

/-- Whether a call is answered does not depend on what will be made of the answer. -/
theorem Answers.reread (h : Answers e call ts s b) (read : Bundle → Action σ β) :
    Answers e ⟨call.method, call.prepare, call.build, read⟩ ts s b := by
  induction h with
  | unprepared prepared _ ih => exact .unprepared prepared ih
  | unsent prepared built sent _ ih => exact .unsent prepared built sent ih
  | sent prepared built sent => exact .sent prepared built sent

/-- A transport that reached nobody, before the others. -/
theorem tryTransports_of_unreachable {t : Transport σ} {f : TransportFailure} {s₁ : σ}
    (h : e.attempt call t s = (.error (.unreachable f), s₁)) (failures : List TransportFailure) :
    (e.tryTransports call (t :: ts) failures).run s =
      (e.tryTransports call ts (failures ++ [f])).run
        (e.report ⟨call.method, t.kind, .unreachable⟩ s₁).2 := by
  rw [tryTransports_cons, afterTrial, h]
  rfl

/-- **A call gives what its answer is read as.** The induction is on the transports that reached
nobody. -/
theorem run_tryTransports_of_answers (h : Answers e call ts s b) {r : Except Failure α}
    (read : ∀ s, ((call.read b).run s).1 = r) (failures : List TransportFailure) :
    ((e.tryTransports call ts failures).run s).1 = r := by
  induction h generalizing failures with
  | unprepared prepared _ ih =>
    rw [tryTransports_of_unreachable (attempt_of_unprepared prepared)]
    exact ih read _
  | unsent prepared built sent _ ih =>
    have hattempt := (attempt_of_built (e := e) prepared built).trans (exchange_of_unsent sent)
    rw [tryTransports_of_unreachable hattempt]
    exact ih read _
  | @sent t _ _ _ _ _ _ s₃ b prepared built sent =>
    have hbuilt := attempt_of_built (e := e) prepared built
    have hr := read (e.learn b s₃).2
    rw [tryTransports_cons]
    rcases hread : (call.read b).run (e.learn b s₃).2 with ⟨f | a, s'⟩
    all_goals rw [hread] at hr
    · rw [hbuilt.trans (exchange_of_unread sent hread)]
      exact hr
    · rw [hbuilt.trans (exchange_of_read sent hread)]
      exact hr

theorem run_execute_of_answers (h : Answers e call e.transports s b) {r : Except Failure α}
    (read : ∀ s, ((call.read b).run s).1 = r) : ((e.execute call).run s).1 = r := by
  have some_transport : e.transports ≠ [] := by
    intro empty
    rw [empty] at h
    cases h
  rw [execute_of_ne_nil e call some_transport]
  exact run_tryTransports_of_answers h read []

end Executor

/-! ### What operations expect -/

/-- The call that an operation makes. -/
def Operation.brokerApi : Operation → BrokerApi
  | .acquireInteractive => .interactiveLaunch
  | .acquireSilent => .acquireTokenSilent
  | .getAccounts => .getAccounts
  | .removeAccount => .removeAccount
  | .getDeviceMode => .getDeviceMode
  | .getCurrentAccount => .getCurrentAccount
  | .removeCurrentAccount => .signOutCurrentAccount

namespace Bundle

/-- The bundle is the reply that an operation expects, and stands for the value. With the person the
value comes from the broker's screen and not from a reply. -/
def Replies (b : Bundle) : Operation → CommandValue → Prop
  | .acquireInteractive, _ => False
  | .acquireSilent, v => ∃ r : TokenReply, b.Decodes r ∧ .acquisition (.ofIssued r.issued) = v
  | .getAccounts, v | .getCurrentAccount, v =>
    ∃ r : AccountsReply, b.Decodes r ∧ .output (.accounts r.accounts) = v
  | .removeAccount, v | .removeCurrentAccount, v =>
    ∃ r : RemovedReply, b.Decodes r ∧ .output (.removed r.removed) = v
  | .getDeviceMode, v => ∃ r : DeviceModeReply, b.Decodes r ∧ .output (.sharedDevice r.shared) = v

/-- The bundle is the reply that tells what the broker's screen is started with. -/
def Launches (b : Bundle) (payload : Bundle) : Prop :=
  ∃ r : LaunchReply, b.Decodes r ∧ r.payload = payload

/-- The bundle is the reply that brings a token. -/
def Grants (b : Bundle) (a : Acquisition) : Prop :=
  ∃ r : TokenReply, b.Decodes r ∧ .ofIssued r.issued = a

end Bundle

/-- What is made of a continuation that no cancelling ended: of a result the token that it brings,
and of anything else never a token. -/
inductive Continuation.Read (k : Continuation) : Except Failure Acquisition → Prop
  | succeeded {r} (code : k.resultCode = brokerSucceeded) (read : k.data.Read k.data.Grants r) :
      Read k r
  | reported {f} (other : k.resultCode ≠ brokerSucceeded) (reports : k.data.Reports f) :
      Read k (.error f)
  | unexplained (other : k.resultCode ≠ brokerSucceeded)
      (silent : k.data.string? "error_code" = none) :
    Read k (.error (BrokerController.unexplained k.resultCode))

namespace BrokerController

variable {c : BrokerController σ} {p : Parameters} {s : σ} {b : Bundle}
  {read : Bundle → Except Failure α}

/-- The call of the api is answered with the bundle, whatever will be made of it. -/
def Hears (c : BrokerController σ) (p : Parameters) (api : BrokerApi) (s : σ) (b : Bundle) : Prop :=
  c.executor.Answers (c.call p api fun _ => .ok ()) c.executor.transports s b

/-- A call gives what its answer is read as. -/
theorem run_ask_of_hears {api : BrokerApi} (h : c.Hears p api s b) :
    ((c.ask p api read).run s).1 = (b.checkError >>= fun _ => read b) := by
  have answers : c.executor.Answers (c.call p api read) c.executor.transports s b := h.reread _
  exact Executor.run_execute_of_answers answers fun _ => rfl

theorem advance_map_act (action : Action σ α) (g : α → β) (s : σ) :
    (g <$> Flow.act action).run.advance s =
      (.ended (.ok ((action.run s).1.map g)), (action.run s).2) := by
  rw [ExceptT.run_map, map_eq_pure_bind]
  exact Work.advance_act_bind _ _ s

/-- A call whose value is wrapped ends at once, and gives what is made of its answer. -/
theorem exists_read_of_hears {api : BrokerApi} {g : α → β} {means : β → Prop}
    (h : c.Hears p api s b)
    (hread : b.Read means (Except.map g (b.checkError >>= fun _ => read b))) :
    ∃ r s', (g <$> Flow.act (c.ask p api read)).run.advance s = (.ended (.ok r), s') ∧
      b.Read means r := by
  refine ⟨_, _, advance_map_act _ _ s, ?_⟩
  rwa [run_ask_of_hears h]

/-- **What an operation without the person makes of the answer to its call.** -/
theorem read_of_hears {o : Operation} (alone : o ≠ .acquireInteractive)
    {session : Option (SessionHandle σ)} {ask : Controller σ → Flow σ CommandValue}
    (hask : o.ask? p session = some ask) (h : c.Hears p o.brokerApi s b) :
    ∃ r s', (ask c.controller).run.advance s = (.ended (.ok r), s') ∧ b.Read (b.Replies o) r := by
  cases o with
  | acquireInteractive => exact absurd rfl alone
  | acquireSilent =>
    cases hask
    refine exists_read_of_hears h ?_
    rw [b.checkError_tokenReply]
    exact b.read_reply_map (fun r : TokenReply => Acquisition.ofIssued r.issued) _
  | getAccounts | getCurrentAccount =>
    cases hask
    refine exists_read_of_hears h ?_
    exact b.read_reply_map AccountsReply.accounts fun as => CommandValue.output (.accounts as)
  | removeAccount | removeCurrentAccount =>
    cases hask
    refine exists_read_of_hears h ?_
    exact b.read_reply_map RemovedReply.removed fun r => CommandValue.output (.removed r)
  | getDeviceMode =>
    cases hask
    refine exists_read_of_hears h ?_
    exact b.read_reply_map DeviceModeReply.shared fun m => CommandValue.output (.sharedDevice m)

/-! ### With the person -/

/-- What remains to do with the person once the broker has told what its screen is started with. -/
def onScreen (c : BrokerController σ) (session : SessionHandle σ) (payload : Bundle) :
    Flow σ Acquisition :=
  Flow.act (c.screen.present (.broker Continuation.brokerFlow payload)) >>= fun _ =>
    session.wait >>= fun signal => ExceptT.mk (pure (signalResult signal))

/-- **What an operation with the person makes of the answer to its call**: it fails with the failure
that the answer is read as, or goes on with the payload. -/
theorem launch_of_hears (h : c.Hears p .interactiveLaunch s b) :
    ∃ r s₁, b.Read b.Launches r ∧ ∀ (R : σ → σ → Prop) session x s',
      (c.acquireInteractive p session).run.Stands R s x s' ↔ match r with
        | .error f => x = .done (.error f) ∧ s' = s₁
        | .ok payload => (c.onScreen session payload).run.Stands R s₁ x s' := by
  have hread : b.Read b.Launches ((c.ask p .interactiveLaunch Bundle.launchReply).run s).1 := by
    rw [run_ask_of_hears h]
    exact b.read_reply LaunchReply.payload
  rcases hasked : (c.ask p .interactiveLaunch Bundle.launchReply).run s with ⟨r, s₁⟩
  rw [hasked] at hread
  refine ⟨r, s₁, hread, fun R session x s' => ?_⟩
  change (Flow.act (c.ask p .interactiveLaunch Bundle.launchReply) >>=
    c.onScreen session).run.Stands R s x s' ↔ _
  rw [Flow.stands_act_bind_iff, hasked]
  cases r <;> rfl

/-- What is made of a continuation that no cancelling ended. -/
theorem read_continuationResult {k : Continuation}
    (uncancelled : k.resultCode ≠ Continuation.cancelled)
    (unreplaced : k.resultCode ≠ Continuation.replaced) : k.Read (continuationResult k) := by
  rw [continuationResult]
  by_cases succeeded : k.resultCode = Continuation.brokerSucceeded
  · rw [if_pos succeeded]
    exact .succeeded succeeded (k.data.read_reply
      fun r : TokenReply => Acquisition.ofIssued r.issued)
  rw [if_neg succeeded, if_neg uncancelled, if_neg unreplaced]
  rcases k.data.silent_or_reports with silent | ⟨f, reports⟩
  · rw [Bundle.checkError_of_silent silent]
    exact .unexplained succeeded silent
  · rw [reports.checkError]
    exact .reported succeeded reports

/-- **Where an operation with the person stands once it goes on with a payload.** The broker's
screen could not be shown, or the signal of the session is waited for and its meaning told. -/
theorem stands_onScreen_iff {R : σ → σ → Prop} {session : SessionHandle σ}
    {payload : Bundle} {s' : σ} {x : Work.Standing (Except Failure Acquisition)} :
    (c.onScreen session payload).run.Stands R s x s' ↔
      match (c.screen.present (.broker Continuation.brokerFlow payload)).run s with
      | (.error f, s₁) => x = .done (.error f) ∧ s' = s₁
      | (.ok _, s₁) => (∃ signal, ¬ session.Overflows s₁ ∧ session.Resolves R signal s₁ s' ∧
          x = .done (signalResult signal)) ∨ session.Untold R s₁ x s' := by
  rw [onScreen, Flow.stands_act_bind_iff]
  rcases (c.screen.present (.broker Continuation.brokerFlow payload)).run s with ⟨f | _, s₁⟩
  · rfl
  dsimp only
  rw [SessionHandle.stands_wait_bind_iff]
  refine or_congr_left ⟨?_, ?_⟩
  · rintro ⟨signal, s₂, timely, resolved, hend⟩
    obtain ⟨rfl, rfl⟩ := Work.stands_ended_iff.mp hend
    exact ⟨signal, timely, resolved, rfl⟩
  · rintro ⟨signal, timely, resolved, rfl⟩
    exact ⟨signal, s', timely, resolved, Work.stands_ended_iff.mpr ⟨rfl, rfl⟩⟩

/-- **Answers of a broker are read faithfully.** The answer to the call of an operation decides how
the operation ends, or with the person, whether it goes on with the payload that the answer brings.
It then ends with what the signal means that it is told, and a continuation that does not cancel
means what its data is read as. Either way an error code is looked at first, and without one the
bundle is taken for the reply that is expected there. A failure keeps the code that was reported,
and the code tells which of the five failures it is. -/
theorem reads_faithfully (c : BrokerController σ) (p : Parameters) (s : σ) :
    (∀ o session ask b, o ≠ .acquireInteractive → o.ask? p session = some ask →
      c.Hears p o.brokerApi s b →
      ∃ r s', (ask c.controller).run.advance s = (.ended (.ok r), s') ∧ b.Read (b.Replies o) r) ∧
    (∀ b, c.Hears p .interactiveLaunch s b → ∃ r s₁, b.Read b.Launches r ∧
      ∀ (R : σ → σ → Prop) session x s',
      (c.acquireInteractive p session).run.Stands R s x s' ↔ match r with
        | .error f => x = .done (.error f) ∧ s' = s₁
        | .ok payload => (c.onScreen session payload).run.Stands R s₁ x s') ∧
    (∀ (R : σ → σ → Prop) session payload x s', (c.onScreen session payload).run.Stands R s x s' ↔
      match (c.screen.present (.broker Continuation.brokerFlow payload)).run s with
      | (.error f, s₁) => x = .done (.error f) ∧ s' = s₁
      | (.ok _, s₁) => (∃ signal, ¬ session.Overflows s₁ ∧ session.Resolves R signal s₁ s' ∧
          x = .done (signalResult signal)) ∨ session.Untold R s₁ x s') ∧
    (∀ k : Continuation, k.resultCode ≠ Continuation.cancelled →
      k.resultCode ≠ Continuation.replaced →
      k.Read (signalResult (.completed k))) ∧
    ∀ (b : Bundle) f, b.Reports f → b.string? "error_code" = some f.code ∧
      ∀ kind, f.kind = kind ↔ Code.StandsFor f.code kind :=
  ⟨fun _ _ _ _ alone hask h => read_of_hears alone hask h, fun _ h => launch_of_hears h,
    fun _ _ _ _ _ => stands_onScreen_iff, fun _ => read_continuationResult,
    fun _ _ reports => reports.code⟩

end BrokerController

/-! ### A token with an error beside it -/

namespace Rehearsal.Contradiction

/-- A whole token, and an error beside it. -/
def answer : Bundle :=
  ⟨[("authentication_result", Wire.encode Sample.issued),
      ("error_code", .string Code.invalidGrant)]⟩

/-- A broker that answers so. -/
def role : BrokerRole :=
  { EitherScreen.brokerRole Continuation.brokerFlow with
    transports :=
      [⟨.boundService, [.answer ⟨[(BrokerController.versionKey, .string "9.0")]⟩, .answer answer],
        none⟩] }

/-- Its controller. -/
def broker : BrokerController Stage := role.play "app" true

/-- The stage before it is asked. -/
def stage : Stage := Cast.prepare [("app", .broker role)] default

theorem grants_answer : answer.Grants (.ofIssued Sample.issued) :=
  ⟨⟨Sample.issued⟩, by rfl, rfl⟩

theorem hears_answer : broker.Hears (Sample.parameters "a") .acquireTokenSilent stage answer :=
  .sent rfl rfl rfl

/-- The token does not count. -/
theorem reads_faithfully_contradiction : answer.Grants (.ofIssued Sample.issued) ∧
    ∃ s', (CommandValue.acquisition <$> broker.controller.acquireSilent
      (Sample.parameters "a")).run.advance stage =
      (.ended (.ok (.error (.personRequired ⟨Code.invalidGrant, "", none, none, .none⟩))), s') := by
  obtain ⟨ipc, -⟩ := BrokerController.reads_faithfully broker (Sample.parameters "a") stage
  obtain ⟨r, s', hadvance, read⟩ := ipc .acquireSilent none _ answer (by decide) rfl hears_answer
  refine ⟨grants_answer, s', hadvance.trans ?_⟩
  have reports : answer.string? "error_code" = some Code.invalidGrant := rfl
  cases read with
  | reported hf =>
    obtain ⟨code, hcode, rfl⟩ := hf
    rw [reports] at hcode
    cases hcode
    rfl
  | accepted silent _ =>
    rw [reports] at silent
    cases silent
  | unreadable silent _ _ _ =>
    rw [reports] at silent
    cases silent

end Rehearsal.Contradiction

end SignOn
