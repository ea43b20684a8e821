import SignOn.Proofs.Broker.Reading
import SignOn.Proofs.Command.Ending

/-! # Refusals of a server, by way of a broker and at first hand

There are two ways to learn that a server refused a token. A broker reports the code that the server
told it, and its controller raises the failure that the code stands for; a controller that asks the
server itself reports the acquisition with the error of the token request (`Refuses`). The failures
of the two ways are made by different functions from different data, and they need not be equal:
only one of them knows the status of the answer. In what a command goes by they agree
(`Failure.Tells`).

* `Refuses.final?_judge`: whether the next controller tries depends on the code and on nothing else.
* `Refuses.classify`: the command fails, with what the server told.
* `Command.refused_alike`: so commands that differ in the way in which they learn of refusals do the
  same and end alike. -/

namespace SignOn

variable {code message : String} {subError : Option String} {f : Failure}
  {r r' : Except Failure Acquisition}

/-! ### Failures -/

/-- The failure tells what the server told: code, message and second code; and the code decides
whether the person is asked for. -/
structure Failure.Tells (f : Failure) (code message : String) (subError : Option String) :
    Prop where
  kind : f.kind = if Code.asksForPerson code then .personRequired else .service
  code : f.code = code
  message : f.message = message
  subError : f.subError = subError

theorem Failure.tells_of_service (s : ServiceFailure) :
    (if Code.asksForPerson s.code then Failure.personRequired s
      else .service s).Tells s.code s.message s.subError := by
  cases hasks : Code.asksForPerson s.code with
  | true => exact ⟨by simp [hasks, Failure.kind], rfl, rfl, rfl⟩
  | false => exact ⟨by simp [hasks, Failure.kind], rfl, rfl, rfl⟩

/-- What a broker reports. -/
theorem Failure.tells_ofCode (server : Code.OfServer code) (message : String)
    (subError username : Option String) :
    (Failure.ofCode code message subError username).Tells code message subError := by
  rw [ofCode_of_server server]
  exact tells_of_service ⟨code, message, none, subError, .none⟩

/-- What a server answers. -/
theorem Failure.tells_ofAcquisition {a : Acquisition} {t : TokenResult} {e : TokenError}
    (authorized : a.Authorized) (token : a.token = some t) (error : t.error = some e) :
    (Failure.ofAcquisition a).Tells e.error (e.description.getD "") e.subError := by
  rw [ofAcquisition_of_authorized authorized, token, ofTokenResult_of_error error]
  simp only [← Code.asksForPerson_iff]
  exact tells_of_service (refusal t e)

namespace Failure.Tells

theorem not_cancelled (h : f.Tells code message subError) : f.isCancelled = false := by
  have hkind := h.kind
  cases f with
  | cancelled _ =>
    rw [Failure.kind] at hkind
    split at hkind <;> cases hkind
  | client | service | personRequired | deviceRegistration => rfl

/-- A refusal may be handed out again later. -/
theorem isCacheable (server : Code.OfServer code) (h : f.Tells code message subError) :
    f.isCacheable = true := by
  rw [Failure.isCacheable, h.code, Bool.not_eq_true', ← Bool.not_eq_true, List.contains_iff_mem]
  exact server.not_mem_passing

/-- Another controller may have what the server refused only if the grant is no longer good. -/
theorem ofFailure?_eq (server : Code.OfServer code) (h : f.Tells code message subError) :
    Retryable.ofFailure? f = if code = Code.invalidGrant then some .invalidGrant else none := by
  have hclient : ∀ local_code ∈ Code.ofClient, ¬ local_code = code := by
    rintro _ hmem rfl
    exact server.not_client hmem
  have haccount : ¬ Code.noAccountFound = code := hclient _ (by decide)
  have htokens : ¬ Code.noTokensFound = code := hclient _ (by decide)
  simp only [Retryable.ofFailure?, List.find?_cons, List.find?_nil, Retryable.label, h.code,
    haccount, htokens, decide_false, @eq_comm _ Code.invalidGrant]
  by_cases hgrant : code = Code.invalidGrant <;> simp [hgrant]

end Failure.Tells

/-! ### Results of controllers -/

/-- The result of a controller tells of the refusal of a server: it raises what a broker reported,
or it reports an acquisition whose token request ended with the error, no authorization step having
failed. -/
inductive Refuses (code message : String) (subError : Option String) :
    Except Failure Acquisition → Prop
  | raised (username : Option String) :
      Refuses code message subError (.error (.ofCode code message subError username))
  | reported {a t e} (authorized : a.Authorized) (token : a.token = some t)
      (error : t.error = some e) (code_eq : e.error = code)
      (message_eq : e.description.getD "" = message) (subError_eq : e.subError = subError) :
    Refuses code message subError (.ok a)

/-- So a broker is understood that reports an error. -/
theorem refuses_of_reports {b : Bundle} (h : b.Reports f) :
    Refuses f.code f.message (b.string? "sub_error") (.error f) := by
  obtain ⟨code, -, rfl⟩ := h
  rw [Failure.code_ofCode, Failure.message_ofCode]
  exact .raised _

namespace Refuses

/-- A result that is a refusal is a failure that tells it, or an acquisition that came to nothing
and stands for such a failure. -/
theorem tells (server : Code.OfServer code) (h : Refuses code message subError r) :
    (∃ f, r = .error f ∧ f.Tells code message subError) ∨
      ∃ a, r = .ok a ∧ a.succeeded = false ∧
        (Failure.ofAcquisition a).Tells code message subError := by
  cases h with
  | raised username => exact .inl ⟨_, rfl, Failure.tells_ofCode server message subError username⟩
  | @reported a t e authorized token error code_eq message_eq subError_eq =>
    refine .inr ⟨a, rfl, ?_, ?_⟩
    · rw [← Bool.not_eq_true, Acquisition.succeeded_iff]
      rintro ⟨-, -, granted⟩
      have hnone := (granted t token).2
      rw [error] at hnone
      cases hnone
    · rw [← code_eq, ← message_eq, ← subError_eq]
      exact Failure.tells_ofAcquisition authorized token error

/-- **Only a grant that is no longer good lets the next controller try**, whichever way one learns
of it. -/
theorem final?_judge (server : Code.OfServer code) (h : Refuses code message subError r)
    (isLast : Bool) :
    (judge r isLast).final? =
      if code = Code.invalidGrant ∧ isLast = false then none else some r := by
  obtain ⟨f, rfl, tells⟩ | ⟨a, rfl, failed, tells⟩ := h.tells server
  all_goals have hretry := tells.ofFailure?_eq server
  · by_cases hgrant : code = Code.invalidGrant <;> cases isLast <;> simp [judge, hretry, hgrant,
      Verdict.final?]
  · have hretry : retryable? a = if code = Code.invalidGrant then some .invalidGrant else none := by
      rw [← hretry]
      simp [retryable?, failed]
    by_cases hgrant : code = Code.invalidGrant <;> cases isLast <;> simp [judge, hretry, hgrant,
      Verdict.final?]

/-- **The command fails, with what the server told.** -/
theorem classify (server : Code.OfServer code) (h : Refuses code message subError r)
    (correlationId : String) :
    ∃ f, SignOn.classify (r.map .acquisition) correlationId = .failed f ∧
      f.Tells code message subError := by
  have herror : ∀ f : Failure, f.Tells code message subError →
      SignOn.classify (.error f) correlationId = .failed f := by
    intro f tells
    rw [classify_error, tells.not_cancelled]
    rfl
  obtain ⟨f, rfl, tells⟩ | ⟨a, rfl, failed, tells⟩ := h.tells server
  · exact ⟨f, herror f tells, tells⟩
  · have hissued : a.issued? = none := by simp [Acquisition.issued?, failed]
    exact ⟨_, (classify_of_failed hissued correlationId).trans (herror _ tells), tells⟩

end Refuses

/-- Two results of controllers are the same, or tell of the same refusal of a server. -/
inductive RefusesAlike : Except Failure Acquisition → Except Failure Acquisition → Prop
  | same (r : Except Failure Acquisition) : RefusesAlike r r
  | refused {code message : String} {subError : Option String} {r r' : Except Failure Acquisition}
    (server : Code.OfServer code) (first : Refuses code message subError r)
    (second : Refuses code message subError r') : RefusesAlike r r'

theorem judgedAlike_refusesAlike : JudgedAlike RefusesAlike where
  refl := .same
  judged r r' isLast h := by
    cases h with
    | same =>
      cases (judge r isLast).final? with
      | none => exact .none
      | some r => exact .some (.same r)
    | refused server first second =>
      rw [first.final?_judge server, second.final?_judge server]
      split
      · exact .none
      · exact .some (.refused server first second)

/-! ### Commands -/

/-- Two statuses are told by the same callback: they are the same, or failures of the same kind,
with the same code, message and second code, both of which may be handed out again later or neither
of which may. -/
inductive CommandStatus.Alike : CommandStatus → CommandStatus → Prop
  | same (status) : Alike status status
  | failed {f g : Failure} (kind : f.kind = g.kind) (code : f.code = g.code)
      (message : f.message = g.message) (subError : f.subError = g.subError)
      (cacheable : f.isCacheable = g.isCacheable) : Alike (.failed f) (.failed g)

/-- Whichever way one learns of a refusal, the command ends alike. -/
theorem RefusesAlike.classify (h : RefusesAlike r r') (correlationId : String) :
    CommandStatus.Alike (SignOn.classify (r.map .acquisition) correlationId)
      (SignOn.classify (r'.map .acquisition) correlationId) := by
  cases h with
  | same => exact .same _
  | refused server first second =>
    obtain ⟨f, hf, tells⟩ := first.classify server correlationId
    obtain ⟨g, hg, tells'⟩ := second.classify server correlationId
    rw [hf, hg]
    exact .failed (tells.kind.trans tells'.kind.symm) (tells.code.trans tells'.code.symm)
      (tells.message.trans tells'.message.symm) (tells.subError.trans tells'.subError.symm)
      ((tells.isCacheable server).trans (tells'.isCacheable server).symm)

namespace Command

variable {σ : Type} {c c' : Command (Controller σ)}

/-- **Nobody can tell by way of whom a server refused.** An error that a broker reports is a refusal
like one of the server itself. What a command makes of a refusal depends on what the server told: it
fails with a failure of that kind, with that code, message and second code, that may be handed out
again later; before the last controller it goes on to the next one if the grant is no longer good,
and otherwise stops. So two commands of which some controllers learn of refusals in different ways
do the same, call the same controllers in the same order, as whatever is noted at these calls shows,
and end alike. -/
theorem refused_alike (h : c.Rel RefusesAlike c') (session : Option (SessionHandle σ))
    (correlationId : String) (note : Nat → StateM σ Unit) :
    (∀ (b : Bundle) f, b.Reports f → Refuses f.code f.message (b.string? "sub_error") (.error f)) ∧
    (∀ code message subError r, Code.OfServer code → Refuses code message subError r →
      (∃ f, classify (r.map .acquisition) correlationId = .failed f ∧
        f.Tells code message subError ∧ f.isCacheable = true) ∧
      ∀ isLast, (judge r isLast).final? =
        if code = Code.invalidGrant ∧ isLast = false then none else some r) ∧
    Work.Rel CommandStatus.Alike (c.toStatus session correlationId)
      (c'.toStatus session correlationId) ∧
    Work.Rel CommandStatus.Alike ((c.noting note).toStatus session correlationId)
      ((c'.noting note).toStatus session correlationId) := by
  have classified : ∀ r r', RefusesAlike r r' →
      CommandStatus.Alike (classify (r.map .acquisition) correlationId)
        (classify (r'.map .acquisition) correlationId) :=
    fun _ _ hr => hr.classify correlationId
  refine ⟨fun _ _ reports => refuses_of_reports reports,
    fun code message subError r server refuses => ⟨?_, refuses.final?_judge server⟩, ?_, ?_⟩
  · obtain ⟨f, hf, tells⟩ := refuses.classify server correlationId
    exact ⟨f, hf, tells, tells.isCacheable server⟩
  · exact toStatus_rel judgedAlike_refusesAlike .same classified h session
  · exact toStatus_rel judgedAlike_refusesAlike .same classified (h.noting note) session

/-- The server is not to be had. -/
def overloaded : Acquisition := .ofToken ⟨none, some (.plain "temporarily_unavailable"), none⟩

/-- A broker that reports a code, and nothing beside it. -/
def reportedCode (code : String) : Except Failure Acquisition := .error (.ofCode code "" none none)

theorem ofServer_temporarilyUnavailable : Code.OfServer "temporarily_unavailable" :=
  ⟨by decide, by decide, by decide⟩

/-- Two controllers learn of the two refusals by way of a broker, or at first hand. -/
theorem refused_alike_ofTwo :
    let told := ofTwo (reportedCode Code.invalidGrant) (reportedCode "temporarily_unavailable")
    let asked := ofTwo (.ok outdated) (.ok overloaded)
    told.Rel RefusesAlike asked ∧
      Work.Rel CommandStatus.Alike ((told.noting keepNumber).toStatus none "two")
        ((asked.noting keepNumber).toStatus none "two") ∧
      ((told.noting keepNumber).toStatus none "two").advance [] =
        (.ended (.ok (.failed (.service (.plain "temporarily_unavailable" "")))), [0, 1]) := by
  intro told asked
  have hanswering : ∀ {r r'}, RefusesAlike r r' →
      (answering r : Controller (List Nat)).Rel RefusesAlike (answering r') :=
    fun hr => ⟨fun _ _ => .ended hr, fun _ => .ended hr⟩
  have hfirst : RefusesAlike (reportedCode Code.invalidGrant) (.ok outdated) :=
    .refused (Code.ofServer_of_asksForPerson rfl) (.raised none)
      (.reported nofun rfl rfl rfl rfl rfl)
  have hsecond : RefusesAlike (reportedCode "temporarily_unavailable") (.ok overloaded) :=
    .refused ofServer_temporarilyUnavailable (.raised none) (.reported nofun rfl rfl rfl rfl rfl)
  have hrel : told.Rel RefusesAlike asked :=
    { operation := rfl
      isToken := .inr rfl
      parameters := rfl
      controllers := .cons (hanswering hfirst) (.cons (hanswering hsecond) .nil) }
  exact ⟨hrel, (refused_alike hrel none "two" keepNumber).2.2.2, rfl⟩

end Command

end SignOn
