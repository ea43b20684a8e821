import SignOn.Outcome.Command
import SignOn.Proofs.Failure.OfCode
import SignOn.Proofs.Time.Moment

/-! # How a command ends

What the controllers of a command give decides how it ends, and every value ends it in one of three
ways. An acquisition may hold parts that do not fit together (a projection beside a step that
failed, a token beside an error, a success without a code), so it counts which part is looked at
first.

* `Acquisition.issued?_eq_some_iff`: an acquisition succeeds if the projection is there and no step
  failed.
* `Failure.isCancelled_ofAcquisition`: the failure of an acquisition is that of a person giving up
  just if the authorization step says so, whatever the other parts hold.
* `Failure.ofTokenResult_of_error`: the failure of a token request keeps what the server told.
* `ending_of_value`: the three ways, and what a failed token request leaves of the server's
  answer. -/

namespace SignOn

section Values

variable {a : Acquisition} {issued : IssuedToken} {t : TokenResult} {e : TokenError} {f : Failure}

/-! ### Acquisitions -/

/-- Every authorization step that was taken gave a code. -/
def Acquisition.Authorized (a : Acquisition) : Prop :=
  ∀ r, a.authorization = some r → r.status = .success ∧ r.response.isSome = true

/-- Every token request that was made gave tokens and no error. -/
def Acquisition.Granted (a : Acquisition) : Prop :=
  ∀ t, a.token = some t → t.response.isSome = true ∧ t.error = none

/-- The acquisition ends with the projection: it is there, and no step failed. -/
def Acquisition.Yields (a : Acquisition) (issued : IssuedToken) : Prop :=
  a.issued = some issued ∧ a.Authorized ∧ a.Granted

/-- The authorization step says that the person gave up. -/
def Acquisition.GivenUp (a : Acquisition) : Prop :=
  ∃ r, a.authorization = some r ∧ r.status = .userCancel

theorem AuthorizationResult.isSuccess_iff {r : AuthorizationResult} :
    r.isSuccess = true ↔ r.status = .success ∧ r.response.isSome = true := by
  rw [isSuccess, Bool.and_eq_true, decide_eq_true_eq]

theorem TokenResult.isSuccess_iff :
    t.isSuccess = true ↔ t.response.isSome = true ∧ t.error = none := by
  rw [isSuccess, Bool.and_eq_true, Option.isNone_iff_eq_none]

namespace Acquisition

theorem authorized_iff :
    a.authorization.all AuthorizationResult.isSuccess = true ↔ a.Authorized := by
  simp only [Option.all_eq_true, AuthorizationResult.isSuccess_iff, Authorized]

theorem granted_iff : a.token.all TokenResult.isSuccess = true ↔ a.Granted := by
  simp only [Option.all_eq_true, TokenResult.isSuccess_iff, Granted]

theorem succeeded_iff : a.succeeded = true ↔ a.issued.isSome = true ∧ a.Authorized ∧ a.Granted := by
  rw [succeeded, Bool.and_eq_true, Bool.and_eq_true, authorized_iff, granted_iff, and_assoc]

theorem issued?_eq_some_iff : a.issued? = some issued ↔ a.Yields issued := by
  unfold issued?
  split
  · rename_i hsucceeded
    rw [Yields, and_iff_left (succeeded_iff.mp hsucceeded).2]
  · rename_i hfailed
    refine iff_of_false (fun h => nomatch h)
      fun hyields => hfailed (succeeded_iff.mpr ⟨?_, hyields.2⟩)
    rw [hyields.1, Option.isSome_some]

/-- Whoever gave up was not authorized. -/
theorem GivenUp.issued?_eq_none (h : a.GivenUp) : a.issued? = none := by
  obtain ⟨r, hauthorization, hstatus⟩ := h
  refine Option.eq_none_iff_forall_not_mem.mpr fun issued hissued => ?_
  have hsuccess := ((issued?_eq_some_iff.mp hissued).2.1 r hauthorization).1
  rw [hstatus] at hsuccess
  cases hsuccess

end Acquisition

/-! ### Failures -/

namespace Failure

theorem isCancelled_eq_true_iff : f.isCancelled = true ↔ ∃ message, f = .cancelled message := by
  cases f <;> simp [isCancelled]

theorem isCancelled_withTelemetry (f : Failure) (told : ServerTelemetry) :
    (f.withTelemetry told).isCancelled = f.isCancelled := by
  cases f <;> rfl

theorem isCancelled_ofTokenResult (result : Option TokenResult) :
    (ofTokenResult result).isCancelled = false := by
  have herror : ∀ e, (ofTokenError e).isCancelled = false := fun e => by
    unfold ofTokenError
    split <;> rfl
  unfold ofTokenResult
  cases result.bind (·.telemetry) <;> cases result.bind (·.error) <;>
    simp only [isCancelled_withTelemetry, herror] <;> rfl

theorem isCancelled_ofAuthorization (r : AuthorizationResult) :
    (ofAuthorization r).isCancelled = decide (r.status = .userCancel) := by
  unfold ofAuthorization
  split
  · rename_i hstatus
    exact (decide_eq_true hstatus).symm
  · rename_i hstatus
    rw [decide_eq_false hstatus]
    split
    · rfl
    · dsimp only
      split
      · split <;> rfl
      · rfl

/-- **Only the authorization step tells that the person gave up.** -/
theorem isCancelled_ofAcquisition : (ofAcquisition a).isCancelled = true ↔ a.GivenUp := by
  unfold ofAcquisition Acquisition.GivenUp
  cases hauthorization : a.authorization with
  | none => simp [isCancelled_ofTokenResult]
  | some r =>
    dsimp only
    split
    · rename_i hsuccess
      have hstatus := (AuthorizationResult.isSuccess_iff.mp hsuccess).1
      simp [isCancelled_ofTokenResult, hstatus]
    · simp [isCancelled_ofAuthorization]

/-- What is left of the answer of a server that sent an error: its words, and of the telemetry what
came with the result before what the error itself tells. -/
def refusal (t : TokenResult) (e : TokenError) : ServiceFailure where
  code := e.error
  message := e.description.getD ""
  httpStatus := e.statusCode
  subError := e.subError
  telemetry :=
    { speRing := t.telemetry.bind (·.speRing)
      refreshTokenAge := t.telemetry.bind (·.refreshTokenAge)
      errorCode := (t.telemetry.bind (·.errorCode)).or (some e.error)
      subErrorCode := (t.telemetry.bind (·.subErrorCode)).or e.subError }

theorem ofTokenResult_of_error (h : t.error = some e) :
    ofTokenResult (some t) =
      if e.error = Code.invalidGrant ∨ e.error = Code.interactionRequired then
        .personRequired (refusal t e)
      else .service (refusal t e) := by
  rw [ofTokenResult, Option.bind_some, Option.bind_some, h]
  dsimp only
  rw [ofTokenError]
  cases htold : t.telemetry with
  | none => simp only [refusal, Code.asksForPerson_iff, htold, ServerTelemetry.none]; rfl
  | some told =>
    simp only [Code.asksForPerson_iff]
    split <;> simp [withTelemetry, ServerTelemetry.updated, refusal, htold, ServerTelemetry.none]

theorem ofAcquisition_of_authorized (h : a.Authorized) :
    ofAcquisition a = ofTokenResult a.token := by
  unfold ofAcquisition
  split
  · rename_i r hauthorization
    rw [if_pos (AuthorizationResult.isSuccess_iff.mpr (h r hauthorization))]
  · rfl

end Failure

/-! ### Endings -/

/-- The value completes a command with the output: it is the output itself, or an acquisition that
ends with a projection, which is attributed to the command. -/
def Completes (value : Except Failure CommandValue) (correlationId : String)
    (output : CommandOutput) : Prop :=
  value = .ok (.output output) ∨
    ∃ a issued, value = .ok (.acquisition a) ∧ a.Yields issued ∧
      output = .token { issued with correlationId := some correlationId }

/-- The value is that of a person giving up: the failure of that kind, or an acquisition that tells
of it. -/
def GivesUp (value : Except Failure CommandValue) : Prop :=
  (∃ message, value = .error (.cancelled message)) ∨ ∃ a, value = .ok (.acquisition a) ∧ a.GivenUp

theorem classify_error (f : Failure) (correlationId : String) :
    classify (.error f) correlationId = if f.isCancelled then .cancelled else .failed f := rfl

/-- An acquisition that came to nothing ends a command as its failure does. -/
theorem classify_of_failed (h : a.issued? = none) (correlationId : String) :
    classify (.ok (.acquisition a)) correlationId =
      classify (.error (.ofAcquisition a)) correlationId := by
  simp only [classify, h]

theorem classify_of_yields (h : a.Yields issued) (correlationId : String) :
    classify (.ok (.acquisition a)) correlationId =
      .completed (.token { issued with correlationId := some correlationId }) := by
  simp only [classify, Acquisition.issued?_eq_some_iff.mpr h]

theorem classify_error_ne_completed (f : Failure) (correlationId : String)
    (output : CommandOutput) :
    classify (.error f) correlationId ≠ .completed output := by
  rw [classify_error]
  split <;> exact fun h => nomatch h

theorem classify_eq_completed_iff {value : Except Failure CommandValue} {correlationId : String}
    {output : CommandOutput} :
    classify value correlationId = .completed output ↔ Completes value correlationId output := by
  constructor
  · intro h
    rcases value with f | a | own
    · exact absurd h (classify_error_ne_completed f correlationId output)
    · cases hissued : a.issued? with
      | none =>
        rw [classify_of_failed hissued] at h
        exact absurd h (classify_error_ne_completed _ correlationId output)
      | some issued =>
        have hyields := Acquisition.issued?_eq_some_iff.mp hissued
        rw [classify_of_yields hyields] at h
        cases h
        exact .inr ⟨a, issued, rfl, hyields, rfl⟩
    · cases h
      exact .inl rfl
  · rintro (rfl | ⟨a, issued, rfl, hyields, rfl⟩)
    · rfl
    · exact classify_of_yields hyields correlationId

theorem classify_error_eq_cancelled_iff {f : Failure} {correlationId : String} :
    classify (.error f) correlationId = .cancelled ↔ f.isCancelled = true := by
  rw [classify_error]
  split
  · rename_i h
    exact iff_of_true rfl h
  · rename_i h
    exact iff_of_false (fun h => nomatch h) h

theorem classify_eq_cancelled_iff {value : Except Failure CommandValue} {correlationId : String} :
    classify value correlationId = .cancelled ↔ GivesUp value := by
  rcases value with f | a | own
  · rw [classify_error_eq_cancelled_iff, Failure.isCancelled_eq_true_iff]
    simp [GivesUp]
  · have hgives : GivesUp (.ok (.acquisition a)) ↔ a.GivenUp := by simp [GivesUp]
    rw [hgives]
    cases hissued : a.issued? with
    | none =>
      rw [classify_of_failed hissued, classify_error_eq_cancelled_iff,
        Failure.isCancelled_ofAcquisition]
    | some issued =>
      rw [classify_of_yields (Acquisition.issued?_eq_some_iff.mp hissued)]
      refine iff_of_false (fun h => nomatch h) fun hgiven => ?_
      rw [hgiven.issued?_eq_none] at hissued
      cases hissued
  · exact iff_of_false (fun h => nomatch h) (by simp [GivesUp])

/-- A command that fails does not fail with what would cancel it. -/
theorem ne_cancelled_of_classify {value : Except Failure CommandValue} {correlationId : String}
    (h : classify value correlationId = .failed f) (message : String) : f ≠ .cancelled message := by
  have herror : ∀ g, classify (.error g) correlationId = .failed f → f ≠ .cancelled message := by
    intro g hg
    rw [classify_error] at hg
    split at hg
    · cases hg
    · rename_i hnot
      cases hg
      exact fun heq => hnot (Failure.isCancelled_eq_true_iff.mpr ⟨message, heq⟩)
  rcases value with g | a | own
  · exact herror g h
  · cases hissued : a.issued? with
    | none => exact herror _ (classify_of_failed hissued correlationId ▸ h)
    | some issued =>
      rw [classify_of_yields (Acquisition.issued?_eq_some_iff.mp hissued)] at h
      cases h
  · cases h

/-- **How a command ends.** A value of its own or an acquisition with a projection and no failed
step completes it, the latter attributed to the command; a person giving up, as a failure or told by
the authorization step of an acquisition, cancels it, whatever else the acquisition holds; and
everything else fails it, with a failure that is not the one of a person giving up. Where no
authorization step failed and the token request ended with an error, the failure keeps what the
server told, asks for the person for two codes and for no other, and has the telemetry of the result
before that of the error. -/
theorem ending_of_value (value : Except Failure CommandValue) (correlationId : String) :
    (∀ output, classify value correlationId = .completed output ↔
      Completes value correlationId output) ∧
    (classify value correlationId = .cancelled ↔ GivesUp value) ∧
    ((∀ output, ¬ Completes value correlationId output) → ¬ GivesUp value →
      ∃ f, classify value correlationId = .failed f ∧ ∀ message, f ≠ .cancelled message) ∧
    ∀ a t e, value = .ok (.acquisition a) → a.Authorized → a.token = some t → t.error = some e →
      classify value correlationId = .failed
        (if e.error = Code.invalidGrant ∨ e.error = Code.interactionRequired then
          .personRequired (Failure.refusal t e)
        else .service (Failure.refusal t e)) := by
  refine ⟨fun output => classify_eq_completed_iff, classify_eq_cancelled_iff,
    fun hcompletes hgives => ?_, ?_⟩
  · cases hstatus : classify value correlationId with
    | completed output => exact absurd (classify_eq_completed_iff.mp hstatus) (hcompletes output)
    | cancelled => exact absurd (classify_eq_cancelled_iff.mp hstatus) hgives
    | failed f => exact ⟨f, rfl, ne_cancelled_of_classify hstatus⟩
  · rintro a t e rfl hauthorized htoken herror
    have hfailed : a.issued? = none := by
      refine Option.eq_none_iff_forall_not_mem.mpr fun issued hissued => ?_
      have hnone := ((Acquisition.issued?_eq_some_iff.mp hissued).2.2 t htoken).2
      rw [herror] at hnone
      cases hnone
    rw [classify_of_failed hfailed, Failure.ofAcquisition_of_authorized hauthorized, htoken,
      Failure.ofTokenResult_of_error herror, classify_error]
    split <;> rfl

end Values

/-! ### A token that was issued -/

namespace Sample

/-- A token as the server gave it. -/
def issued : IssuedToken where
  accessToken := ⟨"at"⟩
  expiresOn := second 900
  scopes := .empty
  account := .bare ⟨"user", by decide⟩ "host"
  tenantId := none
  idToken := none
  servedFromCache := false
  correlationId := none

end Sample

example (correlationId : String) :
    classify (.ok (.acquisition (.ofIssued Sample.issued))) correlationId =
      .completed (.token { Sample.issued with correlationId := some correlationId }) := rfl

end SignOn
