import Mathlib.Tactic.SplitIfs
import SignOn.Failure.Normalize

/-! # Bare codes

A broker tells of a failure by a bare code, and the code alone decides which of the five failures it
stands for. `Failure.ofCode` looks for the code in one class after another. No code is in two of
them, so the order does not matter: every kind of failure has its own codes
(`Failure.kind_ofCode_iff`), and whatever kind the failure is of, it has the code and the message
that were told (`Failure.code_ofCode`, `Failure.message_ofCode`). -/

namespace SignOn

variable {code message : String} {subError username : Option String} {kind : FailureKind}

namespace Code

/-- The code of a server: the client has no such code, and it says neither that the person gave up
nor that the device must be registered. -/
structure OfServer (code : String) : Prop where
  not_client : code ∉ ofClient
  not_cancelled : code ≠ userCancelled
  not_registration : code ≠ deviceRegistrationNeeded

theorem asksForPerson_iff :
    asksForPerson code = true ↔ code = invalidGrant ∨ code = interactionRequired := by
  simp [asksForPerson]

theorem ofServer_of_asksForPerson (h : asksForPerson code = true) : OfServer code := by
  rcases asksForPerson_iff.mp h with rfl | rfl
  · exact ⟨by decide, by decide, by decide⟩
  · exact ⟨by decide, by decide, by decide⟩

/-- A code stands for a kind of failure. -/
def StandsFor (code : String) : FailureKind → Prop
  | .cancelled => code = userCancelled
  | .client => code ∈ ofClient
  | .deviceRegistration => code = deviceRegistrationNeeded
  | .personRequired => code = invalidGrant ∨ code = interactionRequired
  | .service => OfServer code ∧ code ≠ invalidGrant ∧ code ≠ interactionRequired

theorem exists_standsFor (code : String) : ∃ kind, StandsFor code kind := by
  by_cases hcancelled : code = userCancelled
  · exact ⟨.cancelled, hcancelled⟩
  by_cases hclient : code ∈ ofClient
  · exact ⟨.client, hclient⟩
  by_cases hregistration : code = deviceRegistrationNeeded
  · exact ⟨.deviceRegistration, hregistration⟩
  by_cases hasks : code = invalidGrant ∨ code = interactionRequired
  · exact ⟨.personRequired, hasks⟩
  · exact ⟨.service, ⟨hclient, hcancelled, hregistration⟩, not_or.mp hasks⟩

/-- What no cache may hand out later is a failure of the client. -/
theorem OfServer.not_mem_passing (h : OfServer code) : code ∉ passing := fun hpassing =>
  h.not_client ((by decide : passing ⊆ ofClient) hpassing)

end Code

namespace Failure

theorem ofCode_userCancelled :
    ofCode Code.userCancelled message subError username = .cancelled message :=
  if_pos rfl

theorem ofCode_of_client (h : code ∈ Code.ofClient) :
    ofCode code message subError username = .plain code message := by
  have hcancelled : code ≠ Code.userCancelled := by
    rintro rfl
    exact absurd h (by decide)
  rw [ofCode, if_neg hcancelled, if_pos (List.contains_iff_mem.mpr h)]

theorem ofCode_deviceRegistrationNeeded :
    ofCode Code.deviceRegistrationNeeded message subError username =
      .deviceRegistration ⟨Code.deviceRegistrationNeeded, message, none, subError,
        .none⟩ username := by
  rw [ofCode, if_neg (by decide), if_neg (by decide)]
  exact if_pos rfl

theorem ofCode_of_server (h : Code.OfServer code) : ofCode code message subError username =
    if Code.asksForPerson code then .personRequired ⟨code, message, none, subError, .none⟩
    else .service ⟨code, message, none, subError, .none⟩ := by
  have hclient : ¬ Code.ofClient.contains code = true :=
    fun hc => h.not_client (List.contains_iff_mem.mp hc)
  rw [ofCode, if_neg h.not_cancelled, if_neg hclient]
  exact if_neg h.not_registration

theorem kind_ofCode_of_standsFor (h : Code.StandsFor code kind) :
    (ofCode code message subError username).kind = kind := by
  cases kind with
  | cancelled =>
    obtain rfl := h
    rw [ofCode_userCancelled, Failure.kind]
  | client => rw [ofCode_of_client h, plain, Failure.kind]
  | deviceRegistration =>
    obtain rfl := h
    rw [ofCode_deviceRegistrationNeeded, Failure.kind]
  | personRequired =>
    have hasks := Code.asksForPerson_iff.mpr h
    rw [ofCode_of_server (Code.ofServer_of_asksForPerson hasks), if_pos hasks, Failure.kind]
  | service =>
    have hasks : ¬ Code.asksForPerson code = true := fun hasks =>
      (Code.asksForPerson_iff.mp hasks).elim h.2.1 h.2.2
    rw [ofCode_of_server h.1, if_neg hasks, Failure.kind]

/-- **Every kind of failure has its own codes.** -/
theorem kind_ofCode_iff :
    (ofCode code message subError username).kind = kind ↔ Code.StandsFor code kind := by
  refine ⟨?_, kind_ofCode_of_standsFor⟩
  rintro rfl
  obtain ⟨kind, h⟩ := Code.exists_standsFor code
  rwa [kind_ofCode_of_standsFor h]

theorem code_ofCode : (ofCode code message subError username).code = code := by
  unfold ofCode
  split_ifs with hcancelled
  · exact hcancelled.symm
  all_goals rfl

theorem message_ofCode : (ofCode code message subError username).message = message := by
  unfold ofCode
  split_ifs <;> rfl

end Failure

end SignOn
