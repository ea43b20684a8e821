import SignOn.Broker.Controller
import SignOn.Proofs.Json.ReadBack

/-! # Bundles and what they are made of

A bundle that is made of parameters or of a reply gives it back whole (`Bundle.extract_ofPayload`).
The version that a call adds to its parameters has a name of its own, so from any bundle the same
parameters are taken with it and without (`Bundle.extract_insert_version`); and the reply with a
token has no error in it, so a broker that writes one is understood to have succeeded. -/

namespace SignOn

open Json

namespace Bundle

variable {α : Type} [Wire α]

theorem extract_eq_ok_iff {b : Bundle} {a : α} :
    b.extract α = .ok a ↔ (Wire.decode (.object b.members) : Except Fault α) = .ok a := by
  rw [extract]
  cases (Wire.decode (.object b.members) : Except Fault α) with
  | ok a' => exact ⟨fun h => by cases h; rfl, fun h => by cases h; rfl⟩
  | error f => exact ⟨fun h => (nomatch h), fun h => (nomatch h)⟩

/-- The value can be made a bundle, and out of the bundle it can be taken. -/
def Carries (a : α) : Prop := ∃ b, ofPayload (.ok (Wire.encode a)) = .ok b ∧ b.extract α = .ok a

theorem carries_of_members {a : α} {members : List (String × Value)}
    (hencode : Wire.encode a = .ofMembers members) (h : ReadsBack a) : Carries a := by
  refine ⟨⟨Value.orderMembers members⟩, by rw [hencode]; rfl, extract_eq_ok_iff.mpr ?_⟩
  rw [ReadsBack, hencode] at h
  exact h

theorem byName_parametersForm : Parameters.form.ByName :=
  (((((((((Form.byName_field.map _).seq Form.byName_field).seq Form.byName_field).seq
    Form.byName_field).seq Form.byName_field).seq Form.byName_field).seq
    Form.byName_field).seq Form.byName_field).seq Form.byName_field).seq Form.byName_field

/-- The version says nothing about the parameters. -/
theorem extract_insert_version (b : Bundle) (version : Value) :
    (b.insert BrokerController.versionKey version).extract Parameters = b.extract Parameters := by
  have hdecode : (Wire.decode (.object (b.insert BrokerController.versionKey version).members) :
      Except Fault Parameters) = Wire.decode (.object b.members) :=
    byName_parametersForm.decode_insertMember (by decide) "OperationParameters" version b.members
  rw [extract, hdecode]
  rfl

theorem carries_tokenReply (r : TokenReply) : Carries r :=
  carries_of_members rfl (Lossless.readsBack r)

/-- The reply with a token is read as a token, not as an error. -/
theorem tokenReply_ofPayload (issued : IssuedToken) :
    ∃ b, ofPayload (.ok (Wire.encode (TokenReply.mk issued))) = .ok b ∧ b.checkError = .ok () ∧
      b.tokenReply = .ok (.ofIssued issued) := by
  obtain ⟨b, hpayload, hextract⟩ := carries_tokenReply ⟨issued⟩
  have hcheck : b.checkError = .ok () := by
    cases hpayload
    rfl
  refine ⟨b, hpayload, hcheck, ?_⟩
  rw [tokenReply, extractOrFail, hcheck, hextract]
  rfl

/-- **A bundle gives back what it was made of.** Parameters whose URLs are read back from their
texts come back whole, with the version of the call beside them or without; so does each reply; and
a reply with a token is read as the acquisition that succeeded with just this token. -/
theorem extract_ofPayload :
    (∀ p : Parameters, p.UrlsReparse →
      ∃ b, ofPayload (.ok (Wire.encode p)) = .ok b ∧ b.extract Parameters = .ok p ∧
        ∀ version,
          (b.insert BrokerController.versionKey (.string version)).extract Parameters = .ok p ∧
          BrokerController.payload p version =
            .ok (b.insert BrokerController.versionKey (.string version))) ∧
    (∀ r : TokenReply, Carries r) ∧ (∀ r : AccountsReply, Carries r) ∧
    (∀ r : RemovedReply, Carries r) ∧
    (∀ r : DeviceModeReply, Carries r) ∧
    ∀ issued : IssuedToken, ∃ b a, ofPayload (.ok (Wire.encode (TokenReply.mk issued))) = .ok b ∧
      b.tokenReply = .ok a ∧ a.succeeded = true ∧ a.issued? = some issued := by
  refine ⟨fun p hurls => ?_, carries_tokenReply,
    fun r => carries_of_members rfl (Lossless.readsBack r),
    fun r => carries_of_members rfl (Lossless.readsBack r),
    fun r => carries_of_members rfl (Lossless.readsBack r),
    fun issued => ?_⟩
  · obtain ⟨b, hpayload, hextract⟩ : Carries p :=
      carries_of_members rfl (Parameters.readsBack hurls)
    refine ⟨b, hpayload, hextract, fun version => ⟨?_, ?_⟩⟩
    · rw [extract_insert_version, hextract]
    · rw [BrokerController.payload, hpayload]
  · obtain ⟨b, hpayload, -, htoken⟩ := tokenReply_ofPayload issued
    exact ⟨b, .ofIssued issued, hpayload, htoken, rfl, rfl⟩

/-- A request for a token that is bound to a request to a service. -/
def proving : Parameters where
  clientId := ⟨"mail", by decide⟩
  redirectUri := "mail://back"
  scopes := ⟨["mail.read", "user.read"], by decide, by decide⟩
  authority :=
    ⟨⟨"https", some ⟨"", "[::1]", none⟩, .segments ["common"], none, none⟩, rfl, by decide⟩
  account := some (.bare ⟨"person", by decide⟩ "[::1]")
  binding :=
    .proof (some "GET") ⟨"https", some ⟨"", "[::1]", some 8443⟩, .segments ["me"],
      some "q=1", none⟩ none
  correlationId := some "a"
  forceRefresh := true
  claims := none
  requiredProtocol := some "8.0"

theorem extract_proving : proving.UrlsReparse ∧
    ∃ b, ofPayload (.ok (Wire.encode proving)) = .ok b ∧ b.extract Parameters = .ok proving := by
  have hurls : proving.UrlsReparse :=
    ⟨by decide +kernel, show Url.Reparses _ by decide +kernel⟩
  obtain ⟨b, hpayload, hextract, -⟩ := extract_ofPayload.1 proving hurls
  exact ⟨hurls, b, hpayload, hextract⟩

end Bundle

end SignOn
