import SignOn.Command.Basic
import SignOn.Proofs.Identity.ScopeSet

/-! # What a key tells apart

Two commands have the same key just if they are of the same operation and agree in every parameter
but the correlation id (`Command.key_eq_iff`). The scopes are among these parameters and count as
sets: two lists of scopes give equal sets just if the same scopes are in them
(`ScopeSet.ofList_eq_iff`). A small request stands at the end, for runs that can be followed by
hand. -/

namespace SignOn

/-- Two requests are alike: they agree in every parameter but the correlation id, and the scopes
count as sets. -/
structure Parameters.Alike (p q : Parameters) : Prop where
  clientId : p.clientId = q.clientId
  redirectUri : p.redirectUri = q.redirectUri
  scopes : ∀ x, x ∈ p.scopes.scopes ↔ x ∈ q.scopes.scopes
  authority : p.authority = q.authority
  account : p.account = q.account
  binding : p.binding = q.binding
  forceRefresh : p.forceRefresh = q.forceRefresh
  claims : p.claims = q.claims
  requiredProtocol : p.requiredProtocol = q.requiredProtocol

theorem Parameters.identity_eq_iff {p q : Parameters} : p.identity = q.identity ↔ p.Alike q := by
  constructor
  · intro h
    obtain ⟨hc, hr, hs, ha, hac, hb, hf, hcl, hp⟩ :
        p.clientId = q.clientId ∧ p.redirectUri = q.redirectUri ∧ p.scopes = q.scopes ∧
          p.authority = q.authority ∧ p.account = q.account ∧ p.binding = q.binding ∧
          p.forceRefresh = q.forceRefresh ∧ p.claims = q.claims ∧
          p.requiredProtocol = q.requiredProtocol := by simpa [identity] using h
    exact ⟨hc, hr, ScopeSet.eq_iff.mp hs, ha, hac, hb, hf, hcl, hp⟩
  · rintro ⟨hc, hr, hs, ha, hac, hb, hf, hcl, hp⟩
    simp [identity, hc, hr, ScopeSet.eq_iff.mpr hs, ha, hac, hb, hf, hcl, hp]

/-- **The key of a command** tells apart its operation and its parameters without the correlation
id. -/
theorem Command.key_eq_iff {κ : Type} {a b : Command κ} :
    a.key = b.key ↔ a.operation = b.operation ∧ a.parameters.Alike b.parameters := by
  rw [← Parameters.identity_eq_iff]
  simp [key]

/-! ### A small request -/

namespace Sample

/-- The client. -/
def client : ClientId := ⟨"app", by decide⟩

/-- The authority. -/
def authority : Authority where
  url := { scheme := "https", site := none, path := .segments ["t"], query := none,
           fragment := none }
  secure := rfl
  tenanted := by decide

/-- The parameters under a correlation id. -/
def parameters (correlationId : String) : Parameters :=
  { Parameters.plain client "" authority .empty with correlationId := some correlationId }

/-- The command of an operation under a correlation id. -/
def command (operation : Operation) (correlationId : String) : Command Unit where
  operation
  parameters := parameters correlationId
  controllers := [()]
  apiId := operation.label
  correlationId
  hasController := by simp
  isCorrelated := rfl

end Sample

example (operation : Operation) (first second : String) :
    (Sample.command operation first).key = (Sample.command operation second).key := rfl

end SignOn
