import SignOn.Broker.Bundle
import SignOn.Identity.Identifier

/-! # The active broker

A broker tells in its answers which package serves the device. The last package told is kept; a name
that is no package name is passed over. -/

namespace SignOn

/-- The last package told, if there was one. -/
abbrev ActiveBroker := Option PackageName

namespace ActiveBroker

/-- The name under which an answer tells the package. -/
def key : String := "active_broker_package_name"

/-- The package that an answer tells. -/
def told (answer : Bundle) : Option PackageName :=
  (answer.string? key).bind fun text => (Identifier.parse .package text).toOption

/-- Whether an answer changes the package kept, and the package kept after it. -/
def update (kept : ActiveBroker) (answer : Bundle) : Bool × ActiveBroker :=
  match told answer with
  | some package => (decide (kept ≠ some package), some package)
  | none => (false, kept)

end ActiveBroker

end SignOn
