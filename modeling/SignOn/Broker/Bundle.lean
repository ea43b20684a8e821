import SignOn.Failure.Basic

/-! # Bundles

What a broker is sent and what it answers: an object of named values. Text is taken out of it by
name, and a whole record by its form; an answer that does not have the form fails at the place where
it departs from it. -/

namespace SignOn

open Json

/-- Named values, in ascending order of their names. -/
structure Bundle where
  members : List (String × Value)
  deriving DecidableEq, Inhabited

namespace Bundle

/-- The bundle that holds nothing. -/
def empty : Bundle := ⟨[]⟩

/-- The bundle with one value set. -/
def insert (b : Bundle) (name : String) (value : Value) : Bundle :=
  ⟨Value.insertMember name value b.members⟩

/-- The value of a name. -/
def get? (b : Bundle) (name : String) : Option Value := b.members.lookup name

/-- The text of a name, if its value is a text. -/
def string? (b : Bundle) (name : String) : Option String := (b.get? name).bind Value.string?

/-- Is there a value of the name? -/
def contains (b : Bundle) (name : String) : Bool := (b.get? name).isSome

/-- Is there no value at all? -/
def isEmpty (b : Bundle) : Bool := b.members.isEmpty

instance : Wire Bundle where
  encode b := .object b.members
  decode
    | .object members => .ok ⟨members⟩
    | v => Decoder.mismatch v "a map"

/-- The bundle of a payload, which may fail to be written and must be an object. -/
def ofPayload (payload : Except String Value) : Except ClientFailure Bundle :=
  match payload with
  | .ok (.object members) => .ok ⟨members⟩
  | .ok other => .error (.plain Code.invalidBrokerBundle
      ("Broker payload must be an object, found " ++ other.compact ++ "."))
  | .error reason => .error (.because Code.invalidBrokerBundle
      "Broker payload could not be serialized." (.unwritable reason))

/-- The record that the bundle holds. -/
def extract (b : Bundle) (α : Type) [Wire α] : Except ClientFailure α :=
  match (Wire.decode (.object b.members) : Except Fault α) with
  | .ok a => .ok a
  | .error f => .error (.because Code.invalidBrokerBundle
      ("Broker result bundle is invalid at `" ++ Fault.pathText f.path ++ "`.")
      (.unreadable f.cause))

end Bundle

end SignOn
