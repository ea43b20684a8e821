import SignOn.Json.Fault

/-! # Members by name

For objects that no form describes: a member is read by its name, and whatever else the object holds
is passed over. A member that is null counts as one that is not there. -/

namespace SignOn.Json.Value

/-- What a member holds. -/
def member? : Value → String → Option Value
  | .object members, name =>
    match members.lookup name with
    | some .null => none
    | found => found
  | _, _ => none

/-- What a member holds, null if it is not there. -/
def memberD (v : Value) (name : String) : Value := (v.member? name).getD .null

/-- Is there a member of the name, be it null? -/
def has : Value → String → Bool
  | .object members, name => (members.lookup name).isSome
  | _, _ => false

variable {α : Type}

/-- Reads a member that may be missing with `decode`. -/
def read? (v : Value) (name : String) (decode : Decoder α) : Except Fault (Option α) :=
  match v.member? name with
  | none => .ok none
  | some x => some <$> Except.below (.member name) (decode x)

/-- Reads a member with `decode`. -/
def read (v : Value) (name : String) (decode : Decoder α) : Except Fault α := do
  match ← v.read? name decode with
  | some a => .ok a
  | none => .error (.here (.missing name))

/-- Reads the items of a member with `decode`; a missing list has none. -/
def readList (v : Value) (name : String) (decode : Decoder α) : Except Fault (List α) := do
  return (← v.read? name (Decoder.list decode)).getD []

/-- Reads a member. -/
def get (α : Type) [Wire α] (v : Value) (name : String) : Except Fault α := v.read name Wire.decode

/-- Reads a member that may be missing. -/
def get? (α : Type) [Wire α] (v : Value) (name : String) : Except Fault (Option α) :=
  v.read? name Wire.decode

/-- Reads a member that stands for a known value where it is missing. -/
def getD [Wire α] (v : Value) (name : String) (default : α) : Except Fault α := do
  return (← v.get? α name).getD default

/-- Is the member true? -/
def flag (v : Value) (name : String) : Except Fault Bool := v.getD name false

/-- Reads a whole number. -/
def int (v : Value) (name : String) : Except Fault Int :=
  v.read name (Decoder.integer "i64" (-9223372036854775808) 9223372036854775807)

/-- Reads a number of things. -/
def nat (v : Value) (name : String) : Except Fault Nat := Int.toNat <$> v.int name

end SignOn.Json.Value
