import SignOn.Json.Value
import SignOn.Text.Quoted

/-! # Why a value does not decode

A fault is a cause and the place where it was met. The place is a path from the root: the names of
the members and the numbers of the items on the way down. The cause says what stood there and what
was expected. -/

namespace SignOn.Json

/-- What a decoder met, as far as a message tells it. -/
inductive Found where
  | null
  | bool (b : Bool)
  | whole (i : Int)
  | real (d : Decimal)
  | string (s : String)
  | sequence
  | map
  | unitVariant
  | someInteger
  deriving DecidableEq, Repr, Inhabited

namespace Found

/-- What is met where a value stands. -/
def ofValue : Value → Found
  | .null => .null
  | .bool b => .bool b
  | .number (.whole i) => .whole i
  | .number (.real d) => .real d
  | .string s => .string s
  | .array _ => .sequence
  | .object _ => .map

/-- The words for it in a message. -/
def text : Found → String
  | .null => "null"
  | .bool b => "boolean `" ++ (if b then "true" else "false") ++ "`"
  | .whole i => "integer `" ++ toString i ++ "`"
  | .real d => "floating point `" ++ d.literal ++ "`"
  | .string s => "string " ++ Text.quoted s
  | .sequence => "sequence"
  | .map => "map"
  | .unitVariant => "unit variant"
  | .someInteger => "integer"

end Found

/-- The cause of a fault. -/
inductive Cause where
  | missing (field : String)
  | wrongType (found : Found) (expected : String)
  | wrongValue (found : Found) (expected : String)
  | wrongLength (length : Nat) (expected : String)
  | unknownVariant (name : String) (known : List String)
  | refused (message : String)
  deriving DecidableEq, Repr, Inhabited

namespace Cause

/-- The known variants of an enumeration, as a message lists them. -/
def variantList : List String → String
  | [] => "there are no variants"
  | [a] => "expected `" ++ a ++ "`"
  | [a, b] => "expected `" ++ a ++ "` or `" ++ b ++ "`"
  | names => "expected one of " ++ ", ".intercalate (names.map fun n => "`" ++ n ++ "`")

/-- The message of a cause. -/
def message : Cause → String
  | .missing field => "missing field `" ++ field ++ "`"
  | .wrongType found expected => "invalid type: " ++ found.text ++ ", expected " ++ expected
  | .wrongValue found expected => "invalid value: " ++ found.text ++ ", expected " ++ expected
  | .wrongLength length expected =>
    "invalid length " ++ toString length ++ ", expected " ++ expected
  | .unknownVariant name known => "unknown variant `" ++ name ++ "`, " ++ variantList known
  | .refused message => message

end Cause

/-- One step down a value. -/
inductive Step where
  | member (name : String)
  | item (index : Nat)
  deriving DecidableEq, Repr, Inhabited

/-- A cause and the path to the place where it was met. -/
structure Fault where
  path : List Step
  cause : Cause
  deriving DecidableEq, Repr, Inhabited

namespace Fault

/-- A fault at the root of the value at hand. -/
def here (cause : Cause) : Fault := ⟨[], cause⟩

/-- The fault as seen from one step further up. -/
def below (step : Step) (f : Fault) : Fault := ⟨step :: f.path, f.cause⟩

/-- The fault moved to the root: what was read aside has no path of its own. -/
def atRoot (f : Fault) : Fault := here f.cause

/-- The steps of a path in a row: a member name stands after a dot unless it is the first. -/
def pathText : List Step → String
  | [] => "."
  | first :: rest =>
    let lead : Step → String
      | .member name => name
      | .item i => "[" ++ toString i ++ "]"
    let next : Step → String
      | .member name => "." ++ name
      | .item i => "[" ++ toString i ++ "]"
    lead first ++ String.join (rest.map next)

end Fault

/-- Reads a value of type `α`, or says why it cannot be read. -/
abbrev Decoder (α : Type) := Value → Except Fault α

/-- The result of reading what stands one step down. -/
def Except.below {α : Type} (step : Step) : Except Fault α → Except Fault α
  | .ok a => .ok a
  | .error f => .error (f.below step)

namespace Decoder

/-- Fails, naming what stands there and what should. -/
def mismatch {α : Type} (v : Value) (expected : String) : Except Fault α :=
  .error (.here (.wrongType (.ofValue v) expected))

/-- Reads a text. -/
def string : Decoder String
  | .string s => .ok s
  | v => mismatch v "a string"

/-- Reads a truth value. -/
def bool : Decoder Bool
  | .bool b => .ok b
  | v => mismatch v "a boolean"

/-- Reads a whole number between two bounds, both included. -/
def integer (expected : String) (low high : Int) : Decoder Int
  | .number (.whole i) =>
    if low ≤ i ∧ i ≤ high then .ok i
    else .error (.here (.wrongValue (.whole i) expected))
  | v => mismatch v expected

/-- Reads a number of sixteen bits. -/
def word16 : Decoder UInt16 := fun v =>
  (integer "u16" 0 65535 v).map fun i => UInt16.ofNat i.toNat

/-- Reads a number of sixty-four bits. -/
def word64 : Decoder UInt64 := fun v =>
  (integer "usize" 0 18446744073709551615 v).map fun i => UInt64.ofNat i.toNat

/-- Reads a signed number of thirty-two bits. -/
def integer32 : Decoder Int := integer "i32" (-2147483648) 2147483647

/-- Reads a text that must pass a test of its own. -/
def checked {ε α : Type} (parse : String → Except ε α) (message : ε → String) : Decoder α :=
  fun v => do
    let s ← string v
    match parse s with
    | .ok a => .ok a
    | .error e => .error (.here (.refused (message e)))

/-- Reads the items of a list from the given place on. -/
def items {α : Type} (decode : Decoder α) : Nat → List Value → Except Fault (List α)
  | _, [] => .ok []
  | i, v :: vs => do
    let a ← Except.below (.item i) (decode v)
    let as ← items decode (i + 1) vs
    .ok (a :: as)

/-- Reads a list. -/
def list {α : Type} (decode : Decoder α) : Decoder (List α)
  | .array vs => items decode 0 vs
  | v => mismatch v "a sequence"

/-- Reads nothing from a null, and a value from anything else. -/
def option {α : Type} (decode : Decoder α) : Decoder (Option α)
  | .null => .ok none
  | v => (decode v).map some

end Decoder

/-- A type with a written form: what `encode` writes, `decode` reads. -/
class Wire (α : Type) where
  encode : α → Value
  decode : Decoder α

instance : Wire String := ⟨.string, Decoder.string⟩
instance : Wire Bool := ⟨.bool, Decoder.bool⟩
instance : Wire UInt16 := ⟨fun n => .number (.whole n.toNat), Decoder.word16⟩
instance : Wire UInt64 := ⟨fun n => .number (.whole n.toNat), Decoder.word64⟩

instance {α : Type} [Wire α] : Wire (List α) :=
  ⟨fun xs => .array (xs.map Wire.encode), Decoder.list Wire.decode⟩

instance {α : Type} [Wire α] : Wire (Option α) :=
  ⟨fun | none => .null | some x => Wire.encode x, Decoder.option Wire.decode⟩

end SignOn.Json
