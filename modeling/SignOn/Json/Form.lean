import SignOn.Json.Fault

/-! # Records with named fields

A form lists the fields of a record in the order of their declaration and reads the record from an
object or from a list.

From an object the members are tried in their own order, and the first that fails decides; members
with other names are passed over. Only then are the missing fields looked for, in the order of
declaration. From a list the fields are taken from the front, none may be left out, and nothing may
follow. -/

namespace SignOn.Json

/-- Where the fields of a record come from: the members of an object, or the rest of a list of which
some items have been taken. -/
inductive Source where
  | members (ms : List (String × Value))
  | listed (taken : Nat) (rest : List Value)

/-- How to read a record: a test for each field on its own, and the fields put together. -/
structure Form (α : Type) where
  fields : List (String × (Value → Except Fault Unit))
  read : Source → (missingItem : Nat → Fault) → Except Fault (α × Source)

namespace Form

variable {α β : Type}

instance : Functor Form where
  map f x := ⟨x.fields, fun s m => do
    let (a, s) ← x.read s m
    .ok (f a, s)⟩

instance : Applicative Form where
  pure a := ⟨[], fun s _ => .ok (a, s)⟩
  seq f x := ⟨f.fields ++ (x ()).fields, fun s m => do
    let (g, s) ← f.read s m
    let (a, s) ← (x ()).read s m
    .ok (g a, s)⟩

/-- A field that is read with `decode`; `absent` says what a missing member and a missing item
mean. -/
def field (name : String) (decode : Decoder α) (member : Except Fault α)
    (item : Fault → Except Fault α) : Form α where
  fields := [(name, fun v => (decode v).map fun _ => ())]
  read
    | .members ms, _ =>
      match ms.lookup name with
      | some v => do
        let a ← Except.below (.member name) (decode v)
        .ok (a, .members ms)
      | none => do
        let a ← member
        .ok (a, .members ms)
    | .listed taken [], m => do
      let a ← item (m taken)
      .ok (a, .listed taken [])
    | .listed taken (v :: rest), _ => do
      let a ← Except.below (.item taken) (decode v)
      .ok (a, .listed (taken + 1) rest)

/-- A field that must be there. -/
def required (name : String) [Wire α] : Form α :=
  field name Wire.decode (.error (.here (.missing name))) .error

/-- A field that may be left out of an object or be null. -/
def optional (name : String) [Wire α] : Form (Option α) :=
  field name Wire.decode (.ok none) .error

/-- A field that stands for a known value where it is left out. -/
def defaulted (name : String) (default : α) [Wire α] : Form α :=
  field name Wire.decode (.ok default) fun _ => .ok default

/-- Tests the members that are fields, in their order; the first fault decides. -/
def test (fields : List (String × (Value → Except Fault Unit))) :
    List (String × Value) → Except Fault Unit
  | [] => .ok ()
  | (name, v) :: rest =>
    match fields.lookup name with
    | some check => do
      Except.below (.member name) (check v)
      test fields rest
    | none => test fields rest

/-- "3 elements", and "1 element" for one. -/
def elementCount (n : Nat) : String := toString n ++ (if n = 1 then " element" else " elements")

/-- Reads the fields from the members of an object. -/
def readMembers (form : Form α) (members : List (String × Value)) : Except Fault α := do
  test form.fields members
  let (a, _) ← form.read (.members members) fun _ => .here (.missing "")
  .ok a

/-- Reads the fields from the items of a list; `surplus` is the fault of a list that is too long. -/
def readItems (form : Form α) (title : String) (surplus : Fault) (items : List Value) :
    Except Fault α := do
  let tooShort (n : Nat) : Fault :=
    .here (.wrongLength n (title ++ " with " ++ elementCount form.fields.length))
  match ← form.read (.listed 0 items) tooShort with
  | (a, .listed _ []) => .ok a
  | (a, .members _) => .ok a
  | (_, .listed _ (_ :: _)) => .error surplus

/-- Reads a record called `name`. -/
def decode (name : String) (form : Form α) : Decoder α
  | .object members => form.readMembers members
  | .array items =>
    form.readItems ("struct " ++ name)
      (.here (.wrongLength items.length "fewer elements in array")) items
  | v => Decoder.mismatch v ("struct " ++ name)

end Form

/-! ### Enumerations -/

namespace Decoder

/-- Reads a variant of an enumeration: its name alone, or an object whose only member is named for
it. The content, if any, is passed on. -/
def variant {α : Type} (known : List String)
    (content : String → Option Value → Except Fault α) : Decoder α := fun v =>
  let chosen (name : String) (inner : Option Value) : Except Fault α :=
    if name ∈ known then content name inner
    else .error (.here (.unknownVariant name known))
  match v with
  | .string name => chosen name none
  | .object [(name, inner)] => chosen name (some inner)
  | .object _ => .error (.here (.wrongValue .map "map with a single key"))
  | v => mismatch v "string or map"

/-- Reads the content of a variant that has none: it is left out or null. -/
def noContent {α : Type} (name : String) (a : α) : Option Value → Except Fault α
  | none | some .null => .ok a
  | some v => Except.below (.member name) (mismatch v "unit")

/-- Reads one of the values of a type that has a name for each of them. -/
def named {α : Type} (names : List (String × α)) : Decoder α :=
  variant (names.map Prod.fst) fun name inner =>
    match names.lookup name with
    | some a => noContent name a inner
    | none => .error (.here (.unknownVariant name (names.map Prod.fst)))

/-- Reads the record that is the content of a variant. -/
def variantRecord {α : Type} (name : String) (form : Form α) : Option Value → Except Fault α
  | some (.object members) => Except.below (.member name) (form.readMembers members)
  | some v => Except.below (.member name) (mismatch v "struct variant")
  | none => .error (.here (.wrongType .unitVariant "struct variant"))

end Decoder

/-- The name of a value of a type that has a name for each of its values. -/
def nameIn {α : Type} [DecidableEq α] (names : List (String × α)) (a : α) : String :=
  ((names.find? fun n => n.2 = a).map Prod.fst).getD ""

end SignOn.Json
