import SignOn.Json.Fault
import SignOn.Text.Blank

/-! # Identifiers

The names of clients, accounts and packages. Each kind has a label and a limit on its length,
counted in bytes; an identifier is not empty, holds no blank and stays within the limit. The rule is
part of the type, so whoever holds an identifier knows that it keeps the rule. -/

namespace SignOn

open Json Text

/-- What an identifier names. -/
inductive IdentifierKind where
  | client
  | homeAccount
  | localAccount
  | package
  deriving DecidableEq, Repr, Inhabited

namespace IdentifierKind

/-- The label of a kind in messages. -/
def label : IdentifierKind → String
  | .client => "Client"
  | .homeAccount => "HomeAccount"
  | .localAccount => "LocalAccount"
  | .package => "Package"

/-- The most bytes an identifier of the kind may have. -/
def limit : IdentifierKind → Nat
  | .client => 128
  | .homeAccount => 256
  | .localAccount => 256
  | .package => 255

end IdentifierKind

/-- Which rule a text breaks. -/
inductive IdentifierProblem where
  | empty (kind : IdentifierKind)
  | blank (kind : IdentifierKind)
  | tooLong (kind : IdentifierKind)
  deriving DecidableEq, Repr, Inhabited

/-- The message of a broken rule. -/
def IdentifierProblem.message : IdentifierProblem → String
  | .empty kind => kind.label ++ " identifier cannot be empty."
  | .blank kind => kind.label ++ " identifier contains whitespace."
  | .tooLong kind => kind.label ++ " identifier exceeds " ++ toString kind.limit ++ " characters."

/-- The first rule that a text breaks as an identifier of a kind. -/
def IdentifierKind.check (kind : IdentifierKind) (text : String) : Option IdentifierProblem :=
  if text = "" then some (.empty kind)
  else if hasBlank text then some (.blank kind)
  else if kind.limit < text.utf8ByteSize then some (.tooLong kind)
  else none

/-- A text that breaks no rule of its kind. -/
structure Identifier (kind : IdentifierKind) where
  text : String
  accepted : kind.check text = none
  deriving DecidableEq

/-- The name of an application. -/
abbrev ClientId := Identifier .client
/-- The name of an account across tenants. -/
abbrev HomeAccountId := Identifier .homeAccount
/-- The name of an account within a tenant. -/
abbrev LocalAccountId := Identifier .localAccount
/-- The name of an installed package. -/
abbrev PackageName := Identifier .package

namespace Identifier

variable {kind : IdentifierKind}

/-- The identifier with the given text, or the first rule the text breaks. -/
def parse (kind : IdentifierKind) (text : String) : Except IdentifierProblem (Identifier kind) :=
  match h : kind.check text with
  | none => .ok ⟨text, h⟩
  | some problem => .error problem

/-- The identifier with its kind, for messages that show it as data. -/
def shown (id : Identifier kind) : String := kind.label ++ "(" ++ id.text ++ ")"

instance : Wire (Identifier kind) where
  encode id := .string id.text
  decode := Decoder.checked (parse kind) IdentifierProblem.message

/-- Reading accepts a text exactly if it breaks no rule. -/
theorem parse_eq_ok_iff {text : String} {id : Identifier kind} :
    parse kind text = .ok id ↔ id.text = text := by
  constructor
  · intro h
    unfold parse at h
    split at h
    · cases h; rfl
    · cases h
  · rintro rfl
    unfold parse
    split
    · rfl
    · rename_i problem h
      rw [id.accepted] at h
      cases h

end Identifier

end SignOn
