import SignOn.Json.Form
import SignOn.Text.Blank
import SignOn.Digest.Sha256
import SignOn.Digest.Base64

/-! # Scope sets

The permissions a token is asked for. A scope is a text that is not empty and holds no blank; a set
holds each scope once, in ascending order of bytes. Two lists with the same scopes, in whatever
order and however often, are so the same set. The order of characters by code point is the order of
their bytes, and is the one used here. -/

namespace SignOn

open Json Text

/-- Why a list of texts is no scope set. -/
inductive ScopeProblem where
  | empty
  | blank (scope : String)
  deriving DecidableEq, Repr, Inhabited

/-- The message of a problem. -/
def ScopeProblem.message : ScopeProblem → String
  | .empty => "Scope entries cannot be empty."
  | .blank scope => "Scope contains whitespace: " ++ scope ++ "."

/-- What is wrong with one scope. -/
def ScopeProblem.of? (scope : String) : Option ScopeProblem :=
  if scope = "" then some .empty else if hasBlank scope then some (.blank scope) else none

/-- Scopes in strictly ascending order, each of them well formed. -/
structure ScopeSet where
  scopes : List String
  ascending : scopes.Pairwise (· < ·)
  wellFormed : ∀ s ∈ scopes, ScopeProblem.of? s = none

namespace ScopeSet

instance : DecidableEq ScopeSet := fun a b =>
  if h : a.scopes = b.scopes then isTrue (by cases a; cases b; simp_all)
  else isFalse fun e => h (by rw [e])

/-! ### Building -/

/-- The list with one more scope, put where the order wants it; one that is there stays alone. -/
def insertScope (s : String) : List String → List String
  | [] => [s]
  | t :: ts => if s < t then s :: t :: ts else if s = t then t :: ts else t :: insertScope s ts

theorem mem_insertScope {s x : String} {ts : List String} :
    x ∈ insertScope s ts ↔ x = s ∨ x ∈ ts := by
  induction ts with
  | nil => simp [insertScope]
  | cons t ts ih =>
    unfold insertScope
    split
    · simp
    · split
      · rename_i h; subst h; simp
      · simp only [List.mem_cons, ih]
        constructor
        · rintro (h | h | h) <;> simp [h]
        · rintro (h | h | h) <;> simp [h]

theorem pairwise_insertScope {s : String} {ts : List String} (h : ts.Pairwise (· < ·)) :
    (insertScope s ts).Pairwise (· < ·) := by
  induction ts with
  | nil => simp [insertScope]
  | cons t ts ih =>
    have ht := List.pairwise_cons.mp h
    unfold insertScope
    split
    · rename_i hs
      refine List.pairwise_cons.mpr ⟨fun x hx => ?_, h⟩
      rcases List.mem_cons.mp hx with rfl | hx
      · exact hs
      · exact String.lt_trans hs (ht.1 x hx)
    · split
      · exact h
      · rename_i hlt hne
        refine List.pairwise_cons.mpr ⟨fun x hx => ?_, ih ht.2⟩
        rcases mem_insertScope.mp hx with rfl | hx
        · exact Std.lt_of_le_of_ne (String.not_lt.mp hlt) fun e => hne e.symm
        · exact ht.1 x hx

/-- The first thing wrong with a list of texts. -/
def firstProblem (texts : List String) : Option ScopeProblem := texts.findSome? ScopeProblem.of?

/-- The set with no scope. -/
def empty : ScopeSet := ⟨[], List.Pairwise.nil, by simp⟩

instance : Inhabited ScopeSet := ⟨empty⟩

/-- The set with one more scope. -/
def insert (set : ScopeSet) (s : String) (h : ScopeProblem.of? s = none) : ScopeSet where
  scopes := insertScope s set.scopes
  ascending := pairwise_insertScope set.ascending
  wellFormed x hx := by
    rcases mem_insertScope.mp hx with rfl | hx
    · exact h
    · exact set.wellFormed x hx

/-- The set of well formed scopes added to another set. -/
def insertAll (set : ScopeSet) : (texts : List String) →
    (∀ s ∈ texts, ScopeProblem.of? s = none) → ScopeSet
  | [], _ => set
  | s :: rest, h => insertAll (set.insert s (h s (by simp))) rest fun x hx => h x (by simp [hx])

/-- The set of the given scopes, or the first thing wrong with them. -/
def ofList (texts : List String) : Except ScopeProblem ScopeSet :=
  match h : firstProblem texts with
  | some problem => .error problem
  | none => .ok (empty.insertAll texts (by simpa [firstProblem] using h))

/-- The set written in a text: nothing at all is the empty set, and blanks alone are an error. -/
def parse (text : String) : Except ScopeProblem ScopeSet :=
  if text = "" then .ok empty
  else if text.toList.all isBlank then .error .empty
  else ofList (words text)

/-! ### Asking -/

/-- The scopes that are added to every request and so say nothing about what a token is good for. -/
def reserved : List String := ["offline_access", "openid", "profile"]

/-- How many scopes there are. -/
def size (set : ScopeSet) : Nat := set.scopes.length

/-- Is there no scope? -/
def isEmpty (set : ScopeSet) : Bool := set.scopes.isEmpty

/-- Is the scope in a list that is in ascending order? It is compared with the one in the middle,
and looked for in one of the halves if it is not that one. -/
def search (s : String) (scopes : List String) : Bool :=
  match h : scopes.drop (scopes.length / 2) with
  | [] => false
  | t :: above =>
    if s = t then true
    else if s < t then search s (scopes.take (scopes.length / 2))
    else search s above
termination_by scopes.length
decreasing_by
  all_goals
    have hlength := congrArg List.length h
    simp only [List.length_drop, List.length_cons, List.length_take] at hlength ⊢
    omega

/-- Is the scope in the set? -/
def contains (set : ScopeSet) (s : String) : Bool := search s set.scopes

/-- Is every scope of the other set, reserved ones aside, in this set? -/
def covers (set other : ScopeSet) : Bool :=
  (other.scopes.filter fun s => !reserved.contains s).all set.contains

/-- The scopes of both sets. -/
def union (a b : ScopeSet) : ScopeSet := a.insertAll b.scopes b.wellFormed

/-- The scopes in a row, a space between two of them. -/
def normalized (set : ScopeSet) : String := " ".intercalate set.scopes

/-- A short text that stands for the set. -/
def fingerprint (set : ScopeSet) : String :=
  Digest.base64 (Digest.sha256 set.normalized.toUTF8.toList)

/-- The set with its name, for messages that show it as data. -/
def shown (set : ScopeSet) : String := "ScopeSet(" ++ quotedList set.scopes ++ ")"

instance : Wire ScopeSet where
  encode set := Wire.encode set.scopes
  decode v := do
    let texts ← Decoder.list Decoder.string v
    match ofList texts with
    | .ok set => .ok set
    | .error e => .error (.here (.refused e.message))

end ScopeSet

/-- The form of a problem that names a scope. -/
def ScopeProblem.blankForm : Form ScopeProblem := ScopeProblem.blank <$> Form.required "scope"

instance : Wire ScopeProblem where
  encode
    | .empty => .string "Empty"
    | .blank scope => .object [("ContainsWhitespace", .object [("scope", .string scope)])]
  decode := Decoder.variant ["Empty", "ContainsWhitespace"] fun name inner =>
    if name = "Empty" then Decoder.noContent name .empty inner
    else Decoder.variantRecord name ScopeProblem.blankForm inner

end SignOn
