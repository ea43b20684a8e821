import SignOn.Json.Fault

/-! # Rows

A row is a list with one item for each of its parts, and the parts have no names in it. Each part
is taken from the front; a part that is not there is named in the fault. -/

namespace SignOn.Json

/-- What is left of a row, and how many items have been taken from it. -/
structure Row where
  taken : Nat
  rest : List Value

namespace Row

/-- Takes one item off the row; `name` is what the item stands for. -/
def next {α : Type} (name : String) (decode : Decoder α) : Row → Except Fault (α × Row)
  | ⟨_, []⟩ => .error (.here (.refused ("expected " ++ name)))
  | ⟨taken, v :: rest⟩ => do
    let a ← Except.below (.item taken) (decode v)
    .ok (a, ⟨taken + 1, rest⟩)

/-- Reads a whole row: `read` takes the parts, and nothing may follow them. -/
def decode {α : Type} (expected : String) (read : Row → Except Fault (α × Row)) : Decoder α
  | .array items => do
    match ← read ⟨0, items⟩ with
    | (a, ⟨_, []⟩) => .ok a
    | _ => .error (.here (.wrongLength items.length "fewer elements in array"))
  | v => Decoder.mismatch v expected

end Row

end SignOn.Json
