import SignOn.Json.Decimal

/-! # JSON values

The tree a broker exchanges, and its text on one line. An object is a list of named members; every
function here that builds one keeps the members in ascending order of their names, which is the
order in which they are written and read. -/

namespace SignOn.Json

/-- A whole number, or a number written with a fraction or an exponent. -/
inductive Number where
  | whole (i : Int)
  | real (d : Decimal)
  deriving DecidableEq, Repr, Inhabited

/-- The number as a JSON literal. -/
def Number.literal : Number → String
  | .whole i => toString i
  | .real d => d.literal

/-- A JSON value. -/
inductive Value where
  | null
  | bool (b : Bool)
  | number (n : Number)
  | string (s : String)
  | array (items : List Value)
  | object (members : List (String × Value))
  deriving Repr, Inhabited

namespace Value

/-! ### Equality -/

mutual

/-- Are the two values the same tree? -/
def same : Value → Value → Bool
  | .null, .null => true
  | .bool a, .bool b => a == b
  | .number a, .number b => a == b
  | .string a, .string b => a == b
  | .array a, .array b => sameItems a b
  | .object a, .object b => sameMembers a b
  | _, _ => false

/-- Are the two lists of values the same, item by item? -/
def sameItems : List Value → List Value → Bool
  | [], [] => true
  | a :: as, b :: bs => same a b && sameItems as bs
  | _, _ => false

/-- Are the two lists of members the same, in names and in values? -/
def sameMembers : List (String × Value) → List (String × Value) → Bool
  | [], [] => true
  | (k, a) :: as, (l, b) :: bs => k == l && (same a b && sameMembers as bs)
  | _, _ => false

end

mutual

theorem eq_of_same : ∀ {a b : Value}, same a b = true → a = b
  | .null, b, h => by cases b <;> simp_all [same]
  | .bool _, b, h => by cases b <;> simp_all [same]
  | .number _, b, h => by cases b <;> simp_all [same]
  | .string _, b, h => by cases b <;> simp_all [same]
  | .array as, b, h => by
    cases b <;> simp only [same, Bool.false_eq_true] at h
    rw [eq_of_sameItems h]
  | .object as, b, h => by
    cases b <;> simp only [same, Bool.false_eq_true] at h
    rw [eq_of_sameMembers h]

theorem eq_of_sameItems : ∀ {as bs : List Value}, sameItems as bs = true → as = bs
  | [], bs, h => by cases bs <;> simp_all [sameItems]
  | a :: as, [], h => by simp [sameItems] at h
  | a :: as, b :: bs, h => by
    simp only [sameItems, Bool.and_eq_true] at h
    rw [eq_of_same h.1, eq_of_sameItems h.2]

theorem eq_of_sameMembers : ∀ {as bs : List (String × Value)}, sameMembers as bs = true → as = bs
  | [], bs, h => by cases bs <;> simp_all [sameMembers]
  | (_, _) :: _, [], h => by simp [sameMembers] at h
  | (k, a) :: as, (l, b) :: bs, h => by
    simp only [sameMembers, Bool.and_eq_true, beq_iff_eq] at h
    rw [h.1, eq_of_same h.2.1, eq_of_sameMembers h.2.2]

end

mutual

theorem same_refl : ∀ a : Value, same a a = true
  | .null => rfl
  | .bool _ => by simp [same]
  | .number _ => by simp [same]
  | .string _ => by simp [same]
  | .array as => by simp [same, sameItems_refl as]
  | .object as => by simp [same, sameMembers_refl as]

theorem sameItems_refl : ∀ as : List Value, sameItems as as = true
  | [] => rfl
  | a :: as => by simp [sameItems, same_refl a, sameItems_refl as]

theorem sameMembers_refl : ∀ as : List (String × Value), sameMembers as as = true
  | [] => rfl
  | (_, a) :: as => by simp [sameMembers, same_refl a, sameMembers_refl as]

end

instance : DecidableEq Value := fun a b =>
  if h : same a b then isTrue (eq_of_same h)
  else isFalse fun e => h (by rw [e]; exact same_refl b)

/-! ### Members -/

/-- The members with one of them set, its place found by the order of names. -/
def insertMember (name : String) (value : Value) : List (String × Value) → List (String × Value)
  | [] => [(name, value)]
  | (k, v) :: rest =>
    if name < k then (name, value) :: (k, v) :: rest
    else if name = k then (name, value) :: rest
    else (k, v) :: insertMember name value rest

/-- The members in ascending order of names; the last one of a name stays. -/
def orderMembers (members : List (String × Value)) : List (String × Value) :=
  members.foldl (fun acc m => insertMember m.1 m.2 acc) []

/-- An object of the given members. -/
def ofMembers (members : List (String × Value)) : Value := .object (orderMembers members)

theorem lookup_insertMember_self (name : String) (value : Value)
    (members : List (String × Value)) :
    (insertMember name value members).lookup name = some value := by
  induction members with
  | nil => simp [insertMember]
  | cons m rest ih =>
    obtain ⟨k, v⟩ := m
    simp only [insertMember]
    split
    · simp
    · split
      · simp
      · rename_i h
        have : (name == k) = false := by simpa using h
        simp [List.lookup_cons, this, ih]

theorem lookup_insertMember_of_ne {name other : String} (value : Value)
    (members : List (String × Value)) (h : other ≠ name) :
    (insertMember name value members).lookup other = members.lookup other := by
  have ho : (other == name) = false := by simpa using h
  induction members with
  | nil => simp [insertMember, List.lookup_cons, ho]
  | cons m rest ih =>
    obtain ⟨k, v⟩ := m
    simp only [insertMember]
    split
    · simp [List.lookup_cons, ho]
    · split
      · rename_i e
        subst e
        simp [List.lookup_cons, ho]
      · simp only [List.lookup_cons, ih]

/-! ### Text -/

/-- The four hexadecimal digits of a number below 65536. -/
def hex4 (n : Nat) : String :=
  let digits := Nat.toDigits 16 n
  String.ofList (List.replicate (4 - digits.length) '0' ++ digits)

/-- One character inside a JSON string. -/
def escapedChar (c : Char) : String :=
  if c = '"' then "\\\""
  else if c = '\\' then "\\\\"
  else if c = '\n' then "\\n"
  else if c = '\r' then "\\r"
  else if c = '\t' then "\\t"
  else if c = '\x08' then "\\b"
  else if c = '\x0c' then "\\f"
  else if c.toNat < 32 then "\\u" ++ hex4 c.toNat
  else String.singleton c

/-- A text as a JSON string. -/
def escaped (s : String) : String := "\"" ++ String.join (s.toList.map escapedChar) ++ "\""

mutual

/-- The value on one line, without spaces. -/
def compact : Value → String
  | .null => "null"
  | .bool b => if b then "true" else "false"
  | .number n => n.literal
  | .string s => escaped s
  | .array items => "[" ++ ",".intercalate (compactItems items) ++ "]"
  | .object members => "\x7b" ++ ",".intercalate (compactMembers members) ++ "\x7d"

/-- The texts of the items of an array. -/
def compactItems : List Value → List String
  | [] => []
  | v :: vs => compact v :: compactItems vs

/-- The texts of the members of an object. -/
def compactMembers : List (String × Value) → List String
  | [] => []
  | (k, v) :: ms => (escaped k ++ ":" ++ compact v) :: compactMembers ms

end

/-! ### Parts -/

/-- An optional value; null if there is none. -/
def ofOption {α : Type} (record : α → Value) : Option α → Value
  | none => .null
  | some a => record a

/-- A list as a value. -/
def ofList {α : Type} (record : α → Value) (xs : List α) : Value :=
  .array (xs.map record)

/-- A number of things as a value. -/
def count (n : Nat) : Value := .number (.whole n)

/-- The text of a string value. -/
def string? : Value → Option String
  | .string s => some s
  | _ => none

end Value

end SignOn.Json
