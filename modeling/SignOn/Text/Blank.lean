/-! # Blank characters

A blank is a character with the Unicode property White_Space. Identifiers and scopes hold no blank,
and a written list of scopes is taken apart at blanks, so both read the one table below. -/

namespace SignOn.Text

/-- The code points with the property White_Space, as ranges with both ends included. -/
def blankRanges : List (Nat × Nat) :=
  [(0x09, 0x0D), (0x20, 0x20), (0x85, 0x85), (0xA0, 0xA0), (0x1680, 0x1680), (0x2000, 0x200A),
    (0x2028, 0x2029), (0x202F, 0x202F), (0x205F, 0x205F), (0x3000, 0x3000)]

/-- Is the code point of `c` in one of the ranges of `blankRanges`? -/
def isBlank (c : Char) : Bool :=
  blankRanges.any fun range => range.1 ≤ c.toNat && c.toNat ≤ range.2

/-- Does the text hold a blank? -/
def hasBlank (s : String) : Bool := s.toList.any isBlank

/-- The pieces between the blanks; two blanks in a row have an empty piece between them. -/
def pieces : List Char → List (List Char)
  | [] => [[]]
  | c :: cs =>
    if isBlank c then [] :: pieces cs
    else
      match pieces cs with
      | [] => [[c]]
      | w :: ws => (c :: w) :: ws

/-- The maximal blank-free parts of a text, in order. -/
def words (s : String) : List String :=
  ((pieces s.toList).filter fun w => !w.isEmpty).map String.ofList

/-! ### Small facts -/

theorem pieces_ne_nil (cs : List Char) : pieces cs ≠ [] := by
  cases cs with
  | nil => simp [pieces]
  | cons c cs =>
    unfold pieces
    split
    · simp
    · split <;> simp

/-- No piece holds a blank. -/
theorem not_isBlank_of_mem_pieces {cs w : List Char} (hw : w ∈ pieces cs) :
    ∀ c ∈ w, isBlank c = false := by
  induction cs generalizing w with
  | nil => simp_all [pieces]
  | cons d ds ih =>
    unfold pieces at hw
    split at hw
    · rcases List.mem_cons.mp hw with rfl | hw
      · simp
      · exact ih hw
    · rename_i hd
      split at hw
      · rename_i h; exact absurd h (pieces_ne_nil ds)
      · rename_i v vs h
        rcases List.mem_cons.mp hw with rfl | hw
        · intro c hc
          rcases List.mem_cons.mp hc with rfl | hc
          · simpa using hd
          · exact ih (w := v) (by simp [h]) c hc
        · exact ih (by simp [h, hw])

end SignOn.Text
