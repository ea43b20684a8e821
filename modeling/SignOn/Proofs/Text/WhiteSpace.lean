import SignOn.Text.Blank

/-! # White space

A blank is one of the characters that are white space (`isBlank_iff`), and the texts that
identifiers and scopes may be are those in which there is none, and which are not empty
(`unbroken_iff`). -/

namespace SignOn.Text

/-- The code points with the property White_Space. -/
def whiteSpace : List Nat :=
  [0x09, 0x0A, 0x0B, 0x0C, 0x0D, 0x20, 0x85, 0xA0, 0x1680, 0x2000, 0x2001, 0x2002, 0x2003, 0x2004,
    0x2005, 0x2006, 0x2007, 0x2008, 0x2009, 0x200A, 0x2028, 0x2029, 0x202F, 0x205F, 0x3000]

/-- The text is not empty and has no white space in it. -/
def Unbroken (s : String) : Prop := s ≠ "" ∧ ∀ c ∈ s.toList, c.toNat ∉ whiteSpace

theorem isBlank_iff {c : Char} : isBlank c = true ↔ c.toNat ∈ whiteSpace := by
  simp only [isBlank, blankRanges, whiteSpace, List.any_cons, List.any_nil, Bool.or_false,
    Bool.or_eq_true, Bool.and_eq_true, decide_eq_true_eq, List.mem_cons, List.not_mem_nil, or_false]
  omega

theorem isBlank_eq_false_iff {c : Char} : isBlank c = false ↔ c.toNat ∉ whiteSpace := by
  rw [← isBlank_iff, Bool.not_eq_true]

theorem hasBlank_iff {s : String} : hasBlank s = true ↔ ∃ c ∈ s.toList, c.toNat ∈ whiteSpace := by
  rw [hasBlank, List.any_eq_true]
  simp only [isBlank_iff]

theorem unbroken_iff {s : String} : Unbroken s ↔ s ≠ "" ∧ hasBlank s = false := by
  rw [Unbroken, hasBlank, List.any_eq_false]
  simp only [isBlank_iff]

end SignOn.Text
