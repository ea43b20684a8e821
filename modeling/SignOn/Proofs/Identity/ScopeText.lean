import SignOn.Proofs.Digest.Collision
import SignOn.Proofs.Identity.ScopeSet
import SignOn.Proofs.Text.Words

/-! # Scope sets as texts

A scope set is written as its scopes in a row. The words of that text are the scopes of the set
(`words_normalized`), so the set is read back from it (`parse_normalized`), and sets are told apart
by their texts (`normalized_injective`) and by their fingerprints, unless the digests of their texts
collide (`fingerprint_eq_iff`). Any other text is read as the set of its words, if it is not made up
of white space alone (`parse_refused_or_read`). `text_round_trip` puts this together. -/

namespace SignOn

open Text Digest

namespace ScopeSet

/-- A text with its scopes in order, each of them once: what is written of the set it is read as. -/
def tidied (text : String) : Except ScopeProblem String := do
  let set ← parse text
  return set.normalized

variable {a b : ScopeSet} {text : String}

/-! ### Reading -/

theorem parse_of_blank (hne : text ≠ "") (hblank : ∀ c ∈ text.toList, c.toNat ∈ whiteSpace) :
    parse text = .error .empty := by
  have hall : text.toList.all isBlank = true := by
    simpa only [List.all_eq_true, isBlank_iff] using hblank
  rw [parse, if_neg hne, if_pos hall]

theorem parse_of_not_blank (h : ∃ c ∈ text.toList, c.toNat ∉ whiteSpace) :
    parse text = ofList (words text) := by
  obtain ⟨c, hc, hfree⟩ := h
  have hne : text ≠ "" := by
    rintro rfl
    simp at hc
  have hall : ¬ text.toList.all isBlank = true := by
    rw [List.all_eq_true]
    exact fun hblank => hfree (isBlank_iff.mp (hblank c hc))
  rw [parse, if_neg hne, if_neg hall]

/-- **A text is refused or read as the set of its words.** It is refused if there is nothing but
white space in it, though not if there is nothing in it at all. -/
theorem parse_refused_or_read (text : String) :
    (text ≠ "" ∧ (∀ c ∈ text.toList, c.toNat ∈ whiteSpace) ∧ parse text = .error .empty) ∨
      ((text = "" ∨ ∃ c ∈ text.toList, c.toNat ∉ whiteSpace) ∧
        ∃ a, parse text = .ok a ∧ ∀ word, word ∈ a.scopes ↔ IsWordOf word text) := by
  by_cases hempty : text = ""
  · subst hempty
    refine .inr ⟨.inl rfl, empty, rfl, fun word => ?_⟩
    rw [← mem_words_iff, words_empty, empty]
  · by_cases hblank : ∀ c ∈ text.toList, c.toNat ∈ whiteSpace
    · exact .inl ⟨hempty, hblank, parse_of_blank hempty hblank⟩
    · have hsome : ∃ c ∈ text.toList, c.toNat ∉ whiteSpace := by simpa using hblank
      obtain ⟨a, ha⟩ := exists_ofList_iff.mpr fun word hword => (mem_words_iff.mp hword).1
      refine .inr ⟨.inr hsome, a, (parse_of_not_blank hsome).trans ha, fun word => ?_⟩
      rw [mem_of_ofList ha, mem_words_iff]

/-! ### Writing -/

theorem words_normalized (a : ScopeSet) : words a.normalized = a.scopes :=
  words_intercalate fun scope hscope => ScopeProblem.of?_eq_none_iff.mp (a.wellFormed scope hscope)

/-- **A set is read back from its text.** -/
theorem parse_normalized (a : ScopeSet) : parse a.normalized = .ok a := by
  have hwords : ∀ word, IsWordOf word a.normalized ↔ word ∈ a.scopes := fun word => by
    rw [← mem_words_iff, words_normalized]
  rcases parse_refused_or_read a.normalized with ⟨hne, hblank, -⟩ | ⟨-, b, hb, hmem⟩
  · -- such a text has no words, so the set is empty, and so is its text
    have hnone : a.scopes = [] := by
      refine List.eq_nil_iff_forall_not_mem.mpr fun scope hscope => ?_
      obtain ⟨⟨hscopene, hfree⟩, before, after, heq, -⟩ := (hwords scope).mpr hscope
      obtain ⟨c, hc⟩ := List.exists_mem_of_ne_nil _ (mt String.toList_eq_nil_iff.mp hscopene)
      exact hfree c hc (hblank c (by simp [heq, hc]))
    rw [normalized, hnone, String.intercalate_nil] at hne
    exact absurd rfl hne
  · rw [hb, eq_iff.mpr fun scope => (hmem scope).trans (hwords scope)]

theorem normalized_injective : Function.Injective normalized := fun a b h =>
  Except.ok.inj ((parse_normalized a).symm.trans (h ▸ parse_normalized b))

theorem fingerprint_eq_iff :
    a.fingerprint = b.fingerprint ↔ a = b ∨ Collide (bytes a.normalized) (bytes b.normalized) := by
  rw [fingerprint, fingerprint, base64_sha256_eq_iff, toList_toUTF8, toList_toUTF8,
    bytes_injective.eq_iff, normalized_injective.eq_iff]

theorem tidied_of_ok (h : parse text = .ok a) : tidied text = .ok a.normalized := by
  rw [tidied, h]
  rfl

theorem tidied_of_error {problem : ScopeProblem} (h : parse text = .error problem) :
    tidied text = .error problem := by
  rw [tidied, h]
  rfl

/-- What is tidied already stays as it is, and what is refused is refused for the same reason. -/
theorem tidied_tidied (text : String) : (do tidied (← tidied text)) = tidied text := by
  cases h : parse text with
  | error problem =>
    rw [tidied_of_error h]
    rfl
  | ok a =>
    rw [tidied_of_ok h]
    exact tidied_of_ok (parse_normalized a)

/-- **Scope sets and texts.** A set is read back from what is written of it, so different sets have
different texts, and different fingerprints as well, unless the digests of the two texts collide. A
text is refused just if it is not empty and there is nothing but white space in it, and is else read
as the set of its maximal parts without white space. So what is written of the set that a text is
read as is not changed by reading and writing it once more. -/
theorem text_round_trip :
    (∀ a : ScopeSet, parse a.normalized = .ok a) ∧
    Function.Injective normalized ∧
    (∀ a b : ScopeSet, a.fingerprint = b.fingerprint ↔
      a = b ∨ Collide (bytes a.normalized) (bytes b.normalized)) ∧
    (∀ text,
      (text ≠ "" ∧ (∀ c ∈ text.toList, c.toNat ∈ whiteSpace) ∧ parse text = .error .empty) ∨
        ((text = "" ∨ ∃ c ∈ text.toList, c.toNat ∉ whiteSpace) ∧
          ∃ a, parse text = .ok a ∧ ∀ word, word ∈ a.scopes ↔ IsWordOf word text)) ∧
    ∀ text, (do tidied (← tidied text)) = tidied text :=
  ⟨parse_normalized, normalized_injective, fun _ _ => fingerprint_eq_iff, parse_refused_or_read,
    tidied_tidied⟩

/-- Two scopes of a mailbox, one of them named twice and with white space of several kinds around
them, are the same set as the two in order, since the same is written of both. -/
theorem text_round_trip_mailbox :
    ∃ a b, parse "\tuser.read\u00a0 mail.read user.read\n" = .ok a ∧
      parse "mail.read user.read" = .ok b ∧
      a.normalized = b.normalized ∧ a = b ∧ "mail.read" ∈ a.scopes ∧ "mail" ∉ a.scopes := by
  obtain ⟨-, injective, -, read, -⟩ := text_round_trip
  obtain ⟨-, hblank, -⟩ | ⟨-, a, ha, hmem⟩ := read "\tuser.read\u00a0 mail.read user.read\n"
  · exact absurd (hblank 'u' (by decide)) (by decide)
  obtain ⟨-, hblank, -⟩ | ⟨-, b, hb, -⟩ := read "mail.read user.read"
  · exact absurd (hblank 'u' (by decide)) (by decide)
  have hwritten : a.normalized = "mail.read user.read" :=
    Except.ok.inj ((tidied_of_ok ha).symm.trans (by rfl))
  have hwritten' : b.normalized = "mail.read user.read" :=
    Except.ok.inj ((tidied_of_ok hb).symm.trans (by rfl))
  simp only [← mem_words_iff] at hmem
  refine ⟨a, b, ha, hb, hwritten.trans hwritten'.symm, injective (hwritten.trans hwritten'.symm),
    ?_, ?_⟩
  · exact (hmem _).mpr (by decide)
  · exact mt (hmem _).mp (by decide)

end ScopeSet

end SignOn
