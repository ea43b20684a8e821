import Mathlib.Data.List.Basic
import SignOn.Proofs.Text.WhiteSpace

/-! # The words of a text

A text is taken apart at each blank, and the pieces that are not empty are its words. A piece has no
blank in it, and on either side of it the text ends or a blank stands (`mem_pieces_iff`), so it
cannot be made longer: the words of a text are its maximal parts without white space
(`mem_words_iff`). Texts without white space that are put in a row, a space between two of them, are
found again (`words_intercalate`). -/

namespace SignOn.Text

/-- The word is a part of the text. It is not empty, has no white space in it, and is in no longer
part of the text that has none. -/
def IsWordOf (word text : String) : Prop :=
  Unbroken word ∧ ∃ before after, text.toList = before ++ word.toList ++ after ∧
    ∀ left right, left <:+ before → right <+: after →
      (∀ c ∈ left ++ word.toList ++ right, c.toNat ∉ whiteSpace) → left = [] ∧ right = []

variable {c : Char} {w cs ds : List Char} {word text s t : String}

/-! ### Pieces -/

theorem pieces_eq_splitOnP (cs : List Char) : pieces cs = cs.splitOnP isBlank := by
  induction cs with
  | nil => rfl
  | cons c cs ih =>
    rw [List.splitOnP_cons_eq_if_modifyHead, pieces, ih]
    split
    · rfl
    · split
      · rename_i hnil
        exact absurd hnil (List.splitOnP_ne_nil isBlank cs)
      · rename_i hcons
        rw [hcons, List.modifyHead_cons]

theorem pieces_of_unbroken (h : ∀ c ∈ cs, isBlank c = false) : pieces cs = [cs] := by
  rw [pieces_eq_splitOnP, List.splitOnP_eq_singleton h]

theorem pieces_append_blank (hc : isBlank c = true) :
    pieces (cs ++ c :: ds) = pieces cs ++ pieces ds := by
  simp only [pieces_eq_splitOnP, List.splitOnP_append_cons cs ds hc]

/-- The first piece is what comes before the first blank, and each other piece stands between a
blank and the next one or the end. -/
theorem bordered_of_pieces {ws : List (List Char)} (h : pieces cs = w :: ws) :
    (∃ after, cs = w ++ after ∧ ∀ c ∈ after.head?, isBlank c = true) ∧
      ∀ v ∈ ws, ∃ before c after, cs = before ++ c :: (v ++ after) ∧ isBlank c = true ∧
        ∀ c ∈ after.head?, isBlank c = true := by
  induction cs generalizing w ws with
  | nil =>
    cases h
    exact ⟨⟨[], by simp⟩, by simp⟩
  | cons c cs ih =>
    obtain ⟨v, vs, hcs⟩ := List.exists_cons_of_ne_nil (pieces_ne_nil cs)
    obtain ⟨⟨after, hafter, hhead⟩, hrest⟩ := ih hcs
    have hlonger : ∀ v ∈ vs, ∃ before d after, c :: cs = before ++ d :: (v ++ after) ∧
        isBlank d = true ∧
        ∀ c ∈ after.head?, isBlank c = true := by
      intro u hu
      obtain ⟨before, d, after, heq, hd, hhead⟩ := hrest u hu
      exact ⟨c :: before, d, after, by rw [heq, List.cons_append], hd, hhead⟩
    -- a blank ends an empty piece, and any other character is put in front of the first piece of
    -- the rest
    rw [pieces, hcs] at h
    split at h
    · rename_i hc
      cases h
      refine ⟨⟨c :: cs, by simpa using hc⟩, fun u hu => ?_⟩
      rcases List.mem_cons.mp hu with rfl | hu
      · exact ⟨[], c, after, by rw [hafter, List.nil_append], hc, hhead⟩
      · exact hlonger u hu
    · cases h
      exact ⟨⟨after, by rw [hafter, List.cons_append], hhead⟩, hlonger⟩

/-- **The pieces of a text** are its parts without blanks that have a blank or the end of the text
on either side. -/
theorem mem_pieces_iff : w ∈ pieces cs ↔ (∀ c ∈ w, isBlank c = false) ∧
    ∃ before after, cs = before ++ w ++ after ∧ (∀ c ∈ before.getLast?, isBlank c = true) ∧
      ∀ c ∈ after.head?, isBlank c = true := by
  constructor
  · intro hw
    refine ⟨not_isBlank_of_mem_pieces hw, ?_⟩
    obtain ⟨v, vs, hcs⟩ := List.exists_cons_of_ne_nil (pieces_ne_nil cs)
    obtain ⟨⟨after, hafter, hhead⟩, hrest⟩ := bordered_of_pieces hcs
    rw [hcs] at hw
    rcases List.mem_cons.mp hw with rfl | hw
    · exact ⟨[], after, by simpa using hafter, by simp, hhead⟩
    · obtain ⟨before, c, after, heq, hc, hhead⟩ := hrest w hw
      exact ⟨before ++ [c], after, by simpa using heq, by simpa using hc, hhead⟩
  · rintro ⟨hw, before, after, rfl, hlast, hhead⟩
    have hfirst : w ∈ pieces (w ++ after) := by
      cases after with
      | nil => simp [pieces_of_unbroken hw]
      | cons c after => simp [pieces_append_blank (hhead c rfl), pieces_of_unbroken hw]
    rcases List.eq_nil_or_concat before with rfl | ⟨before, c, rfl⟩
    · exact hfirst
    · rw [List.concat_eq_append] at hlast ⊢
      have hc : isBlank c = true := hlast c List.getLast?_concat
      rw [List.append_assoc, List.append_assoc, List.singleton_append, pieces_append_blank hc]
      exact List.mem_append_right _ hfirst

/-! ### Words -/

/-- A part without white space cannot be made longer just if a blank or the end of the text is on
either side. -/
theorem isWordOf_iff : IsWordOf word text ↔ Unbroken word ∧
    ∃ before after, text.toList = before ++ word.toList ++ after ∧
      (∀ c ∈ before.getLast?, isBlank c = true) ∧ ∀ c ∈ after.head?, isBlank c = true := by
  refine and_congr_right fun hword => exists_congr fun before => exists_congr fun after =>
    and_congr_right fun _ => ⟨fun hmaximal => ⟨fun c hc => ?_, fun c hc => ?_⟩, ?_⟩
  -- a character beside the word that is no blank would make it longer
  · obtain ⟨shorter, rfl⟩ := List.getLast?_eq_some_iff.mp hc
    rw [isBlank_iff]
    by_contra hblank
    have hfree : ∀ d ∈ [c] ++ word.toList ++ [], d.toNat ∉ whiteSpace := by
      simpa using ⟨hblank, hword.2⟩
    exact List.cons_ne_nil _ _ (hmaximal [c] [] (List.suffix_append _ _) List.nil_prefix hfree).1
  · obtain ⟨rest, rfl⟩ := List.head?_eq_some_iff.mp hc
    rw [isBlank_iff]
    by_contra hblank
    have hfree : ∀ d ∈ [] ++ word.toList ++ [c], d.toNat ∉ whiteSpace := by
      simpa [or_imp, forall_and] using ⟨hword.2, hblank⟩
    exact List.cons_ne_nil _ _ (hmaximal [] [c] List.nil_suffix ⟨rest, rfl⟩ hfree).2
  · rintro ⟨hlast, hhead⟩ left right ⟨shorter, rfl⟩ ⟨rest, rfl⟩ hfree
    constructor
    · rcases List.eq_nil_or_concat left with rfl | ⟨left, c, rfl⟩
      · rfl
      · have hc : isBlank c = true := hlast c (by simp)
        exact absurd (isBlank_iff.mp hc) (hfree c (by simp))
    · cases right with
      | nil => rfl
      | cons c right =>
        have hc : isBlank c = true := hhead c rfl
        exact absurd (isBlank_iff.mp hc) (hfree c (by simp))

theorem unbroken_iff_not_isBlank :
    Unbroken word ↔ word ≠ "" ∧ ∀ c ∈ word.toList, isBlank c = false := by
  simp only [Unbroken, isBlank_eq_false_iff]

theorem mem_words_iff_pieces :
    word ∈ words text ↔ word ≠ "" ∧ word.toList ∈ pieces text.toList := by
  simp only [words, List.mem_map, List.mem_filter, Bool.not_eq_true', List.isEmpty_eq_false_iff]
  constructor
  · rintro ⟨w, ⟨hw, hne⟩, rfl⟩
    refine ⟨fun hempty => hne ?_, by rwa [String.toList_ofList]⟩
    rw [← String.toList_ofList (l := w), hempty, String.toList_empty]
  · rintro ⟨hne, hw⟩
    exact ⟨word.toList, ⟨hw, fun hempty => hne (String.toList_eq_nil_iff.mp hempty)⟩,
      String.ofList_toList⟩

/-- **The words of a text are its maximal parts without white space.** -/
theorem mem_words_iff : word ∈ words text ↔ IsWordOf word text := by
  rw [mem_words_iff_pieces, mem_pieces_iff, isWordOf_iff, unbroken_iff_not_isBlank, and_assoc]

theorem words_empty : words "" = [] := rfl

theorem words_of_unbroken (h : Unbroken s) : words s = [s] := by
  obtain ⟨hne, hfree⟩ := unbroken_iff_not_isBlank.mp h
  have hne' : s.toList ≠ [] := mt String.toList_eq_nil_iff.mp hne
  simp [words, pieces_of_unbroken hfree, hne']

theorem words_append_space : words (s ++ " " ++ t) = words s ++ words t := by
  have hsplit : (s ++ " " ++ t).toList = s.toList ++ ' ' :: t.toList := by simp
  rw [words, hsplit, pieces_append_blank (by decide), List.filter_append, List.map_append]
  rfl

/-- **Words in a row are found again.** -/
theorem words_intercalate {texts : List String} (h : ∀ s ∈ texts, Unbroken s) :
    words (" ".intercalate texts) = texts := by
  induction texts with
  | nil => rw [String.intercalate_nil, words_empty]
  | cons s texts ih =>
    have hs := words_of_unbroken (h s List.mem_cons_self)
    have hrest := ih fun t ht => h t (List.mem_cons_of_mem s ht)
    cases texts with
    | nil => rw [String.intercalate_singleton, hs]
    | cons t texts =>
      rw [String.intercalate_cons_cons, words_append_space, hs, hrest, List.singleton_append]

end SignOn.Text
