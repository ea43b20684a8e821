import Mathlib.Data.List.Nodup
import SignOn.Identity.ScopeSet
import SignOn.Proofs.Text.ByteOrder
import SignOn.Proofs.Text.WhiteSpace

/-! # Scope sets are told by their members

A scope set is a list in ascending order. So it holds each of its scopes once (`scopes_nodup`), two
sets with the same scopes are the same list (`eq_iff`), and a scope that is looked for by halves is
found if it is there (`search_iff`). Whatever is asked of sets comes down to what is a member of
them:

* `ofList_eq_error_iff`: a list gives no set if one of its texts is no scope, and the first such
  text is told.
* `mem_of_ofList`, `ofList_append`: else it gives the set of its texts, and two lists one after the
  other the union of their sets.
* `covers_iff`: a set covers another one that has no members beside its own but reserved ones.

`told_by_members` puts this together. -/

namespace SignOn

open Text

namespace ScopeProblem

variable {scope : String} {problem : ScopeProblem}

theorem of?_eq_none_iff : of? scope = none ↔ Unbroken scope := by
  rw [unbroken_iff, of?]
  split
  · simp [*]
  · split <;> simp [*]

/-- What is wrong with a text that is no scope: it is empty, or it has white space in it. -/
theorem of?_eq_some_iff : of? scope = some problem ↔
    (scope = "" ∧ problem = .empty) ∨
    ((∃ c ∈ scope.toList, c.toNat ∈ whiteSpace) ∧ problem = .blank scope) := by
  rw [← hasBlank_iff, of?]
  split
  · rename_i hempty
    have hnone : hasBlank "" = false := rfl
    simp [hempty, hnone, @eq_comm _ problem]
  · rename_i hne
    split
    · rename_i hblank
      simp [hne, hblank, @eq_comm _ problem]
    · rename_i hblank
      simp [hne, hblank]

end ScopeProblem

namespace ScopeSet

variable {a b c : ScopeSet} {texts more : List String} {s : String}

/-! ### Ascending lists -/

theorem scopes_nodup (s : ScopeSet) : s.scopes.Nodup :=
  s.ascending.imp fun h he => absurd (he ▸ h) (String.lt_irrefl _)

/-- Sets are equal if the same scopes are in them. -/
theorem eq_iff {s t : ScopeSet} : s = t ↔ ∀ x, x ∈ s.scopes ↔ x ∈ t.scopes := by
  refine ⟨fun h x => by rw [h], fun h => ?_⟩
  have hperm : s.scopes.Perm t.scopes :=
    (List.perm_ext_iff_of_nodup s.scopes_nodup t.scopes_nodup).mpr h
  have heq : s.scopes = t.scopes := hperm.eq_of_pairwise
    (fun a b _ _ hab hba => absurd (String.lt_trans hab hba) (String.lt_irrefl _)) s.ascending
    t.ascending
  cases s
  cases t
  simp_all

/-- The lower half, the middle and the upper half of an ascending list, and how they are ordered. -/
theorem halves {scopes above : List String} {t : String} (ascending : scopes.Pairwise (· < ·))
    (hdrop : scopes.drop (scopes.length / 2) = t :: above) :
    (s ∈ scopes ↔ s ∈ scopes.take (scopes.length / 2) ∨ s = t ∨ s ∈ above) ∧
      (scopes.take (scopes.length / 2)).Pairwise (· < ·) ∧ above.Pairwise (· < ·) ∧
      (∀ x ∈ scopes.take (scopes.length / 2), x < t) ∧ ∀ x ∈ above, t < x := by
  have hsplit : scopes.take (scopes.length / 2) ++ t :: above = scopes := by
    rw [← hdrop, List.take_append_drop]
  have hmem : s ∈ scopes.take (scopes.length / 2) ++ t :: above ↔
      s ∈ scopes.take (scopes.length / 2) ∨ s = t ∨ s ∈ above := by
    rw [List.mem_append, List.mem_cons]
  have hpairwise : (scopes.take (scopes.length / 2) ++ t :: above).Pairwise (· < ·) := by
    rwa [hsplit]
  obtain ⟨hbelow, hupper, hacross⟩ := List.pairwise_append.mp hpairwise
  obtain ⟨habove, hupper⟩ := List.pairwise_cons.mp hupper
  rw [hsplit] at hmem
  exact ⟨hmem, hbelow, hupper, fun x hx => hacross x hx t List.mem_cons_self, habove⟩

/-- **What is looked for by halves is found if it is there.** The half that is left out holds only
scopes below the middle one, or only scopes above it. -/
theorem search_iff {scopes : List String} (ascending : scopes.Pairwise (· < ·)) :
    search s scopes = true ↔ s ∈ scopes := by
  fun_induction search s scopes with
  | case1 scopes hdrop =>
    have hlength := List.drop_eq_nil_iff.mp hdrop
    have hempty : scopes = [] := List.length_eq_zero_iff.mp (by omega)
    simp [hempty]
  | case2 scopes above hdrop =>
    exact iff_of_true rfl ((halves ascending hdrop).1.mpr (.inr (.inl rfl)))
  | case3 scopes t above hdrop hne hlt ih =>
    obtain ⟨hmem, hbelow, -, -, habove⟩ := halves (s := s) ascending hdrop
    rw [ih hbelow, hmem]
    refine ⟨.inl, fun h => h.resolve_right ?_⟩
    rintro (heq | hs)
    · exact hne heq
    · exact String.lt_irrefl _ (String.lt_trans hlt (habove s hs))
  | case4 scopes t above hdrop hne hnot ih =>
    obtain ⟨hmem, -, hupper, hbelow, -⟩ := halves (s := s) ascending hdrop
    rw [ih hupper, hmem]
    refine ⟨fun h => .inr (.inr h), fun h => ?_⟩
    exact (h.resolve_left fun hs => hnot (hbelow s hs)).resolve_left hne

theorem contains_iff : a.contains s = true ↔ s ∈ a.scopes := search_iff a.ascending

/-! ### Sets of texts -/

theorem mem_insertAll {texts : List String} : ∀ (s : ScopeSet)
    (h : ∀ x ∈ texts, ScopeProblem.of? x = none) (x : String),
    x ∈ (s.insertAll texts h).scopes ↔ x ∈ s.scopes ∨ x ∈ texts := by
  induction texts with
  | nil => intro s h x; simp [insertAll]
  | cons y texts ih =>
    intro s h x
    rw [insertAll, ih, insert, mem_insertScope, List.mem_cons]
    constructor
    · rintro ((h | h) | h) <;> simp [h]
    · rintro (h | h | h) <;> simp [h]

/-- The scopes of a set are those it was given. -/
theorem mem_of_ofList {texts : List String} {s : ScopeSet} (h : ofList texts = .ok s) (x : String) :
    x ∈ s.scopes ↔ x ∈ texts := by
  unfold ofList at h
  split at h
  · cases h
  · cases h
    rw [mem_insertAll]
    simp [empty]

/-- **Neither order nor repetition counts** in what a scope set is made of. -/
theorem ofList_eq_iff {xs ys : List String} {s t : ScopeSet} (hs : ofList xs = .ok s)
    (ht : ofList ys = .ok t) : s = t ↔ ∀ x, x ∈ xs ↔ x ∈ ys := by
  rw [eq_iff]
  exact forall_congr' fun x => by rw [mem_of_ofList hs, mem_of_ofList ht]

theorem exists_ofList {texts : List String} (h : ∀ s ∈ texts, ScopeProblem.of? s = none) :
    ∃ set, ofList texts = .ok set := by
  have hproblem : firstProblem texts = none := List.findSome?_eq_none_iff.mpr h
  unfold ofList
  split
  · rename_i problem hsome
    cases hproblem.symm.trans hsome
  · exact ⟨_, rfl⟩

/-- **A list gives no set** if one of its texts is no scope, and what is told is what is wrong with
the first such text. -/
theorem ofList_eq_error_iff {problem : ScopeProblem} : ofList texts = .error problem ↔
    ∃ before s after, texts = before ++ s :: after ∧ (∀ x ∈ before, Unbroken x) ∧
      ((s = "" ∧ problem = .empty) ∨
        ((∃ c ∈ s.toList, c.toNat ∈ whiteSpace) ∧ problem = .blank s)) := by
  have hfirst : ofList texts = .error problem ↔ firstProblem texts = some problem := by
    unfold ofList
    split
    · rename_i problem' hsome
      rw [hsome, Except.error.injEq, Option.some.injEq]
    · rename_i hnone
      refine iff_of_false (fun h => nomatch h) fun hsome => ?_
      cases hnone.symm.trans hsome
  rw [hfirst, firstProblem, List.findSome?_eq_some_iff]
  simp only [ScopeProblem.of?_eq_some_iff, ScopeProblem.of?_eq_none_iff, and_comm]

theorem exists_ofList_iff : (∃ set, ofList texts = .ok set) ↔ ∀ x ∈ texts, Unbroken x := by
  simp only [← ScopeProblem.of?_eq_none_iff]
  refine ⟨?_, exists_ofList⟩
  rintro ⟨set, hset⟩ x hx
  exact set.wellFormed x ((mem_of_ofList hset x).mpr hx)

theorem mem_union {x : String} : x ∈ (a.union b).scopes ↔ x ∈ a.scopes ∨ x ∈ b.scopes :=
  mem_insertAll a _ x

/-- The set of two lists one after the other is the union of their sets. -/
theorem ofList_append (ha : ofList texts = .ok a) (hb : ofList more = .ok b) :
    ofList (texts ++ more) = .ok (a.union b) := by
  obtain ⟨both, hboth⟩ : ∃ set, ofList (texts ++ more) = .ok set := by
    refine exists_ofList_iff.mpr fun x hx => ?_
    rcases List.mem_append.mp hx with hx | hx
    · exact exists_ofList_iff.mp ⟨a, ha⟩ x hx
    · exact exists_ofList_iff.mp ⟨b, hb⟩ x hx
  have heq : both = a.union b := by
    refine eq_iff.mpr fun x => ?_
    rw [mem_of_ofList hboth, mem_union, List.mem_append, mem_of_ofList ha, mem_of_ofList hb]
  rw [hboth, heq]

/-! ### Covering -/

theorem covers_iff :
    a.covers b = true ↔ ∀ scope ∈ b.scopes, scope ∉ reserved → scope ∈ a.scopes := by
  simp only [covers, List.all_filter, List.all_eq_true, Bool.or_eq_true, Bool.not_not, contains_iff,
    List.contains_iff_mem, Decidable.or_iff_not_imp_left]

theorem covers_refl (a : ScopeSet) : a.covers a = true := covers_iff.mpr fun _ hscope _ => hscope

theorem covers_trans (hab : a.covers b = true) (hbc : b.covers c = true) : a.covers c = true := by
  rw [covers_iff] at *
  intro scope hscope hasked
  exact hab scope (hbc scope hscope hasked) hasked

/-- A set covers a union if it covers both sets. -/
theorem covers_union_iff : a.covers (b.union c) = true ↔ a.covers b = true ∧ a.covers c = true := by
  simp only [covers_iff, mem_union, or_imp, forall_and]

/-- **A scope set is told by its members.** A list of texts gives none just if one of them is empty
or has white space in it, and what is told is what is wrong with the first such text. Else it gives
the set of its texts, each of them once, in strictly ascending order of bytes: lists with the same
texts give the same set, what is in the set is found in it, two lists one after the other give the
union of their sets, and the first set covers the second one just if every text of the second list
that is not reserved is in the first. So covering is reflexive and transitive, and a union is
covered where both sets are. -/
theorem told_by_members (texts : List String) :
    (∀ problem, ofList texts = .error problem ↔
      ∃ before s after, texts = before ++ s :: after ∧ (∀ x ∈ before, Unbroken x) ∧
        ((s = "" ∧ problem = .empty) ∨
          ((∃ c ∈ s.toList, c.toNat ∈ whiteSpace) ∧ problem = .blank s))) ∧
    ((∃ a, ofList texts = .ok a) ↔ ∀ x ∈ texts, Unbroken x) ∧
    (∀ a, ofList texts = .ok a →
      a.scopes.Pairwise (fun s t => bytes s < bytes t) ∧ (∀ s, s ∈ a.scopes ↔ s ∈ texts) ∧
      (∀ s, a.contains s = true ↔ s ∈ texts) ∧
      ∀ more b, ofList more = .ok b →
        (a = b ↔ ∀ s, s ∈ texts ↔ s ∈ more) ∧ ofList (texts ++ more) = .ok (a.union b) ∧
        (a.covers b = true ↔ ∀ s ∈ more, s ∉ reserved → s ∈ texts)) ∧
    (∀ a : ScopeSet, a.covers a = true) ∧
    (∀ a b c : ScopeSet, a.covers b = true → b.covers c = true → a.covers c = true) ∧
    ∀ a b c : ScopeSet, a.covers (b.union c) = true ↔ a.covers b = true ∧ a.covers c = true := by
  refine ⟨fun problem => ofList_eq_error_iff, exists_ofList_iff, fun a ha => ?_, covers_refl,
    fun a b c => covers_trans, fun a b c => covers_union_iff⟩
  refine ⟨a.ascending.imp lt_iff_bytes_lt.mp, mem_of_ofList ha, fun s => ?_, fun more b hb => ?_⟩
  · rw [contains_iff, mem_of_ofList ha]
  · refine ⟨ofList_eq_iff ha hb, ofList_append ha hb, ?_⟩
    simp only [covers_iff, mem_of_ofList ha, mem_of_ofList hb]

/-- Two scopes of a mailbox, one of them named twice, cover one of them with a reserved one beside
it. -/
theorem told_by_members_mailbox :
    ∃ a b, ofList ["user.read", "mail.read", "user.read"] = .ok a ∧
      ofList ["openid", "mail.read"] = .ok b ∧
      a.contains "mail.read" = true ∧ a ≠ b ∧ a.covers b = true := by
  obtain ⟨-, exists_iff, members, -⟩ := told_by_members ["user.read", "mail.read", "user.read"]
  obtain ⟨-, exists_iff', -⟩ := told_by_members ["openid", "mail.read"]
  simp only [unbroken_iff] at exists_iff exists_iff'
  obtain ⟨a, ha⟩ := exists_iff.mpr (by decide)
  obtain ⟨b, hb⟩ := exists_iff'.mpr (by decide)
  obtain ⟨-, -, contains_iff, others⟩ := members a ha
  obtain ⟨eq_iff, -, covers_iff⟩ := others _ b hb
  refine ⟨a, b, ha, hb, (contains_iff _).mpr (by simp), fun heq => ?_, covers_iff.mpr (by decide)⟩
  exact absurd ((eq_iff.mp heq "openid").mpr (by simp)) (by simp)

end ScopeSet

end SignOn
