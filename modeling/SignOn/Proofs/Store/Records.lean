import SignOn.Store.Basic

/-! # What a store holds

A store is looked at as a partial function from pairs of a client and an account to credentials, and
each operation is told by what it does to that function: saving sets the record of one pair,
removing takes it out, and dropping a family of credentials changes nothing else of it. The record
that is found for a pair has an account of the name in the pair (`homeAccountId_of_find?`), so what
is saved for an account is what is looked up for it. -/

namespace SignOn

namespace TokenStore

variable {s : TokenStore} {key other : StoreKey} {record : Credentials}

/-! ### Setting one record -/

theorem lookup_setEntry_self (key : StoreKey) (record : Credentials)
    (es : List (StoreKey × Credentials)) :
    (setEntry key record es).lookup key = some record := by
  induction es with
  | nil => simp [setEntry]
  | cons e es ih =>
    rw [setEntry]
    split
    · simp
    · split
      · simp
      · rename_i hne
        rw [List.lookup_cons, beq_eq_false_iff_ne.mpr hne]
        exact ih

theorem lookup_setEntry_of_ne (h : other ≠ key) (record : Credentials)
    (es : List (StoreKey × Credentials)) :
    (setEntry key record es).lookup other = es.lookup other := by
  have hkey : (other == key) = false := beq_eq_false_iff_ne.mpr h
  induction es with
  | nil => simp [setEntry, List.lookup_cons, hkey]
  | cons e es ih =>
    rw [setEntry]
    split
    · rw [List.lookup_cons, hkey]
    · split
      · rename_i he
        rw [List.lookup_cons, List.lookup_cons, hkey, ← he, hkey]
      · rw [List.lookup_cons, List.lookup_cons, ih]

theorem find?_save_self (s : TokenStore) (clientId : ClientId) (record : Credentials) :
    (s.save clientId record).find? (keyOf clientId record) = some (s.savedRecord clientId record) :=
  lookup_setEntry_self _ _ _

theorem find?_save_of_ne {clientId : ClientId} (h : other ≠ keyOf clientId record) :
    (s.save clientId record).find? other = s.find? other :=
  lookup_setEntry_of_ne h _ _

/-! ### Taking out -/

theorem find?_remove_self (s : TokenStore) (key : StoreKey) : (s.remove key).find? key = none := by
  change (s.entries.filter fun e => e.1 ≠ key).lookup key = none
  rw [List.lookup_eq_none_iff]
  intro e he
  have hne : e.1 ≠ key := of_decide_eq_true (List.mem_filter.mp he).2
  exact bne_iff_ne.mpr hne.symm

theorem find?_remove_of_ne (h : other ≠ key) : (s.remove key).find? other = s.find? other := by
  change (s.entries.filter fun e => e.1 ≠ key).lookup other = s.entries.lookup other
  induction s.entries with
  | nil => rfl
  | cons e es ih =>
    by_cases he : e.1 = key
    · rw [List.filter_cons_of_neg (by simpa using he), ih, List.lookup_cons, he,
        beq_eq_false_iff_ne.mpr h]
    · rw [List.filter_cons_of_pos (by simpa using he), List.lookup_cons, List.lookup_cons, ih]

theorem find?_dropCredential (s : TokenStore) (key : StoreKey) (kind : CredentialKind)
    (other : StoreKey) :
    (s.dropCredential key kind).find? other =
      if other = key then (s.find? other).map fun c => c.drop kind else s.find? other := by
  change (s.entries.map (dropFrom key kind)).lookup other =
    if other = key then (s.entries.lookup other).map fun c => c.drop kind
    else s.entries.lookup other
  induction s.entries with
  | nil => simp
  | cons e es ih =>
    rw [List.map_cons, List.lookup_cons, List.lookup_cons, fst_dropFrom, ih]
    by_cases he : other = e.1
    · subst he
      by_cases hk : e.1 = key <;> simp [dropFrom, hk]
    · rw [beq_eq_false_iff_ne.mpr he]

theorem find?_dropCredential_self (s : TokenStore) (key : StoreKey) (kind : CredentialKind) :
    (s.dropCredential key kind).find? key = (s.find? key).map fun c => c.drop kind := by
  rw [find?_dropCredential, if_pos rfl]

theorem find?_dropCredential_of_ne {kind : CredentialKind} (h : other ≠ key) :
    (s.dropCredential key kind).find? other = s.find? other := by
  rw [find?_dropCredential, if_neg h]

/-! ### What is found -/

/-- **What is found for a pair is of its account.** -/
theorem homeAccountId_of_find? (h : s.find? key = some record) :
    record.account.homeAccountId = key.homeAccountId := by
  obtain ⟨before, after, he, -⟩ := List.lookup_eq_some_iff.mp h
  exact s.filed (key, record) (by rw [he]; simp)

/-- What is found is what is kept: no pair has two records. -/
theorem find?_eq_some_iff : s.find? key = some record ↔ (key, record) ∈ s.entries := by
  rw [find?]
  have hordered := s.ordered
  generalize s.entries = es at hordered ⊢
  induction es with
  | nil => simp
  | cons e es ih =>
    have he := List.pairwise_cons.mp hordered
    rw [List.lookup_cons, List.mem_cons]
    by_cases hkey : key = e.1
    · subst hkey
      have hnot : (e.1, record) ∉ es := fun hmem => by
        have hbefore := he.1 _ hmem
        rw [StoreKey.not_before_self] at hbefore
        cases hbefore
      simp only [beq_self_eq_true, Option.some.injEq, hnot, or_false]
      exact ⟨fun h => Prod.ext rfl h.symm, fun h => congrArg Prod.snd h.symm⟩
    · have hne : (key, record) ≠ e := fun h => hkey (congrArg Prod.fst h)
      rw [beq_eq_false_iff_ne.mpr hkey, or_iff_right hne]
      exact ih he.2

theorem load_of_find? {clientId : ClientId} {home : HomeAccountId}
    (h : s.find? ⟨clientId, home⟩ = some record) : s.load clientId home = [record] := by
  rw [load, h]
  rfl

theorem load_of_find?_none {clientId : ClientId} {home : HomeAccountId}
    (h : s.find? ⟨clientId, home⟩ = none) : s.load clientId home = [] := by
  rw [load, h]
  rfl

/-- An account of a client is listed if it is that of a record. -/
theorem mem_accounts_iff {clientId : ClientId} {a : Account} :
    a ∈ s.accounts clientId ↔
      ∃ record, s.find? ⟨clientId, a.homeAccountId⟩ = some record ∧ record.account = a := by
  rw [accounts, List.mem_map]
  constructor
  · rintro ⟨e, he, rfl⟩
    obtain ⟨hmem, hclient⟩ := List.mem_filter.mp he
    have hkey : (⟨clientId, e.2.account.homeAccountId⟩ : StoreKey) = e.1 := by
      rw [s.filed e hmem, ← of_decide_eq_true hclient]
    exact ⟨e.2, find?_eq_some_iff.mpr (hkey ▸ hmem), rfl⟩
  · rintro ⟨record, hfound, rfl⟩
    exact ⟨_, List.mem_filter.mpr ⟨find?_eq_some_iff.mp hfound, decide_eq_true rfl⟩, rfl⟩

/-- The refresh token that is kept for a pair. -/
def refreshTokenOf (s : TokenStore) (key : StoreKey) : Option Secret :=
  (s.find? key).bind (·.refreshToken)

theorem refreshTokenOf_remove (s : TokenStore) (key other : StoreKey) :
    (s.remove key).refreshTokenOf other = if other = key then none else s.refreshTokenOf other := by
  rw [refreshTokenOf, refreshTokenOf]
  split
  · rename_i he
    rw [he, find?_remove_self]
    rfl
  · rename_i hne
    rw [find?_remove_of_ne hne]

theorem refreshTokenOf_dropCredential (s : TokenStore) (key other : StoreKey) :
    (s.dropCredential key .refreshToken).refreshTokenOf other =
      if other = key then none else s.refreshTokenOf other := by
  rw [refreshTokenOf, refreshTokenOf, find?_dropCredential]
  split
  · cases s.find? other <;> rfl
  · rfl

/-- The token that tells who the person is, as it is kept for a pair. -/
def idTokenOf (s : TokenStore) (key : StoreKey) : Option Secret := (s.find? key).bind (·.idToken)

end TokenStore

end SignOn
