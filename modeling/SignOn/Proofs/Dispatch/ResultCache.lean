import SignOn.Dispatch.ResultCache

/-! # What the result cache holds

The cache seen as a partial function from keys to values with the moment at which they were stored
(`stored`). A look-up finds what is stored and young enough (`get_eq_some_iff`) and stores nothing;
a value is stored by `put` alone. What is stored under a key is lost in four ways only: it is
replaced, it is found too old, it makes room for a new key (`Evicts`), or the cache is cleared. -/

namespace SignOn

namespace ResultCache

variable {κ ν : Type} [DecidableEq κ] {c : ResultCache κ ν} {k k' : κ} {v : ν} {now : Moment}

/-- What is stored under a key, and since when. -/
def stored (c : ResultCache κ ν) (k : κ) : Option (ν × Moment) :=
  (c.find? k).map fun e => (e.value, e.storedAt)

/-- A new key takes the room of another one: the cache is full and the other has the smallest
stamp. -/
def Evicts (c : ResultCache κ ν) (new old : κ) : Prop :=
  c.find? new = none ∧ c.capacity ≤ c.entries.length ∧ ∃ e, oldest? c.entries = some (old, e)

/-! ### Entries -/

theorem find?_without_of_ne (h : k ≠ k') (entries : List (κ × CacheEntry ν)) :
    (without k' entries).find? (fun e => e.1 = k) = entries.find? fun e => e.1 = k := by
  rw [without, List.find?_filter]
  congr 1
  funext e
  by_cases he : e.1 = k
  · simp [he, h]
  · simp [he]

theorem find?_without_self (entries : List (κ × CacheEntry ν)) :
    (without k entries).find? (fun e => e.1 = k) = none := by
  simp [without, List.find?_eq_none]

theorem find?_cons_of_ne (h : k ≠ k') (e : CacheEntry ν) (entries : List (κ × CacheEntry ν)) :
    ((k', e) :: entries).find? (fun e => e.1 = k) = entries.find? fun e => e.1 = k := by
  simp [Ne.symm h]

theorem stored_eq (c : ResultCache κ ν) (k : κ) : c.stored k =
    (c.entries.find? fun e => e.1 = k).map fun e => (e.2.value, e.2.storedAt) := by
  rw [stored, find?, Option.map_map]
  rfl

/-! ### Looking up -/

theorem stored_of_find? {e : CacheEntry ν} (h : c.find? k = some e) :
    c.stored k = some (e.value, e.storedAt) := by
  rw [stored, h]
  rfl

/-- **A look-up finds** what is stored less than the lifetime of the cache ago. -/
theorem get_eq_some_iff : (c.get k now).1 = some v ↔
    ∃ m, c.stored k = some (v, m) ∧ now.since m < c.ttl.nanos := by
  unfold get stored
  rcases c.find? k with _ | e
  · simp
  · by_cases hl : c.isLive e now = true
    · have hl' : now.since e.storedAt < c.ttl.nanos := by simpa [isLive] using hl
      simp only [hl, if_true, Option.map_some, Option.some.injEq, Prod.mk.injEq]
      constructor
      · rintro rfl
        exact ⟨_, ⟨rfl, rfl⟩, hl'⟩
      · rintro ⟨m, ⟨rfl, -⟩, -⟩
        rfl
    · have hl' : ¬ now.since e.storedAt < c.ttl.nanos := by simpa [isLive] using hl
      simp only [hl, Option.map_some, Option.some.injEq, Prod.mk.injEq]
      constructor
      · intro h; cases h
      · rintro ⟨m, ⟨-, rfl⟩, hm⟩
        exact absurd hm hl'

theorem stored_get_of_ne (h : k ≠ k') : (c.get k' now).2.stored k = c.stored k := by
  unfold get
  rcases c.find? k' with _ | e
  · rfl
  · simp only
    split
    · rw [stored_eq, stored_eq, find?_cons_of_ne h, find?_without_of_ne h]
    · rw [stored_eq, stored_eq, find?_without_of_ne h]

/-- What was found stays. -/
theorem stored_get_of_some (h : (c.get k now).1 = some v) :
    (c.get k now).2.stored k = c.stored k := by
  unfold get at h ⊢
  rcases hf : c.find? k with _ | e
  · rw [hf] at h; cases h
  · rw [hf] at h
    simp only at h ⊢
    by_cases hl : c.isLive e now = true
    · rw [if_pos hl, stored_of_find? hf, stored_eq]
      simp
    · rw [if_neg hl] at h; cases h

theorem stored_get_of_none (h : (c.get k now).1 = none) : (c.get k now).2.stored k = none := by
  unfold get at h ⊢
  rcases hf : c.find? k with _ | e
  · rw [stored]
    change (c.find? k).map _ = none
    rw [hf]
    rfl
  · rw [hf] at h
    simp only at h ⊢
    by_cases hl : c.isLive e now = true
    · rw [if_pos hl] at h; cases h
    · rw [if_neg hl, stored_eq]
      simp only
      rw [find?_without_self]
      rfl

theorem ttl_get (c : ResultCache κ ν) (k : κ) (now : Moment) : (c.get k now).2.ttl = c.ttl := by
  unfold get
  split
  · rfl
  · split <;> rfl

/-! ### Storing -/

theorem stored_put_self (c : ResultCache κ ν) (k : κ) (v : ν) (now : Moment) :
    (c.put k v now).stored k = some (v, now) := by
  rw [stored_eq, put]
  simp

/-- A new value leaves what is stored under other keys, or evicts it. -/
theorem stored_put_of_ne (h : k ≠ k') (v : ν) (now : Moment) :
    (c.put k' v now).stored k = c.stored k ∨
      c.Evicts k' k ∧ (c.put k' v now).stored k = none := by
  unfold put
  rcases hf : c.find? k' with _ | e
  · rw [if_neg (by simp), withRoom]
    split
    · exact .inl (by rw [stored_eq, stored_eq, find?_cons_of_ne h])
    · rename_i hroom
      rcases ho : oldest? c.entries with _ | ⟨k'', e⟩
      · exact .inl (by rw [stored_eq, stored_eq, find?_cons_of_ne h])
      · simp only
        by_cases hk : k'' = k
        · subst hk
          refine .inr ⟨⟨hf, by omega, e, ho⟩, ?_⟩
          rw [stored_eq, find?_cons_of_ne h, find?_without_self]
          rfl
        · exact .inl (by
            rw [stored_eq, stored_eq, find?_cons_of_ne h, find?_without_of_ne (Ne.symm hk)])
  · rw [if_pos (by simp)]
    exact .inl (by rw [stored_eq, stored_eq, find?_cons_of_ne h, find?_without_of_ne h])

theorem stored_clear (c : ResultCache κ ν) (k : κ) : c.clear.stored k = none := rfl

end ResultCache

end SignOn
