import SignOn.Proofs.Dispatch.RecencyList
import SignOn.Proofs.Dispatch.ResultCache
import SignOn.Proofs.Time.Moment

/-! # The result cache as a list by last use

The result cache has no row by last use. It has stamps, and its entries may be met in any order.
Still it cannot be told from a `RecencyList`.

* `Shows`: the entries in the order of their stamps are the row.
* `oldest?_eq_head?`: in whatever order the entries are met, the one with the smallest stamp is the
  first of the row.
* `Shows.use`: every use gives what it gives on the row, and the cache shows the row again.
* `runs_by_recency`: the cache after any uses, its entries met in any order. An entry is not evicted
  while fewer other keys were used since its own last use than there is room for
  (`Runs.not_evicts`). -/

namespace SignOn

/-! ### Lists with different keys -/

section Keys

variable {κ β : Type} [DecidableEq κ] {k : κ} {es es' : List (κ × β)}

theorem find?_key_iff (hn : (es.map Prod.fst).Nodup) {e : κ × β} :
    es.find? (fun e => e.1 = k) = some e ↔ e ∈ es ∧ e.1 = k := by
  constructor
  · intro h
    exact ⟨List.mem_of_find?_eq_some h, by simpa using List.find?_some h⟩
  · rintro ⟨hmem, rfl⟩
    induction es with
    | nil => cases hmem
    | cons a es ih =>
      rw [List.map_cons, List.nodup_cons] at hn
      rcases List.mem_cons.mp hmem with rfl | hmem
      · simp
      · have hne : a.1 ≠ e.1 := fun he => hn.1 (he ▸ List.mem_map_of_mem hmem)
        rw [List.find?_cons_of_neg (by simpa using hne)]
        exact ih hn.2 hmem

/-- The order in which the entries are met does not count for a look-up. -/
theorem find?_key_perm (h : es.Perm es') (hn : (es.map Prod.fst).Nodup) :
    es.find? (fun e => e.1 = k) = es'.find? fun e => e.1 = k := by
  have hn' : (es'.map Prod.fst).Nodup := (h.map Prod.fst).nodup_iff.mp hn
  ext e
  rw [find?_key_iff hn, find?_key_iff hn', h.mem_iff]

end Keys

/-! ### The row in the stamps -/

namespace ResultCache

variable {κ ν : Type} {c : ResultCache κ ν} {l : RecencyList κ ν} {es es' : List (κ × CacheEntry ν)}

/-- An entry as an item of the row. -/
def item (e : κ × CacheEntry ν) : κ × ν × Moment := (e.1, e.2.value, e.2.storedAt)

/-- The entries in the order of their stamps. -/
structure Ascending (c : ResultCache κ ν) (es : List (κ × CacheEntry ν)) : Prop where
  perm : es.Perm c.entries
  stamps : es.Pairwise fun a b => a.2.stamp < b.2.stamp
  given : ∀ e ∈ es, e.2.stamp ≤ c.stamps

/-- **The cache shows the row**: in the order of their stamps, the entries are its items. -/
structure Shows (c : ResultCache κ ν) (l : RecencyList κ ν) : Prop where
  capacity : c.capacity = l.capacity
  ttl : c.ttl = l.ttl
  row : ∃ es, Ascending c es ∧ es.map item = l.items

theorem Shows.new (capacity : Nat) (ttl : Duration) :
    (ResultCache.new capacity ttl : ResultCache κ ν).Shows (RecencyList.new capacity ttl) where
  capacity := rfl
  ttl := rfl
  row := ⟨[], ⟨List.Perm.refl _, .nil, by simp⟩, rfl⟩

theorem Shows.reorder (h : c.Shows l) {order : List (κ × CacheEntry ν)}
    (perm : order.Perm c.entries) :
    ({ c with entries := order } : ResultCache κ ν).Shows l := by
  obtain ⟨es, hes, hrow⟩ := h.row
  exact ⟨h.capacity, h.ttl, es, ⟨hes.perm.trans perm.symm, hes.stamps, hes.given⟩, hrow⟩

theorem keys_of_row (h : es.map item = l.items) : es.map Prod.fst = l.keys := by
  rw [RecencyList.keys, ← h, List.map_map]
  rfl

theorem Shows.size_eq (h : c.Shows l) : c.size = l.items.length := by
  obtain ⟨es, hes, hrow⟩ := h.row
  rw [size, ← hes.perm.length_eq, ← hrow, List.length_map]

theorem oldest?_eq_none_iff : oldest? es = none ↔ es = [] := by
  cases es with
  | nil => simp [oldest?]
  | cons a es =>
    simp only [oldest?]
    split
    · simp
    · split <;> simp

theorem mem_of_oldest? {e : κ × CacheEntry ν} (h : oldest? es = some e) :
    e ∈ es ∧ ∀ e' ∈ es, e.2.stamp ≤ e'.2.stamp := by
  induction es generalizing e with
  | nil => cases h
  | cons a es ih =>
    simp only [oldest?] at h
    split at h
    · rename_i hnone
      cases h
      rw [oldest?_eq_none_iff.mp hnone]
      simp
    · rename_i o ho
      obtain ⟨hmem, hmin⟩ := ih ho
      split at h
      · rename_i hle
        cases h
        refine ⟨List.mem_cons_self, ?_⟩
        intro e' he'
        rcases List.mem_cons.mp he' with rfl | he'
        · exact le_rfl
        · exact hle.trans (hmin e' he')
      · rename_i hlt
        cases h
        refine ⟨List.mem_cons_of_mem _ hmem, ?_⟩
        intro e' he'
        rcases List.mem_cons.mp he' with rfl | he'
        · omega
        · exact hmin e' he'

/-- **In whatever order the entries are met**, the smallest stamp is the same. -/
theorem oldest?_eq_head? (h : es.Pairwise fun a b => a.2.stamp < b.2.stamp) (perm : es'.Perm es) :
    oldest? es' = es.head? := by
  cases ho : oldest? es' with
  | none =>
    rw [oldest?_eq_none_iff] at ho
    subst ho
    rw [List.nil_perm.mp perm]
    rfl
  | some e =>
    obtain ⟨hmem, hmin⟩ := mem_of_oldest? ho
    cases es with
    | nil => cases perm.subset hmem
    | cons a es =>
      rw [List.pairwise_cons] at h
      rcases List.mem_cons.mp (perm.subset hmem) with rfl | he
      · rfl
      · have hlt := h.1 e he
        have hle := hmin a (perm.symm.subset List.mem_cons_self)
        omega

theorem Shows.oldest?_eq (h : c.Shows l) {order : List (κ × CacheEntry ν)}
    (perm : order.Perm c.entries) :
    (oldest? order).map Prod.fst = l.keys.head? := by
  obtain ⟨es, hes, hrow⟩ := h.row
  rw [oldest?_eq_head? hes.stamps (perm.trans hes.perm.symm), ← keys_of_row hrow, List.head?_map]

variable [DecidableEq κ] {k : κ}

theorem Shows.stored_eq (h : c.Shows l) (k : κ) : c.stored k = l.find? k := by
  obtain ⟨es, hes, hrow⟩ := h.row
  have hnodup : (es.map Prod.fst).Nodup := by
    rw [keys_of_row hrow]
    exact l.distinct
  rw [ResultCache.stored_eq, ← find?_key_perm hes.perm hnodup, RecencyList.find?, ← hrow,
    List.find?_map, Option.map_map]
  rfl

theorem find?_isSome_iff (h : c.Shows l) : (c.find? k).isSome = true ↔ k ∈ l.keys := by
  have hstored : (c.find? k).isSome = (l.find? k).isSome := by
    rw [← h.stored_eq, stored, Option.isSome_map]
  rw [hstored, RecencyList.find?, Option.isSome_map, List.find?_isSome, RecencyList.keys,
    List.mem_map]
  simp

/-! ### Uses on the row -/

theorem map_without (k : κ) (es : List (κ × CacheEntry ν)) :
    (without k es).map item = (es.map item).filter fun x => x.1 ≠ k := by
  rw [without, List.filter_map]
  rfl

theorem without_perm (h : es.Perm es') (k : κ) : (without k es).Perm (without k es') := h.filter _

theorem Shows.drop (h : c.Shows l) (k : κ) {stamps : Nat} (hle : c.stamps ≤ stamps) :
    ({ c with stamps, entries := without k c.entries } : ResultCache κ ν).Shows (l.drop k) := by
  obtain ⟨es, hes, hrow⟩ := h.row
  refine ⟨h.capacity, h.ttl, without k es, ⟨without_perm hes.perm k, ?_, ?_⟩, ?_⟩
  · exact hes.stamps.sublist List.filter_sublist
  · intro e he
    exact (hes.given e (List.mem_of_mem_filter he)).trans hle
  · rw [map_without, hrow]
    rfl

/-- A stamp that is new puts an entry at the end of the row. -/
theorem Shows.touch {rest : List (κ × CacheEntry ν)} (h : c.Shows l) (hes : Ascending c es)
    (hsub : es'.Sublist es) (hrow : es'.map item = l.others k) (hrest : es'.Perm rest) (v : ν)
    (m : Moment) : ({ c with
      stamps := c.stamps + 1
      entries := (k, ⟨v, m, c.stamps + 1⟩) :: rest } : ResultCache κ ν).Shows (l.touch k v m) := by
  refine ⟨h.capacity, h.ttl, es' ++ [(k, ⟨v, m, c.stamps + 1⟩)], ⟨?_, ?_, ?_⟩, ?_⟩
  · exact (List.perm_append_singleton _ _).trans (hrest.cons _)
  · rw [List.pairwise_append]
    refine ⟨hes.stamps.sublist hsub, List.pairwise_singleton _ _, ?_⟩
    intro a ha b hb
    rw [List.mem_singleton.mp hb]
    have hle := hes.given a (hsub.subset ha)
    change a.2.stamp < c.stamps + 1
    omega
  · intro e he
    change e.2.stamp ≤ c.stamps + 1
    rcases List.mem_append.mp he with he | he
    · have hle := hes.given e (hsub.subset he)
      omega
    · rw [List.mem_singleton.mp he]
  · rw [List.map_append, hrow]
    rfl

/-- The key of an entry goes to the end of the row. -/
theorem Shows.restamp (h : c.Shows l) (hk : k ∈ l.keys) (v : ν) (m : Moment) : ({ c with
      stamps := c.stamps + 1
      entries := (k, ⟨v, m, c.stamps + 1⟩) :: without k c.entries } : ResultCache κ ν).Shows
    (l.touch k v m) := by
  obtain ⟨es, hes, hrow⟩ := h.row
  refine h.touch hes List.filter_sublist ?_ (without_perm hes.perm k) v m
  rw [RecencyList.others, if_pos hk, ← hrow, ← map_without]
  rfl

theorem Shows.get (h : c.Shows l) (k : κ) (now : Moment) :
    (c.get k now).1 = (l.get k now).1 ∧ (c.get k now).2.Shows (l.get k now).2 := by
  have hstored := h.stored_eq k
  unfold ResultCache.get RecencyList.get
  rcases hf : c.find? k with _ | e
  · have hnone : l.find? k = none := by rw [← hstored, stored, hf]; rfl
    rw [hnone]
    obtain ⟨es, hes, hrow⟩ := h.row
    refine ⟨rfl, h.capacity, h.ttl, es, ⟨hes.perm, hes.stamps, ?_⟩, hrow⟩
    intro e he
    exact (hes.given e he).trans (Nat.le_succ _)
  · have hsome : l.find? k = some (e.value, e.storedAt) := by rw [← hstored, stored_of_find? hf]
    have hk : k ∈ l.keys := (find?_isSome_iff h).mp (by rw [hf]; rfl)
    have hlive : c.isLive e now = true ↔ now.since e.storedAt < l.ttl.nanos := by
      rw [isLive, h.ttl, decide_eq_true_eq]
    rw [hsome]
    by_cases hl : c.isLive e now = true
    · simp only [if_pos hl, if_pos (hlive.mp hl), true_and]
      exact h.restamp hk e.value e.storedAt
    · simp only [if_neg hl, if_neg (hl ∘ hlive.mpr), true_and]
      exact h.drop k (Nat.le_succ _)

theorem Shows.put (h : c.Shows l) (k : κ) (v : ν) (now : Moment) :
    (c.put k v now).Shows (l.put k v now) := by
  unfold ResultCache.put RecencyList.put
  by_cases hk : k ∈ l.keys
  · rw [if_pos ((find?_isSome_iff h).mpr hk)]
    exact h.restamp hk v now
  rw [if_neg (fun hsome => hk ((find?_isSome_iff h).mp hsome)), withRoom]
  obtain ⟨es, hes, hrow⟩ := h.row
  have hlength : c.entries.length = l.items.length := h.size_eq
  by_cases hroom : c.entries.length < c.capacity
  · rw [if_pos hroom]
    refine h.touch hes (List.Sublist.refl _) ?_ hes.perm v now
    rw [RecencyList.others, if_neg hk, if_pos (by rw [← hlength, ← h.capacity]; exact hroom), hrow]
  rw [if_neg hroom, oldest?_eq_head? hes.stamps hes.perm.symm]
  cases es with
  | nil =>
    have hpos := l.hasRoom
    have hnone := hes.perm.length_eq
    rw [List.length_nil] at hnone
    rw [h.capacity] at hroom
    omega
  | cons a es =>
    -- the first of the row makes room, and no other entry has its key
    have hnodup : ((a :: es).map Prod.fst).Nodup := by
      rw [keys_of_row hrow]
      exact l.distinct
    have hrest : without a.1 (a :: es) = es := by
      rw [without, List.filter_cons_of_neg (by simp), List.filter_eq_self]
      intro e he
      rw [List.map_cons, List.nodup_cons] at hnodup
      simpa using fun heq : e.1 = a.1 => hnodup.1 (heq ▸ List.mem_map_of_mem he)
    have hperm : es.Perm (without a.1 c.entries) := by
      rw [← hrest]
      exact without_perm hes.perm a.1
    refine h.touch hes (List.sublist_cons_self a es) ?_ hperm v now
    rw [RecencyList.others, if_neg hk, if_neg (by rw [← hlength, ← h.capacity]; exact hroom),
      ← hrow]
    rfl

/-- What a use gives, and the cache after it. -/
def use (c : ResultCache κ ν) : Use κ ν → Option ν × ResultCache κ ν
  | .get key now => c.get key now
  | .put key value now => (none, c.put key value now)
  | .remove key => c.remove key
  | .clear => (none, c.clear)

/-- **Every use gives what it gives on the row**, and the cache shows the row again. -/
theorem Shows.use (h : c.Shows l) (u : Use κ ν) :
    (c.use u).1 = (l.use u).1 ∧ (c.use u).2.Shows (l.use u).2 := by
  cases u with
  | get k now => exact h.get k now
  | put k v now => exact ⟨rfl, h.put k v now⟩
  | remove k =>
    refine ⟨?_, h.drop k (Nat.le_refl _)⟩
    have hstored := congrArg (Option.map Prod.fst) (h.stored_eq k)
    rw [stored, Option.map_map] at hstored
    exact hstored
  | clear => exact ⟨rfl, h.capacity, h.ttl, [], ⟨List.Perm.refl _, .nil, by simp⟩, rfl⟩

/-! ### Runs -/

/-- A cache after some uses of a new one, with what each of them gave. At any time its entries may
be met in another order. -/
inductive Runs (capacity : Nat) (ttl : Duration) :
    List (Use κ ν × Option ν) → ResultCache κ ν → Prop
  | new : Runs capacity ttl [] (.new capacity ttl)
  | use {trace c} (h : Runs capacity ttl trace c) (u : Use κ ν) :
    Runs capacity ttl (trace ++ [(u, (c.use u).1)]) (c.use u).2
  | reorder {trace c} (h : Runs capacity ttl trace c) (order : List (κ × CacheEntry ν))
    (perm : order.Perm c.entries) : Runs capacity ttl trace { c with entries := order }

theorem stamps_use_le (c : ResultCache κ ν) (u : Use κ ν) : (c.use u).2.stamps ≤ c.stamps + 1 := by
  cases u with
  | get k now =>
    simp only [use, ResultCache.get]
    split
    · exact le_rfl
    · split <;> exact le_rfl
  | put k v now => exact le_rfl
  | remove k => exact Nat.le_succ _
  | clear => exact Nat.le_succ _

variable {capacity : Nat} {ttl : Duration} {trace : List (Use κ ν × Option ν)}

theorem Runs.stamps_le (h : Runs capacity ttl trace c) : c.stamps ≤ trace.length := by
  induction h with
  | new => exact le_rfl
  | @use _ c _ u ih =>
    have hone := stamps_use_le c u
    rw [List.length_append, List.length_singleton]
    exact hone.trans (Nat.succ_le_succ ih)
  | reorder _ _ _ ih => exact ih

/-- The uses of a run give what they give on the row, and the cache shows the row. -/
theorem Runs.shows (h : Runs capacity ttl trace c) :
    trace = (RecencyList.new capacity ttl).trace (trace.map Prod.fst) ∧
      c.Shows ((RecencyList.new capacity ttl).run (trace.map Prod.fst)) := by
  induction h with
  | new => exact ⟨rfl, Shows.new capacity ttl⟩
  | @use trace c _ u ih =>
    obtain ⟨htrace, hshows⟩ := ih
    obtain ⟨hgives, hshows⟩ := hshows.use u
    rw [List.map_append, List.map_singleton, RecencyList.trace_append,
      RecencyList.run_append, ← htrace, hgives]
    exact ⟨rfl, hshows⟩
  | reorder _ _ perm ih => exact ⟨ih.1, ih.2.reorder perm⟩

/-- **A key that was used** is not the one to make room, while with the new key fewer other keys
have been put or found since then than there is room for. -/
theorem Runs.not_evicts (h : Runs capacity ttl trace c) {before since : List (Use κ ν × Option ν)}
    {x : Use κ ν × Option ν} {k' : κ} (htrace : trace = before ++ x :: since)
    (hused : k ∈ usedKeys [x])
    (hfew : ((usedKeys since ++ [k']).toFinset.erase k).card < max capacity 1) :
    ¬ c.Evicts k' k := by
  rintro ⟨hnew, hfull, e, holdest⟩
  obtain ⟨htraces, hshows⟩ := h.shows
  obtain ⟨u, a⟩ := x
  -- the row just before the use, and what the uses gave from then on
  set first : RecencyList κ ν :=
    (RecencyList.new capacity ttl).run (before.map Prod.fst) with hfirst
  have huses : trace.map Prod.fst = before.map Prod.fst ++ u :: since.map Prod.fst := by
    rw [htrace, List.map_append, List.map_cons]
  have hlast : c.Shows (first.run (u :: since.map Prod.fst)) := by
    rw [hfirst, ← RecencyList.run_append, ← huses]
    exact hshows
  have hgave : before ++ (u, a) :: since =
      (RecencyList.new capacity ttl).trace (before.map Prod.fst) ++
        first.trace (u :: since.map Prod.fst) := by
    rw [← htrace, htraces, huses, RecencyList.trace_append]
  have hcut := List.append_inj_right' hgave (by simp [RecencyList.length_trace])
  obtain ⟨hx, hsince⟩ := List.cons.inj hcut
  rw [hx] at hused
  have hbehind : (first.run (u :: since.map Prod.fst)).Behind k (usedKeys since) := by
    have hrun := RecencyList.behind_run (since.map Prod.fst) (RecencyList.behind_of_used hused)
    rw [List.nil_append, ← hsince] at hrun
    exact hrun
  have hcapacity : (first.run (u :: since.map Prod.fst)).capacity = max capacity 1 := by
    rw [RecencyList.capacity_run, hfirst, RecencyList.capacity_run]
    rfl
  have hnotIn : k' ∉ (first.run (u :: since.map Prod.fst)).keys := by
    rw [← find?_isSome_iff hlast, hnew]
    exact Bool.false_ne_true
  refine RecencyList.head_ne_of_behind hbehind hnotIn ?_ ?_ ?_
  · rw [← hlast.capacity, ← hlast.size_eq]
    exact hfull
  · rw [hcapacity]
    exact hfew
  · rw [← hlast.oldest?_eq (List.Perm.refl _), holdest]
    rfl

/-- **The result cache is a list by last use.** After any uses of a new cache, at whatever moments
they are made and in whatever order its entries are met, each use gave what it gives on the row, the
cache shows the row, the entry with the smallest stamp is the first of it, there are never more
entries than there is room for nor more stamps than uses, and an entry is not the one to make room
while with the new key fewer other keys have been put or found since its last use than there is room
for. -/
theorem runs_by_recency (h : Runs capacity ttl trace c) :
    trace = (RecencyList.new capacity ttl).trace (trace.map Prod.fst) ∧
    c.Shows ((RecencyList.new capacity ttl).run (trace.map Prod.fst)) ∧
    (∀ order, order.Perm c.entries → (oldest? order).map Prod.fst =
      ((RecencyList.new capacity ttl).run (trace.map Prod.fst)).keys.head?) ∧
    c.size ≤ max capacity 1 ∧ c.stamps ≤ trace.length ∧
    ∀ before x since k k', trace = before ++ x :: since → k ∈ usedKeys [x] →
      ((usedKeys since ++ [k']).toFinset.erase k).card < max capacity 1 → ¬ c.Evicts k' k := by
  obtain ⟨htrace, hshows⟩ := h.shows
  refine ⟨htrace, hshows, fun order perm => hshows.oldest?_eq perm, ?_, h.stamps_le, ?_⟩
  · rw [hshows.size_eq]
    have hbounded :=
      ((RecencyList.new capacity ttl).run (trace.map Prod.fst) : RecencyList κ ν).bounded
    rw [RecencyList.capacity_run] at hbounded
    exact hbounded
  · intro before x since k k' htrace hused hfew
    exact h.not_evicts htrace hused hfew

/-- Two values are put and the first is found again, each with what it gave. -/
def twoUses : List (Use Nat String × Option String) :=
  [(.put 1 "one" Sample.opened, none), (.put 2 "two" Sample.begun, none),
    (.get 1 Sample.returned, some "one")]

/-- The cache after that, its entries met in the other order. -/
def twoUsed : ResultCache Nat String where
  capacity := 2
  ttl := .ofMinutes 1
  stamps := 3
  entries := [(2, ⟨"two", Sample.begun, 2⟩), (1, ⟨"one", Sample.opened, 3⟩)]

theorem runs_by_recency_twoUsed : Runs 2 (.ofMinutes 1) twoUses twoUsed ∧
    (∀ order, order.Perm twoUsed.entries → (oldest? order).map Prod.fst = some 2) ∧
    ¬ twoUsed.Evicts 3 1 ∧ twoUsed.Evicts 3 2 := by
  have hruns : Runs 2 (.ofMinutes 1) twoUses twoUsed :=
    (((Runs.new.use (.put 1 "one" Sample.opened)).use (.put 2 "two" Sample.begun)).use
      (.get 1 Sample.returned)).reorder twoUsed.entries (List.Perm.swap _ _ _)
  obtain ⟨-, -, holdest, -, -, hkeeps⟩ := runs_by_recency hruns
  have hkept := hkeeps (twoUses.take 2) (.get 1 Sample.returned, some "one") [] 1 3 rfl (by decide)
    (by decide)
  exact ⟨hruns, holdest, hkept, rfl, by decide, _, rfl⟩

end ResultCache

end SignOn
