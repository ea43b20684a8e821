import Mathlib.Data.Finset.Card
import Mathlib.Data.List.Nodup
import SignOn.Dispatch.ResultCache

/-! # A list by last use

A `RecencyList` has values in a row, the one used least recently first: what is put or found goes to
the end of the row, and a new key that finds no room takes the place of the first. Its keys are
different and it has never more of them than there is room for.

* `keys_use`: a use keeps some of the keys in their order, and moves a key that it uses to the end.
* `behind_run`: since a key was used, only keys that were used got behind it.
* `head_ne_of_behind`: with few keys behind it, a key is not the first when a new key finds no
  room. -/

namespace SignOn

/-- Values with the moments at which they were stored, the one used least recently first. -/
structure RecencyList (κ ν : Type) where
  capacity : Nat
  ttl : Duration
  items : List (κ × ν × Moment)
  distinct : (items.map Prod.fst).Nodup
  bounded : items.length ≤ capacity
  hasRoom : 0 < capacity

namespace RecencyList

variable {κ ν : Type}

/-- The empty list; it has room for one value at least. -/
def new (capacity : Nat) (ttl : Duration) : RecencyList κ ν where
  capacity := max capacity 1
  ttl := ttl
  items := []
  distinct := .nil
  bounded := Nat.zero_le _
  hasRoom := by omega

/-- The keys, the one used least recently first. -/
def keys (l : RecencyList κ ν) : List κ := l.items.map Prod.fst

variable [DecidableEq κ]

/-- The value of a key and when it was stored. -/
def find? (l : RecencyList κ ν) (k : κ) : Option (ν × Moment) :=
  (l.items.find? fun x => x.1 = k).map Prod.snd

/-- The list without a key. -/
def drop (l : RecencyList κ ν) (k : κ) : RecencyList κ ν where
  capacity := l.capacity
  ttl := l.ttl
  items := l.items.filter fun x => x.1 ≠ k
  distinct := l.distinct.sublist (List.filter_sublist.map Prod.fst)
  bounded := (List.length_filter_le _ _).trans l.bounded
  hasRoom := l.hasRoom

/-- The items that stay when a key goes to the end: all others, but for the first if the key is new
and there is no room. -/
def others (l : RecencyList κ ν) (k : κ) : List (κ × ν × Moment) :=
  if k ∈ l.keys then l.items.filter fun x => x.1 ≠ k
  else if l.items.length < l.capacity then l.items
  else l.items.tail

theorem others_sublist (l : RecencyList κ ν) (k : κ) : (l.others k).Sublist l.items := by
  unfold others
  split_ifs
  · exact List.filter_sublist
  · exact List.Sublist.refl _
  · exact List.tail_sublist _

theorem notMem_others (l : RecencyList κ ν) (k : κ) : k ∉ (l.others k).map Prod.fst := by
  unfold others
  split_ifs with hk
  · simp
  · exact hk
  · intro hmem
    exact hk (((List.tail_sublist l.items).map Prod.fst).subset hmem)

theorem length_others_lt (l : RecencyList κ ν) (k : κ) : (l.others k).length < l.capacity := by
  have hbounded := l.bounded
  have hroom := l.hasRoom
  unfold others
  split_ifs with hk hlt
  · obtain ⟨x, hx, rfl⟩ := List.mem_map.mp hk
    have hless : (l.items.filter fun y => y.1 ≠ x.1).length < l.items.length :=
      List.length_filter_lt_length_iff_exists.mpr ⟨x, hx, by simp⟩
    omega
  · exact hlt
  · rw [List.length_tail]
    omega

/-- The list with a key at the end. -/
def touch (l : RecencyList κ ν) (k : κ) (v : ν) (m : Moment) : RecencyList κ ν where
  capacity := l.capacity
  ttl := l.ttl
  items := l.others k ++ [(k, v, m)]
  distinct := by
    rw [List.map_append, List.nodup_append]
    refine ⟨l.distinct.sublist ((l.others_sublist k).map Prod.fst), List.nodup_singleton _, ?_⟩
    intro a ha b hb hab
    have hbk : b = k := List.mem_singleton.mp hb
    rw [hab, hbk] at ha
    exact l.notMem_others k ha
  bounded := by
    have hless := l.length_others_lt k
    rw [List.length_append, List.length_singleton]
    omega
  hasRoom := l.hasRoom

/-- **A look-up** finds a key whose value was stored less than the lifetime ago. Then the key goes
to the end, with the moment at which it was stored as it is; a key whose value is older goes
away. -/
def get (l : RecencyList κ ν) (k : κ) (now : Moment) : Option ν × RecencyList κ ν :=
  match l.find? k with
  | none => (none, l)
  | some (v, m) => if now.since m < l.ttl.nanos then (some v, l.touch k v m) else (none, l.drop k)

/-- **A value is put** at the end. -/
def put (l : RecencyList κ ν) (k : κ) (v : ν) (now : Moment) : RecencyList κ ν := l.touch k v now

/-- The value of a key, and the list without the key. -/
def remove (l : RecencyList κ ν) (k : κ) : Option ν × RecencyList κ ν :=
  ((l.find? k).map Prod.fst, l.drop k)

omit [DecidableEq κ] in
/-- The list with nothing in it. -/
def clear (l : RecencyList κ ν) : RecencyList κ ν where
  capacity := l.capacity
  ttl := l.ttl
  items := []
  distinct := .nil
  bounded := Nat.zero_le _
  hasRoom := l.hasRoom

/-- The keys after a key goes to the end. -/
theorem keys_touch (l : RecencyList κ ν) (k : κ) (v : ν) (m : Moment) :
    (l.touch k v m).keys = (l.others k).map Prod.fst ++ [k] := by
  simp [keys, touch]

end RecencyList

/-! ### Uses -/

/-- What can be done with a result cache. -/
inductive ResultCache.Use (κ ν : Type) where
  | get (key : κ) (now : Moment)
  | put (key : κ) (value : ν) (now : Moment)
  | remove (key : κ)
  | clear

/-- The keys that were put or found, of uses with what they gave. -/
def ResultCache.usedKeys {κ ν : Type} : List (ResultCache.Use κ ν × Option ν) → List κ
  | [] => []
  | (.put key _ _, _) :: rest => key :: usedKeys rest
  | (.get key _, some _) :: rest => key :: usedKeys rest
  | _ :: rest => usedKeys rest

namespace RecencyList

variable {κ ν : Type} [DecidableEq κ]

open ResultCache (Use usedKeys)

/-- What a use gives, and the list after it. -/
def use (l : RecencyList κ ν) : Use κ ν → Option ν × RecencyList κ ν
  | .get key now => l.get key now
  | .put key value now => (none, l.put key value now)
  | .remove key => l.remove key
  | .clear => (none, l.clear)

/-- The list after some uses, one after another. -/
def run (l : RecencyList κ ν) (uses : List (Use κ ν)) : RecencyList κ ν :=
  uses.foldl (fun l u => (l.use u).2) l

/-- The uses, each with what it gives. -/
def trace (l : RecencyList κ ν) : List (Use κ ν) → List (Use κ ν × Option ν)
  | [] => []
  | u :: uses => (u, (l.use u).1) :: (l.use u).2.trace uses

theorem run_append (l : RecencyList κ ν) (uses uses' : List (Use κ ν)) :
    l.run (uses ++ uses') = (l.run uses).run uses' := List.foldl_append

theorem trace_append (l : RecencyList κ ν) (uses uses' : List (Use κ ν)) :
    l.trace (uses ++ uses') = l.trace uses ++ (l.run uses).trace uses' := by
  induction uses generalizing l with
  | nil => rfl
  | cons u uses ih =>
    rw [List.cons_append, trace, ih]
    rfl

theorem length_trace (l : RecencyList κ ν) (uses : List (Use κ ν)) :
    (l.trace uses).length = uses.length := by
  induction uses generalizing l with
  | nil => rfl
  | cons u uses ih => exact congrArg (· + 1) (ih (l.use u).2)

theorem capacity_use (l : RecencyList κ ν) (u : Use κ ν) : (l.use u).2.capacity = l.capacity := by
  cases u with
  | get k now =>
    simp only [use, get]
    split
    · rfl
    · split <;> rfl
  | put | remove | clear => rfl

theorem capacity_run (l : RecencyList κ ν) (uses : List (Use κ ν)) :
    (l.run uses).capacity = l.capacity := by
  induction uses generalizing l with
  | nil => rfl
  | cons u uses ih => exact (ih (l.use u).2).trans (l.capacity_use u)

/-! ### Keys behind a key -/

/-- A use keeps some of the keys in their order and moves a key that it uses to the end. -/
theorem keys_use (l : RecencyList κ ν) (u : Use κ ν) : ∃ kept : List κ, kept.Sublist l.keys ∧
    (l.use u).2.keys = kept ++ usedKeys [(u, (l.use u).1)] ∧
    ∀ k ∈ usedKeys [(u, (l.use u).1)], k ∉ kept := by
  have htouch : ∀ k v m, ∃ kept : List κ, kept.Sublist l.keys ∧ (l.touch k v m).keys = kept ++ [k] ∧
      ∀ k' ∈ [k], k' ∉ kept := by
    intro k v m
    refine ⟨_, (l.others_sublist k).map Prod.fst, l.keys_touch k v m, ?_⟩
    intro k' hk'
    rw [List.mem_singleton.mp hk']
    exact l.notMem_others k
  have hdrop : ∀ k, (l.drop k).keys.Sublist l.keys := fun k => List.filter_sublist.map Prod.fst
  cases u with
  | get k now =>
    simp only [use, get]
    split
    · exact ⟨l.keys, List.Sublist.refl _, by simp [usedKeys], by simp [usedKeys]⟩
    · split
      · exact htouch k _ _
      · exact ⟨_, hdrop k, by simp [usedKeys], by simp [usedKeys]⟩
  | put k v now => exact htouch k v now
  | remove k => exact ⟨_, hdrop k, by simp [usedKeys, use, remove], by simp [usedKeys]⟩
  | clear => exact ⟨[], List.nil_sublist _, rfl, by simp [usedKeys]⟩

/-- Every key behind a key is one of the given. -/
def Behind (l : RecencyList κ ν) (k : κ) (given : List κ) : Prop :=
  ∀ k', [k, k'].Sublist l.keys → k' ∈ given

omit [DecidableEq κ] in
theorem usedKeys_cons (x : Use κ ν × Option ν) (rest : List (Use κ ν × Option ν)) :
    usedKeys (x :: rest) = usedKeys [x] ++ usedKeys rest := by
  obtain ⟨u, a⟩ := x
  cases u <;> cases a <;> rfl

/-- A use brings only a key that it uses behind another one. -/
theorem Behind.use {l : RecencyList κ ν} {k : κ} {given : List κ} (h : l.Behind k given)
    (u : Use κ ν) :
    (l.use u).2.Behind k (given ++ usedKeys [(u, (l.use u).1)]) := by
  obtain ⟨kept, hkept, hkeys, hnew⟩ := l.keys_use u
  intro k' hsub
  rw [hkeys, List.sublist_append_iff] at hsub
  obtain ⟨xs, ys, hxy, hx, hy⟩ := hsub
  match xs, hxy, hx with
  | [], hxy, _ =>
    subst hxy
    exact List.mem_append_right _ (hy.subset (by simp))
  | [_], hxy, _ =>
    obtain ⟨rfl, rfl⟩ : k = _ ∧ [k'] = ys := by simpa using hxy
    exact List.mem_append_right _ (hy.subset (by simp))
  | [_, _], hxy, hx =>
    obtain ⟨rfl, rfl, -⟩ : k = _ ∧ k' = _ ∧ ys = [] := by simpa using hxy
    exact List.mem_append_left _ (h k' (hx.trans hkept))

/-- Nothing is behind a key that has just been used. -/
theorem behind_of_used {l : RecencyList κ ν} {k : κ} {u : Use κ ν}
    (h : k ∈ usedKeys [(u, (l.use u).1)]) : (l.use u).2.Behind k [] := by
  obtain ⟨kept, -, hkeys, hnew⟩ := l.keys_use u
  have hone : (usedKeys [(u, (l.use u).1)]).length ≤ 1 := by
    cases u <;> cases (l.use _).1 <;> simp [usedKeys]
  intro k' hsub
  rw [hkeys, List.sublist_append_iff] at hsub
  obtain ⟨xs, ys, hxy, hx, hy⟩ := hsub
  exfalso
  match xs, hxy, hx with
  | [], hxy, _ =>
    have hlength := hy.length_le
    rw [← (show [k, k'] = ys from hxy), List.length_cons, List.length_singleton] at hlength
    omega
  | a :: xs, hxy, hx =>
    obtain ⟨rfl, -⟩ := List.cons.inj hxy
    exact hnew k h (hx.subset List.mem_cons_self)

/-- **Since a key was used,** only keys that were used got behind it. -/
theorem behind_run {k : κ} (since : List (Use κ ν)) :
    ∀ {l : RecencyList κ ν} {given : List κ}, l.Behind k given →
      (l.run since).Behind k (given ++ usedKeys (l.trace since)) := by
  induction since with
  | nil =>
    intro l given h
    rw [trace, usedKeys, List.append_nil]
    exact h
  | cons u since ih =>
    intro l given h
    have hrest := ih (h.use u)
    rw [List.append_assoc, ← usedKeys_cons] at hrest
    exact hrest

/-- With enough room, a key with few keys behind it is not the first when a new key comes. -/
theorem head_ne_of_behind {l : RecencyList κ ν} {k k' : κ} {given : List κ} (h : l.Behind k given)
    (hnew : k' ∉ l.keys) (hfull : l.capacity ≤ l.items.length)
    (hfew : ((given ++ [k']).toFinset.erase k).card < l.capacity) : l.keys.head? ≠ some k := by
  intro hhead
  obtain ⟨ks, hks⟩ : ∃ ks, l.keys = k :: ks := by
    cases hl : l.keys with
    | nil => rw [hl] at hhead; cases hhead
    | cons a ks => rw [hl] at hhead; cases hhead; exact ⟨ks, rfl⟩
  have hnodup : (k :: ks).Nodup := hks ▸ l.distinct
  rw [hks, List.mem_cons, not_or] at hnew
  have hbehind : ∀ y ∈ ks, y ∈ given := by
    intro y hy
    refine h y ?_
    rw [hks]
    exact (List.singleton_sublist.mpr hy).cons_cons k
  have hsubset : (k' :: ks).toFinset ⊆ (given ++ [k']).toFinset.erase k := by
    intro y hy
    rw [List.mem_toFinset] at hy
    rw [Finset.mem_erase, List.mem_toFinset, List.mem_append, List.mem_singleton]
    rcases List.mem_cons.mp hy with rfl | hy
    · exact ⟨hnew.1, .inr rfl⟩
    · exact ⟨fun he => (List.nodup_cons.mp hnodup).1 (he ▸ hy), .inl (hbehind y hy)⟩
  have hcard : (k' :: ks).toFinset.card = (k' :: ks).length :=
    List.toFinset_card_of_nodup (List.nodup_cons.mpr ⟨hnew.2, (List.nodup_cons.mp hnodup).2⟩)
  have hle := Finset.card_le_card hsubset
  have hlength : l.items.length = ks.length + 1 := by
    rw [← List.length_cons (a := k), ← hks, keys, List.length_map]
  rw [hcard, List.length_cons] at hle
  omega

end RecencyList

end SignOn
