import Mathlib.Data.List.Induction
import SignOn.Proofs.Broker.HelloCache

/-! # What a cache of handshakes shows, told from its history

A cache of handshakes is looked into, added to, switched on and off and cleared, in any order and at
any moments, also at moments that lie before others. What it holds under a handshake is told by the
uses that it heeds (`heeded`): while it is off it heeds nothing but a clearing. What is left of
these uses for a handshake is the last save for it, unless the cache was cleared since, or a look-up
since found that save too old (`LastSave`).

* `held_use_iff`: what one use leaves of what is held.
* `held_run_iff`: after any uses, what is held is the last save.
* `Lists.use`: a cache holds one entry for each of its places.
* `shows_last_save`: what a look-up gives, what it removes, what a cache that is off does, and how
  many outcomes there are. -/

namespace SignOn.HelloCache

variable {c : HelloCache} {k k' : HelloKey} {e : HelloEntry} {u : Use} {uses : List Use}
  {ttl : Duration} {keys : List HelloKey}

/-! ### Uses that a cache heeds -/

/-- Is a cache on after a use, if it was on or off before? -/
def Use.isOnAfter (on : Bool) : Use → Bool
  | .setEnabled enabled => enabled
  | .get .. | .save .. | .clear => on

/-- Does a cache that is on or off make anything of a use? -/
def Use.isHeeded (on : Bool) : Use → Bool
  | .get .. | .save .. => on
  | .setEnabled _ => false
  | .clear => true

/-- The use ends what is stored under a handshake: something else is stored there, or it is found
too old there, or everything goes. -/
def Use.Ends (ttl : Duration) (k : HelloKey) (e : HelloEntry) : Use → Prop
  | .get k' now => k'.SharesPlace k ∧ ttl.nanos ≤ now.since e.storedAt
  | .save k' _ _ => k'.SharesPlace k
  | .setEnabled _ => False
  | .clear => True

/-- Is a new cache on after some uses? -/
def isOnAfter (uses : List Use) : Bool := uses.foldl Use.isOnAfter true

/-- The uses of which a cache that is on or off makes anything. -/
def heeded : Bool → List Use → List Use
  | _, [] => []
  | on, u :: uses =>
    if u.isHeeded on then u :: heeded (u.isOnAfter on) uses else heeded (u.isOnAfter on) uses

/-- The last save for a handshake is that of an outcome at a moment, and none of the uses since
ended it. -/
def LastSave (ttl : Duration) (uses : List Use) (k : HelloKey) (e : HelloEntry) : Prop :=
  ∃ before k₀ since, uses = before ++ .save k₀ e.outcome e.storedAt :: since ∧ k₀.SharesPlace k ∧
    ∀ u ∈ since, ¬ u.Ends ttl k e

theorem isOnAfter_concat (uses : List Use) (u : Use) :
    isOnAfter (uses ++ [u]) = u.isOnAfter (isOnAfter uses) := by
  rw [isOnAfter, List.foldl_append]
  rfl

theorem heeded_concat (u : Use) (uses : List Use) : ∀ on, heeded on (uses ++ [u]) =
    heeded on uses ++ if u.isHeeded (uses.foldl Use.isOnAfter on) then [u] else [] := by
  induction uses with
  | nil => intro on; rfl
  | cons v uses ih =>
    intro on
    rw [List.cons_append, heeded, heeded, ih, List.foldl_cons]
    split
    · rw [List.cons_append]
    · rfl

/-- One more use is itself the last save, or it leaves the last one. -/
theorem lastSave_concat_iff : LastSave ttl (uses ++ [u]) k e ↔
    (∃ k₀, u = .save k₀ e.outcome e.storedAt ∧ k₀.SharesPlace k) ∨
      (LastSave ttl uses k e ∧ ¬ u.Ends ttl k e) := by
  constructor
  · rintro ⟨before, k₀, since, heq, hshares, hkept⟩
    rcases List.eq_nil_or_concat since with rfl | ⟨since, v, rfl⟩
    · obtain ⟨-, hu⟩ := List.append_inj' heq rfl
      exact .inl ⟨k₀, List.singleton_inj.mp hu, hshares⟩
    · rw [List.concat_eq_append] at heq hkept
      rw [← List.cons_append, ← List.append_assoc] at heq
      obtain ⟨huses, hu⟩ := List.append_inj' heq rfl
      obtain rfl : u = v := List.singleton_inj.mp hu
      refine .inr ⟨⟨before, k₀, since, huses, hshares, fun w hw => ?_⟩, hkept u (by simp)⟩
      exact hkept w (List.mem_append_left _ hw)
  · rintro (⟨k₀, rfl, hshares⟩ | ⟨⟨before, k₀, since, rfl, hshares, hkept⟩, hu⟩)
    · exact ⟨uses, k₀, [], rfl, hshares, fun w hw => nomatch hw⟩
    · refine ⟨before, k₀, since ++ [u], by simp, hshares, fun w hw => ?_⟩
      rcases List.mem_append.mp hw with hw | hw
      · exact hkept w hw
      · rwa [List.mem_singleton.mp hw]

/-! ### One use -/

theorem enabled_use (c : HelloCache) (u : Use) : (c.use u).enabled = u.isOnAfter c.enabled := by
  cases u with
  | get k now => exact enabled_get c k now
  | save k o now => exact enabled_save c k o now
  | setEnabled _ => rfl
  | clear => rfl

theorem held_get_iff {now : Moment} (on : c.enabled = true) : (c.get k' now).2.held k = some e ↔
    c.held k = some e ∧ ¬ (k'.SharesPlace k ∧ c.ttl.nanos ≤ now.since e.storedAt) := by
  by_cases hs : k'.SharesPlace k
  · rw [get_eq_of_sharesPlace hs]
    constructor
    · intro hheld
      obtain ⟨hbefore, hyoung⟩ := held_get_self hheld
      exact ⟨hbefore, fun hold => Int.not_le.mpr (hyoung on) hold.2⟩
    · rintro ⟨hbefore, hnot⟩
      have hyoung : now.since e.storedAt < c.ttl.nanos := Int.not_le.mp fun hold => hnot ⟨hs, hold⟩
      rwa [get_of_young on hbefore hyoung]
  · rw [held_get_of_apart fun h => hs h.symm]
    simp [hs]

theorem held_save_iff {o : HelloOutcome} {m : Moment} (on : c.enabled = true) :
    (c.save k' o m).held k = some e ↔
      (e = ⟨o, m⟩ ∧ k'.SharesPlace k) ∨ (c.held k = some e ∧ ¬ k'.SharesPlace k) := by
  by_cases hs : k'.SharesPlace k
  · rw [save_eq_of_sharesPlace hs, held_save_self, if_pos on]
    simp [hs, eq_comm]
  · rw [held_save_of_apart fun h => hs h.symm]
    simp [hs]

/-- **What is held after a use** was saved by it, or was held before and is not ended by it; a use
that is not heeded does neither. -/
theorem held_use_iff : (c.use u).held k = some e ↔
    (u.isHeeded c.enabled = true ∧ ∃ k₀, u = .save k₀ e.outcome e.storedAt ∧ k₀.SharesPlace k) ∨
      (c.held k = some e ∧ (u.isHeeded c.enabled = true → ¬ u.Ends c.ttl k e)) := by
  cases u with
  | get k' now =>
    change (c.get k' now).2.held k = some e ↔ _
    cases hon : c.enabled with
    | false => simp [get_of_off hon, Use.isHeeded]
    | true => simp [held_get_iff hon, Use.isHeeded, Use.Ends]
  | save k' o m =>
    change (c.save k' o m).held k = some e ↔ _
    cases hon : c.enabled with
    | false => simp [save, hon, Use.isHeeded]
    | true =>
      rw [held_save_iff hon]
      obtain ⟨outcome, storedAt⟩ := e
      simp [Use.isHeeded, Use.Ends, and_assoc, eq_comm]
  | setEnabled enabled =>
    change c.held k = some e ↔ _
    simp [Use.isHeeded]
  | clear =>
    change (none : Option HelloEntry) = some e ↔ _
    simp [Use.isHeeded, Use.Ends]

/-! ### All uses -/

theorem run_concat (c : HelloCache) (uses : List Use) (u : Use) :
    c.run (uses ++ [u]) = (c.run uses).use u := by
  rw [run, List.foldl_append]
  rfl

theorem enabled_run (protocol : String) (ttl : Duration) (uses : List Use) :
    ((new protocol ttl).run uses).enabled = isOnAfter uses := by
  induction uses using List.reverseRecOn with
  | nil => rfl
  | append_singleton uses u ih => rw [run_concat, enabled_use, ih, isOnAfter_concat]

/-- **What a cache holds is the last save.** -/
theorem held_run_iff (protocol : String) : ((new protocol ttl).run uses).held k = some e ↔
    LastSave ttl (heeded true uses) k e := by
  induction uses using List.reverseRecOn with
  | nil =>
    refine iff_of_false (fun h => nomatch h) ?_
    rintro ⟨before, k₀, since, heq, -⟩
    exact List.append_ne_nil_of_right_ne_nil before (List.cons_ne_nil _ _) heq.symm
  | append_singleton uses u ih =>
    have hon : uses.foldl Use.isOnAfter true = ((new protocol ttl).run uses).enabled :=
      (enabled_run protocol ttl uses).symm
    rw [run_concat, held_use_iff, ih, ttl_run, heeded_concat, hon]
    cases hheeded : u.isHeeded ((new protocol ttl).run uses).enabled with
    | false => simp
    | true => simp [lastSave_concat_iff, new]

/-- While a cache is off, nothing but a clearing changes it. -/
theorem run_of_off (off : c.enabled = false)
    (kept : ∀ u ∈ uses, u ≠ .clear ∧ u ≠ .setEnabled true) :
    c.run uses = c := by
  induction uses with
  | nil => rfl
  | cons u uses ih =>
    obtain ⟨hu, huses⟩ := List.forall_mem_cons.mp kept
    have hsame : c.use u = c := by
      cases u with
      | get k now => exact congrArg Prod.snd (get_of_off off k now)
      | save k o now => exact if_neg (by simp [off])
      | setEnabled enabled =>
        cases enabled with
        | false => cases c; cases off; rfl
        | true => exact absurd rfl hu.2
      | clear => exact absurd rfl hu.1
    rw [run_cons, hsame]
    exact ih huses

/-- So a cache that was off for a while is what it was when it is on again. -/
theorem run_while_off (on : c.enabled = true)
    (kept : ∀ u ∈ uses, u ≠ .clear ∧ u ≠ .setEnabled true) :
    c.run (.setEnabled false :: uses ++ [.setEnabled true]) = c := by
  have hoff : (c.use (.setEnabled false)).run uses = c.use (.setEnabled false) :=
    run_of_off rfl kept
  rw [List.cons_append, run_cons, run_concat, hoff]
  cases c
  cases on
  rfl

/-! ### How many there are -/

/-- The cache holds one entry for each of the handshakes, and no other, and they have places of
their own. -/
structure Lists (c : HelloCache) (keys : List HelloKey) : Prop where
  places : c.entries.map Prod.fst = keys.map c.place
  apart : keys.Pairwise fun k k' => ¬ k.SharesPlace k'

theorem Lists.isSome_held_iff (h : c.Lists keys) :
    (c.held k).isSome = true ↔ ∃ k' ∈ keys, k'.SharesPlace k := by
  have hmem : (c.held k).isSome = true ↔ c.place k ∈ c.entries.map Prod.fst := by
    simp [held, List.lookup_isSome_iff]
  rw [hmem, h.places, List.mem_map]
  exact exists_congr fun k' => and_congr_right fun _ => place_eq_iff

theorem Lists.size_eq (h : c.Lists keys) : c.size = keys.length := by
  have hlength := congrArg List.length h.places
  rwa [List.length_map, List.length_map] at hlength

/-- Without the entry of a handshake. -/
theorem Lists.without (h : c.Lists keys) (k : HelloKey) :
    ({ c with entries := HelloCache.without (c.place k) c.entries } : HelloCache).Lists
      (keys.filter fun k' => !decide (k'.SharesPlace k)) where
  places := by
    have hfilter : (fun p : PackageName × String => decide (p ≠ c.place k)) ∘ c.place =
        fun k' => !decide (k'.SharesPlace k) := by
      funext k'
      simp [place_eq_iff]
    have hrest := congrArg (List.filter fun p => decide (p ≠ c.place k)) h.places
    rw [List.filter_map, List.filter_map, hfilter] at hrest
    exact hrest
  apart := h.apart.filter _

theorem Lists.use (h : c.Lists keys) (u : Use) : ∃ keys', (c.use u).Lists keys' := by
  cases u with
  | get k now =>
    change ∃ keys', (c.get k now).2.Lists keys'
    unfold get
    split
    · split
      · exact ⟨keys, h⟩
      · split
        · exact ⟨keys, h⟩
        · exact ⟨_, h.without k⟩
    · exact ⟨keys, h⟩
  | save k o now =>
    change ∃ keys', (c.save k o now).Lists keys'
    unfold save
    split
    · have hwithout := h.without k
      refine ⟨k :: keys.filter fun k' => !decide (k'.SharesPlace k), ?_, ?_⟩
      · exact congrArg (c.place k :: ·) hwithout.places
      · refine List.pairwise_cons.mpr ⟨fun k' hk' hs => ?_, hwithout.apart⟩
        have hnot := (List.mem_filter.mp hk').2
        simp [hs.symm] at hnot
    · exact ⟨keys, h⟩
  | setEnabled _ => exact ⟨keys, h.places, h.apart⟩
  | clear => exact ⟨[], rfl, .nil⟩

theorem lists_run (protocol : String) (ttl : Duration) (uses : List Use) :
    ∃ keys, ((new protocol ttl).run uses).Lists keys := by
  induction uses using List.reverseRecOn with
  | nil => exact ⟨[], rfl, .nil⟩
  | append_singleton uses u ih =>
    obtain ⟨keys, hkeys⟩ := ih
    rw [run_concat]
    exact hkeys.use u

/-! ### What is shown -/

/-- **A cache of handshakes shows the last save.** After any uses, at any moments:

* what is held under a handshake is the last save for it that was made while the cache was on,
  unless the cache was cleared since or a look-up since found that save too old;
* a look-up gives an outcome just if the cache is on and the outcome is held and younger than the
  lifetime;
* a look-up that finds an entry too old gives nothing and takes out that entry and no other, and any
  other look-up changes nothing;
* while the cache is off, look-ups give nothing and saves do nothing; and whatever is done until it
  is on again, other than clearing it, it is then what it was;
* there are as many outcomes as there are handshakes, over all packages, under which one is held. -/
theorem shows_last_save (protocol : String) (ttl : Duration) (uses : List Use) :
    let c := (new protocol ttl).run uses
    (∀ k e, c.held k = some e ↔ LastSave ttl (heeded true uses) k e) ∧
    (∀ k now o, (c.get k now).1 = some o ↔ isOnAfter uses = true ∧
      ∃ m, LastSave ttl (heeded true uses) k ⟨o, m⟩ ∧ now.since m < ttl.nanos) ∧
    (∀ k now,
      (∀ e, isOnAfter uses = true → c.held k = some e → ttl.nanos ≤ now.since e.storedAt →
        (c.get k now).1 = none ∧
        ∀ k', (c.get k now).2.held k' = if k'.SharesPlace k then none else c.held k') ∧
      ((isOnAfter uses = true → ∀ e, c.held k = some e → now.since e.storedAt < ttl.nanos) →
        (c.get k now).2 = c)) ∧
    (isOnAfter uses = false → ∀ k now, c.get k now = (none, c) ∧ ∀ o, c.save k o now = c) ∧
    (isOnAfter uses = true → ∀ later, (∀ u ∈ later, u ≠ .clear ∧ u ≠ .setEnabled true) →
      c.run (.setEnabled false :: later ++ [.setEnabled true]) = c) ∧
    ∃ keys : List HelloKey, (keys.Pairwise fun k k' => ¬ k.SharesPlace k') ∧
      (∀ k, (c.held k).isSome = true ↔ ∃ k' ∈ keys, k'.SharesPlace k) ∧ c.size = keys.length := by
  intro c
  have hon : c.enabled = isOnAfter uses := enabled_run protocol ttl uses
  have httl : c.ttl = ttl := ttl_run uses _
  refine ⟨fun k e => held_run_iff protocol, fun k now o => ?_,
    fun k now => ⟨fun e on hheld old => ?_, ?_⟩,
    fun off k now => ⟨get_of_off (hon.trans off) k now, fun o => if_neg (by simp [hon, off])⟩,
    fun on later kept => run_while_off (hon.trans on) kept, ?_⟩
  · rw [get_eq_some_iff, hon, httl]
    simp only [c, held_run_iff]
  · rw [← hon] at on
    rw [← httl] at old
    rw [get_of_old on hheld old]
    refine ⟨rfl, fun k' => ?_⟩
    split
    · rename_i hs
      rw [held_eq_of_sharesPlace hs]
      exact lookup_without_self _ _
    · rename_i hs
      exact lookup_without_of_ne (fun heq => hs (place_eq_iff.mp heq)) _
  · intro hyoung
    cases hcase : c.enabled with
    | false => rw [get_of_off hcase]
    | true =>
      cases hheld : c.held k with
      | none => rw [get_of_none hheld]
      | some e => rw [get_of_young hcase hheld (httl ▸ hyoung (hon ▸ hcase) e hheld)]
  · obtain ⟨keys, hkeys⟩ := lists_run protocol ttl uses
    exact ⟨keys, hkeys.apart, fun k => hkeys.isSome_held_iff, hkeys.size_eq⟩

/-- An agreement at one moment, and a refusal at another one, while the cache is off. -/
def agreedThenOff (agreed refused : Moment) : List Use :=
  [.save (offer none "14.0") (.negotiated "14.0") agreed, .setEnabled false,
    .save (offer none "14.0") .refused refused, .setEnabled true]

/-- The agreement is shown as long as it is young, and is taken out by a look-up that finds it too
old. -/
theorem shows_last_save_agreedThenOff :
    let uses := agreedThenOff (hour 0) (hour 1)
    (∃ m, LastSave defaultTtl (heeded true uses) (offer none "14.0") ⟨.negotiated "14.0", m⟩ ∧
      (hour 2).since m < defaultTtl.nanos) ∧
    ((standard.run uses).get (offer none "14.0") (hour 5)).1 = none ∧
    ((standard.run uses).get (offer none "14.0") (hour 5)).2.held (offer none "14.0") = none := by
  intro uses
  obtain ⟨-, shown, looked, -⟩ := shows_last_save protocolName defaultTtl uses
  have young := (shown (offer none "14.0") (hour 2) (.negotiated "14.0")).mp (by decide)
  have held : (standard.run uses).held (offer none "14.0") = some ⟨.negotiated "14.0", hour 0⟩ := by
    decide
  obtain ⟨nothing, gone⟩ := (looked (offer none "14.0") (hour 5)).1 _ (by decide) held (by decide)
  exact ⟨young.2, nothing, (gone _).trans (if_pos (.refl _))⟩

end SignOn.HelloCache
