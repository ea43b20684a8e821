import SignOn.Broker.HelloCache

/-! # What the cache of handshakes tells apart

The cache seen as a partial function (`held`) from handshakes to what is held under them. A look-up
gives what is held and young enough (`get_eq_some_iff`), and both a look-up and a save change what
is held at the place of their own handshake only.

A place is a package and a text. The text is put together with commas and brackets that may as well
stand in the versions, and an offer without a lower end is written like one whose lower end is the
empty text. So two handshakes may share a place (`HelloKey.SharesPlace`):

* `Remembers`: what was learned from brokers is kept under its own handshake until it is too old,
  though others may share the place.
* `isolated`: whatever is done with a cache, handshakes that share no place do not meet in it;
  handshakes that share one are the same to it; and plain handshakes, with no separator in their
  ends, share none.
* `ranges_meet`: offers of two ranges that are not plain share a place, and one is told what the
  other was. -/

namespace SignOn

namespace HelloKey

variable {k k' : HelloKey}

/-- The text of a handshake after the name of the protocol. -/
def text (k : HelloKey) : String :=
  "[" ++ k.minVersion.getD "" ++ "," ++ k.maxVersion ++ "]:" ++ k.package.text ++ "["
    ++ k.appVersion ++ "]"

/-- Two handshakes are kept at one place. -/
structure SharesPlace (k k' : HelloKey) : Prop where
  package : k.package = k'.package
  text : k.text = k'.text

instance (k k' : HelloKey) : Decidable (k.SharesPlace k') :=
  decidable_of_iff (k.package = k'.package ∧ k.text = k'.text)
    ⟨fun h => ⟨h.1, h.2⟩, fun h => ⟨h.package, h.text⟩⟩

/-- **A plain handshake** has no separator in the ends of its range, and a lower end that is there
is not empty. -/
structure Plain (k : HelloKey) : Prop where
  min : ∀ v, k.minVersion = some v → v ≠ "" ∧ ',' ∉ v.toList
  max : ']' ∉ k.maxVersion.toList

theorem SharesPlace.refl (k : HelloKey) : k.SharesPlace k := ⟨rfl, rfl⟩

theorem SharesPlace.symm (h : k.SharesPlace k') : k'.SharesPlace k := ⟨h.package.symm, h.text.symm⟩

/-! ### Plain handshakes -/

/-- A text up to a character that is not in it is told by the whole. -/
theorem cut_inj {x : Char} {a a' b b' : List Char} (h : x ∉ a) (h' : x ∉ a')
    (he : a ++ x :: b = a' ++ x :: b') : a = a' ∧ b = b' := by
  rcases List.append_eq_append_iff.mp he with ⟨d, hd, hb⟩ | ⟨d, hd, hb⟩
  · cases d with
    | nil => simp_all
    | cons y d =>
      have hy : x = y := (List.cons.inj hb).1
      exact absurd (by rw [hd, hy]; simp) h'
  · cases d with
    | nil => simp_all
    | cons y d =>
      have hy : x = y := (List.cons.inj hb).1
      exact absurd (by rw [hd, hy]; simp) h

theorem toList_text (k : HelloKey) : k.text.toList =
    '[' :: ((k.minVersion.getD "").toList ++ ',' :: (k.maxVersion.toList ++ ']' ::
      (':' :: k.package.text.toList ++ '[' :: (k.appVersion.toList ++ [']'])))) := by
  simp [text, String.toList_append]

theorem Plain.min_getD (h : k.Plain) : ',' ∉ (k.minVersion.getD "").toList := by
  cases hm : k.minVersion with
  | none => simp
  | some v => exact (h.min v hm).2

/-- A lower end that is plain is told by its text. -/
theorem Plain.min_eq (h : k.Plain) (h' : k'.Plain)
    (he : k.minVersion.getD "" = k'.minVersion.getD "") : k.minVersion = k'.minVersion := by
  cases hm : k.minVersion with
  | none =>
    cases hm' : k'.minVersion with
    | none => rfl
    | some v' => exact absurd (by simpa [hm, hm'] using he.symm) (h'.min v' hm').1
  | some v =>
    cases hm' : k'.minVersion with
    | none => exact absurd (by simpa [hm, hm'] using he) (h.min v hm).1
    | some v' => simpa [hm, hm'] using he

/-- Plain handshakes that share a place are the same. -/
theorem SharesPlace.eq (hs : k.SharesPlace k') (h : k.Plain) (h' : k'.Plain) : k = k' := by
  have htext := congrArg String.toList hs.text
  rw [toList_text, toList_text] at htext
  obtain ⟨hmin, hrest⟩ := cut_inj h.min_getD h'.min_getD (List.cons.inj htext).2
  obtain ⟨hmax, hrest⟩ := cut_inj h.max h'.max hrest
  have happ : k.appVersion.toList = k'.appVersion.toList := by
    rw [hs.package] at hrest
    have hcut := (List.cons.inj (List.append_cancel_left hrest)).2
    exact List.append_cancel_right hcut
  have hpackage := hs.package
  have hminVersion := h.min_eq h' (String.toList_inj.mp hmin)
  rw [String.toList_inj] at hmax happ
  cases k
  cases k'
  simp_all

end HelloKey

namespace HelloCache

variable {c : HelloCache} {k k' : HelloKey} {o : HelloOutcome} {now : Moment}

/-- What is held under a handshake, young or old. -/
def held (c : HelloCache) (k : HelloKey) : Option HelloEntry := c.entries.lookup (c.place k)

theorem place_eq_iff : c.place k = c.place k' ↔ k.SharesPlace k' := by
  have hrender : ∀ k : HelloKey, render c.protocol k = c.protocol ++ k.text := by
    intro k
    simp [render, HelloKey.text, String.append_assoc]
  rw [place, place, Prod.mk.injEq, hrender, hrender, String.append_right_inj]
  exact ⟨fun h => ⟨h.1, h.2⟩, fun h => ⟨h.package, h.text⟩⟩

theorem held_eq_of_sharesPlace (h : k.SharesPlace k') : c.held k = c.held k' := by
  rw [held, held, place_eq_iff.mpr h]

theorem get_eq_of_sharesPlace (h : k.SharesPlace k') (now : Moment) :
    c.get k now = c.get k' now := by
  rw [get, get, place_eq_iff.mpr h]

theorem save_eq_of_sharesPlace (h : k.SharesPlace k') (o : HelloOutcome) (now : Moment) :
    c.save k o now = c.save k' o now := by
  rw [save, save, place_eq_iff.mpr h]

/-! ### Entries -/

theorem lookup_without_self (place : PackageName × String)
    (entries : List ((PackageName × String) × HelloEntry)) :
    (without place entries).lookup place = none := by
  rw [without, List.lookup_eq_none_iff]
  intro e he
  have hne : e.1 ≠ place := by simpa using (List.mem_filter.mp he).2
  simpa using hne.symm

theorem lookup_without_of_ne {place other : PackageName × String} (h : other ≠ place)
    (entries : List ((PackageName × String) × HelloEntry)) :
    (without place entries).lookup other = entries.lookup other := by
  induction entries with
  | nil => rfl
  | cons e entries ih =>
    obtain ⟨p, e⟩ := e
    by_cases hp : p = place
    · subst hp
      rw [without, List.filter_cons_of_neg (by simp), ← without, ih, List.lookup_cons,
        beq_false_of_ne h]
    · rw [without, List.filter_cons_of_pos (by simpa using hp), ← without, List.lookup_cons,
        List.lookup_cons, ih]

/-! ### Looking up -/

theorem get_of_off (h : c.enabled = false) (k : HelloKey) (now : Moment) :
    c.get k now = (none, c) := by
  unfold get
  rw [if_neg (by simp [h])]

theorem get_of_none (h : c.held k = none) (now : Moment) : c.get k now = (none, c) := by
  unfold held at h
  unfold get
  rw [h]
  exact ite_self _

theorem get_of_young {e : HelloEntry} (on : c.enabled = true) (h : c.held k = some e)
    (young : now.since e.storedAt < c.ttl.nanos) : c.get k now = (some e.outcome, c) := by
  unfold held at h
  unfold get
  simp only [on, if_true, h]
  exact if_pos (by simpa [isLive] using young)

theorem get_of_old {e : HelloEntry} (on : c.enabled = true) (h : c.held k = some e)
    (old : c.ttl.nanos ≤ now.since e.storedAt) :
    c.get k now = (none, { c with entries := without (c.place k) c.entries }) := by
  unfold held at h
  unfold get
  simp only [on, if_true, h]
  exact if_neg (by simpa [isLive] using old)

/-- **A look-up finds** what is held and younger than the lifetime of the cache, if the cache is
on. -/
theorem get_eq_some_iff : (c.get k now).1 = some o ↔
    c.enabled = true ∧ ∃ m, c.held k = some ⟨o, m⟩ ∧ now.since m < c.ttl.nanos := by
  rcases hon : c.enabled with _ | _
  · simp [get_of_off hon]
  rcases hf : c.held k with _ | ⟨o', m⟩
  · simp [get_of_none hf]
  rcases Int.lt_or_le (now.since m) c.ttl.nanos with hm | hm
  · rw [get_of_young hon hf hm]
    constructor
    · intro h
      cases h
      exact ⟨rfl, m, rfl, hm⟩
    · rintro ⟨-, m', he, -⟩
      cases he
      rfl
  · rw [get_of_old hon hf hm]
    constructor
    · intro h
      cases h
    · rintro ⟨-, m', he, hm'⟩
      cases he
      omega

/-- What is held under a handshake after it was looked up: what was, unless that was found too
old. -/
theorem held_get_self {e : HelloEntry} (h : (c.get k now).2.held k = some e) :
    c.held k = some e ∧ (c.enabled = true → now.since e.storedAt < c.ttl.nanos) := by
  rcases hon : c.enabled with _ | _
  · rw [get_of_off hon] at h
    exact ⟨h, fun h => by cases h⟩
  rcases hf : c.held k with _ | e'
  · rw [get_of_none hf] at h
    cases hf.symm.trans h
  rcases Int.lt_or_le (now.since e'.storedAt) c.ttl.nanos with hm | hm
  · rw [get_of_young hon hf hm] at h
    cases hf.symm.trans h
    exact ⟨rfl, fun _ => hm⟩
  · rw [get_of_old hon hf hm] at h
    cases (lookup_without_self (c.place k) c.entries).symm.trans h

theorem held_get_of_apart (h : ¬ k.SharesPlace k') (now : Moment) :
    (c.get k' now).2.held k = c.held k := by
  rcases hon : c.enabled with _ | _
  · rw [get_of_off hon]
  rcases hf : c.held k' with _ | e
  · rw [get_of_none hf]
  rcases Int.lt_or_le (now.since e.storedAt) c.ttl.nanos with hm | hm
  · rw [get_of_young hon hf hm]
  · rw [get_of_old hon hf hm]
    exact lookup_without_of_ne (fun he => h (place_eq_iff.mp he)) c.entries

/-! ### Storing -/

theorem held_save_self (c : HelloCache) (k : HelloKey) (o : HelloOutcome) (now : Moment) :
    (c.save k o now).held k = if c.enabled then some ⟨o, now⟩ else c.held k := by
  unfold save
  split
  · exact List.lookup_cons_self
  · rfl

theorem held_save_of_apart (h : ¬ k.SharesPlace k') (o : HelloOutcome) (now : Moment) :
    (c.save k' o now).held k = c.held k := by
  have hne : c.place k ≠ c.place k' := fun he => h (place_eq_iff.mp he)
  unfold save
  split
  · refine Eq.trans ?_ (lookup_without_of_ne hne c.entries)
    change List.lookup (c.place k) ((c.place k', (⟨o, now⟩ : HelloEntry)) :: _) = _
    rw [List.lookup_cons, beq_false_of_ne hne]
  · rfl

/-! ### What is learned is remembered -/

/-- A look-up changes the entries only. -/
theorem get_entries (c : HelloCache) (k : HelloKey) (now : Moment) :
    ∃ entries, (c.get k now).2 = { c with entries } := by
  unfold get
  split
  · split
    · exact ⟨c.entries, rfl⟩
    · split
      · exact ⟨c.entries, rfl⟩
      · exact ⟨_, rfl⟩
  · exact ⟨c.entries, rfl⟩

/-- A save changes the entries only. -/
theorem save_entries (c : HelloCache) (k : HelloKey) (o : HelloOutcome) (now : Moment) :
    ∃ entries, c.save k o now = { c with entries } := by
  unfold save
  split
  · exact ⟨_, rfl⟩
  · exact ⟨c.entries, rfl⟩

theorem enabled_get (c : HelloCache) (k : HelloKey) (now : Moment) :
    (c.get k now).2.enabled = c.enabled := by
  obtain ⟨_, h⟩ := c.get_entries k now
  rw [h]

theorem enabled_save (c : HelloCache) (k : HelloKey) (o : HelloOutcome) (now : Moment) :
    (c.save k o now).enabled = c.enabled := by
  obtain ⟨_, h⟩ := c.save_entries k o now
  rw [h]

theorem ttl_get (c : HelloCache) (k : HelloKey) (now : Moment) : (c.get k now).2.ttl = c.ttl := by
  obtain ⟨_, h⟩ := c.get_entries k now
  rw [h]

theorem ttl_save (c : HelloCache) (k : HelloKey) (o : HelloOutcome) (now : Moment) :
    (c.save k o now).ttl = c.ttl := by
  obtain ⟨_, h⟩ := c.save_entries k o now
  rw [h]

/-- Of what was learned, a cache holds all that is young enough at a moment, each under its own
handshake. -/
def Remembers (c : HelloCache) (now : Moment) (learned : List (HelloKey × HelloEntry)) : Prop :=
  ∀ x ∈ learned, now.since x.2.storedAt < c.ttl.nanos → c.held x.1 = some x.2

variable {now' : Moment} {learned : List (HelloKey × HelloEntry)}

theorem Remembers.later (h : c.Remembers now learned) (hle : now.instant ≤ now'.instant) :
    c.Remembers now' learned := by
  intro x hx young
  refine h x hx ?_
  unfold Moment.since at young ⊢
  omega

/-- What was learned and is young enough is found. -/
theorem Remembers.get_eq (h : c.Remembers now learned) (on : c.enabled = true)
    {x : HelloKey × HelloEntry} (hx : x ∈ learned) (young : now.since x.2.storedAt < c.ttl.nanos) :
    c.get x.1 now = (some x.2.outcome, c) :=
  get_of_young on (h x hx young) young

/-- A look-up takes out nothing that is young enough. -/
theorem Remembers.get (h : c.Remembers now learned) (on : c.enabled = true) (k : HelloKey) :
    (c.get k now).2.Remembers now learned := by
  intro x hx young
  rw [ttl_get] at young
  by_cases hs : x.1.SharesPlace k
  · rw [← get_eq_of_sharesPlace hs, h.get_eq on hx young]
    exact h x hx young
  · rw [held_get_of_apart hs]
    exact h x hx young

/-- What is learned where nothing was found replaces nothing that is young enough. -/
theorem Remembers.save (h : c.Remembers now learned) (on : c.enabled = true)
    (missed : (c.get k now).1 = none) (hle : now.instant ≤ now'.instant) (o : HelloOutcome) :
    ((c.get k now).2.save k o now').Remembers now' (learned ++ [(k, ⟨o, now'⟩)]) := by
  intro x hx young
  rw [ttl_save, ttl_get] at young
  rcases List.mem_append.mp hx with hx | hx
  · have hyoung : now.since x.2.storedAt < c.ttl.nanos := by
      unfold Moment.since at young ⊢
      omega
    by_cases hs : x.1.SharesPlace k
    · rw [← get_eq_of_sharesPlace hs, h.get_eq on hx hyoung] at missed
      cases missed
    · rw [held_save_of_apart hs, held_get_of_apart hs]
      exact h x hx hyoung
  · rw [List.mem_singleton.mp hx, held_save_self, enabled_get, if_pos on]

/-! ### Whatever is done with a cache -/

/-- What can be done with a cache. -/
inductive Use where
  | get (key : HelloKey) (now : Moment)
  | save (key : HelloKey) (outcome : HelloOutcome) (now : Moment)
  | setEnabled (enabled : Bool)
  | clear
  deriving DecidableEq

/-- The cache after one use. -/
def use (c : HelloCache) : Use → HelloCache
  | .get key now => (c.get key now).2
  | .save key outcome now => c.save key outcome now
  | .setEnabled enabled => c.setEnabled enabled
  | .clear => c.clear

/-- The cache after some uses, one after another. -/
def run (c : HelloCache) (uses : List Use) : HelloCache := uses.foldl use c

theorem run_cons (c : HelloCache) (u : Use) (uses : List Use) :
    c.run (u :: uses) = (c.use u).run uses := rfl

theorem ttl_run (uses : List Use) : ∀ c : HelloCache, (c.run uses).ttl = c.ttl := by
  induction uses with
  | nil => intro c; rfl
  | cons u uses ih =>
    intro c
    rw [run_cons, ih]
    cases u with
    | get k now => exact ttl_get c k now
    | save k o now => exact ttl_save c k o now
    | setEnabled _ => rfl
    | clear => rfl

/-- What is held after a use was held before, or the use saved it under a handshake of the same
place. -/
theorem held_use {e : HelloEntry} (u : Use) (h : (c.use u).held k = some e) :
    c.held k = some e ∨ ∃ k₀, u = .save k₀ e.outcome e.storedAt ∧ k₀.SharesPlace k := by
  cases u with
  | get k' now =>
    left
    change (c.get k' now).2.held k = some e at h
    by_cases hs : k.SharesPlace k'
    · rw [held_eq_of_sharesPlace hs] at h ⊢
      exact (held_get_self h).1
    · rwa [held_get_of_apart hs] at h
  | save k' o now =>
    change (c.save k' o now).held k = some e at h
    by_cases hs : k.SharesPlace k'
    · rw [held_eq_of_sharesPlace hs, held_save_self, ← held_eq_of_sharesPlace hs] at h
      split at h
      · cases h
        exact .inr ⟨k', rfl, hs.symm⟩
      · exact .inl h
    · rw [held_save_of_apart hs] at h
      exact .inl h
  | setEnabled _ => exact .inl h
  | clear => cases h

/-- What is held was there at the beginning or has been saved under a handshake of the same
place. -/
theorem held_run {e : HelloEntry} (uses : List Use) :
    ∀ {c : HelloCache}, (c.run uses).held k = some e →
      c.held k = some e ∨ ∃ k₀, .save k₀ e.outcome e.storedAt ∈ uses ∧ k₀.SharesPlace k := by
  induction uses with
  | nil => intro c h; exact .inl h
  | cons u uses ih =>
    intro c h
    rcases ih h with h | ⟨k₀, hmem, hs⟩
    · rcases held_use u h with h | ⟨k₀, rfl, hs⟩
      · exact .inl h
      · exact .inr ⟨k₀, List.mem_cons_self, hs⟩
    · exact .inr ⟨k₀, List.mem_cons_of_mem _ hmem, hs⟩

/-- Two handshakes do not meet in a cache: a use of the second leaves what is held under the
first. -/
def Apart (c : HelloCache) (k k' : HelloKey) : Prop :=
  ∀ now, (c.get k' now).2.held k = c.held k ∧ ∀ o, (c.save k' o now).held k = c.held k

/-- Two handshakes are the same to a cache. -/
def Alike (c : HelloCache) (k k' : HelloKey) : Prop :=
  ∀ now, c.get k now = c.get k' now ∧ ∀ o, c.save k o now = c.save k' o now

/-- **Handshakes are told apart by their places.** Whatever was done with a cache before: a look-up
gives an outcome that was saved, less than the lifetime ago, under a handshake of the same place;
handshakes of different places do not meet, and those of one place are the same to the cache. Plain
handshakes have places of their own. -/
theorem isolated (protocol : String) (ttl : Duration) (uses : List Use) (k k' : HelloKey) :
    (∀ now o, (((new protocol ttl).run uses).get k' now).1 = some o → ∃ k₀ m,
      .save k₀ o m ∈ uses ∧ k₀.SharesPlace k' ∧ now.since m < ttl.nanos) ∧
    (¬ k.SharesPlace k' → ((new protocol ttl).run uses).Apart k k') ∧
    (k.SharesPlace k' → ((new protocol ttl).run uses).Alike k k') ∧
    (k.Plain → k'.Plain → (k.SharesPlace k' ↔ k = k')) := by
  refine ⟨?_, ?_, ?_, ?_⟩
  · intro now o h
    obtain ⟨-, m, hheld, hyoung⟩ := get_eq_some_iff.mp h
    rw [ttl_run] at hyoung
    rcases held_run uses hheld with hnew | ⟨k₀, hmem, hs⟩
    · cases hnew
    · exact ⟨k₀, m, hmem, hs, hyoung⟩
  · intro h now
    exact ⟨held_get_of_apart h now, fun o => held_save_of_apart h o now⟩
  · intro h now
    exact ⟨get_eq_of_sharesPlace h now, fun o => save_eq_of_sharesPlace h o now⟩
  · intro h h'
    constructor
    · intro hs
      exact hs.eq h h'
    · rintro rfl
      exact .refl k

/-! ### Ranges that meet -/

/-- The package of a broker. -/
def hub : PackageName := ⟨"com.example.hub", by decide⟩

/-- The offer of a range to one build of a broker. -/
def offer (min : Option String) (max : String) : HelloKey := ⟨min, max, hub, "1.2.3"⟩

/-- A moment so many hours after the first. -/
def hour (n : Fin 24) : Moment :=
  ⟨n * 3600 * nanosPerSecond, 0, by unfold nanosPerSecond; omega⟩

/-- A refusal of an offer without a lower end, and an agreement with an offer whose lower end has a
comma in it. -/
def refusedAndAgreed : List Use :=
  [.save (offer none "14.0") .refused (hour 0),
    .save (offer (some "3.0,9.0") "14.0") (.negotiated "9.0") (hour 0)]

theorem isolated_refusedAndAgreed :
    ((standard.run refusedAndAgreed).get (offer (some "") "14.0") (hour 1)).1 = some .refused ∧
    (standard.run refusedAndAgreed).Alike (offer none "14.0") (offer (some "") "14.0") ∧
    (standard.run refusedAndAgreed).Apart (offer none "14.0") (offer (some "3.0") "14.0") ∧
    ¬ (offer none "14.0").SharesPlace (offer (some "3.0") "14.0") := by
  have halike := (isolated protocolName defaultTtl refusedAndAgreed (offer none "14.0")
    (offer (some "") "14.0")).2.2.1 (by decide)
  obtain ⟨-, hapart, -, hplain⟩ := isolated protocolName defaultTtl refusedAndAgreed
    (offer none "14.0") (offer (some "3.0") "14.0")
  have hne : ¬ (offer none "14.0").SharesPlace (offer (some "3.0") "14.0") := by
    rw [hplain ⟨by decide, by decide⟩ ⟨by decide, by decide⟩]
    decide
  exact ⟨by decide, halike, hapart hne, hne⟩

/-- **Callers who offer different ranges meet.** An offer without a lower end and one whose lower
end is empty share an outcome: what the first was told, the second is given, it replaces it and it
drops it when it is old. So do two offers whose ends have commas in them. -/
theorem ranges_meet :
    offer none "14.0" ≠ offer (some "") "14.0" ∧
    offer (some "3.0,9.0") "14.0" ≠ offer (some "3.0") "9.0,14.0" ∧
    ((standard.run refusedAndAgreed).get (offer (some "") "14.0") (hour 1)).1 = some .refused ∧
    ((standard.run refusedAndAgreed).get (offer (some "3.0") "9.0,14.0") (hour 1)).1 =
      some (.negotiated "9.0") ∧
    ((standard.run refusedAndAgreed).save (offer (some "") "14.0")
        (.negotiated "14.0") (hour 1)).held (offer none "14.0") =
      some ⟨.negotiated "14.0", hour 1⟩ ∧
    (standard.run refusedAndAgreed).held (offer none "14.0") = some ⟨.refused, hour 0⟩ ∧
    ((standard.run refusedAndAgreed).get (offer (some "") "14.0") (hour 5)).2.held
      (offer none "14.0") = none := by
  decide

end HelloCache

end SignOn
