import SignOn.Json.Form

/-! # Records in objects

What a form reads from an object depends on nothing but what the object holds under the names of the
form's fields (`Form.ByName`). So a member with another name changes nothing
(`Form.ByName.decode_insertMember`), and a record is read from the object of its members whatever
their order (`Form.Finds.decode_ofMembers`): it is enough to know of each field what is read for
it. -/

namespace SignOn.Json

variable {α β : Type}

/-! ### Members by name -/

/-- In an object that holds each name once, what is listed under a name is what is found. -/
theorem lookup_of_mem {ms : List (String × Value)} (distinct : (ms.map Prod.fst).Nodup)
    {name : String} {v : Value} (h : (name, v) ∈ ms) : ms.lookup name = some v := by
  obtain ⟨before, after, rfl⟩ := List.append_of_mem h
  refine List.lookup_eq_some_iff.mpr ⟨before, after, rfl, fun m hm => bne_iff_ne.mpr fun heq => ?_⟩
  rw [List.map_append, List.nodup_append] at distinct
  exact distinct.2.2 m.1 (List.mem_map_of_mem hm) name (by simp) heq.symm

theorem lookup_orderMembers {members : List (String × Value)}
    (distinct : (members.map Prod.fst).Nodup) (name : String) :
    (Value.orderMembers members).lookup name = members.lookup name := by
  have hfold :
      ∀ acc, (members.foldl (fun acc m => Value.insertMember m.1 m.2 acc) acc).lookup name =
        (members.lookup name).or (acc.lookup name) := by
    induction members with
    | nil => intro acc; rfl
    | cons m rest ih =>
      intro acc
      rw [List.map_cons, List.nodup_cons] at distinct
      rw [List.foldl_cons, ih distinct.2]
      by_cases hm : name = m.1
      · have hrest : rest.lookup name = none := by
          refine List.lookup_eq_none_iff.mpr fun r hr => bne_iff_ne.mpr fun heq => ?_
          exact distinct.1 (hm ▸ heq ▸ List.mem_map_of_mem hr)
        rw [hrest, hm, Value.lookup_insertMember_self, List.lookup_cons_self]
        rfl
      · rw [Value.lookup_insertMember_of_ne _ _ hm, List.lookup_cons, beq_eq_false_iff_ne.mpr hm]
  rw [Value.orderMembers, hfold]
  simp

theorem mem_insertMember {name : String} {v : Value} {ms : List (String × Value)}
    {m : String × Value} (h : m ∈ Value.insertMember name v ms) : m = (name, v) ∨ m ∈ ms := by
  induction ms with
  | nil => simpa [Value.insertMember] using h
  | cons e es ih =>
    rw [Value.insertMember] at h
    split at h
    · simpa using h
    · split at h
      · rcases List.mem_cons.mp h with h | h
        · exact .inl h
        · exact .inr (List.mem_cons_of_mem _ h)
      · rcases List.mem_cons.mp h with h | h
        · exact .inr (by simp [h])
        · exact (ih h).imp_right (List.mem_cons_of_mem _)

/-- Setting a member keeps the names in ascending order. -/
theorem ordered_insertMember {name : String} {v : Value} {ms : List (String × Value)}
    (h : ms.Pairwise fun a b => a.1 < b.1) :
    (Value.insertMember name v ms).Pairwise fun a b => a.1 < b.1 := by
  induction ms with
  | nil => simp [Value.insertMember]
  | cons e es ih =>
    have he := List.pairwise_cons.mp h
    rw [Value.insertMember]
    split
    · rename_i hbefore
      refine List.pairwise_cons.mpr ⟨fun m hm => ?_, h⟩
      rcases List.mem_cons.mp hm with rfl | hm
      · exact hbefore
      · exact String.lt_trans hbefore (he.1 m hm)
    · split
      · rename_i hname
        exact List.pairwise_cons.mpr ⟨fun m hm => hname ▸ he.1 m hm, he.2⟩
      · rename_i hbefore hname
        refine List.pairwise_cons.mpr ⟨fun m hm => ?_, ih he.2⟩
        rcases mem_insertMember hm with rfl | hm
        · exact Std.lt_of_le_of_ne (String.not_lt.mp hbefore) fun heq => hname heq.symm
        · exact he.1 m hm

theorem nodup_of_ordered {ms : List (String × Value)} (h : ms.Pairwise fun a b => a.1 < b.1) :
    (ms.map Prod.fst).Nodup :=
  List.pairwise_map.mpr (h.imp fun hlt heq => absurd (heq ▸ hlt) (String.lt_irrefl _))

theorem ordered_orderMembers (members : List (String × Value)) :
    (Value.orderMembers members).Pairwise fun a b => a.1 < b.1 := by
  have hfold : ∀ acc : List (String × Value), acc.Pairwise (fun a b => a.1 < b.1) →
      (members.foldl (fun acc m => Value.insertMember m.1 m.2 acc) acc).Pairwise
        fun a b => a.1 < b.1 := by
    induction members with
    | nil => exact fun acc h => h
    | cons m rest ih => exact fun acc h => ih _ (ordered_insertMember h)
  exact hfold [] .nil

theorem lookup_filter_ne {name other : String} (h : other ≠ name) (ms : List (String × Value)) :
    (ms.filter fun m => m.1 ≠ name).lookup other = ms.lookup other := by
  induction ms with
  | nil => rfl
  | cons m rest ih =>
    by_cases hm : m.1 = name
    · rw [List.filter_cons_of_neg (by simp [hm]), ih, List.lookup_cons, hm,
        beq_eq_false_iff_ne.mpr h]
    · rw [List.filter_cons_of_pos (by simp [hm]), List.lookup_cons, List.lookup_cons, ih]

/-! ### Forms -/

theorem bind_eq_ok_iff {ε γ : Type} {x : Except ε α} {k : α → Except ε γ} {c : γ} :
    x >>= k = .ok c ↔ ∃ a, x = .ok a ∧ k a = .ok c := by
  cases x with
  | error e => exact ⟨fun h => (nomatch h), fun ⟨a, h, _⟩ => (nomatch h)⟩
  | ok a => exact ⟨fun h => ⟨a, rfl, h⟩, fun ⟨_, ha, hk⟩ => by cases ha; exact hk⟩

theorem below_eq_ok_iff {step : Step} {x : Except Fault α} {a : α} :
    Except.below step x = .ok a ↔ x = .ok a := by
  cases x with
  | error e => exact ⟨fun h => (nomatch h), fun h => (nomatch h)⟩
  | ok b => exact Iff.rfl

namespace Form

variable {F : Form α} {X : Form β} {name : String} {decode : Decoder α} {absent : Except Fault α}
  {item : Fault → Except Fault α} {a : α} {src src' : Source} {m : Nat → Fault}

theorem map_read_eq_ok_iff {f : α → β} {b : β} :
    (f <$> F).read src m = .ok (b, src') ↔ ∃ a, F.read src m = .ok (a, src') ∧ f a = b := by
  change (F.read src m >>= fun r => Except.ok (f r.1, r.2)) = _ ↔ _
  rw [bind_eq_ok_iff]
  constructor
  · rintro ⟨⟨a, s⟩, ha, h⟩
    cases h
    exact ⟨a, ha, rfl⟩
  · rintro ⟨a, ha, rfl⟩
    exact ⟨(a, src'), ha, rfl⟩

theorem seq_read_eq_ok_iff {F : Form (β → α)} :
    (F <*> X).read src m = .ok (a, src') ↔
      ∃ f between b, F.read src m = .ok (f, between) ∧ X.read between m = .ok (b, src') ∧
        f b = a := by
  change (F.read src m >>= fun r => X.read r.2 m >>= fun s => Except.ok (r.1 s.1, s.2)) = _ ↔ _
  rw [bind_eq_ok_iff]
  constructor
  · rintro ⟨⟨f, s⟩, hf, h⟩
    obtain ⟨⟨b, s'⟩, hb, h⟩ := bind_eq_ok_iff.mp h
    cases h
    exact ⟨f, s, b, hf, hb, rfl⟩
  · rintro ⟨f, s, b, hf, hb, rfl⟩
    exact ⟨(f, s), hf, bind_eq_ok_iff.mpr ⟨(b, src'), hb, rfl⟩⟩

theorem field_read_members_eq_ok_iff {ms : List (String × Value)} :
    (field name decode absent item).read (.members ms) m = .ok (a, src') ↔
      src' = .members ms ∧ ((ms.lookup name).elim absent decode) = .ok a := by
  dsimp only [field]
  cases ms.lookup name with
  | none =>
    rw [bind_eq_ok_iff]
    constructor
    · rintro ⟨b, hb, h⟩
      cases h
      exact ⟨rfl, hb⟩
    · rintro ⟨rfl, ha⟩
      exact ⟨a, ha, rfl⟩
  | some v =>
    rw [bind_eq_ok_iff]
    constructor
    · rintro ⟨b, hb, h⟩
      cases h
      exact ⟨rfl, below_eq_ok_iff.mp hb⟩
    · rintro ⟨rfl, ha⟩
      exact ⟨a, below_eq_ok_iff.mpr ha, rfl⟩

/-- What the form reads from an object is told by what the object holds under the names of its
fields: it is `read` of the look-ups, and what is read has passed the test of each field. -/
structure ReadsBy (F : Form α) (read : (String → Option Value) → Except Fault α) : Prop where
  reads : ∀ ms m, F.read (.members ms) m =
    (read fun name => ms.lookup name).map fun a => (a, .members ms)
  names : ∀ look look', (∀ field ∈ F.fields, look field.1 = look' field.1) → read look = read look'
  tested : ∀ look a, read look = .ok a → ∀ field ∈ F.fields, ∀ v, look field.1 = some v →
    field.2 v = .ok ()

/-- The form reads from an object by names. -/
def ByName (F : Form α) : Prop := ∃ read, F.ReadsBy read

theorem byName_field : (field name decode absent item).ByName := by
  refine ⟨fun look => (look name).elim absent fun v => Except.below (.member name) (decode v),
    ?_, ?_, ?_⟩
  · intro ms m
    dsimp only [field]
    cases ms.lookup name with
    | none => cases absent <;> rfl
    | some v =>
      dsimp only [Option.elim]
      cases decode v <;> rfl
  · intro look look' hnames
    rw [hnames _ (List.mem_singleton.mpr rfl)]
  · intro look a hread f hf v hv
    obtain rfl := List.mem_singleton.mp hf
    have hdecode : decode v = .ok a := by
      rw [hv] at hread
      exact below_eq_ok_iff.mp hread
    change (decode v).map _ = _
    rw [hdecode]
    rfl

theorem ByName.map (h : F.ByName) (f : α → β) : (f <$> F).ByName := by
  obtain ⟨read, hread⟩ := h
  refine ⟨fun look => (read look).map f, fun ms m => ?_, fun look look' hnames => ?_,
    fun look b hb => ?_⟩
  · change (F.read (.members ms) m >>= fun r => Except.ok (f r.1, r.2)) = _
    rw [hread.reads]
    cases read fun name => ms.lookup name <;> rfl
  · rw [hread.names look look' hnames]
  · cases ha : read look with
    | error e =>
      rw [ha] at hb
      cases hb
    | ok a => exact hread.tested look a ha

theorem ByName.seq {F : Form (β → α)} (hF : F.ByName) (hX : X.ByName) : (F <*> X).ByName := by
  obtain ⟨readF, hF⟩ := hF
  obtain ⟨readX, hX⟩ := hX
  refine ⟨fun look => readF look >>= fun f => (readX look).map f, fun ms m => ?_,
    fun look look' hnames => ?_,
    fun look a ha => ?_⟩
  · change (F.read (.members ms) m >>= fun r => X.read r.2 m >>= fun s =>
      Except.ok (r.1 s.1, s.2)) = _
    rw [hF.reads]
    cases readF fun name => ms.lookup name with
    | error e => rfl
    | ok f =>
      change (X.read (.members ms) m >>= fun r => Except.ok (f r.1, r.2)) = _
      rw [hX.reads]
      change _ = ((readX fun name => ms.lookup name).map f).map _
      cases readX fun name => ms.lookup name <;> rfl
  · have hf := hF.names look look' fun field hfield => hnames field (List.mem_append_left _ hfield)
    have hx := hX.names look look' fun field hfield => hnames field (List.mem_append_right _ hfield)
    simp only [hf, hx]
  · obtain ⟨f, hf, hx⟩ := bind_eq_ok_iff.mp ha
    intro field hfield
    rcases List.mem_append.mp hfield with hfield | hfield
    · exact hF.tested look f hf field hfield
    · cases hb : readX look with
      | error e =>
        rw [hb] at hx
        cases hx
      | ok b => exact hX.tested look b hb field hfield

/-! ### Records of members -/

theorem test_eq_ok_iff {fields : List (String × (Value → Except Fault Unit))}
    {ms : List (String × Value)} :
    test fields ms = .ok () ↔
      ∀ m ∈ ms, ∀ check, fields.lookup m.1 = some check → check m.2 = .ok () := by
  induction ms with
  | nil => exact iff_of_true rfl fun m hm => nomatch hm
  | cons m rest ih =>
    rw [List.forall_mem_cons, test]
    cases fields.lookup m.1 with
    | none => simp [ih]
    | some check =>
      dsimp only
      rw [bind_eq_ok_iff, ih]
      constructor
      · rintro ⟨u, hcheck, hrest⟩
        exact ⟨fun _ h => Option.some.inj h ▸ below_eq_ok_iff.mp hcheck, hrest⟩
      · rintro ⟨hcheck, hrest⟩
        exact ⟨(), below_eq_ok_iff.mpr (hcheck check rfl), hrest⟩

theorem readMembers_eq_ok_iff {ms : List (String × Value)} :
    F.readMembers ms = .ok a ↔
      test F.fields ms = .ok () ∧
      ∃ s, F.read (.members ms) (fun _ => .here (.missing "")) = .ok (a, s) := by
  rw [readMembers, bind_eq_ok_iff]
  constructor
  · rintro ⟨u, htest, h⟩
    obtain ⟨⟨b, s⟩, hb, h⟩ := bind_eq_ok_iff.mp h
    cases h
    exact ⟨htest, s, hb⟩
  · rintro ⟨htest, s, hread⟩
    exact ⟨(), htest, bind_eq_ok_iff.mpr ⟨(a, s), hread, rfl⟩⟩

/-- What is read from an object that holds each name once has passed the tests. -/
theorem ByName.readMembers_eq_ok (h : F.ByName) {ms : List (String × Value)}
    (distinct : (ms.map Prod.fst).Nodup) {s : Source}
    (hread : F.read (.members ms) (fun _ => .here (.missing "")) = .ok (a, s)) :
    F.readMembers ms = .ok a := by
  obtain ⟨read, h⟩ := h
  -- the tests go through all members, and reading through those that are found; with distinct names
  -- these agree
  refine readMembers_eq_ok_iff.mpr ⟨test_eq_ok_iff.mpr fun m hm check hcheck => ?_, s, hread⟩
  obtain ⟨before, after, hfields, -⟩ := List.lookup_eq_some_iff.mp hcheck
  have hmem : (m.1, check) ∈ F.fields := by
    rw [hfields]
    simp
  rw [h.reads] at hread
  cases ha : read fun name => ms.lookup name with
  | error e =>
    rw [ha] at hread
    cases hread
  | ok b => exact h.tested _ b ha _ hmem m.2 (lookup_of_mem distinct hm)

theorem test_insertMember {fields : List (String × (Value → Except Fault Unit))}
    (hname : ∀ field ∈ fields, field.1 ≠ name) (v : Value) (ms : List (String × Value)) :
    test fields (Value.insertMember name v ms) = test fields ms := by
  have hnone : fields.lookup name = none :=
    List.lookup_eq_none_iff.mpr fun field hfield => bne_iff_ne.mpr (hname field hfield).symm
  induction ms with
  | nil => simp only [Value.insertMember, test, hnone]
  | cons m rest ih =>
    rw [Value.insertMember]
    split
    · rw [test, hnone]
    · split
      · rename_i heq
        rw [test, hnone, test, ← heq, hnone]
      · rw [test, test, ih]

/-- **A member with a name that no field has changes nothing.** -/
theorem ByName.decode_insertMember (h : F.ByName) (hname : ∀ field ∈ F.fields, field.1 ≠ name)
    (title : String) (v : Value) (ms : List (String × Value)) :
    F.decode title (.object (Value.insertMember name v ms)) = F.decode title (.object ms) := by
  obtain ⟨read, h⟩ := h
  have hlook : (read fun other => (Value.insertMember name v ms).lookup other) =
      read fun other => ms.lookup other :=
    h.names _ _ fun field hfield => Value.lookup_insertMember_of_ne v ms (hname field hfield)
  change F.readMembers _ = F.readMembers _
  rw [readMembers, readMembers, test_insertMember hname, h.reads, h.reads, hlook]
  cases read fun other => ms.lookup other <;> rfl

/-- The form reads by names, and from members that are found as told it reads `a`. -/
structure Finds (F : Form α) (look : String → Option Value) (a : α) : Prop where
  byName : F.ByName
  reads : ∀ ms m, (∀ name, ms.lookup name = look name) →
    F.read (.members ms) m = .ok (a, .members ms)

theorem finds_field {look : String → Option Value} {v : Value} (hlook : look name = some v)
    (hdecode : decode v = .ok a) : (field name decode absent item).Finds look a where
  byName := byName_field
  reads ms m hms := by
    refine field_read_members_eq_ok_iff.mpr ⟨rfl, ?_⟩
    rw [hms, hlook]
    exact hdecode

theorem Finds.map {look : String → Option Value} (h : F.Finds look a) (f : α → β) :
    (f <$> F).Finds look (f a) where
  byName := h.byName.map f
  reads ms m hms := map_read_eq_ok_iff.mpr ⟨a, h.reads ms m hms, rfl⟩

theorem Finds.seq {F : Form (β → α)} {look : String → Option Value} {f : β → α} {b : β}
    (hF : F.Finds look f) (hX : X.Finds look b) : (F <*> X).Finds look (f b) where
  byName := hF.byName.seq hX.byName
  reads ms m hms := seq_read_eq_ok_iff.mpr ⟨f, _, b, hF.reads ms m hms, hX.reads ms m hms, rfl⟩

/-- **A record is read from the object of its members**, in whatever order they are given. -/
theorem Finds.decode_ofMembers {members : List (String × Value)}
    (h : F.Finds (fun name => members.lookup name) a) (distinct : (members.map Prod.fst).Nodup)
    (title : String) :
    F.decode title (.ofMembers members) = .ok a :=
  h.byName.readMembers_eq_ok (nodup_of_ordered (ordered_orderMembers members))
    (h.reads _ _ (lookup_orderMembers distinct))

end Form

end SignOn.Json
