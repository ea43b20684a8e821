import Mathlib.Data.List.Forall2
import SignOn.Proofs.Json.ReadBack

/-! # Readers that test more than others

Two readers of the same form may differ in what they test: one asks of a text that it keeps a rule,
and the other only that it is a text. The stricter one refines the other if the other reads whatever
it reads, with a related result (`Decoder.Refines`), and it accepts what keeps the rules if it reads
in turn whatever the other reads and the rules allow (`Decoder.Accepts`). Both are told of a record
from its fields (`Form.Refines.decode`, `Form.Accepts.decode`), for objects and for lists alike, and
so of records within records. -/

namespace SignOn.Json

variable {α β ρ σ : Type} {R : α → ρ → Prop} {S : β → σ → Prop}

/-- What the first reads the second reads as well, and the two results are related. -/
def Decoder.Refines (R : α → ρ → Prop) (d : Decoder α) (d' : Decoder ρ) : Prop :=
  ∀ v a, d v = .ok a → ∃ r, d' v = .ok r ∧ R a r

theorem map_eq_of_rel {f : α → β} {x : Option α} {y : Option β}
    (h : Option.Rel (fun a b => f a = b) x y) : x.map f = y := by
  cases h with
  | none => rfl
  | some h => rw [Option.map_some, h]

namespace Decoder

variable {d : Decoder α} {d' : Decoder ρ}

theorem refines_self (d : Decoder α) : Refines Eq d d := fun _ a h => ⟨a, h, rfl⟩

theorem Refines.option (h : Refines R d d') : Refines (Option.Rel R) (option d) (option d') := by
  intro v o hv
  by_cases hnull : v = .null
  · subst hnull
    cases hv
    exact ⟨none, rfl, .none⟩
  · rw [option_of_ne_null hnull] at hv ⊢
    cases ha : d v with
    | error f => rw [ha] at hv; cases hv
    | ok a =>
      rw [ha] at hv
      cases hv
      obtain ⟨r, hr, har⟩ := h v a ha
      exact ⟨some r, by rw [hr]; rfl, .some har⟩

theorem Refines.items (h : Refines R d d') {vs : List Value} {taken : Nat} {as : List α}
    (hvs : items d taken vs = .ok as) :
    ∃ rs, items d' taken vs = .ok rs ∧ List.Forall₂ R as rs := by
  induction vs generalizing taken as with
  | nil =>
    cases hvs
    exact ⟨[], rfl, .nil⟩
  | cons v vs ih =>
    obtain ⟨a, ha, hvs⟩ := bind_eq_ok_iff.mp hvs
    obtain ⟨as, has, hvs⟩ := bind_eq_ok_iff.mp hvs
    cases hvs
    obtain ⟨r, hr, har⟩ := h v a (below_eq_ok_iff.mp ha)
    obtain ⟨rs, hrs, hall⟩ := ih has
    exact ⟨r :: rs,
      bind_eq_ok_iff.mpr ⟨r, below_eq_ok_iff.mpr hr, bind_eq_ok_iff.mpr ⟨rs, hrs, rfl⟩⟩,
      .cons har hall⟩

theorem Refines.list (h : Refines R d d') : Refines (List.Forall₂ R) (list d) (list d') := by
  intro v as hv
  cases v with
  | array vs => exact h.items hv
  | _ => cases hv

end Decoder

namespace Form

/-- A field that must be there, read with `decode`. -/
def requiredBy (name : String) (decode : Decoder α) : Form α :=
  field name decode (.error (.here (.missing name))) .error

/-- A field that may be missing, read with `decode` where it is not null. -/
def optionalBy (name : String) (decode : Decoder α) : Form (Option α) :=
  field name (Decoder.option decode) (.ok none) .error

/-- The two forms have the same fields; where the first reads something the second reads something
related and takes as much; and the tests of the second are met where those of the first are. -/
structure Refines (R : α → ρ → Prop) (F : Form α) (F' : Form ρ) : Prop where
  reads : ∀ src m m' a rest, F.read src m = .ok (a, rest) →
    ∃ r, F'.read src m' = .ok (r, rest) ∧ R a r
  tests : List.Forall₂ (fun f f' => f.1 = f'.1 ∧ ∀ v, f.2 v = .ok () → f'.2 v = .ok ())
    F.fields F'.fields

theorem refines_field {name : String} {d : Decoder α} {d' : Decoder ρ} (h : d.Refines R d')
    {absent : Except Fault α} {absent' : Except Fault ρ}
    (habsent : ∀ a, absent = .ok a → ∃ r, absent' = .ok r ∧ R a r) :
    (field name d absent .error).Refines R (field name d' absent' .error) where
  reads src m m' a rest hread := by
    cases src with
    | members ms =>
      obtain ⟨rfl, ha⟩ := field_read_members_eq_ok_iff.mp hread
      suffices hr : ∃ r, (ms.lookup name).elim absent' d' = .ok r ∧ R a r by
        obtain ⟨r, hr, har⟩ := hr
        exact ⟨r, field_read_members_eq_ok_iff.mpr ⟨rfl, hr⟩, har⟩
      cases hlook : ms.lookup name with
      | none => rw [hlook] at ha; exact habsent a ha
      | some v => rw [hlook] at ha; exact h v a ha
    | listed taken items =>
      cases items with
      | nil => cases hread
      | cons v vs =>
        obtain ⟨b, hb, hread⟩ := bind_eq_ok_iff.mp hread
        cases hread
        obtain ⟨r, hr, har⟩ := h v a (below_eq_ok_iff.mp hb)
        exact ⟨r, bind_eq_ok_iff.mpr ⟨r, below_eq_ok_iff.mpr hr, rfl⟩, har⟩
  tests := by
    refine .cons ⟨rfl, fun v hv => ?_⟩ .nil
    dsimp only at hv ⊢
    cases ha : d v with
    | error f => rw [ha] at hv; cases hv
    | ok a =>
      obtain ⟨r, hr, -⟩ := h v a ha
      rw [hr]
      rfl

theorem refines_self {name : String} {d : Decoder α} {absent : Except Fault α} :
    (field name d absent .error).Refines Eq (field name d absent .error) :=
  refines_field (Decoder.refines_self d) fun a ha => ⟨a, ha, rfl⟩

theorem refines_required [Wire α] {name : String} {d' : Decoder ρ}
    (h : Decoder.Refines R Wire.decode d') :
    (required name).Refines R (requiredBy name d') :=
  refines_field h fun _ ha => (nomatch ha)

theorem refines_optional [Wire α] {name : String} {d' : Decoder ρ}
    (h : Decoder.Refines R Wire.decode d') :
    (optional name).Refines (Option.Rel R) (optionalBy name d') :=
  refines_field h.option fun a ha => ⟨none, rfl, by cases ha; exact .none⟩

theorem Refines.map {F : Form α} {F' : Form ρ} (h : F.Refines R F') {f : α → β} {g : ρ → σ}
    (hfg : ∀ a r, R a r → S (f a) (g r)) : (f <$> F).Refines S (g <$> F') where
  reads src m m' b rest hread := by
    obtain ⟨a, ha, rfl⟩ := map_read_eq_ok_iff.mp hread
    obtain ⟨r, hr, har⟩ := h.reads src m m' a rest ha
    exact ⟨g r, map_read_eq_ok_iff.mpr ⟨r, hr, rfl⟩, hfg a r har⟩
  tests := h.tests

theorem Refines.seq {F : Form (β → α)} {F' : Form (σ → ρ)} {X : Form β} {X' : Form σ}
    (hF : F.Refines (fun f g => ∀ b s, S b s → R (f b) (g s)) F') (hX : X.Refines S X') :
    (F <*> X).Refines R (F' <*> X') where
  reads src m m' a rest hread := by
    obtain ⟨f, between, b, hf, hb, rfl⟩ := seq_read_eq_ok_iff.mp hread
    obtain ⟨g, hg, hfg⟩ := hF.reads src m m' f between hf
    obtain ⟨s, hs, hbs⟩ := hX.reads between m m' b rest hb
    exact ⟨g s, seq_read_eq_ok_iff.mpr ⟨g, between, s, hg, hs, rfl⟩, hfg b s hbs⟩
  tests := List.rel_append hF.tests hX.tests

/-- A field of the second form has a field of the first in its place, under the same name. -/
theorem Refines.lookup {F : Form α} {F' : Form ρ} (h : F.Refines R F') {name : String}
    {check' : Value → Except Fault Unit} (hcheck' : F'.fields.lookup name = some check') :
    ∃ check, F.fields.lookup name = some check ∧ ∀ v, check v = .ok () → check' v = .ok () := by
  obtain ⟨-, htests⟩ := h
  generalize F.fields = fields at htests ⊢
  generalize F'.fields = fields' at htests hcheck'
  induction htests with
  | nil => cases hcheck'
  | @cons f f' rest rest' hf _ ih =>
    rw [List.lookup_cons] at hcheck' ⊢
    rw [hf.1]
    cases hname : name == f'.1 with
    | true =>
      rw [hname] at hcheck'
      cases hcheck'
      exact ⟨f.2, rfl, hf.2⟩
    | false =>
      rw [hname] at hcheck'
      exact ih hcheck'

theorem Refines.readMembers {F : Form α} {F' : Form ρ} (h : F.Refines R F')
    {ms : List (String × Value)} {a : α} (ha : F.readMembers ms = .ok a) :
    ∃ r, F'.readMembers ms = .ok r ∧ R a r := by
  obtain ⟨htest, rest, hread⟩ := readMembers_eq_ok_iff.mp ha
  obtain ⟨r, hr, har⟩ := h.reads _ _ (fun _ => .here (.missing "")) a rest hread
  refine ⟨r, readMembers_eq_ok_iff.mpr ⟨test_eq_ok_iff.mpr fun m hm check' hcheck' => ?_, rest, hr⟩,
    har⟩
  obtain ⟨check, hcheck, himp⟩ := h.lookup hcheck'
  exact himp m.2 (test_eq_ok_iff.mp htest m hm check hcheck)

theorem Refines.readItems {F : Form α} {F' : Form ρ} (h : F.Refines R F') {title : String}
    {surplus : Fault} {items : List Value} {a : α} (ha : F.readItems title surplus items = .ok a) :
    ∃ r, F'.readItems title surplus items = .ok r ∧ R a r := by
  obtain ⟨⟨b, rest⟩, hread, hend⟩ := bind_eq_ok_iff.mp ha
  obtain ⟨r, hr, hbr⟩ := h.reads _ _
    (fun n => .here (.wrongLength n (title ++ " with " ++ elementCount F'.fields.length)))
    b rest hread
  cases rest with
  | members ms =>
    cases hend
    exact ⟨r, bind_eq_ok_iff.mpr ⟨_, hr, rfl⟩, hbr⟩
  | listed taken left =>
    cases left with
    | nil =>
      cases hend
      exact ⟨r, bind_eq_ok_iff.mpr ⟨_, hr, rfl⟩, hbr⟩
    | cons v vs => cases hend

/-- **A record is read more strictly if its fields are.** -/
theorem Refines.decode {F : Form α} {F' : Form ρ} (h : F.Refines R F') (title : String) :
    Decoder.Refines R (F.decode title) (F'.decode title) := by
  intro v a hv
  cases v with
  | object ms => exact h.readMembers hv
  | array items => exact h.readItems hv
  | _ => cases hv

end Form

/-! ### Readers that take whatever keeps the rules -/

/-- No object in the value has two members of one name. -/
inductive Value.Distinct : Value → Prop
  | null : Distinct .null
  | bool (b : Bool) : Distinct (.bool b)
  | number (n : Number) : Distinct (.number n)
  | string (s : String) : Distinct (.string s)
  | array {items : List Value} (h : ∀ v ∈ items, Distinct v) : Distinct (.array items)
  | object {members : List (String × Value)} (names : (members.map Prod.fst).Nodup)
      (h : ∀ m ∈ members, Distinct m.2) : Distinct (.object members)

/-- No object in what is left to read has two members of one name. -/
def Source.Distinct : Source → Prop
  | .members ms => (Value.object ms).Distinct
  | .listed _ rest => ∀ v ∈ rest, v.Distinct

/-- The first reads whatever the second reads and keeps the rules. -/
def Decoder.Accepts (K : ρ → Prop) (d : Decoder α) (d' : Decoder ρ) : Prop :=
  ∀ v r, v.Distinct → d' v = .ok r → K r → ∃ a, d v = .ok a

theorem Decoder.Accepts.option {K : ρ → Prop} {d : Decoder α} {d' : Decoder ρ}
    (h : Accepts K d d') :
    Accepts (fun o => ∀ r, o = some r → K r) (option d) (option d') := by
  intro v o hdistinct hv hkeeps
  by_cases hnull : v = .null
  · exact ⟨none, hnull ▸ rfl⟩
  · rw [option_of_ne_null hnull] at hv ⊢
    cases hr : d' v with
    | error f => rw [hr] at hv; cases hv
    | ok r =>
      rw [hr] at hv
      cases hv
      obtain ⟨a, ha⟩ := h v r hdistinct hr (hkeeps r rfl)
      exact ⟨some a, by rw [ha]; rfl⟩

theorem Decoder.Accepts.items {K : ρ → Prop} {d : Decoder α} {d' : Decoder ρ} (h : Accepts K d d')
    {vs : List Value} (hdistinct : ∀ v ∈ vs, v.Distinct) {taken : Nat} {rs : List ρ}
    (hvs : items d' taken vs = .ok rs) (hkeeps : ∀ r ∈ rs, K r) :
    ∃ as, items d taken vs = .ok as := by
  induction vs generalizing taken rs with
  | nil => exact ⟨[], rfl⟩
  | cons v vs ih =>
    obtain ⟨hv, hrest⟩ := List.forall_mem_cons.mp hdistinct
    obtain ⟨r, hr, hvs⟩ := bind_eq_ok_iff.mp hvs
    obtain ⟨rs, hrs, hvs⟩ := bind_eq_ok_iff.mp hvs
    cases hvs
    obtain ⟨hkeep, hkeeps⟩ := List.forall_mem_cons.mp hkeeps
    obtain ⟨a, ha⟩ := h v r hv (below_eq_ok_iff.mp hr) hkeep
    obtain ⟨as, has⟩ := ih hrest hrs hkeeps
    exact ⟨a :: as,
      bind_eq_ok_iff.mpr ⟨a, below_eq_ok_iff.mpr ha, bind_eq_ok_iff.mpr ⟨as, has, rfl⟩⟩⟩

theorem Decoder.Accepts.list {K : ρ → Prop} {d : Decoder α} {d' : Decoder ρ} (h : Accepts K d d') :
    Accepts (fun rs => ∀ r ∈ rs, K r) (list d) (list d') := by
  intro v rs hdistinct hv hkeeps
  cases v with
  | array vs =>
    cases hdistinct with
    | array hdistinct => exact h.items hdistinct hv hkeeps
  | _ => cases hv

/-- What a reader may ask of what another one has read, and has to give for it. Of a function it
asks something for every argument, and it may use that the argument keeps a rule. -/
structure Demand (ρ : Type) where
  meets : ρ → Prop → Prop
  mono : ∀ r p q, (p → q) → meets r p → meets r q

/-- To give something for what keeps the rules. -/
def Demand.keeping (K : ρ → Prop) : Demand ρ where
  meets r p := K r → p
  mono _ _ _ himp h hr := himp (h hr)

/-- To give something for whatever the function is applied to, and the rule for the argument with
it. -/
def Demand.arg (D : Demand ρ) (K : σ → Prop) : Demand (σ → ρ) where
  meets g p := ∀ s, D.meets (g s) (K s ∧ p)
  mono g _ _ himp h s := D.mono (g s) _ _ (And.imp_right himp) (h s)

namespace Form

/-- Where the second form reads something, the first reads something too, as far as the demand
goes. -/
structure Accepts (D : Demand ρ) (F : Form α) (F' : Form ρ) : Prop where
  byName : F.ByName
  reads : ∀ src m m' r rest, src.Distinct → F'.read src m' = .ok (r, rest) →
    rest.Distinct ∧ D.meets r (∃ a, F.read src m = .ok (a, rest))

theorem accepts_field {K : ρ → Prop} {name : String} {d : Decoder α} {d' : Decoder ρ}
    (h : d.Accepts K d') {absent : Except Fault α} {absent' : Except Fault ρ}
    (habsent : ∀ r, absent' = .ok r → ∃ a, absent = .ok a) :
    (field name d absent .error).Accepts (.keeping K) (field name d' absent' .error) where
  byName := byName_field
  reads src m m' r rest hdistinct hread := by
    cases src with
    | members ms =>
      obtain ⟨rfl, hr⟩ := field_read_members_eq_ok_iff.mp hread
      refine ⟨hdistinct, fun hkeeps => ?_⟩
      suffices ha : ∃ a, (ms.lookup name).elim absent d = .ok a from
        ha.imp fun a ha => field_read_members_eq_ok_iff.mpr ⟨rfl, ha⟩
      cases hlook : ms.lookup name with
      | none => rw [hlook] at hr; exact habsent r hr
      | some v =>
        rw [hlook] at hr
        obtain ⟨before, after, hms, -⟩ := List.lookup_eq_some_iff.mp hlook
        cases hdistinct with
        | object _ hmembers => exact h v r (hmembers (name, v) (by simp [hms])) hr hkeeps
    | listed taken items =>
      cases items with
      | nil => cases hread
      | cons v vs =>
        obtain ⟨b, hb, hread⟩ := bind_eq_ok_iff.mp hread
        cases hread
        obtain ⟨hv, hvs⟩ := List.forall_mem_cons.mp hdistinct
        refine ⟨hvs, fun hkeeps => ?_⟩
        obtain ⟨a, ha⟩ := h v r hv (below_eq_ok_iff.mp hb) hkeeps
        exact ⟨a, bind_eq_ok_iff.mpr ⟨a, below_eq_ok_iff.mpr ha, rfl⟩⟩

theorem accepts_self {name : String} {d : Decoder α} {absent : Except Fault α} :
    (field name d absent .error).Accepts (.keeping fun _ => True) (field name d absent .error) :=
  accepts_field (fun _ a _ ha _ => ⟨a, ha⟩) fun a ha => ⟨a, ha⟩

theorem accepts_required [Wire α] {K : ρ → Prop} {name : String} {d' : Decoder ρ}
    (h : Decoder.Accepts K (Wire.decode : Decoder α) d') :
    (required name : Form α).Accepts (.keeping K) (requiredBy name d') :=
  accepts_field h fun _ ha => (nomatch ha)

theorem accepts_optional [Wire α] {K : ρ → Prop} {name : String} {d' : Decoder ρ}
    (h : Decoder.Accepts K (Wire.decode : Decoder α) d') :
    (optional name : Form (Option α)).Accepts (.keeping fun o => ∀ r, o = some r → K r)
      (optionalBy name d') :=
  accepts_field h.option fun _ _ => ⟨none, rfl⟩

theorem Accepts.map {K : ρ → Prop} {D : Demand σ} {F : Form α} {F' : Form ρ}
    (h : F.Accepts (.keeping K) F') {f : α → β} {g : ρ → σ} (hg : ∀ r, D.meets (g r) (K r)) :
    (f <$> F).Accepts D (g <$> F') where
  byName := h.byName.map f
  reads src m m' s rest hdistinct hread := by
    obtain ⟨r, hr, rfl⟩ := map_read_eq_ok_iff.mp hread
    obtain ⟨hrest, hmeets⟩ := h.reads src m m' r rest hdistinct hr
    -- the demand brings the rule for what is read first, whatever is read after it
    refine ⟨hrest, D.mono _ _ _ (fun hkeeps => ?_) (hg r)⟩
    obtain ⟨a, ha⟩ := hmeets hkeeps
    exact ⟨f a, map_read_eq_ok_iff.mpr ⟨a, ha, rfl⟩⟩

theorem Accepts.seq {K : σ → Prop} {D : Demand ρ} {F : Form (β → α)} {F' : Form (σ → ρ)}
    {X : Form β} {X' : Form σ} (hF : F.Accepts (D.arg K) F') (hX : X.Accepts (.keeping K) X') :
    (F <*> X).Accepts D (F' <*> X') where
  byName := hF.byName.seq hX.byName
  reads src m m' r rest hdistinct hread := by
    obtain ⟨g, between, s, hg, hs, rfl⟩ := seq_read_eq_ok_iff.mp hread
    obtain ⟨hbetween, hgmeets⟩ := hF.reads src m m' g between hdistinct hg
    obtain ⟨hrest, hsmeets⟩ := hX.reads between m m' s rest hbetween hs
    refine ⟨hrest, D.mono _ _ _ ?_ (hgmeets s)⟩
    rintro ⟨hkeeps, f, hf⟩
    obtain ⟨b, hb⟩ := hsmeets hkeeps
    exact ⟨f b, seq_read_eq_ok_iff.mpr ⟨f, between, b, hf, hb, rfl⟩⟩

/-- **A record is taken if its fields are.** -/
theorem Accepts.decode {K : ρ → Prop} {F : Form α} {F' : Form ρ} (h : F.Accepts (.keeping K) F')
    (title : String) :
    Decoder.Accepts K (F.decode title) (F'.decode title) := by
  intro v r hdistinct hv hkeeps
  cases v with
  | object ms =>
    obtain ⟨-, rest, hread⟩ := readMembers_eq_ok_iff.mp hv
    obtain ⟨-, hmeets⟩ :=
      h.reads (.members ms) (fun _ => .here (.missing "")) _ r rest hdistinct hread
    obtain ⟨a, ha⟩ := hmeets hkeeps
    cases hdistinct with
    | object names _ => exact ⟨a, h.byName.readMembers_eq_ok names ha⟩
  | array items =>
    cases hdistinct with
    | array hitems =>
      obtain ⟨⟨s, rest⟩, hread, hend⟩ := bind_eq_ok_iff.mp hv
      obtain ⟨-, hmeets⟩ := h.reads (.listed 0 items)
        (fun n =>
          .here (.wrongLength n ("struct " ++ title ++ " with " ++ elementCount F.fields.length)))
        _ s rest hitems hread
      cases rest with
      | members ms =>
        cases hend
        obtain ⟨a, ha⟩ := hmeets hkeeps
        exact ⟨a, bind_eq_ok_iff.mpr ⟨_, ha, rfl⟩⟩
      | listed taken left =>
        cases left with
        | nil =>
          cases hend
          obtain ⟨a, ha⟩ := hmeets hkeeps
          exact ⟨a, bind_eq_ok_iff.mpr ⟨_, ha, rfl⟩⟩
        | cons v vs => cases hend
  | _ => cases hv

end Form

end SignOn.Json
