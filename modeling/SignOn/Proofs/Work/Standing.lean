import Mathlib.Logic.Relation
import SignOn.Proofs.Work.Obeys

/-! # Where work stands

Work that is let go on some times, whatever others do while it waits, stands somewhere: it has
ended, it broke off, or it waits (`Work.Stands`). Of what is left of it nothing is said, so two
pieces of work can be compared that have different work left.

* `Work.stands_bind_iff`: work in two parts stands where its first part stands, or, once that has
  ended, where the second part stands that began there.
* `Flow.stands_bind_iff`: so it is with work that may fail; a failure of the first part is that of
  the whole.
* `Work.stands_wait_iff`: a wait goes on once its condition holds, after any number of changes that
  others made before. -/

namespace SignOn

open Failure (Payload)

namespace Work

variable {σ α β : Type} {R : σ → σ → Prop} {w : Work σ α} {s s₁ s' : σ}

/-- Where a piece of work stands: it has ended or broken off, or it waits, perhaps until an
uptime. -/
inductive Standing (α : Type) where
  | ended (result : Except Payload α)
  | waiting (alarm : Option Nat)

namespace Standing

/-- The work ended with the value. -/
abbrev done (a : α) : Standing α := .ended (.ok a)

/-- The work broke off. -/
abbrev broken (payload : Payload) : Standing α := .ended (.error payload)

/-- Where the whole stands while its first part has not ended with a value. -/
def unfinished? : Standing α → Option (Standing β)
  | .ended (.ok _) => none
  | .ended (.error payload) => some (.broken payload)
  | .waiting alarm => some (.waiting alarm)

end Standing

/-- Where work stands that got so far. -/
def Progress.standing : Progress σ α → Standing α
  | .ended result => .ended result
  | .waiting alarm _ => .waiting alarm

/-- Started in some surroundings, the work stands so in others. It was let go on some times after
waits, during which others changed the surroundings as the relation allows. -/
def Stands (R : σ → σ → Prop) (w : Work σ α) (s : σ) (x : Standing α) (s' : σ) : Prop :=
  ∃ progress, w.Reaches R s progress s' ∧ progress.standing = x

theorem Stands.of_advance_eq {w' : Work σ α} {x : Standing α} (he : w.advance s = w'.advance s₁)
    (h : w.Stands R s x s') : w'.Stands R s₁ x s' := by
  obtain ⟨progress, hr, hx⟩ := h
  exact ⟨progress, hr.of_advance_eq he, hx⟩

theorem stands_advance (R : σ → σ → Prop) (w : Work σ α) (s : σ) :
    w.Stands R s (w.advance s).1.standing (w.advance s).2 :=
  ⟨_, .here w s, rfl⟩

/-- Work that waits is let go on. -/
theorem Stands.on {alarm : Option Nat} {rest : Work σ α} {s₂ : σ} {x : Standing α}
    (waiting : w.advance s = (.waiting alarm rest, s₁)) (passed : R s₁ s₂)
    (later : rest.Stands R s₂ x s') :
    w.Stands R s x s' := by
  obtain ⟨progress, hr, hx⟩ := later
  exact ⟨progress, .on waiting passed hr, hx⟩

/-- Work that ends in its first go stands nowhere else. -/
theorem stands_of_ended {result : Except Payload α} (h : w.advance s = (.ended result, s₁))
    {x : Standing α} : w.Stands R s x s' ↔ x = .ended result ∧ s' = s₁ := by
  constructor
  · rintro ⟨progress, hr, rfl⟩
    cases hr with
    | here =>
      rw [h]
      exact ⟨rfl, rfl⟩
    | on waiting _ _ =>
      rw [h] at waiting
      cases waiting
  · rintro ⟨rfl, rfl⟩
    have hstands := stands_advance R w s
    rwa [h] at hstands

theorem stands_ended_iff {a : α} {x : Standing α} :
    (ended a : Work σ α).Stands R s x s' ↔ x = .done a ∧ s' = s :=
  stands_of_ended rfl

theorem stands_broken_iff {payload : Payload} {x : Standing α} :
    (broken payload : Work σ α).Stands R s x s' ↔ x = .broken payload ∧ s' = s :=
  stands_of_ended rfl

theorem stands_act_iff {action : StateM σ α} {x : Standing α} :
    (act action).Stands R s x s' ↔ x = .done (action s).1 ∧ s' = (action s).2 :=
  stands_of_ended (advance_act action s)

/-! ### Waits -/

/-- Others change the surroundings any number of times, before each of them the condition not
holding. -/
abbrev Meanwhile (R : σ → σ → Prop) (ready : σ → Bool) : σ → σ → Prop :=
  Relation.ReflTransGen fun s s' => ready s = false ∧ R s s'

theorem advance_wait_of_not_ready {alarm : Option Nat} {ready : σ → Bool}
    {next : (s : σ) → ready s = true → Work σ α} (h : ready s = false) :
    (wait alarm ready next).advance s = (.waiting alarm (wait alarm ready next), s) := by
  rw [advance, dif_neg (by simp [h])]

theorem advance_wait_of_ready {alarm : Option Nat} {ready : σ → Bool}
    {next : (s : σ) → ready s = true → Work σ α} (h : ready s = true) :
    (wait alarm ready next).advance s = (next s h).advance s := by
  rw [advance, dif_pos h]

/-- **Where a wait stands.** -/
theorem stands_wait_iff {alarm : Option Nat} {ready : σ → Bool}
    {next : (s : σ) → ready s = true → Work σ α} {x : Standing α} :
    (wait alarm ready next).Stands R s x s' ↔ ∃ s₁, Meanwhile R ready s s₁ ∧
      ((ready s₁ = false ∧ x = .waiting alarm ∧ s' = s₁) ∨
        ∃ h : ready s₁ = true, (next s₁ h).Stands R s₁ x s') := by
  constructor
  · rintro ⟨progress, hr, rfl⟩
    generalize hw : wait alarm ready next = w at hr
    induction hr with
    | here w s =>
      subst hw
      rcases h : ready s with _ | _
      · rw [advance_wait_of_not_ready h]
        exact ⟨s, .refl, .inl ⟨h, rfl, rfl⟩⟩
      · rw [advance_wait_of_ready h]
        exact ⟨s, .refl, .inr ⟨h, stands_advance R _ s⟩⟩
    | @on w s _ rest s₁ s₂ progress s' waiting passed later ih =>
      subst hw
      rcases h : ready s with _ | _
      · rw [advance_wait_of_not_ready h] at waiting
        cases waiting
        obtain ⟨s₃, path, hs₃⟩ := ih rfl
        exact ⟨s₃, .head ⟨h, passed⟩ path, hs₃⟩
      · rw [advance_wait_of_ready h] at waiting
        exact ⟨s, .refl, .inr ⟨h, .on waiting passed ⟨progress, later, rfl⟩⟩⟩
  · rintro ⟨s₁, path, hs₁⟩
    induction path using Relation.ReflTransGen.head_induction_on with
    | refl =>
      rcases hs₁ with ⟨h, rfl, rfl⟩ | ⟨h, hnext⟩
      · have here := stands_advance R (wait alarm ready next) s'
        rwa [advance_wait_of_not_ready h] at here
      · exact hnext.of_advance_eq (advance_wait_of_ready h).symm
    | head step _ ih => exact .on (advance_wait_of_not_ready step.1) step.2 ih

/-! ### Work in two parts -/

/-- By induction on the goes: the first part ends in one of them, and the second part begins in the
same. -/
theorem Stands.of_bind {k : α → Work σ β} {x : Standing β} (h : (w >>= k).Stands R s x s') :
    (∃ a s₁, w.Stands R s (.done a) s₁ ∧ (k a).Stands R s₁ x s') ∨
      ∃ y, w.Stands R s y s' ∧ y.unfinished? = some x := by
  obtain ⟨progress, hr, rfl⟩ := h
  generalize hv : w >>= k = v at hr
  induction hr generalizing w with
  | here v s =>
    subst hv
    have hw := stands_advance R w s
    rw [advance_bind]
    rcases hp : w.advance s with ⟨(payload | a) | ⟨alarm, rest⟩, s₁⟩
    all_goals rw [hp] at hw
    · exact .inr ⟨_, hw, rfl⟩
    · exact .inl ⟨a, s₁, hw, stands_advance R (k a) s₁⟩
    · exact .inr ⟨_, hw, rfl⟩
  | @on v s alarm rest s₁ s₂ progress s' waiting passed later ih =>
    subst hv
    rw [advance_bind] at waiting
    rcases hp : w.advance s with ⟨(payload | a) | ⟨alarm', rest'⟩, s₀⟩
    all_goals rw [hp] at waiting
    · cases waiting
    · refine .inl ⟨a, s₀, (stands_of_ended hp).mpr ⟨rfl, rfl⟩, ?_⟩
      exact .on waiting passed ⟨progress, later, rfl⟩
    · cases waiting
      rcases ih rfl with ⟨a, s₃, hfirst, hsecond⟩ | ⟨y, hy, hx⟩
      · exact .inl ⟨a, s₃, .on hp passed hfirst, hsecond⟩
      · exact .inr ⟨y, .on hp passed hy, hx⟩

theorem Stands.bind {k : α → Work σ β} {a : α} {x : Standing β} (h : w.Stands R s (.done a) s₁)
    (hk : (k a).Stands R s₁ x s') : (w >>= k).Stands R s x s' := by
  obtain ⟨progress, hr, hp⟩ := h
  induction hr with
  | here w s =>
    rcases hw : w.advance s with ⟨result | ⟨alarm, rest⟩, s₁⟩
    · rw [hw] at hp hk
      cases hp
      refine hk.of_advance_eq ?_
      rw [advance_bind, hw]
      rfl
    · rw [hw] at hp
      cases hp
  | @on w s alarm rest s₂ _ _ _ waiting passed _ ih =>
    have hwhole : (w >>= k).advance s = (.waiting alarm (rest >>= k), s₂) := by
      rw [advance_bind, waiting]
      rfl
    exact .on hwhole passed (ih hk hp)

theorem Stands.bind_unfinished {k : α → Work σ β} {y : Standing α} {x : Standing β}
    (h : w.Stands R s y s') (hx : y.unfinished? = some x) : (w >>= k).Stands R s x s' := by
  obtain ⟨progress, hr, rfl⟩ := h
  induction hr with
  | here w s =>
    have hwhole := stands_advance R (w >>= k) s
    rw [advance_bind] at hwhole
    rcases hw : w.advance s with ⟨(payload | a) | ⟨alarm, rest⟩, s₁⟩
    all_goals
      rw [hw] at hwhole hx
      cases hx
    · exact hwhole
    · exact hwhole
  | @on w s alarm rest s₂ _ _ _ waiting passed _ ih =>
    have hwhole : (w >>= k).advance s = (.waiting alarm (rest >>= k), s₂) := by
      rw [advance_bind, waiting]
      rfl
    exact .on hwhole passed (ih hx)

/-- **Where work in two parts stands.** -/
theorem stands_bind_iff {k : α → Work σ β} {x : Standing β} : (w >>= k).Stands R s x s' ↔
    (∃ a s₁, w.Stands R s (.done a) s₁ ∧ (k a).Stands R s₁ x s') ∨
      ∃ y, w.Stands R s y s' ∧ y.unfinished? = some x := by
  refine ⟨Stands.of_bind, ?_⟩
  rintro (⟨a, s₁, hfirst, hsecond⟩ | ⟨y, hy, hx⟩)
  · exact hfirst.bind hsecond
  · exact hy.bind_unfinished hx

end Work

/-! ### Work that may fail -/

namespace Flow

open Work (Standing)

variable {σ α β : Type} {R : σ → σ → Prop} {x : Flow σ α} {s s' : σ}

/-- Where the whole stands while its first part has not ended with a value: a failure is final. -/
def unfinished? : Standing (Except Failure α) → Option (Standing (Except Failure β))
  | .ended (.ok (.ok _)) => none
  | .ended (.ok (.error f)) => some (.done (.error f))
  | .ended (.error payload) => some (.broken payload)
  | .waiting alarm => some (.waiting alarm)

/-- **Where work in two parts stands that may fail.** -/
theorem stands_bind_iff {k : α → Flow σ β} {y : Standing (Except Failure β)} :
    (x >>= k).run.Stands R s y s' ↔
      (∃ a s₁, x.run.Stands R s (.done (.ok a)) s₁ ∧ (k a).run.Stands R s₁ y s') ∨
        ∃ z, x.run.Stands R s z s' ∧ unfinished? z = some y := by
  change (x.run >>= ExceptT.bindCont k).Stands R s y s' ↔ _
  rw [Work.stands_bind_iff]
  constructor
  · rintro (⟨a | a, s₁, hfirst, hsecond⟩ | ⟨z, hz, hy⟩)
    · obtain ⟨rfl, rfl⟩ := Work.stands_ended_iff.mp hsecond
      exact .inr ⟨_, hfirst, rfl⟩
    · exact .inl ⟨a, s₁, hfirst, hsecond⟩
    · rcases z with (payload | a) | alarm
      · exact .inr ⟨_, hz, hy⟩
      · cases hy
      · exact .inr ⟨_, hz, hy⟩
  · rintro (⟨a, s₁, hfirst, hsecond⟩ | ⟨z, hz, hy⟩)
    · exact .inl ⟨.ok a, s₁, hfirst, hsecond⟩
    · rcases z with (payload | f | a) | alarm
      · exact .inr ⟨_, hz, hy⟩
      · cases hy
        exact .inl ⟨.error f, s', hz, Work.stands_ended_iff.mpr ⟨rfl, rfl⟩⟩
      · cases hy
      · exact .inr ⟨_, hz, hy⟩

/-- An action at the beginning. -/
theorem stands_act_bind_iff {action : Action σ α} {k : α → Flow σ β}
    {y : Standing (Except Failure β)} :
    (act action >>= k).run.Stands R s y s' ↔ match action.run s with
      | (.ok a, s₁) => (k a).run.Stands R s₁ y s'
      | (.error f, s₁) => y = .done (.error f) ∧ s' = s₁ := by
  have hadvance : (act action >>= k).run.advance s = match action.run s with
      | (.ok a, s₁) => (k a).run.advance s₁
      | (.error f, s₁) => (.ended (.ok (.error f)), s₁) := by
    change (Work.act action.run >>= ExceptT.bindCont k).advance s = _
    rw [Work.advance_act_bind]
    rcases action.run s with ⟨f | a, s₁⟩ <;> rfl
  rcases ha : action.run s with ⟨f | a, s₁⟩
  all_goals rw [ha] at hadvance
  · exact Work.stands_of_ended hadvance
  · exact ⟨fun h => h.of_advance_eq hadvance, fun h => h.of_advance_eq hadvance.symm⟩

end Flow

end SignOn
