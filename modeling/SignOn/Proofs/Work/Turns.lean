import SignOn.Work.Basic

/-! # Work that takes turns

Where several pieces of work are under way, each of them gets on by turns (`Work.turn`), and between
two of its turns the others have theirs. What a piece of work ends with then depends on what it
finds in each turn.

* `Work.While`: as long as the surroundings have a property, the work ends with certain values only.
  So if it ends with another one, the property did not hold at some moment while it was at work.
* `Work.Upholds`: the work does not take a property away from the surroundings.
* `Work.BreaksOnly`: as long as the surroundings have a property, the work breaks off with certain
  payloads only. -/

namespace SignOn

open Failure (Payload)

namespace Work

variable {σ α β : Type} {A : σ → Prop} {P : α → Prop} {Q : β → Prop} {B : Payload → Prop}
  {w : Work σ α} {s : σ}

/-- Changes the surroundings, if that is what comes next. -/
def putNext : Work σ α → σ → Work σ α × σ
  | .put s next, _ => (next, s)
  | w, s => (w, s)

/-- One turn: passes a wait that is over, and makes the change that follows from what was found
there. -/
def turn : Work σ α → σ → Work σ α × σ
  | .wait alarm ready next, s =>
    if h : ready s = true then (next s h).putNext s else (.wait alarm ready next, s)
  | w, s => w.putNext s

/-- What is left of the work after turns in the surroundings that it found. -/
def after (w : Work σ α) (found : List σ) : Work σ α := found.foldl (fun w s => (w.turn s).1) w

/-- How the work has ended, if it has. -/
def ended? : Work σ α → Option (Except Payload α)
  | .ended a => some (.ok a)
  | .broken payload => some (.error payload)
  | .put _ _ | .wait _ _ _ => none

theorem advance_putNext (w : Work σ α) (s : σ) :
    (w.putNext s).1.advance (w.putNext s).2 = w.advance s := by
  cases w <;> rfl

/-- Without others, the work goes by turns as it goes at once. -/
theorem advance_turn (w : Work σ α) (s : σ) : (w.turn s).1.advance (w.turn s).2 = w.advance s := by
  cases w with
  | wait alarm ready next =>
    rw [turn]
    split
    · rename_i h
      rw [advance_putNext, advance, dif_pos h]
    · rfl
  | _ => exact advance_putNext _ s

/-! ### What the work ends with -/

/-- As long as it finds and leaves surroundings with a property, the work ends with certain values
only. -/
def While (A : σ → Prop) (P : α → Prop) : Work σ α → Prop
  | .ended a => P a
  | .broken _ => True
  | .put s next => A s → next.While A P
  | .wait _ ready next => ∀ s (h : ready s = true), A s → (next s h).While A P

theorem While.of_ended? (h : w.While A P) {a : α} (ended : w.ended? = some (.ok a)) : P a := by
  cases w with
  | ended b =>
    cases ended
    exact h
  | _ => cases ended

theorem While.putNext (h : w.While A P) (left : A (w.putNext s).2) : (w.putNext s).1.While A P := by
  cases w with
  | put s' next => exact h left
  | _ => exact h

theorem While.turn (h : w.While A P) (found : A s) (left : A (w.turn s).2) :
    (w.turn s).1.While A P := by
  cases w with
  | wait alarm ready next =>
    rw [Work.turn] at left ⊢
    split
    · rename_i hready
      rw [dif_pos hready] at left
      exact (h s hready found).putNext left
    · exact h
  | _ => exact While.putNext h left

theorem While.bind {k : α → Work σ β} (h : w.While A P) (hk : ∀ a, P a → (k a).While A Q) :
    (w >>= k).While A Q := by
  change (w.bind k).While A Q
  induction w with
  | ended a => exact hk a h
  | broken payload => trivial
  | put s next ih => exact fun hs => ih (h hs)
  | wait alarm ready next ih => exact fun s hready hs => ih s hready (h s hready hs)

theorem while_act {action : StateM σ α} (h : ∀ s, A s → A (action s).2 → P (action s).1) :
    (act action).While A P :=
  fun s _ found left => h s found left

/-! ### What the work keeps up -/

/-- The work makes no change that takes a property away; `found` is whether the surroundings had it
when they were looked at last, in the turn under way. -/
def UpholdsFrom (A : σ → Prop) : Work σ α → (found : Prop) → Prop
  | .ended _, _ => True
  | .broken _, _ => True
  | .put s next, found => (found → A s) ∧ next.UpholdsFrom A True
  | .wait _ ready next, _ => ∀ s (h : ready s = true), (next s h).UpholdsFrom A (A s)

/-- Wherever it finds surroundings with a property, the work leaves them with it. -/
def Upholds (A : σ → Prop) (w : Work σ α) : Prop := w.UpholdsFrom A True

theorem Upholds.from (h : w.Upholds A) (found : Prop) : w.UpholdsFrom A found := by
  cases w with
  | put s next => exact ⟨fun _ => h.1 trivial, h.2⟩
  | _ => exact h

theorem UpholdsFrom.putNext {found : Prop} (h : w.UpholdsFrom A found) (hs : A s → found) :
    (A s → A (w.putNext s).2) ∧ (w.putNext s).1.Upholds A := by
  cases w with
  | put s' next => exact ⟨fun hA => h.1 (hs hA), h.2⟩
  | _ => exact ⟨id, h⟩

theorem Upholds.turn (h : w.Upholds A) (s : σ) :
    (A s → A (w.turn s).2) ∧ (w.turn s).1.Upholds A := by
  cases w with
  | wait alarm ready next =>
    rw [Work.turn]
    split
    · rename_i hready
      exact UpholdsFrom.putNext (h s hready) id
    · exact ⟨id, h⟩
  | _ => exact UpholdsFrom.putNext h fun _ => trivial

theorem Upholds.bind {k : α → Work σ β} (h : w.Upholds A) (hk : ∀ a, (k a).Upholds A) :
    (w >>= k).Upholds A := by
  suffices hfrom : ∀ (w : Work σ α) (found : Prop), w.UpholdsFrom A found →
      (w.bind k).UpholdsFrom A found from hfrom w True h
  intro w
  induction w with
  | ended a => exact fun found _ => (hk a).from found
  | broken payload => exact fun _ _ => trivial
  | put s next ih => exact fun _ h => ⟨h.1, ih _ h.2⟩
  | wait alarm ready next ih => exact fun _ h s hready => ih s hready _ (h s hready)

theorem upholds_act {action : StateM σ α} (h : ∀ s, A s → A (action s).2) :
    (act action).Upholds A :=
  fun s _ => ⟨h s, trivial⟩

/-! ### How the work breaks off -/

/-- As long as it finds surroundings with a property, the work breaks off with certain payloads
only. -/
def BreaksOnly (A : σ → Prop) (B : Payload → Prop) : Work σ α → Prop
  | .ended _ => True
  | .broken payload => B payload
  | .put _ next => next.BreaksOnly A B
  | .wait _ ready next => ∀ s (h : ready s = true), A s → (next s h).BreaksOnly A B

theorem BreaksOnly.of_ended? (h : w.BreaksOnly A B) {payload : Payload}
    (ended : w.ended? = some (.error payload)) : B payload := by
  cases w with
  | broken payload' =>
    cases ended
    exact h
  | _ => cases ended

theorem BreaksOnly.putNext (h : w.BreaksOnly A B) (s : σ) : (w.putNext s).1.BreaksOnly A B := by
  cases w <;> exact h

theorem BreaksOnly.turn (h : w.BreaksOnly A B) (found : A s) : (w.turn s).1.BreaksOnly A B := by
  cases w with
  | wait alarm ready next =>
    rw [Work.turn]
    split
    · rename_i hready
      exact (h s hready found).putNext s
    · exact h
  | _ => exact h.putNext s

theorem BreaksOnly.after {found : List σ} (h : w.BreaksOnly A B) (holds : ∀ s ∈ found, A s) :
    (w.after found).BreaksOnly A B := by
  induction found generalizing w with
  | nil => exact h
  | cons s found ih => exact ih (h.turn (holds s (.head _))) fun s' hs' => holds s' (.tail _ hs')

theorem BreaksOnly.bind {k : α → Work σ β} (h : w.BreaksOnly A B) (hk : ∀ a, (k a).BreaksOnly A B) :
    (w >>= k).BreaksOnly A B := by
  change (w.bind k).BreaksOnly A B
  induction w with
  | ended a => exact hk a
  | broken payload => exact h
  | put s next ih => exact ih h
  | wait alarm ready next ih => exact fun s hready hs => ih s hready (h s hready hs)

theorem BreaksOnly.mono {A' : σ → Prop} (h : w.BreaksOnly A B) (hA : ∀ s, A' s → A s) :
    w.BreaksOnly A' B := by
  induction w with
  | ended a => trivial
  | broken payload => exact h
  | put s next ih => exact ih h
  | wait alarm ready next ih => exact fun s hready hs => ih s hready (h s hready (hA s hs))

theorem breaksOnly_act (action : StateM σ α) : (act action).BreaksOnly A B := fun _ _ _ => trivial

theorem after_broken (payload : Payload) (found : List σ) :
    (broken payload : Work σ α).after found = .broken payload := by
  induction found with
  | nil => rfl
  | cons s found ih => exact ih

theorem after_act_bind (action : StateM σ α) (k : α → Work σ β) (first : σ) (found : List σ) :
    (act action >>= k).after (first :: found) = (k (action first).1).after found := rfl

/-- Work that depends on what it finds first, and then breaks off at once or never, breaks off with
what was found first. -/
theorem look_breaks_iff {k : σ → Work σ α} {payload : Payload} {found : List σ}
    (later : ∀ s, (∃ payload, k s = .broken payload) ∨ (k s).BreaksOnly (fun _ => True)
      fun _ => False) :
    ((look k).after found).ended? = some (.error payload) ↔
      ∃ s rest, found = s :: rest ∧ k s = .broken payload := by
  cases found with
  | nil => exact ⟨nofun, nofun⟩
  | cons s rest =>
    change (((k s).putNext s).1.after rest).ended? = some (.error payload) ↔ _
    have hbreaks {payload' : Payload} (h : k s = .broken payload') :
        ((k s).putNext s).1.after rest = .broken payload' := by
      rw [h]
      exact after_broken payload' rest
    constructor
    · intro h
      refine ⟨s, rest, rfl, ?_⟩
      rcases later s with ⟨payload', hbroken⟩ | hnever
      · rw [hbreaks hbroken] at h
        cases h
        exact hbroken
      · exact (((hnever.putNext s).after fun _ _ => trivial).of_ended? h).elim
    · rintro ⟨_, _, ⟨⟩, hbroken⟩
      rw [hbreaks hbroken]
      rfl

end Work

/-! ### Work that may fail -/

namespace Flow

variable {σ α β : Type} {A : σ → Prop} {P : α → Prop} {Q : β → Prop} {x : Flow σ α}

/-- As long as the surroundings have a property, the work fails or ends with certain values only. -/
def While (A : σ → Prop) (P : α → Prop) (x : Flow σ α) : Prop :=
  x.run.While A fun r => ∀ a, r = .ok a → P a

theorem while_pure {a : α} (h : P a) : While A P (pure a : Flow σ α) := by
  rintro _ ⟨⟩
  exact h

theorem while_throw (f : Failure) : While A P (throw f : Flow σ α) := fun _ => nofun

theorem while_act {action : Action σ α}
    (h : ∀ s a s', action.run s = (.ok a, s') → A s → A s' → P a) : While A P (act action) :=
  Work.while_act fun s found left a ha => h s a (action.run s).2 (Prod.ext ha rfl) found left

theorem While.bind {k : α → Flow σ β} (h : While A P x) (hk : ∀ a, P a → While A Q (k a)) :
    While A Q (x >>= k) := by
  change (x.run >>= ExceptT.bindCont k).While A _
  refine Work.While.bind h fun r hr => ?_
  cases r with
  | ok a => exact hk a (hr a rfl)
  | error f => exact while_throw f

theorem While.map {f : α → β} (h : While A P x) (hf : ∀ a, P a → Q (f a)) :
    While A Q (f <$> x) := by
  rw [map_eq_pure_bind]
  exact h.bind fun a ha => while_pure (hf a ha)

theorem upholds_map {f : α → β} (h : x.run.Upholds A) : (f <$> x).run.Upholds A := by
  rw [ExceptT.run_map, map_eq_pure_bind]
  exact h.bind fun _ => trivial

variable {B : Payload → Prop}

theorem breaksOnly_bind {k : α → Flow σ β} (h : x.run.BreaksOnly A B)
    (hk : ∀ a, (k a).run.BreaksOnly A B) :
    (x >>= k).run.BreaksOnly A B := by
  change (x.run >>= ExceptT.bindCont k).BreaksOnly A B
  refine h.bind fun r => ?_
  cases r with
  | ok a => exact hk a
  | error f => trivial

theorem breaksOnly_map {f : α → β} (h : x.run.BreaksOnly A B) : (f <$> x).run.BreaksOnly A B := by
  rw [ExceptT.run_map, map_eq_pure_bind]
  exact h.bind fun _ => trivial

theorem breaksOnly_lift {w : Work σ α} (h : w.BreaksOnly A B) :
    (ExceptT.lift w : Flow σ α).run.BreaksOnly A B := by
  rw [ExceptT.run_lift, map_eq_pure_bind]
  exact h.bind fun _ => trivial

end Flow

end SignOn
