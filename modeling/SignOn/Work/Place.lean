/-! # Places

A place is a part of the surroundings that can be looked at and replaced. What was put there is what
is found there, and putting back what was found changes nothing. -/

namespace SignOn

/-- A part of type `τ` of surroundings of type `σ`. -/
structure Place (σ τ : Type) where
  get : σ → τ
  set : τ → σ → σ
  get_set : ∀ t s, get (set t s) = t := by intros; rfl
  set_get : ∀ s, set (get s) s = s := by intros; rfl
  set_set : ∀ t u s, set t (set u s) = set t s := by intros; rfl

namespace Place

variable {σ τ υ : Type}

/-- The surroundings as a whole. -/
def all : Place σ σ := { get := id, set := fun t _ => t }

/-- The first of two parts. -/
def fst : Place (σ × τ) σ := { get := Prod.fst, set := fun t s => (t, s.2) }

/-- The second of two parts. -/
def snd : Place (σ × τ) τ := { get := Prod.snd, set := fun t s => (s.1, t) }

/-- A part of a part. -/
def inside (outer : Place σ τ) (inner : Place τ υ) : Place σ υ where
  get s := inner.get (outer.get s)
  set u s := outer.set (inner.set u (outer.get s)) s
  get_set u s := by rw [outer.get_set, inner.get_set]
  set_get s := by rw [inner.set_get, outer.set_get]
  set_set t u s := by rw [outer.get_set, outer.set_set, inner.set_set]

/-- The surroundings with the part changed. -/
def modify (p : Place σ τ) (f : τ → τ) (s : σ) : σ := p.set (f (p.get s)) s

/-- An action on the part as an action on the surroundings. -/
def lift {α : Type} (p : Place σ τ) (action : StateM τ α) : StateM σ α := fun s =>
  let (a, t) := action (p.get s)
  (a, p.set t s)

end Place

end SignOn
