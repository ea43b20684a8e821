import SignOn.Work.Basic

/-! # Work between its waits

A piece of work may wait, and while it waits others change the surroundings. What the work does is
therefore said from one state of them to another, by a relation that allows what others do as well.

* `Work.Keeps`: all that the work does is allowed.
* `Work.Reaches`: how far the work gets if it is let go on after some of its waits.
* `Work.Keeps.reaches`: wherever the work gets, it kept to the relation on the way. -/

namespace SignOn

namespace Work

variable {σ α β : Type} {R : σ → σ → Prop}

/-- Started in some surroundings, the work changes them only as the relation allows, and so it does
when it goes on after waits during which others changed them as the relation allows. -/
def Keeps (R : σ → σ → Prop) : Work σ α → σ → Prop
  | .ended _, _ => True
  | .broken _, _ => True
  | .put s' next, s => R s s' ∧ next.Keeps R s'
  | .wait _ ready next, s => ∀ s', R s s' → ∀ h : ready s' = true, (next s' h).Keeps R s'

/-- How far the work got and where, if it was let go on some times after waits, during which others
changed the surroundings as the relation allows. -/
inductive Reaches (R : σ → σ → Prop) : Work σ α → σ → Progress σ α → σ → Prop
  | here (w s) : Reaches R w s (w.advance s).1 (w.advance s).2
  | on {w s alarm rest s₁ s₂ progress s'} (waiting : w.advance s = (.waiting alarm rest, s₁))
    (passed : R s₁ s₂) (later : Reaches R rest s₂ progress s') : Reaches R w s progress s'

theorem advance_act_bind (action : StateM σ α) (k : α → Work σ β) (s : σ) :
    (act action >>= k).advance s = (k (action s).1).advance (action s).2 := by
  change ((act action).bind k).advance s = _
  simp [act, look, bind, advance]

theorem Reaches.of_advance_eq {w w' : Work σ α} {s s₁ s' : σ} {progress : Progress σ α}
    (he : w.advance s = w'.advance s₁) (h : Reaches R w s progress s') :
    Reaches R w' s₁ progress s' := by
  cases h with
  | here =>
    rw [he]
    exact .here w' s₁
  | on waiting passed later => exact .on (he.symm.trans waiting) passed later

theorem Reaches.of_ended {a : α} {s s' : σ} {progress : Progress σ α}
    (h : Reaches R (.ended a) s progress s') : progress = .ended (.ok a) ∧ s' = s := by
  cases h with
  | here => exact ⟨rfl, rfl⟩
  | on waiting _ _ => cases waiting

theorem keeps_act {action : StateM σ α} {s : σ} (h : ∀ s', R s s' → R s' (action s').2) :
    (act action).Keeps R s := by
  intro s' hs _
  exact ⟨h s' hs, trivial⟩

section Preorder

variable (refl : ∀ s, R s s) (trans : ∀ {s s' s''}, R s s' → R s' s'' → R s s'')

include refl trans

theorem Keeps.bind {w : Work σ α} {k : α → Work σ β} {s : σ} (h : w.Keeps R s)
    (hk : ∀ a s', R s s' → (k a).Keeps R s') : (w.bind k).Keeps R s := by
  induction w generalizing s with
  | ended a => exact hk a s (refl s)
  | broken payload => trivial
  | put s₁ next ih => exact ⟨h.1, ih h.2 fun a s' hs => hk a s' (trans h.1 hs)⟩
  | wait alarm ready next ih =>
    intro s' hs hready
    exact ih s' hready (h s' hs hready) fun a s'' hs' => hk a s'' (trans hs hs')

/-- Running the work keeps to the relation, and so does what is left of it, whatever others do
meanwhile. -/
theorem Keeps.advance {w : Work σ α} {s : σ} (h : w.Keeps R s) : R s (w.advance s).2 ∧
    ∀ alarm rest, (w.advance s).1 = .waiting alarm rest →
      ∀ s', R (w.advance s).2 s' → rest.Keeps R s' := by
  induction w generalizing s with
  | ended a => exact ⟨refl s, fun _ _ he => by cases he⟩
  | broken payload => exact ⟨refl s, fun _ _ he => by cases he⟩
  | put s₁ next ih =>
    obtain ⟨hstep, hrest⟩ := ih h.2
    exact ⟨trans h.1 hstep, hrest⟩
  | wait alarm ready next ih =>
    rw [Work.advance]
    by_cases hready : ready s = true
    · rw [dif_pos hready]
      exact ih s hready (h s (refl s) hready)
    · rw [dif_neg hready]
      refine ⟨refl s, ?_⟩
      intro alarm' rest he s₁ hs
      cases he
      intro s' hs' hr
      exact h s' (trans hs hs') hr

/-- However often it is let go on, the work keeps to the relation. -/
theorem Keeps.reaches {w : Work σ α} {s s' : σ} {progress : Progress σ α} (h : w.Keeps R s)
    (hr : Reaches R w s progress s') : R s s' := by
  induction hr with
  | here w s => exact (h.advance refl trans).1
  | on waiting passed _ ih =>
    obtain ⟨hstep, hrest⟩ := h.advance refl trans
    rw [waiting] at hstep hrest
    exact trans (trans hstep passed) (ih (hrest _ _ rfl _ passed))

end Preorder

end Work

end SignOn
