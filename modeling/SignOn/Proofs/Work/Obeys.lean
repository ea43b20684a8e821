import SignOn.Proofs.Work.Keeps
import SignOn.Session.Basic

/-! # Work that keeps a rule, whatever others do

A rule says which changes of the surroundings are allowed from one state to the next. Work obeys it
if each change that the work itself makes is allowed; nothing is asked of what others do while the
work waits. Waiting in a session only resolves the session, so it obeys every rule that the session
obeys (`SessionHandle.Obeys.wait`).

Work that is followed by more work runs as its two parts, one after the other (`advance_bind`). What
is left of work after any number of its waits is again a piece of work (`Remains`). -/

namespace SignOn

namespace Work

variable {σ α β : Type} {R : σ → σ → Prop} {s : σ}

/-- Started in some surroundings, the work itself changes them only as the rule allows, and so it
does when it goes on after waits, whatever others did meanwhile. -/
def Obeys (R : σ → σ → Prop) : Work σ α → σ → Prop
  | .ended _, _ => True
  | .broken _, _ => True
  | .put s' next, s => R s s' ∧ next.Obeys R s'
  | .wait _ ready next, _ => ∀ s' (h : ready s' = true), (next s' h).Obeys R s'

theorem obeys_act {action : StateM σ α} (h : ∀ s, R s (action s).2) (s : σ) :
    (act action).Obeys R s :=
  fun s' _ => ⟨h s', trivial⟩

theorem Obeys.bind {w : Work σ α} {k : α → Work σ β} (h : w.Obeys R s)
    (hk : ∀ a s', (k a).Obeys R s') : (w >>= k).Obeys R s := by
  change (w.bind k).Obeys R s
  induction w generalizing s with
  | ended a => exact hk a s
  | broken payload => trivial
  | put s₁ next ih => exact ⟨h.1, ih h.2⟩
  | wait alarm ready next ih =>
    intro s' hready
    exact ih s' hready (h s' hready)

/-- If others keep to the rule as well, the rule holds of all that happens. -/
theorem Obeys.keeps {w : Work σ α} (h : w.Obeys R s) : w.Keeps R s := by
  induction w generalizing s with
  | ended a => trivial
  | broken payload => trivial
  | put s₁ next ih => exact ⟨h.1, ih h.2⟩
  | wait alarm ready next ih =>
    intro s' _ hready
    exact ih s' hready (h s' hready)

/-- One go of the work is allowed, and what is left of it obeys the rule wherever it goes on. -/
theorem Obeys.advance (refl : ∀ s, R s s) (trans : ∀ {s s' s''}, R s s' → R s' s'' → R s s'')
    {w : Work σ α} (h : w.Obeys R s) : R s (w.advance s).2 ∧
      ∀ alarm rest, (w.advance s).1 = .waiting alarm rest → ∀ s', rest.Obeys R s' := by
  induction w generalizing s with
  | ended a => exact ⟨refl s, fun _ _ he => by cases he⟩
  | broken payload => exact ⟨refl s, fun _ _ he => by cases he⟩
  | put s₁ next ih =>
    obtain ⟨hstep, hrest⟩ := ih h.2
    exact ⟨trans h.1 hstep, hrest⟩
  | wait alarm ready next ih =>
    rw [Work.advance]
    by_cases hready : ready s = true
    · rw [dif_pos hready]
      exact ih s hready (h s hready)
    · rw [dif_neg hready]
      refine ⟨refl s, ?_⟩
      intro alarm' rest he s₁
      cases he
      exact h

/-- What is left of work that was let go on some times, whatever others did meanwhile. -/
inductive Remains : Work σ α → Work σ α → Prop
  | whole {w} : Remains w w
  | later {w s alarm next s' rest} (waiting : w.advance s = (.waiting alarm next, s'))
    (left : Remains next rest) : Remains w rest

/-! ### Work in two parts -/

/-- How far the two parts get in one go: the second begins where the first has ended. -/
def Progress.andThen (k : α → Work σ β) : Progress σ α × σ → Progress σ β × σ
  | (.ended (.ok a), s) => (k a).advance s
  | (.ended (.error payload), s) => (.ended (.error payload), s)
  | (.waiting alarm rest, s) => (.waiting alarm (rest >>= k), s)

theorem advance_bind (w : Work σ α) (k : α → Work σ β) (s : σ) :
    (w >>= k).advance s = Progress.andThen k (w.advance s) := by
  change (w.bind k).advance s = _
  induction w generalizing s with
  | ended a => rfl
  | broken payload => rfl
  | put s₁ next ih => exact ih s₁
  | wait alarm ready next ih =>
    rw [Work.advance, Work.bind, Work.advance]
    by_cases hready : ready s = true
    · rw [dif_pos hready, dif_pos hready]
      exact ih s hready s
    · rw [dif_neg hready, dif_neg hready]
      rfl

end Work

/-! ### Sessions -/

namespace SessionHandle

variable {σ : Type} {R : σ → σ → Prop} {session : SessionHandle σ}

/-- The session is resolved only as the rule allows. -/
def Obeys (R : σ → σ → Prop) (session : SessionHandle σ) : Prop :=
  ∀ signal s, R s (session.resolve signal s).2

theorem Obeys.conclude (h : session.Obeys R) (refl : ∀ s, R s s) (s : σ) :
    R s (session.conclude.run s).2 := by
  cases hx : session.signal s with
  | some signal =>
    have hrun : session.conclude.run s = (.ok signal, s) := by
      simp [SessionHandle.conclude, ExceptT.run, hx]
    rw [hrun]
    exact refl s
  | none =>
    have hrun : session.conclude.run s =
        (.error SessionHandle.lateFailure, (session.resolve .cancelled s).2) := by
      simp [SessionHandle.conclude, ExceptT.run, hx]
    rw [hrun]
    exact h .cancelled s

theorem Obeys.wait (h : session.Obeys R) (refl : ∀ s, R s s) (s : σ) :
    session.wait.run.Obeys R s := by
  unfold SessionHandle.wait
  cases session.timeout with
  | none =>
    intro s' _
    trivial
  | some timeout =>
    intro s' _
    dsimp only
    cases (session.clock s').deadline? timeout with
    | none => trivial
    | some deadline =>
      intro s'' _
      exact Work.obeys_act (h.conclude refl) s''

end SessionHandle

end SignOn
