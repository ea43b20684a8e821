import SignOn.Proofs.Session.Guards
import SignOn.Proofs.Work.Standing

/-! # Where a wait in a session stands

Whoever waits in a session is told its signal if it is there, or once it comes (`Resolves`), and is
told nothing else (`stands_wait_told_iff`). A wait without a deadline and one with a deadline that
could be told differ in how long they last, and not in how they end (`stands_wait_iff`); a wait with
a deadline that could not be told breaks off, be the signal there or not. Work that begins with a
wait stands where the wait does until the signal is told (`stands_wait_bind_iff`). -/

namespace SignOn

namespace SessionHandle

variable {σ : Type} {R : σ → σ → Prop} {h : SessionHandle σ} {x : Signal} {s s' : σ}

open Work (Standing)

/-- The session is resolved with the signal for somebody who begins to wait: it is already, or it is
so when the wait goes on. -/
inductive Resolves (R : σ → σ → Prop) (h : SessionHandle σ) (x : Signal) (s : σ) : σ → Prop
  | already (signal : h.signal s = some x) : Resolves R h x s s
  | meanwhile {alarm s₁ s'} (waits : h.wait.run.Stands R s (.waiting alarm) s₁) (passed : R s₁ s')
    (signal : h.signal s' = some x) : Resolves R h x s s'

theorem Resolves.signal (hr : h.Resolves R x s s') : h.signal s' = some x := by
  cases hr with
  | already signal => exact signal
  | meanwhile _ _ signal => exact signal

/-- Where a wait stands that lasts until a condition holds, and then concludes. -/
def Lasts (h : SessionHandle σ) (R : σ → σ → Prop) (alarm : Option Nat) (ready : σ → Bool) (s : σ)
    (y : Standing (Except Failure Signal)) (s' : σ) : Prop :=
  ∃ s₁, Work.Meanwhile R ready s s₁ ∧ ((ready s₁ = false ∧ y = .waiting alarm ∧ s' = s₁) ∨
    (ready s₁ = true ∧ y = .done (h.conclude.run s₁).1 ∧ s' = (h.conclude.run s₁).2))

/-- A wait that has begun lasts until a condition holds, at the latest when the signal is there. -/
theorem Awaits.stands_iff {w : Work σ (Except Failure Signal)} (hw : h.Awaits w) :
    ∃ alarm ready, (∀ s x, h.signal s = some x → ready s = true) ∧
      ∀ s y s', w.Stands R s y s' ↔ h.Lasts R alarm ready s y s' := by
  cases hw with
  | unbounded =>
    refine ⟨none, fun s => (h.signal s).isSome, fun s x hx => by simp [hx], fun s y s' => ?_⟩
    rw [Work.stands_wait_iff]
    refine exists_congr fun s₁ => and_congr_right fun _ => or_congr_right ?_
    rw [← exists_prop]
    refine exists_congr fun hs => ?_
    obtain ⟨x, hx⟩ := Option.isSome_iff_exists.mp hs
    rw [Work.stands_ended_iff, conclude_of_signal hx]
    simp [hx]
  | bounded deadline =>
    refine ⟨some deadline, fun s => (h.signal s).isSome || decide (deadline ≤ (h.clock s).uptime),
      fun s x hx => by simp [hx], fun s y s' => ?_⟩
    rw [Work.stands_wait_iff]
    refine exists_congr fun s₁ => and_congr_right fun _ => or_congr_right ?_
    rw [← exists_prop]
    exact exists_congr fun _ => Work.stands_act_iff

/-- A wait with a deadline that can be told, or with none, stands where one stands that has
begun. -/
theorem stands_wait_iff (hd : ¬ h.Overflows s) :
    ∃ alarm ready, (∀ s x, h.signal s = some x → ready s = true) ∧
      ∀ y s', h.wait.run.Stands R s y s' ↔ h.Lasts R alarm ready s y s' := by
  obtain ⟨w, hw, hadvance⟩ := exists_awaits hd
  obtain ⟨alarm, ready, hready, hstands⟩ := hw.stands_iff (R := R)
  refine ⟨alarm, ready, hready, fun y s' => ?_⟩
  rw [← hstands]
  exact ⟨fun hs => hs.of_advance_eq hadvance, fun hs => hs.of_advance_eq hadvance.symm⟩

theorem conclude_eq_ok_iff : h.conclude.run s = (.ok x, s') ↔ h.signal s = some x ∧ s' = s := by
  cases hx : h.signal s with
  | none =>
    rw [conclude_of_none hx]
    exact ⟨nofun, nofun⟩
  | some y =>
    rw [conclude_of_signal hx]
    constructor
    · rintro ⟨⟩
      exact ⟨rfl, rfl⟩
    · rintro ⟨⟨⟩, rfl⟩
      rfl

/-- **Who waits is told the signal of the session, if it comes, and nothing else.** -/
theorem stands_wait_told_iff (hd : ¬ h.Overflows s) :
    h.wait.run.Stands R s (.done (.ok x)) s' ↔ h.Resolves R x s s' := by
  obtain ⟨alarm, ready, hready, hstands⟩ := stands_wait_iff (R := R) hd
  rw [hstands]
  constructor
  · rintro ⟨s₁, path, ⟨-, he, -⟩ | ⟨-, he, hs'⟩⟩
    · cases he
    · have htold : h.conclude.run s₁ = (.ok x, s') :=
        Prod.ext (Except.ok.inj (Standing.ended.inj he)).symm hs'.symm
      obtain ⟨hx, rfl⟩ := conclude_eq_ok_iff.mp htold
      cases path with
      | refl => exact .already hx
      | tail before last =>
        exact .meanwhile ((hstands _ _).mpr ⟨_, before, .inl ⟨last.1, rfl, rfl⟩⟩) last.2 hx
  · intro hr
    have htold := conclude_eq_ok_iff.mpr ⟨hr.signal, rfl⟩
    refine ⟨s', ?_, .inr ⟨hready s' x hr.signal, by rw [htold], by rw [htold]⟩⟩
    cases hr with
    | already _ => exact .refl
    | meanwhile waits passed _ =>
      obtain ⟨s₂, before, ⟨hs₂, -, rfl⟩ | ⟨-, he, -⟩⟩ := (hstands _ _).mp waits
      · exact before.tail ⟨hs₂, passed⟩
      · cases he

theorem stands_wait_of_overflows (hd : h.Overflows s) {y : Standing (Except Failure Signal)} :
    h.wait.run.Stands R s y s' ↔ y = .broken (.text overflowMessage) ∧ s' = s :=
  Work.stands_of_ended (advance_wait_of_overflows hd)

/-- Who was told anything began to wait with a deadline that could be told, or with none. -/
theorem not_overflows_of_told {result : Except Failure Signal}
    (told : h.wait.run.Stands R s (.done result) s') : ¬ h.Overflows s := by
  intro hd
  cases ((stands_wait_of_overflows hd).mp told).1

/-- Who still waits has not been told anything that there was to tell. -/
theorem signal_of_stands_waiting {alarm : Option Nat}
    (hs : h.wait.run.Stands R s (.waiting alarm) s') :
    h.signal s' = none := by
  have hd : ¬ h.Overflows s := by
    intro hd
    cases ((stands_wait_of_overflows hd).mp hs).1
  obtain ⟨alarm', ready, hready, hstands⟩ := stands_wait_iff (R := R) hd
  obtain ⟨s₁, -, ⟨hs₁, -, rfl⟩ | ⟨-, he, -⟩⟩ := (hstands _ _).mp hs
  · rw [Option.eq_none_iff_forall_ne_some]
    intro x hx
    rw [hready s' x hx] at hs₁
    cases hs₁
  · cases he

/-- A wait that has a deadline that could be told, or has none, does not break off, and fails only
for being late. -/
theorem eq_of_stands_wait (hd : ¬ h.Overflows s)
    {result : Except Failure.Payload (Except Failure Signal)}
    (hs : h.wait.run.Stands R s (.ended result) s') :
    result = .ok (.error lateFailure) ∨ ∃ x, result = .ok (.ok x) ∧ h.Resolves R x s s' := by
  obtain ⟨alarm, ready, -, hstands⟩ := stands_wait_iff (R := R) hd
  obtain ⟨s₁, -, ⟨-, he, -⟩ | ⟨-, he, -⟩⟩ := (hstands _ _).mp hs
  · cases he
  · cases hx : h.signal s₁ with
    | none =>
      rw [conclude_of_none hx] at he
      exact .inl (Standing.ended.inj he)
    | some x =>
      rw [conclude_of_signal hx] at he
      obtain rfl : result = .ok (.ok x) := Standing.ended.inj he
      exact .inr ⟨x, rfl, (stands_wait_told_iff hd).mp hs⟩

/-! ### Work that begins with a wait -/

variable {α : Type}

/-- Where work stands that has not been told the signal that it waits for: it waits, it was too
late, or its wait broke off, for the deadline could not be told. -/
inductive Untold (R : σ → σ → Prop) (h : SessionHandle σ) (s : σ) :
    Standing (Except Failure α) → σ → Prop
  | waits {alarm} {s' : σ} (waits : h.wait.run.Stands R s (.waiting alarm) s')
    (unresolved : h.signal s' = none) : Untold R h s (.waiting alarm) s'
  | late {s' : σ} (late : h.wait.run.Stands R s (.done (.error lateFailure)) s') :
    Untold R h s (.done (.error lateFailure)) s'
  | overflows (overflows : h.Overflows s) : Untold R h s (.broken (.text overflowMessage)) s

theorem Untold.stands {k : Signal → Flow σ α} {y : Standing (Except Failure α)}
    (hu : h.Untold R s y s') :
    (h.wait >>= k).run.Stands R s y s' := by
  refine Flow.stands_bind_iff.mpr (.inr ?_)
  cases hu with
  | waits waits _ => exact ⟨_, waits, rfl⟩
  | late late => exact ⟨_, late, rfl⟩
  | overflows overflows =>
    exact ⟨.broken (.text overflowMessage), (stands_wait_of_overflows overflows).mpr ⟨rfl, rfl⟩,
      rfl⟩

theorem untold_of_unfinished {z : Standing (Except Failure Signal)}
    {y : Standing (Except Failure α)} (hz : h.wait.run.Stands R s z s')
    (hy : Flow.unfinished? z = some y) : h.Untold R s y s' := by
  by_cases hd : h.Overflows s
  · -- the wait has only one way to go
    obtain ⟨rfl, rfl⟩ := (stands_wait_of_overflows hd).mp hz
    cases hy
    exact .overflows hd
  rcases z with result | alarm
  · rcases eq_of_stands_wait hd hz with rfl | ⟨signal, rfl, -⟩
    · cases hy
      exact .late hz
    · cases hy
  · cases hy
    exact .waits hz (signal_of_stands_waiting hz)

/-- **Where work stands that begins with a wait**: where what is done with the signal stands once
the session is resolved, and until then where the wait does. -/
theorem stands_wait_bind_iff {k : Signal → Flow σ α} {y : Standing (Except Failure α)} :
    (h.wait >>= k).run.Stands R s y s' ↔
      (∃ x s₁, ¬ h.Overflows s ∧ h.Resolves R x s s₁ ∧ (k x).run.Stands R s₁ y s') ∨
      h.Untold R s y s' := by
  constructor
  · intro hs
    rcases Flow.stands_bind_iff.mp hs with ⟨x, s₁, told, hk⟩ | ⟨z, hz, hy⟩
    · have timely := not_overflows_of_told told
      exact .inl ⟨x, s₁, timely, (stands_wait_told_iff timely).mp told, hk⟩
    · exact .inr (untold_of_unfinished hz hy)
  · rintro (⟨x, s₁, timely, resolved, hk⟩ | hu)
    · exact Flow.stands_bind_iff.mpr (.inl ⟨x, s₁, (stands_wait_told_iff timely).mpr resolved, hk⟩)
    · exact hu.stands

end SessionHandle

end SignOn
