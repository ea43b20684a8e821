import SignOn.Failure.Normalize
import SignOn.Work.Place

/-! # Work that may wait

A piece of work runs over surroundings of some type. It changes them, it waits until they are ready,
and it ends with a value or breaks off. `Work.advance` runs a piece of work as far as it gets
without the help of others: to its end, or to a wait whose condition does not hold yet.

An action is work that does not wait; it ends with a value or with a failure. -/

namespace SignOn

open Failure (Payload)

/-- A piece of work over surroundings of type `σ`. A wait may name the uptime at which it is worth
looking again even if nobody else has done anything. -/
inductive Work (σ α : Type) where
  | ended (a : α)
  | broken (payload : Payload)
  | put (s : σ) (next : Work σ α)
  | wait (alarm : Option Nat) (ready : σ → Bool) (next : (s : σ) → ready s = true → Work σ α)

namespace Work

variable {σ α β : Type}

/-- Work followed by more work. -/
def bind : Work σ α → (α → Work σ β) → Work σ β
  | .ended a, k => k a
  | .broken payload, _ => .broken payload
  | .put s next, k => .put s (next.bind k)
  | .wait alarm ready next, k => .wait alarm ready fun s h => (next s h).bind k

instance : Monad (Work σ) where
  pure := .ended
  bind := bind

theorem bind_ended (w : Work σ α) : w.bind .ended = w := by
  induction w with
  | ended _ => rfl
  | broken _ => rfl
  | put s _ ih => simp [bind, ih]
  | wait _ _ _ ih => simp [bind, ih]

theorem bind_bind {γ : Type} (w : Work σ α) (f : α → Work σ β) (g : β → Work σ γ) :
    (w.bind f).bind g = w.bind fun a => (f a).bind g := by
  induction w with
  | ended _ => rfl
  | broken _ => rfl
  | put s _ ih => simp [bind, ih]
  | wait _ _ _ ih => simp [bind, ih]

instance : LawfulMonad (Work σ) := LawfulMonad.mk'
  (Work σ) (fun w => bind_ended w) (fun _ _ => rfl) (fun w f g => bind_bind w f g)

/-- Work that depends on the surroundings as they are. -/
def look (k : σ → Work σ α) : Work σ α := .wait none (fun _ => true) fun s _ => k s

/-- An action as work. -/
def act (action : StateM σ α) : Work σ α :=
  look fun s => .put (action s).2 (.ended (action s).1)

/-- Waits until there is a value, and ends with it. -/
def receive (alarm : Option Nat) (value : σ → Option α) : Work σ α :=
  .wait alarm (fun s => (value s).isSome) fun s h => .ended ((value s).get h)

/-! ### Running -/

/-- How far a piece of work got. -/
inductive Progress (σ α : Type) where
  | ended (result : Except Payload α)
  | waiting (alarm : Option Nat) (rest : Work σ α)

/-- Runs as far as the work gets on its own, and gives the surroundings it leaves. -/
def advance : Work σ α → σ → Progress σ α × σ
  | .ended a, s => (.ended (.ok a), s)
  | .broken payload, s => (.ended (.error payload), s)
  | .put s next, _ => next.advance s
  | .wait alarm ready next, s =>
    if h : ready s = true then (next s h).advance s
    else (.waiting alarm (.wait alarm ready next), s)

theorem advance_act (action : StateM σ α) (s : σ) :
    (act action).advance s = (.ended (.ok (action s).1), (action s).2) := by
  simp [act, look, advance]

end Work

/-- Work that does not wait. -/
abbrev Action (σ α : Type) := ExceptT Failure (StateM σ) α

/-- Work that ends with a value or with a failure. -/
abbrev Flow (σ α : Type) := ExceptT Failure (Work σ) α

namespace Flow

variable {σ α : Type}

/-- An action as work. -/
def act (action : Action σ α) : Flow σ α := ExceptT.mk (Work.act action.run)

instance : MonadLift (fun α => Action σ α) (fun α => Flow σ α) := ⟨act⟩

/-- Work that breaks off. -/
def broken (message : String) : Flow σ α := ExceptT.mk (.broken (.text message))

end Flow

namespace Action

variable {σ τ α : Type}

/-- What is at a place. -/
def read (place : Place σ τ) : Action σ τ := fun s => (.ok (place.get s), s)

/-- Replaces what is at a place. -/
def write (place : Place σ τ) (t : τ) : Action σ Unit := fun s => (.ok (), place.set t s)

/-- Ends with a result that is known. -/
def ofExcept (result : Except Failure α) : Action σ α := fun s => (result, s)

end Action

end SignOn
