import SignOn.Failure.Normalize

/-! # Falling back

The controllers of a command are tried in order. A failure that only says that this controller does
not have the account, or no token for it that still works, lets the next one try. The last
controller has nobody after it, so what it says is final. -/

namespace SignOn

/-- The failures after which the next controller is tried. -/
inductive Retryable where
  | invalidGrant
  | noAccountFound
  | noTokensFound
  deriving DecidableEq, Repr, Inhabited

namespace Retryable

/-- The label of a class, which is the code of its failures. -/
def label : Retryable → String
  | .invalidGrant => Code.invalidGrant
  | .noAccountFound => Code.noAccountFound
  | .noTokensFound => Code.noTokensFound

/-- The class of a failure. -/
def ofFailure? (f : Failure) : Option Retryable :=
  [invalidGrant, noAccountFound, noTokensFound].find? fun r => r.label = f.code

end Retryable

/-- A value that may itself tell of a failure after which the next controller is tried. -/
class MayRetry (α : Type) where
  retryable? : α → Option Retryable

export MayRetry (retryable?)

instance : MayRetry Acquisition :=
  ⟨fun a => if a.succeeded then none else Retryable.ofFailure? (.ofAcquisition a)⟩

instance : MayRetry (List Account) := ⟨fun _ => none⟩

instance : MayRetry Bool := ⟨fun _ => none⟩

/-- What follows from the attempt of one controller. -/
inductive Verdict (α : Type) where
  | success (a : α)
  | retry (kind : Retryable)
  | fatal (f : Failure)
  deriving DecidableEq

/-- What follows from an attempt: the last one is final, whatever it says. -/
def judge {α : Type} [MayRetry α] (attempt : Except Failure α) (isLast : Bool) : Verdict α :=
  match attempt with
  | .ok a =>
    match retryable? a, isLast with
    | some kind, false => .retry kind
    | _, _ => .success a
  | .error f =>
    match Retryable.ofFailure? f, isLast with
    | some kind, false => .retry kind
    | _, _ => .fatal f

end SignOn
