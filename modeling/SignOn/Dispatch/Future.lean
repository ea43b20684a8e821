/-! # Futures

A future is set at most once. Who wants to know registers a listener; the first value takes the
listeners with it, in the order in which they came, and a listener that comes later is answered at
once. Running the listeners is left to the caller, who may set the future again from inside one. -/

namespace SignOn

/-- The value, once there is one, and those who wait for it. -/
structure Future (α ℓ : Type) where
  value : Option α
  listeners : List ℓ
  deriving DecidableEq

namespace Future

variable {α ℓ : Type}

/-- A future without a value. -/
def pending : Future α ℓ := ⟨none, []⟩

/-- A future with its value. -/
def completed (a : α) : Future α ℓ := ⟨some a, []⟩

instance : Inhabited (Future α ℓ) := ⟨pending⟩

/-- Is there a value? -/
def isDone (f : Future α ℓ) : Bool := f.value.isSome

/-- Whether the value is taken, the listeners to run with it, and the future after it. -/
def set (f : Future α ℓ) (a : α) : Bool × List ℓ × Future α ℓ :=
  match f.value with
  | some _ => (false, [], f)
  | none => (true, f.listeners, ⟨some a, []⟩)

/-- The value to run the listener with at once, if there is one, and the future after it. -/
def whenComplete (f : Future α ℓ) (listener : ℓ) : Option α × Future α ℓ :=
  match f.value with
  | some a => (some a, f)
  | none => (none, { f with listeners := f.listeners ++ [listener] })

/-- The future with the names of its parts, for messages that show it as data. -/
def shown (f : Future α ℓ) : String :=
  "ResultFuture \x7b done: " ++ (if f.isDone then "true" else "false") ++ ", listeners: "
    ++ toString f.listeners.length ++ " \x7d"

end Future

end SignOn
