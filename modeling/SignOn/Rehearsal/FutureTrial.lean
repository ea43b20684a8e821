import SignOn.Dispatch.Future
import SignOn.Rehearsal.Alone

/-! # Trying out a future

A future whose listeners note what they hear. A listener may set the future again from inside; what
it notes then is the answer. A value may also be set later, by somebody else. -/

namespace SignOn.Rehearsal

/-- Somebody who listens to a future: one who notes the value, or one who sets the future again and
notes the answer. -/
inductive Listener (ν : Type) where
  | note (label : ν)
  | setAgain (label : ν)

/-- What a listener noted: a value, or whether a value was taken. -/
inductive Heard (ν : Type) where
  | value (label value : ν)
  | answer (label : ν) (taken : Bool)

/-- The clock, the future, the values that are on their way with the uptime at which they arrive,
and what was noted. -/
structure FutureTrial (ν : Type) where
  clock : Clock
  future : Future ν (Listener ν)
  coming : List (Nat × ν)
  heard : List (Heard ν)

namespace FutureTrial

variable {ν : Type}

/-- A trial in which nothing has happened. -/
def new (clock : Clock) (value : Option ν) : FutureTrial ν :=
  ⟨clock, (value.map Future.completed).getD .pending, [], []⟩

/-- Has a listener hear the value. -/
def tell (value : ν) (t : FutureTrial ν) : Listener ν → FutureTrial ν
  | .note label => { t with heard := t.heard ++ [.value label value] }
  | .setAgain label =>
    let (taken, _, future) := t.future.set label
    { t with future, heard := t.heard ++ [.answer label taken] }

/-- Sets the future, and tells whether the value was taken. -/
def set (t : FutureTrial ν) (value : ν) : Bool × FutureTrial ν :=
  let (taken, listeners, future) := t.future.set value
  (taken, listeners.foldl (tell value) { t with future })

/-- Listens to the future. -/
def listen (t : FutureTrial ν) (l : Listener ν) : FutureTrial ν :=
  match t.future.whenComplete l with
  | (some value, _) => t.tell value l
  | (none, future) => { t with future }

/-- How long a value that is set later is on its way. -/
def delay : Nat := 5000000

/-- Has a value set later. -/
def setLater (t : FutureTrial ν) (value : ν) : FutureTrial ν :=
  { t with coming := t.coming ++ [(t.clock.uptime + delay, value)] }

/-- Sets the values that have arrived. -/
def arrive (t : FutureTrial ν) : FutureTrial ν :=
  let (due, coming) := t.coming.partition fun c => c.1 ≤ t.clock.uptime
  due.foldl (fun t c => (t.set c.2).2) { t with coming }

/-- Lets time pass to an uptime. -/
def passTo (t : FutureTrial ν) (uptime : Nat) : FutureTrial ν :=
  { t with clock := t.clock.forwardTo uptime }.arrive

/-- The value, waited for until all that is on its way has arrived. -/
def wait (t : FutureTrial ν) : Option ν × FutureTrial ν :=
  let t :=
    match t.future.value, t.coming.map Prod.fst |>.min? with
    | none, some uptime => t.passTo uptime
    | _, _ => t
  (t.future.value, t)

/-- The value, waited for some milliseconds at most. -/
def waitFor (t : FutureTrial ν) (millis : Nat) : Option ν × FutureTrial ν :=
  let limit := t.clock.uptime + millis * 1000000
  let t :=
    match t.future.value, t.coming.map Prod.fst |>.min? with
    | none, some uptime => t.passTo (min uptime limit)
    | none, none => t.passTo limit
    | some _, _ => t
  (t.future.value, t)

/-- The trial with what was noted taken out. -/
def takeHeard (t : FutureTrial ν) : List (Heard ν) × FutureTrial ν :=
  (t.heard, { t with heard := [] })

end FutureTrial

end SignOn.Rehearsal
