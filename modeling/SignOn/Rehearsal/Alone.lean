import SignOn.Time.Clock
import SignOn.Work.Basic

/-! # Work that nobody helps

Where such work waits, only time can help it: the clock is put forward to the time at which it is
worth looking again. Work that waits for ever is left where it is. -/

namespace SignOn

open Failure (Payload)

/-- The clock put forward to an uptime; it is never put back. -/
def Clock.forwardTo (c : Clock) (uptime : Nat) : Clock := c.advance (uptime - c.uptime)

/-- Runs work alone; it has no result if it waits for ever. -/
def Work.alone {σ α : Type} (clock : Place σ Clock) : Work σ α → σ → Option (Except Payload α) × σ
  | .ended a, s => (some (.ok a), s)
  | .broken payload, s => (some (.error payload), s)
  | .put s next, _ => next.alone clock s
  | .wait alarm ready next, s =>
    if h : ready s = true then (next s h).alone clock s
    else
      match alarm with
      | none => (none, s)
      | some uptime =>
        let s := clock.modify (fun c => c.forwardTo uptime) s
        if h : ready s = true then (next s h).alone clock s else (none, s)

end SignOn
