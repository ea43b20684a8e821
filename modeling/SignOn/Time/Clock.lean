import SignOn.Time.Moment

/-! # Clocks

Two readings are taken together: the moment, by which things expire, and the time the machine has
been up, by which waits are bounded. The second one only grows and its whole seconds fill a signed
number of sixty-four bits; a wait whose end would lie beyond has no deadline. -/

namespace SignOn

/-- The moment and the nanoseconds since the machine was started. -/
structure Clock where
  now : Moment
  uptime : Nat
  deriving DecidableEq

namespace Clock

/-- One more than the longest uptime, in nanoseconds. -/
def uptimeLimit : Nat := 9223372036854775808 * 1000000000

/-- The clock some nanoseconds later; the last moment there is stays. -/
def advance (c : Clock) (nanos : Nat) : Clock :=
  ⟨(Moment.of? (c.now.clock + nanos) c.now.offset).getD c.now, c.uptime + nanos⟩

/-- The uptime at which a wait that begins now is over; none if no such time can be told. The sign
of the wait does not count. -/
def deadline? (c : Clock) (wait : Duration) : Option Nat :=
  let ending := c.uptime + wait.magnitude
  if ending < uptimeLimit then some ending else none

end Clock

end SignOn
