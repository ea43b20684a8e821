import SignOn.Identity.Identifier
import SignOn.Time.Moment

/-! # The cache of handshakes

Before a broker is asked anything, client and broker agree on a protocol version. The outcome is
kept for a while, under a text made of the range of versions that was offered, the package and the
version of the application behind it. A cache that is switched off keeps what it has and shows
nothing. -/

namespace SignOn

/-- How a handshake ended. -/
inductive HelloOutcome where
  | negotiated (version : String)
  | refused
  deriving DecidableEq, Repr, Inhabited

/-- One handshake: the versions on offer, and the build of the broker it is for. -/
structure HelloKey where
  minVersion : Option String
  maxVersion : String
  package : PackageName
  appVersion : String
  deriving DecidableEq

/-- An outcome and when it was stored. -/
structure HelloEntry where
  outcome : HelloOutcome
  storedAt : Moment
  deriving DecidableEq

/-- The outcomes, each under its package and the text of its handshake. -/
structure HelloCache where
  protocol : String
  ttl : Duration
  enabled : Bool
  entries : List ((PackageName × String) × HelloEntry)
  deriving DecidableEq

namespace HelloCache

/-- The name of the protocol that is spoken. -/
def protocolName : String := "msal.to.broker"

/-- How long an outcome is kept, unless a caller says otherwise. -/
def defaultTtl : Duration := .ofMinutes 240

/-- A cache with nothing in it, switched on. -/
def new (protocol : String) (ttl : Duration) : HelloCache := ⟨protocol, ttl, true, []⟩

/-- A cache of the protocol that is spoken, with the usual time. -/
def standard : HelloCache := new protocolName defaultTtl

instance : Inhabited HelloCache := ⟨standard⟩

/-- The text of a handshake. -/
def render (protocol : String) (key : HelloKey) : String :=
  protocol ++ "[" ++ key.minVersion.getD "" ++ "," ++ key.maxVersion ++ "]:" ++ key.package.text
    ++ "[" ++ key.appVersion ++ "]"

/-- The place of a handshake in the cache. -/
def place (c : HelloCache) (key : HelloKey) : PackageName × String :=
  (key.package, render c.protocol key)

/-- Is the entry young enough to be used? -/
def isLive (c : HelloCache) (entry : HelloEntry) (now : Moment) : Bool :=
  now.since entry.storedAt < c.ttl.nanos

/-- The entries with the one at a place left out. -/
def without (place : PackageName × String)
    (entries : List ((PackageName × String) × HelloEntry)) :
    List ((PackageName × String) × HelloEntry) :=
  entries.filter fun e => e.1 ≠ place

/-- The outcome of a handshake, and the cache after the look-up: an entry that is too old goes. -/
def get (c : HelloCache) (key : HelloKey) (now : Moment) : Option HelloOutcome × HelloCache :=
  if c.enabled then
    match c.entries.lookup (c.place key) with
    | none => (none, c)
    | some entry =>
      if c.isLive entry now then (some entry.outcome, c)
      else (none, { c with entries := without (c.place key) c.entries })
  else (none, c)

/-- The cache with the outcome of a handshake stored. -/
def save (c : HelloCache) (key : HelloKey) (outcome : HelloOutcome) (now : Moment) : HelloCache :=
  if c.enabled then
    { c with entries := (c.place key, ⟨outcome, now⟩) :: without (c.place key) c.entries }
  else c

/-- The cache switched on or off. -/
def setEnabled (c : HelloCache) (enabled : Bool) : HelloCache := { c with enabled }

/-- The cache with nothing in it. -/
def clear (c : HelloCache) : HelloCache := { c with entries := [] }

/-- How many outcomes there are, old ones included. -/
def size (c : HelloCache) : Nat := c.entries.length

end HelloCache

end SignOn
