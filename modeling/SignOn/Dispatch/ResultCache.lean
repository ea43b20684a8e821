import SignOn.Time.Moment

/-! # The result cache

A bounded cache in which every use is stamped. An entry is live for a fixed time after it was
stored, however often it is used; a look-up that finds it too old takes it out. Where a new key
meets a full cache, the entry with the smallest stamp makes room. -/

namespace SignOn

/-- A value, when it was stored, and the stamp of its last use. -/
structure CacheEntry (ν : Type) where
  value : ν
  storedAt : Moment
  stamp : Nat
  deriving DecidableEq

/-- The entries by key, and the last stamp given out. -/
structure ResultCache (κ ν : Type) where
  capacity : Nat
  ttl : Duration
  stamps : Nat
  entries : List (κ × CacheEntry ν)

namespace ResultCache

variable {κ ν : Type}

/-- An empty cache; it has room for one entry at least. -/
def new (capacity : Nat) (ttl : Duration) : ResultCache κ ν := ⟨max capacity 1, ttl, 0, []⟩

/-- Is the entry young enough to be used? -/
def isLive (c : ResultCache κ ν) (entry : CacheEntry ν) (now : Moment) : Bool :=
  now.since entry.storedAt < c.ttl.nanos

/-- The entry with the smallest stamp. -/
def oldest? : List (κ × CacheEntry ν) → Option (κ × CacheEntry ν)
  | [] => none
  | e :: es =>
    match oldest? es with
    | none => some e
    | some o => if e.2.stamp ≤ o.2.stamp then some e else some o

variable [DecidableEq κ]

/-- The entries without the one of a key. -/
def without (key : κ) (entries : List (κ × CacheEntry ν)) : List (κ × CacheEntry ν) :=
  entries.filter fun e => e.1 ≠ key

/-- The entry of a key. -/
def find? (c : ResultCache κ ν) (key : κ) : Option (CacheEntry ν) :=
  (c.entries.find? fun e => e.1 = key).map Prod.snd

/-- The live value of a key, and the cache after the look-up: the entry is stamped anew, or taken
out if it is too old. -/
def get (c : ResultCache κ ν) (key : κ) (now : Moment) : Option ν × ResultCache κ ν :=
  let stamp := c.stamps + 1
  match c.find? key with
  | none => (none, { c with stamps := stamp })
  | some entry =>
    if c.isLive entry now then
      (some entry.value, { c with
        stamps := stamp
        entries := (key, { entry with stamp }) :: without key c.entries })
    else (none, { c with stamps := stamp, entries := without key c.entries })

/-- The entries with room for a new one. -/
def withRoom (c : ResultCache κ ν) : List (κ × CacheEntry ν) :=
  if c.entries.length < c.capacity then c.entries
  else
    match oldest? c.entries with
    | none => c.entries
    | some oldest => without oldest.1 c.entries

/-- The cache with a value stored; only a new key needs room. -/
def put (c : ResultCache κ ν) (key : κ) (value : ν) (now : Moment) : ResultCache κ ν :=
  let stamp := c.stamps + 1
  let others := if (c.find? key).isSome then without key c.entries else c.withRoom
  { c with stamps := stamp, entries := (key, ⟨value, now, stamp⟩) :: others }

/-- The value of a key, live or not, and the cache without it. -/
def remove (c : ResultCache κ ν) (key : κ) : Option ν × ResultCache κ ν :=
  ((c.find? key).map (·.value), { c with entries := without key c.entries })

omit [DecidableEq κ] in
/-- The cache without entries. -/
def clear (c : ResultCache κ ν) : ResultCache κ ν := { c with entries := [] }

/-- How many entries there are, old ones included. -/
def size (c : ResultCache κ ν) : Nat := c.entries.length

end ResultCache

end SignOn
