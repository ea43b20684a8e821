import SignOn.Record.Dispatch
import SignOn.Rehearsal.Cast

/-! # The summary of a rehearsal

What each controller has seen, as a JSON object, with the lines about interactive calls and the
counters. Records of a rehearsal tell moments by their distance from its clock, so that they do not
depend on when it is held. -/

namespace SignOn.Rehearsal

open Json

/-! ### What controllers have seen -/

/-- The record of what a controller has seen. -/
def Role.record (role : Role) (owner : String) (s : Stage) : Value :=
  let p := (Stage.propsOf owner).get s
  match role with
  | .scripted _ => .object [("calls", .count p.calls)]
  | .broker role =>
    let transports := (role.play owner true).executor.transports
    .ofMembers [("hello_entries", .count ((Stage.helloOf (role.helloName owner)).get s).size),
      ("active_broker", Wire.encode p.active),
      ("strategies", .ofList (fun t => .string t.kind.label) transports),
      ("launches", .ofList Launch.record p.launches)]
  | .localApp _ => .ofMembers [("requests", .ofList TokenRequest.record p.requests),
      ("cache_len", .count p.store.size), ("launches", .ofList Launch.record p.launches)]

/-- The record of a stage and its cast. -/
def Cast.summary (cast : Cast) (s : Stage) : Value := .ofMembers
  [("controllers", .ofMembers (cast.map fun (name, role) => (name, role.record name s))),
    ("interactive_log", .ofList .string s.interactiveLog),
    ("metrics", Counters.record (s.dispatcher.counters ++ s.counters))]

/-! ### Moments of the clock -/

/-- How far from the clock a moment may lie to be told by its distance. -/
def clockSpan : Nat := 30 * 86400 * 1000000000

/-- The record of a moment, told in whole minutes after the start if it is near the clock. -/
def recordMoment (start : Moment) (v : Value) : Value :=
  match (Wire.decode v : Except Fault Moment) with
  | .error _ => v
  | .ok m =>
    let distance := m.since start
    if distance.natAbs ≤ clockSpan then
      .object [("clock_plus_minutes", .number (.whole (distance.tdiv 60000000000)))]
    else v

/-- Is the member a moment that the clock gives? -/
def isClockMember (name : String) : Bool := name = "expires_on" || name = "cached_at"

mutual

/-- A record with the moments of the clock told by their distance from the start. -/
def fromClock (start : Moment) : Value → Value
  | .array items => .array (itemsFromClock start items)
  | .object members => .object (membersFromClock start members)
  | v => v

/-- The items of a record, each of them so. -/
def itemsFromClock (start : Moment) : List Value → List Value
  | [] => []
  | v :: vs => fromClock start v :: itemsFromClock start vs

/-- The members of a record, each of them so. -/
def membersFromClock (start : Moment) : List (String × Value) → List (String × Value)
  | [] => []
  | (name, v) :: rest =>
    (name, if isClockMember name then recordMoment start v else fromClock start v)
      :: membersFromClock start rest

end

end SignOn.Rehearsal
