import SignOn.Broker.Executor
import SignOn.Dispatch.Basic
import SignOn.Record.Outcome

/-! # Records of the dispatcher

The state of a dispatcher, what its journal tells of each command, why a command could not be built,
and what transports were asked and how that went, as JSON objects. -/

namespace SignOn

open Json

/-- The record of a command that could not be built. -/
def CommandProblem.record (problem : CommandProblem) : Value := .ofMembers
  [("error", .string "command_build"), ("message", .string problem.message)]

/-! ### Transports -/

/-- The record of what a transport was asked. -/
def BrokerRequest.record (kind : TransportKind) (r : BrokerRequest) : Value := .ofMembers
  [("via", .string kind.label), ("api", .string r.api.label), ("package", Wire.encode r.package),
    ("payload", Wire.encode r.payload)]

/-- The record of an attempt over a transport. -/
def TransportReport.record (r : TransportReport) : Value := .ofMembers
  [("method", .string r.method), ("strategy", .string r.transport.label),
    ("outcome", .string r.outcome.label)]

/-- The record of counters: each by its name. -/
def Counters.record (c : Counters) : Value :=
  .ofMembers (c.map fun (counter, n) => (counter.name, .count n))

/-! ### The journal -/

namespace Entry

/-- The command that an entry is about, by its correlation id. -/
def correlationId : Entry → String
  | .noted _ (.started _ id _) => id
  | .noted _ (.ended _ id _) => id
  | .noted _ (.cacheHit _ id) => id
  | .noted _ (.cancelBroadcast id) => id
  | .called _ id _ => id
  | .flushed _ id _ => id

/-- The record of an entry. -/
def record : Entry → Value
  | .noted _ (.started apiId _ lane) =>
    .ofMembers [("api_start", .string apiId), ("lane", .string lane.label)]
  | .noted _ (.ended apiId _ status) =>
    .ofMembers [("api_end", .string apiId), ("status", .string status)]
  | .noted _ (.cacheHit apiId _) => .object [("cache_hit", .string apiId)]
  | .noted _ (.cancelBroadcast _) => .string "cancel_broadcast"
  | .called _ _ (.completed output) => .object [("completed", output.record)]
  | .called _ _ .cancelled => .string "cancelled"
  | .called _ _ (.failed f) => .object [("failed", f.record)]
  | .flushed _ _ f => .object [("flush", .ofOption (fun f => .string f.code) f)]

/-- Is the entry a flush? -/
def isFlush : Entry → Bool
  | .flushed _ _ _ => true
  | _ => false

/-- The entries of each command in their order, under its correlation id. -/
def recordByCommand (entries : List Entry) : Value :=
  let ids := (entries.map correlationId).eraseDups
  .ofMembers (ids.map fun id =>
    (id, .ofList record (entries.filter fun e => e.correlationId = id)))

end Entry

/-! ### The state -/

/-- The record of the counts of a dispatcher. -/
def Stats.record (s : Stats) : Value := .ofMembers
  [("submitted", .count s.submitted), ("completed", .count s.completed),
    ("cancelled", .count s.cancelled), ("failed", .count s.failed),
    ("deduplicated", .count s.deduplicated), ("cache_hits", .count s.cacheHits),
    ("cancellations_broadcast", .count s.cancellationsBroadcast)]

/-- The record of the state of a dispatcher. -/
def Dispatcher.record {κ : Type} (d : Dispatcher κ) : Value := .ofMembers
  [("outstanding", .count d.outstanding), ("cached", .count d.results.size),
    ("interactive_in_flight", .bool d.registry.isActive),
    ("active", .ofOption (fun s => .string s.correlationId) d.registry.activeSession?),
    ("stats", d.stats.record)]

end SignOn
