import SignOn.Command.Fallback

/-! # Records of failures

A failure as a JSON object for whoever keeps a log: what it is and says, what can be told from it,
and what lies behind it. Parts that a kind of failure does not have are null, and some kinds add
parts of their own. -/

namespace SignOn

open Json

/-- The record of a transport that did not reach the broker. -/
def TransportFailure.record (f : TransportFailure) : Value := .ofMembers
  [("category", .string f.category.label), ("strategy", .string f.transport.label),
    ("message", .string f.message), ("display", .string f.text),
    ("source", .ofList .string f.source.toList)]

namespace Failure

/-- The parts that only some kinds of failures have. -/
def ownParts : Failure → List (String × Value)
  | .client f => [("suppressed", .ofList TransportFailure.record f.suppressed)]
  | .service f => [("http_status", Wire.encode f.httpStatus)]
  | .personRequired f => [("http_status", Wire.encode f.httpStatus)]
  | .cancelled _ => []
  | .deviceRegistration f username =>
    [("http_status", Wire.encode f.httpStatus), ("username", Wire.encode username)]

/-- The record of a failure. -/
def record (f : Failure) : Value := .ofMembers
  ([("error", .string f.kind.label), ("code", .string f.code), ("message", .string f.message),
    ("display", .string f.text), ("sub_error", Wire.encode f.subError),
    ("telemetry", Wire.encode f.telemetry?),
    ("telemetry_empty", Wire.encode (f.telemetry?.map ServerTelemetry.isEmpty)),
    ("cacheable", .bool f.isCacheable), ("user_cancel", .bool f.isCancelled),
    ("retryable", .ofOption (fun r => .string r.label) (Retryable.ofFailure? f)),
    ("source", .ofList .string f.sourceTexts)] ++ f.ownParts)

/-- The record of a value or of the failure to get one. -/
def recordOr {α : Type} (record : α → Value) : Except Failure α → Value
  | .ok a => record a
  | .error f => f.record

end Failure

/-- The record of what follows from an attempt. -/
def Verdict.record {α : Type} (record : α → Value) : Verdict α → Value
  | .success a => .ofMembers [("success", record a)]
  | .retry kind => .ofMembers [("retry", .string kind.label)]
  | .fatal f => .ofMembers [("fatal", f.record)]

end SignOn
