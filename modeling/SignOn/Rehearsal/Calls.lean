import SignOn.Rehearsal.Alone
import SignOn.Rehearsal.Summary
import SignOn.Rehearsal.Written

/-! # Calling controllers one by one

A step of this kind of script calls one controller, or runs a command with several, in a session of
its own and with nobody to help. Its record tells what came of it and what transports were asked for
it. -/

namespace SignOn.Rehearsal

open Json
open Failure (Payload)

/-! ### Calls -/

/-- What a controller may be called for. The last four look into the parts of a local or a broker
controller. -/
inductive Call where
  | name
  | acquireInteractive (p : Parameters)
  | acquireSilent (p : Parameters)
  | accounts (p : Parameters)
  | removeAccount (p : Parameters)
  | deviceMode (p : Parameters)
  | currentAccount (p : Parameters)
  | removeCurrentAccount (p : Parameters)
  | acquireSilentAt (p : Parameters) (now : Moment)
  | stored (clientId : ClientId) (account : Account)
  | hello (p : Parameters) (transport : Nat)
  | enableHello (isEnabled : Bool)

/-- Reads a call. -/
def Call.decode : Decoder Call := fun v => do
  let p := v.get Parameters "params"
  match ← v.get String "call" with
  | "name" => return .name
  | "acquire_token_interactive" => .acquireInteractive <$> p
  | "acquire_token_silent" => .acquireSilent <$> p
  | "get_accounts" => .accounts <$> p
  | "remove_account" => .removeAccount <$> p
  | "get_device_mode" => .deviceMode <$> p
  | "get_current_account" => .currentAccount <$> p
  | "remove_current_account" => .removeCurrentAccount <$> p
  | "silent_at" => return .acquireSilentAt (← p) (← v.get Moment "now")
  | "stored" => return .stored (← v.get ClientId "client_id") (← v.get Account "account")
  | "hello" => return .hello (← p) (← v.nat "strategy")
  | "hello_enabled" => return .enableHello (← v.get Bool "enabled")
  | call => .error (.here (.refused ("there is no call " ++ call)))

/-- Work with its value or failure recorded. -/
def recorded {α : Type} (record : α → Value) (flow : Flow Stage α) : Work Stage Value := do
  return Failure.recordOr record (← flow.run)

/-- The record of what became of a handshake. -/
def recordHello : Except AttemptFailure String → Value
  | .ok version => .object [("version", .string version)]
  | .error (.unreachable f) => .object [("communication", f.record)]
  | .error (.fatal f) => .object [("fatal", f.record)]

/-- A handshake of a broker controller over one of its transports. -/
def helloWith (role : BrokerRole) (owner : String) (p : Parameters) (transport : Nat) :
    Work Stage Value :=
  let broker := role.play owner true
  match broker.executor.transports[transport]? with
  | none => return .null
  | some t => do return recordHello (← Work.act (broker.hello t p))

/-- The work of a call to a controller of the cast. -/
def Call.work (cast : Cast) (owner : String) (session : Session) (call : Call) :
    Work Stage Value :=
  let k := cast.controller owner
  match call, cast.lookup owner with
  | .name, _ => return .string k.name
  | .acquireInteractive p, _ =>
    recorded Acquisition.record (k.acquireInteractive p (Stage.stepSession session))
  | .acquireSilent p, _ => recorded Acquisition.record (k.acquireSilent p)
  | .accounts p, _ => recorded Wire.encode (k.accounts p)
  | .removeAccount p, _ => recorded .bool (k.removeAccount p)
  | .deviceMode p, _ => recorded .bool (k.deviceMode p)
  | .currentAccount p, _ => recorded Wire.encode (k.currentAccount p)
  | .removeCurrentAccount p, _ => recorded .bool (k.removeCurrentAccount p)
  | .acquireSilentAt p now, some (.localApp role) =>
    recorded Acquisition.record (Flow.act ((role.play owner).acquireSilentAt p now))
  | .stored clientId account, some (.localApp _) => Work.act fun s =>
    (Wire.encode (((Stage.storeOf owner).get s).load clientId account.homeAccountId), s)
  | .hello p transport, some (.broker role) => helloWith role owner p transport
  | .enableHello isEnabled, some (.broker role) => Work.act fun s =>
    (.null, (Stage.helloOf (role.helloName owner)).modify (fun c => c.setEnabled isEnabled) s)
  | _, _ => return .null

/-! ### Commands -/

/-- The id of a command that was given none. -/
def freshId : String := "00000000-0000-4000-8000-000000000000"

/-- The id of another command that was given none. -/
def otherFreshId : String := "00000000-0000-4000-9000-000000000000"

/-- The record of a command and of what its controllers gave. An id that was made up is not told. -/
def recordCommand (c : Command (Controller Stage)) (isMadeUp isLikeTwin : Bool)
    (value : Except Failure CommandValue) : Value :=
  let id := if isMadeUp then
      .ofMembers [("generated", .bool true),
        ("written_back", .bool (c.parameters.correlationId = some c.correlationId))]
    else .string c.correlationId
  .ofMembers [("correlation_id", id), ("public_api_id", .string c.apiId),
    ("kind", .string c.operation.label),
    ("controllers", .ofList .string (c.controllers.map (·.name))),
    ("cache_eligible", .bool c.isShareable), ("equals_twin", .bool isLikeTwin),
    ("debug", if isMadeUp then .null else .string (c.shown (·.name))),
    ("value", Failure.recordOr CommandValue.record value),
    ("classified", (classify value (if isMadeUp then "generated" else c.correlationId)).record)]

/-- The work of a command, built twice to be compared with itself. -/
def commandWork (cast : Cast) (isMadeUp : Bool)
    (built twin : Except CommandProblem (Command String)) (session : Option Session) :
    Work Stage Value :=
  match built, twin with
  | .ok c, .ok twin => do
    let played := c.withControllers cast.controller
    let value ← (played.execute (session.map Stage.stepSession)).run
    return recordCommand played isMadeUp (c.alike twin) value
  | .error problem, _ | _, .error problem => return problem.record

/-! ### Steps -/

/-- A step: its session, whether the script says something about that, and its work. -/
structure CallStep where
  session : Session
  isSessionTold : Bool
  work : Cast → Work Stage Value

/-- Reads a step. -/
def CallStep.decode : Decoder CallStep := fun v => do
  let told ← v.read? "session" decodeSession
  let session := told.getD (.standalone "corr-session" none)
  match ← v.read? "command" (fun spec => do
      let isMadeUp := ((spec.memberD "params").member? "correlation_id").isNone
      return (isMadeUp, ← decodeCommand freshId spec, ← decodeCommand otherFreshId spec)) with
  | some (isMadeUp, built, twin) =>
    let held := if ← v.flag "no_session" then none else some session
    return ⟨session, told.isSome, fun cast => commandWork cast isMadeUp built twin held⟩
  | none =>
    let owner ← v.get String "on"
    let call ← Call.decode v
    return ⟨session, told.isSome, fun cast => call.work cast owner session⟩

/-- The time that passes between two steps, in nanoseconds. -/
def pause : Nat := 1000

/-- Plays a step on the stage. It has no result if it waits for ever. -/
def CallStep.play (step : CallStep) (cast : Cast) (isByClock : Bool) (s : Stage) :
    Option (Except Payload Value) × Stage :=
  let s := { s with
    session := some step.session
    sent := []
    reports := []
    clock := s.clock.advance pause }
  let start := s.clock.now
  let (ending, s) := (step.work cast).alone Stage.theClock s
  let record (value : Value) : Value :=
    let told := .ofMembers [("result", value),
      ("sent", .ofList (fun (kind, r) => BrokerRequest.record kind r) s.sent),
      ("strategy_events", .ofList TransportReport.record s.reports),
      ("session_resolved", if step.isSessionTold then
          .ofOption (fun s => .bool s.isResolved) s.session else .null)]
    if isByClock then fromClock start told else told
  (ending.map fun e => e.map record, s)

end SignOn.Rehearsal
