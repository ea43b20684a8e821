import SignOn.Broker.ActiveBroker
import SignOn.Telemetry.Event
import SignOn.Work.Basic

/-! # Calls over several transports

One call to a broker is tried over one transport after another. Only a transport that cannot reach
the broker lets the next one try; what the broker says, and what goes wrong before it is asked, is
final. Each attempt is reported, and an answer may tell which package serves the device. -/

namespace SignOn

/-- What a broker is asked, and which package it is. -/
structure BrokerRequest where
  api : BrokerApi
  package : PackageName
  payload : Bundle
  deriving DecidableEq

/-- A way to a broker. -/
structure Transport (σ : Type) where
  kind : TransportKind
  send : BrokerRequest → StateM σ (Except TransportFailure Bundle)
  reaches : PackageName → Bool := fun _ => true

/-- The transports that reach a package, in their order. -/
def Transport.reaching {σ : Type} (transports : List (Transport σ)) (package : PackageName) :
    List (Transport σ) :=
  transports.filter fun t => t.reaches package

/-- Why an attempt over one transport came to nothing. -/
inductive AttemptFailure where
  | unreachable (f : TransportFailure)
  | fatal (f : Failure)
  deriving DecidableEq

/-- The steps of one attempt. -/
inductive AttemptStage where
  | prepare
  | build
  | send
  | read
  deriving DecidableEq, Repr, Inhabited

/-- The label of a step. -/
def AttemptStage.label : AttemptStage → String
  | .prepare => "prerequisites"
  | .build => "bundle_build"
  | .send => "ipc_call"
  | .read => "extract"

/-- One call as the steps of an attempt: what must be settled with a transport first, the request
that follows from it, and what the answer means. -/
structure BrokerCall (σ π α : Type) where
  method : String
  prepare : Transport σ → StateM σ (Except AttemptFailure π)
  build : π → Action σ BrokerRequest
  read : Bundle → Action σ α

/-- Where calls are made from: the transports in order, where the active broker is kept, and who is
told about attempts. -/
structure Executor (σ : Type) where
  transports : List (Transport σ)
  active : Place σ ActiveBroker
  report : TransportReport → StateM σ Unit

namespace Executor

variable {σ π α : Type}

/-- The failure of a call for which there is no transport. -/
def noTransport (method : String) : Failure :=
  .plain Code.brokerBindServiceFailed
    ("No IPC strategy is configured for " ++ method ++ ".")

/-- The failure of a call that no transport could make. -/
def allUnreachable (method : String) (failures : List TransportFailure) : Failure :=
  .client { ClientFailure.plain Code.brokerBindServiceFailed
    ("Unable to reach the broker for " ++ method ++ " through any IPC strategy.") with
    suppressed := failures }

/-- Keeps the package that an answer tells. -/
def learn (e : Executor σ) (answer : Bundle) : StateM σ Unit := fun s =>
  ((), e.active.set (ActiveBroker.update (e.active.get s) answer).2 s)

/-- Sends the request of a call and reads the answer. -/
def exchange (e : Executor σ) (t : Transport σ) (call : BrokerCall σ π α)
    (request : BrokerRequest) : StateM σ (Except AttemptFailure α) := do
  match ← t.send request with
  | .error f => return .error (.unreachable f)
  | .ok answer =>
    e.learn answer
    match ← (call.read answer).run with
    | .error f => return .error (.fatal f)
    | .ok a => return .ok a

/-- One attempt over a transport. -/
def attempt (e : Executor σ) (call : BrokerCall σ π α) (t : Transport σ) :
    StateM σ (Except AttemptFailure α) := do
  match ← call.prepare t with
  | .error f => return .error f
  | .ok prepared =>
    match ← (call.build prepared).run with
    | .error f => return .error (.fatal f)
    | .ok request => e.exchange t call request

/-- How an attempt went. -/
def outcomeOf : Except AttemptFailure α → TransportOutcome
  | .ok _ => .success
  | .error (.unreachable _) => .unreachable
  | .error (.fatal _) => .fatal

/-- Tries the transports in order; `failures` are those of the transports tried before. -/
def tryTransports (e : Executor σ) (call : BrokerCall σ π α) :
    List (Transport σ) → List TransportFailure → Action σ α
  | [], failures => throw (allUnreachable call.method failures)
  | t :: rest, failures => ExceptT.mk do
    let result ← e.attempt call t
    e.report ⟨call.method, t.kind, outcomeOf result⟩
    match result with
    | .ok a => return .ok a
    | .error (.fatal f) => return .error f
    | .error (.unreachable f) => (tryTransports e call rest (failures ++ [f])).run

/-- Makes a call. -/
def execute (e : Executor σ) (call : BrokerCall σ π α) : Action σ α :=
  if e.transports.isEmpty then throw (noTransport call.method)
  else e.tryTransports call e.transports []

end Executor

end SignOn
