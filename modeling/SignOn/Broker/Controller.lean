import SignOn.Broker.Executor
import SignOn.Broker.HelloCache
import SignOn.Broker.Reply
import SignOn.Command.Controller
import SignOn.Local.Strategy

/-! # The broker controller

Every operation is a call to an installed broker. Before a call, client and broker agree on a
protocol version over the same transport; the agreement is kept for a while, and so is a refusal.
With the person present the broker is asked what its own screen must be started with, and what comes
back from that screen is read as an answer of the broker. -/

namespace SignOn

open Json

/-- The installed broker: its package and the version of its build. -/
structure BrokerIdentity where
  package : PackageName
  appVersion : String
  deriving DecidableEq

/-- The highest protocol version there is. -/
def latestProtocol : String := "14.0"

/-- The parts of a broker controller, and the highest protocol version it speaks. -/
structure BrokerController (σ : Type) where
  broker : BrokerIdentity
  executor : Executor σ
  hellos : Place σ HelloCache
  screen : Screen σ
  clock : σ → Clock
  maxVersion : String := latestProtocol

namespace BrokerController

variable {σ : Type}

/-- The name under which the highest version on offer is sent. -/
def maxVersionKey : String := "client_advertised_maximum_version"

/-- The name under which the lowest version on offer is sent. -/
def minVersionKey : String := "client_advertised_minimum_version"

/-- The name under which the agreed version is sent. -/
def versionKey : String := "negotiated_broker_protocol_version"

/-- A failure to agree on a version. -/
def noVersion (message : String) : AttemptFailure :=
  .fatal (.plain Code.unsupportedBrokerVersion message)

/-! ### Agreeing on a version -/

/-- The handshake that the parameters need. -/
def helloKey (c : BrokerController σ) (p : Parameters) : HelloKey :=
  ⟨p.requiredProtocol, c.maxVersion, c.broker.package, c.broker.appVersion⟩

/-- The request of a handshake. -/
def helloRequest (c : BrokerController σ) (key : HelloKey) : BrokerRequest :=
  let payload := Bundle.empty.insert maxVersionKey (.string key.maxVersion)
  let payload :=
    match key.minVersion with
    | none => payload
    | some min => payload.insert minVersionKey (.string min)
  ⟨.hello, c.broker.package, payload⟩

/-- How the answer to a handshake ends it: with the version it names, or with a refusal. -/
def helloOutcome (answer : Bundle) : HelloOutcome :=
  match answer.string? versionKey with
  | some version => .negotiated version
  | none => .refused

/-- The version that was agreed on, or the failure of a refusal. -/
def versionOf (refusal : String) : HelloOutcome → Except AttemptFailure String
  | .negotiated version => .ok version
  | .refused => .error (noVersion refusal)

/-- The refusal of an answer that names no version. -/
def refusalOf (answer : Bundle) : String :=
  (answer.string? errorKeys.message).getD
    "Broker does not support the requested protocol range."

/-- Looks a handshake up. -/
def knownHello (c : BrokerController σ) (key : HelloKey) :
    StateM σ (Option HelloOutcome) := fun s =>
  let (outcome, cache) := (c.hellos.get s).get key (c.clock s).now
  (outcome, c.hellos.set cache s)

/-- Keeps the outcome of a handshake. -/
def keepHello (c : BrokerController σ) (key : HelloKey) (outcome : HelloOutcome) : StateM σ Unit :=
  fun s => ((), c.hellos.modify (fun cache => cache.save key outcome (c.clock s).now) s)

/-- Agrees on a version over a transport, or remembers what was agreed on. -/
def hello (c : BrokerController σ) (t : Transport σ) (p : Parameters) :
    StateM σ (Except AttemptFailure String) := do
  let key := c.helloKey p
  match ← c.knownHello key with
  | some outcome => return versionOf "A previous handshake with this broker failed." outcome
  | none =>
    match ← t.send (c.helloRequest key) with
    | .error f => return .error (.unreachable f)
    | .ok answer =>
      c.keepHello key (helloOutcome answer)
      return versionOf (refusalOf answer) (helloOutcome answer)

/-! ### Calls -/

/-- What a call sends: the parameters and the version agreed on. -/
def payload (p : Parameters) (version : String) : Except Failure Bundle :=
  match Bundle.ofPayload (.ok (Wire.encode p)) with
  | .ok bundle => .ok (bundle.insert versionKey (.string version))
  | .error f => .error (.client f)

/-- A call with its version agreed on first. An answer that reports an error is that error. -/
def call {α : Type} (c : BrokerController σ) (p : Parameters) (api : BrokerApi)
    (read : Bundle → Except Failure α) : BrokerCall σ String α where
  method := api.label
  prepare t := c.hello t p
  build version := do
    let payload ← Action.ofExcept (payload p version)
    return ⟨api, c.broker.package, payload⟩
  read answer := Action.ofExcept do
    answer.checkError
    read answer

/-- Makes a call. -/
def ask {α : Type} (c : BrokerController σ) (p : Parameters) (api : BrokerApi)
    (read : Bundle → Except Failure α) : Action σ α :=
  c.executor.execute (c.call p api read)

/-! ### With the person -/

/-- The failure of a screen that ended in no way that is known. -/
def unexplained (resultCode : Int) : Failure :=
  .plain Code.unknownError ("Broker finished with result code " ++ toString resultCode
    ++ " and no error payload.")

/-- What a continuation of the broker's screen means. -/
def continuationResult (k : Continuation) : Except Failure Acquisition :=
  if k.resultCode = Continuation.brokerSucceeded then k.data.tokenReply
  else if k.resultCode = Continuation.cancelled then
    .ok (.ofAuthorization (.failure .userCancel none))
  else if k.resultCode = Continuation.replaced then .ok (.ofAuthorization .replaced)
  else do
    k.data.checkError
    .error (unexplained k.resultCode)

/-- What the end of a session means. -/
def signalResult : Signal → Except Failure Acquisition
  | .completed continuation => continuationResult continuation
  | .cancelled => .ok (.ofAuthorization .replaced)

/-- A token that the person agrees to on the broker's screen. -/
def acquireInteractive (c : BrokerController σ) (p : Parameters) (session : SessionHandle σ) :
    Flow σ Acquisition := do
  let payload ← Flow.act (c.ask p .interactiveLaunch Bundle.launchReply)
  Flow.act (c.screen.present (.broker Continuation.brokerFlow payload))
  let signal ← session.wait
  ExceptT.mk (pure (signalResult signal))

/-- The broker controller as one of the controllers of a command. -/
def controller (c : BrokerController σ) : Controller σ where
  name := "broker"
  acquireInteractive := c.acquireInteractive
  acquireSilent p := Flow.act (c.ask p .acquireTokenSilent Bundle.tokenReply)
  accounts p := Flow.act (c.ask p .getAccounts Bundle.accountsReply)
  removeAccount p := Flow.act (c.ask p .removeAccount Bundle.removedReply)
  deviceMode p := Flow.act (c.ask p .getDeviceMode Bundle.deviceModeReply)
  currentAccount p := Flow.act (c.ask p .getCurrentAccount Bundle.accountsReply)
  removeCurrentAccount p := Flow.act (c.ask p .signOutCurrentAccount Bundle.removedReply)

end BrokerController

end SignOn
