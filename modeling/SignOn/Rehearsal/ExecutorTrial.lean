import SignOn.Broker.Reply
import SignOn.Rehearsal.Cast

/-! # Trying out an executor

Calls whose steps follow a script: what must be settled before each attempt goes well, does not
reach the broker, or fails; the request may fail to be built; and the answer is a text under a
name. -/

namespace SignOn.Rehearsal

open Stage

/-- How it goes what must be settled before an attempt. -/
inductive Readiness where
  | ready
  | unreachable (category : ReachFailure) (message : String) (source : Option String)
  | fatal (failure : Failure)

/-- A call of the trial. -/
structure ScriptedCall where
  api : BrokerApi
  package : PackageName
  payload : Bundle
  method : String
  key : String
  buildFailure : Option Failure

/-- The stage, what is still to be settled, and the transports that were made ready. -/
structure ExecutorTrial where
  stage : Stage
  readiness : List Readiness
  prepared : List TransportKind

namespace ExecutorTrial

/-- The stage. -/
def theStage : Place ExecutorTrial Stage :=
  { get := ExecutorTrial.stage, set := fun s t => { t with stage := s } }

/-- The name under which the transports of the trial are kept. -/
def owner : String := "executor"

/-- Settles what comes before an attempt; where nothing is said it goes well. -/
def prepare (kind : TransportKind) : StateM ExecutorTrial (Except AttemptFailure Unit) := fun t =>
  let t := { t with prepared := t.prepared ++ [kind] }
  match t.readiness with
  | [] => (.ok (), t)
  | .ready :: rest => (.ok (), { t with readiness := rest })
  | .unreachable category message source :: rest =>
    (.error (.unreachable ⟨category, kind, message, source⟩), { t with readiness := rest })
  | .fatal failure :: rest => (.error (.fatal failure), { t with readiness := rest })

/-- Reads the text of an answer. -/
def readText (key : String) (answer : Bundle) : Except Failure String := do
  answer.checkError
  match answer.string? key with
  | some text => return text
  | none => throw (.plain "broker_error" "Broker reported an error.")

/-- The call with its scripted steps. -/
def callOf (c : ScriptedCall) : BrokerCall ExecutorTrial Unit String where
  method := c.method
  prepare t := prepare t.kind
  build _ :=
    match c.buildFailure with
    | some failure => throw failure
    | none => return ⟨c.api, c.package, c.payload⟩
  read answer := Action.ofExcept (readText c.key answer)

/-- A transport of the stage as one of the trial. -/
def liftTransport (t : Transport Stage) : Transport ExecutorTrial where
  kind := t.kind
  send request := theStage.lift (t.send request)
  reaches := t.reaches

/-- The transports that a trial uses: all, or those that reach a package. -/
def transports (scripts : List TransportScript) (supportedBy : Option PackageName) :
    List (Transport ExecutorTrial) :=
  let all := (transportsOf owner scripts).map liftTransport
  match supportedBy with
  | none => all
  | some package => Transport.reaching all package

/-- The executor of a trial; it may note its attempts or only count them. -/
def executor (scripts : List TransportScript) (supportedBy : Option PackageName)
    (isNoted : Bool) : Executor ExecutorTrial where
  transports := transports scripts supportedBy
  active := theStage.inside (activeOf owner)
  report r := theStage.lift (reporter isNoted r)

/-- A trial in which nothing has happened. -/
def new (scripts : List TransportScript) : ExecutorTrial where
  stage := (propsOf owner).modify
    (fun p => { p with lines := fun n => ((scripts[n]?).map (·.replies)).getD [] }) default
  readiness := []
  prepared := []

/-- The trial before a call: nothing is made ready yet, and what was noted of earlier calls is
gone. -/
def beginCall (t : ExecutorTrial) (readiness : List Readiness) : ExecutorTrial :=
  { stage := { t.stage with sent := [], reports := [] }, readiness, prepared := [] }

end ExecutorTrial

end SignOn.Rehearsal
