import SignOn.Rehearsal.Stage

/-! # The cast of a rehearsal

The collaborators that follow a script: transports, the person at the screen, the server, the store
and whole controllers. Each notes what it was asked before it answers. -/

namespace SignOn.Rehearsal

open Stage

/-! ### Transports -/

/-- What a scripted transport answers. -/
def TransportReply.result (kind : TransportKind) : TransportReply → Except TransportFailure Bundle
  | .answer bundle => .ok bundle
  | .fail category message source => .error ⟨category, kind, message, source⟩

/-- The next reply of a transport, by the controller it belongs to and its number there; a script
that has come to its end reaches nobody. -/
def nextLine (owner : String) (number : Nat) : StateM Stage TransportReply := fun s =>
  let p := (propsOf owner).get s
  let lines (rest : List TransportReply) : Nat → List TransportReply :=
    fun n => if n = number then rest else p.lines n
  match p.lines number with
  | [] => (.unreachable, s)
  | reply :: rest => (reply, (propsOf owner).set { p with lines := lines rest } s)

/-- A scripted transport. -/
def TransportScript.transport (script : TransportScript) (owner : String) (number : Nat) :
    Transport Stage where
  kind := script.kind
  send request := do
    modify fun s => { s with sent := s.sent ++ [(script.kind, request)] }
    return (← nextLine owner number).result script.kind
  reaches package := script.supports.all fun names => names.contains package.text

/-- The transports of a controller, each with its number. -/
def transportsOf (owner : String) (scripts : List TransportScript) : List (Transport Stage) :=
  scripts.zipIdx.map fun (script, number) => script.transport owner number

/-- Who is told about attempts: they are noted and counted, or counted only. -/
def reporter (isNoted : Bool) (r : TransportReport) : StateM Stage Unit := do
  countReport r
  if isNoted then noteReport r

/-! ### The person -/

/-- Notes what is shown. -/
def noteLaunch (owner : String) (launch : Launch) : StateM Stage Unit := fun s =>
  ((), (propsOf owner).modify (fun p => { p with launches := p.launches ++ [launch] }) s)

/-- What the person does. -/
def ScreenScript.react : ScreenScript → Action Stage Unit
  | .ignore => return ()
  | .respond continuation => do
    let _ ← resolveCurrent (.completed continuation)
  | .cancel => do
    let _ ← resolveCurrent .cancelled
  | .fail failure => throw failure

/-- A scripted screen: what is shown is noted, unless showing it fails. -/
def ScreenScript.screen (script : ScreenScript) (owner : String) : Screen Stage where
  present launch := do
    script.react
    noteLaunch owner launch

/-! ### The local path -/

/-- The state that a scripted strategy sends with every page. -/
def pageState : String := "state-1"

/-- The verifier of every page. -/
def pageVerifier : Secret := ⟨"verifier-1"⟩

/-- The page of an authority on which the person agrees. -/
def pageOf (p : Parameters) : AuthorizationRequest where
  url := (p.authority.url.sibling ["oauth2", "v2.0", "authorize"]).withForm
    [("client_id", p.clientId.text), ("state", pageState)]
  state := pageState
  codeVerifier := some pageVerifier

/-- The next answer of the server. -/
def nextToken (owner : String) (request : TokenRequest) : Action Stage TokenResult := fun s =>
  let p := (propsOf owner).get s
  let p := { p with requests := p.requests ++ [request] }
  match p.tokens with
  | [] => (.error (.plain Code.unknownError "Token script is empty."), (propsOf owner).set p s)
  | result :: rest => (.ok result, (propsOf owner).set { p with tokens := rest } s)

/-- A scripted strategy. -/
def LocalRole.strategy (role : LocalRole) (owner : String) : Strategy Stage where
  requestPage p :=
    match role.pageFailure with
    | some failure => throw failure
    | none => return pageOf p
  requestToken := nextToken owner
  accepts _ _ := pure !role.rejectCached

/-- An operation of a store that may be made to fail. -/
def failing {α : Type} (fault : Option StoreFailure)
    (operation : StateM Stage (Except StoreFailure α)) : StateM Stage (Except StoreFailure α) :=
  match fault with
  | some failure => pure (.error failure)
  | none => operation

/-- A token store of which some operations fail. -/
def LocalRole.vault (role : LocalRole) (owner : String) : Vault Stage :=
  let v := Vault.ofStore (storeOf owner)
  { load clientId account := failing role.faults.load (v.load clientId account)
    save clientId record :=
      match role.faults.save with
      | none => v.save clientId record
      | some (.fail failure) => pure (.error failure)
      | some .answersNothing => do
        let _ ← v.save clientId record
        return .ok []
      | some .dropsAccessToken => do
        let saved ← v.save clientId record
        return saved.map fun records => records.map fun r => r.drop .accessToken
    removeAccount key := failing role.faults.removeAccount (v.removeAccount key)
    removeCredential key kind :=
      failing role.faults.removeCredential (v.removeCredential key kind)
    accounts clientId := failing role.faults.accounts (v.accounts clientId) }

/-- A local controller with scripted parts. -/
def LocalRole.play (role : LocalRole) (owner : String) : LocalController Stage where
  strategy := role.strategy owner
  vault := role.vault owner
  screen := role.screen.screen owner
  clock := Stage.clock
  expiryBuffer := role.expiryBuffer.getD defaultExpiryBuffer

/-! ### The broker -/

/-- The cache of handshakes that a broker controller looks into: one that others share, or its
own. -/
def BrokerRole.helloName (role : BrokerRole) (owner : String) : String :=
  match role.helloCache with
  | some name => "shared " ++ name
  | none => "own " ++ owner

/-- A broker controller with scripted parts. -/
def BrokerRole.play (role : BrokerRole) (owner : String) (isNoted : Bool) :
    BrokerController Stage where
  broker := role.identity
  executor :=
    { transports := Transport.reaching (transportsOf owner role.transports) role.identity.package
      active := activeOf owner
      report := reporter isNoted }
  hellos := helloOf (role.helloName owner)
  screen := role.screen.screen owner
  clock := Stage.clock
  maxVersion := role.maxVersion.getD latestProtocol

/-! ### Scripted controllers -/

/-- The next reply of a scripted controller; the last one stays. -/
def nextReply (owner : String) : StateM Stage (Option Reply) := fun s =>
  let p := (propsOf owner).get s
  match p.replies with
  | first :: second :: rest =>
    (some first, (propsOf owner).set { p with replies := second :: rest } s)
  | [last] => (some last, s)
  | [] => (none, s)

/-- Notes a call. -/
def countCall (owner : String) : StateM Stage Unit := fun s =>
  ((), (propsOf owner).modify (fun p => { p with calls := p.calls + 1 }) s)

/-- Waits for a gate to be open. -/
def passGate (gate : String) : Work Stage Unit :=
  .wait none (fun s => s.gates.contains gate) fun _ _ => .ended ()

/-- Answers a call with the next reply, if `pick` finds in it what the call is for. -/
def ScriptedRole.answer {α : Type} (role : ScriptedRole) (owner : String)
    (pick : Reply → Option α) : Flow Stage α := do
  ExceptT.lift (Work.act (countCall owner))
  if let some gate := role.gate then ExceptT.lift (passGate gate)
  match ← ExceptT.lift (Work.act (nextReply owner)) with
  | none => throw (.plain Code.unknownError "Controller script is empty.")
  | some (.fail failure) => throw failure
  | some .breakOff => Flow.broken ("Scripted controller " ++ owner ++ " panicked.")
  | some reply =>
    match pick reply with
    | some a => return a
    | none => throw (.plain Code.unsupportedOperation "Scripted reply does not fit the call.")

/-- The token of a reply. -/
def Reply.token? : Reply → Option Acquisition
  | .token a => some a
  | _ => none

/-- The accounts of a reply. -/
def Reply.accounts? : Reply → Option (List Account)
  | .accounts list => some list
  | _ => none

/-- The flag of a reply. -/
def Reply.flag? : Reply → Option Bool
  | .flag b => some b
  | _ => none

/-- An interactive call: it waits in the session, and only a continuation that is no cancellation
has the next reply. -/
def ScriptedRole.acquireInteractive (role : ScriptedRole) (owner : String)
    (session : SessionHandle Stage) : Flow Stage Acquisition := do
  ExceptT.lift (Work.act (log ("start:" ++ session.correlationId)))
  let signal ← ExceptT.lift session.wait.run
  ExceptT.lift (Work.act (log ("end:" ++ session.correlationId)))
  match ← ExceptT.mk (pure signal) with
  | .cancelled => return .ofAuthorization .replaced
  | .completed k =>
    if k.resultCode = Continuation.cancelled then
      return .ofAuthorization (.failure .userCancel none)
    else role.answer owner Reply.token?

/-- A scripted controller. -/
def ScriptedRole.controller (role : ScriptedRole) (owner : String) : Controller Stage where
  name := owner
  acquireInteractive _ session := role.acquireInteractive owner session
  acquireSilent _ := role.answer owner Reply.token?
  accounts _ := role.answer owner Reply.accounts?
  removeAccount _ := role.answer owner Reply.flag?
  deviceMode _ := role.answer owner Reply.flag?

/-- The controller that plays a role. -/
def Role.controller (role : Role) (owner : String) (isNoted : Bool) : Controller Stage :=
  match role with
  | .scripted role => role.controller owner
  | .broker role => (role.play owner isNoted).controller
  | .localApp role => (role.play owner).controller

/-- The controller of a name; a name that nobody has is that of a controller without a script. -/
def Cast.controller (cast : Cast) (name : String) : Controller Stage :=
  ((cast.lookup name).getD (.scripted ⟨[], none⟩)).controller name true

/-! ### Setting the stage -/

/-- Puts on the stage what the role of a controller says. -/
def Role.prepare (role : Role) (owner : String) (s : Stage) : Stage :=
  let change (f : Props → Props) : Stage := (propsOf owner).modify f s
  match role with
  | .scripted role => change fun p => { p with replies := role.replies }
  | .broker role => change fun p =>
      { p with lines := fun n => ((role.transports[n]?).map (·.replies)).getD [] }
  | .localApp role => change fun p => { p with
      tokens := role.tokens
      store :=
        role.seed.foldl (fun store (clientId, record) => store.save clientId record) p.store }

/-- The caches of handshakes that are made, each by its first user. -/
def Cast.helloCaches (cast : Cast) : List (String × HelloCache) :=
  cast.reverse.filterMap fun (owner, role) =>
    match role with
    | .broker role =>
      some (role.helloName owner,
        .new HelloCache.protocolName (role.helloTtl.getD HelloCache.defaultTtl))
    | _ => none

/-- Sets the stage for a cast. -/
def Cast.prepare (cast : Cast) (s : Stage) : Stage :=
  let s := cast.foldl (fun s (owner, role) => role.prepare owner s) s
  cast.helloCaches.foldl (fun s (name, cache) => (helloOf name).set cache s) s

end SignOn.Rehearsal
