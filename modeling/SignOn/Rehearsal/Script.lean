import SignOn.Broker.Controller
import SignOn.Local.Controller

/-! # Scripts

A rehearsal plays commands against collaborators that answer from a script, so that every way things
can go is played the same way each time. A script says what each controller is and what its parts
will answer, in order. -/

namespace SignOn.Rehearsal

/-- What a scripted transport does when it is called. -/
inductive TransportReply where
  | answer (answer : Bundle)
  | fail (category : ReachFailure) (message : String) (source : Option String)
  deriving DecidableEq, Inhabited

/-- The reply of a transport that does not reach anybody. -/
def TransportReply.unreachable : TransportReply :=
  .fail .connection "Scripted transport is unreachable." none

/-- A scripted transport: its replies in order, and the packages it reaches if not all. -/
structure TransportScript where
  kind : TransportKind
  replies : List TransportReply
  supports : Option (List String)

/-- What the person does when something is shown. -/
inductive ScreenScript where
  | ignore
  | respond (continuation : Continuation)
  | cancel
  | fail (failure : Failure)
  deriving DecidableEq, Inhabited

/-- What a scripted controller does when it is called. -/
inductive Reply where
  | token (a : Acquisition)
  | accounts (accounts : List Account)
  | flag (flag : Bool)
  | fail (failure : Failure)
  | breakOff
  deriving DecidableEq

/-- A scripted controller: its replies in order, the last one again and again, and the gate that
each call waits for. -/
structure ScriptedRole where
  replies : List Reply
  gate : Option String

/-- A broker controller: the broker, its transports, the highest version it offers, the cache of
handshakes by name and how long that keeps them, and the person. -/
structure BrokerRole where
  identity : BrokerIdentity
  transports : List TransportScript
  maxVersion : Option String
  helloCache : Option String
  helloTtl : Option Duration
  screen : ScreenScript

/-- How saving fails. -/
inductive SaveFault where
  | fail (failure : StoreFailure)
  | answersNothing
  | dropsAccessToken
  deriving DecidableEq

/-- Which operations of a store fail. -/
structure StoreFaults where
  load : Option StoreFailure := none
  save : Option SaveFault := none
  removeAccount : Option StoreFailure := none
  removeCredential : Option StoreFailure := none
  accounts : Option StoreFailure := none

/-- A local controller: the answers of the server in order, whether stored tokens are turned down,
what is stored at first, and what fails. -/
structure LocalRole where
  tokens : List TokenResult
  rejectCached : Bool
  pageFailure : Option Failure
  seed : List (ClientId × Credentials)
  faults : StoreFaults
  expiryBuffer : Option Duration
  screen : ScreenScript

/-- What a controller of a rehearsal is. -/
inductive Role where
  | scripted (role : ScriptedRole)
  | broker (role : BrokerRole)
  | localApp (role : LocalRole)

/-- The controllers of a rehearsal by name. -/
abbrev Cast := List (String × Role)

end SignOn.Rehearsal
