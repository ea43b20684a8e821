import SignOn.Dispatch.Run
import SignOn.Rehearsal.Script

/-! # The stage of a rehearsal

Everything that scripted collaborators act on: the clock, the dispatcher, the session of a step,
what each controller still has to answer and has seen, and what was noted about all of them. -/

namespace SignOn.Rehearsal

/-- What a controller of a rehearsal still has to answer, and what it has seen. -/
structure Props where
  replies : List Reply := []
  calls : Nat := 0
  lines : Nat → List TransportReply := fun _ => []
  active : ActiveBroker := none
  launches : List Launch := []
  tokens : List TokenResult := []
  requests : List TokenRequest := []
  store : TokenStore := .empty

instance : Inhabited Props := ⟨{}⟩

/-- The stage. -/
structure Stage where
  clock : Clock
  dispatcher : Dispatcher String
  session : Option Session
  props : String → Props
  hellos : String → HelloCache
  gates : List String
  interactiveLog : List String
  sent : List (TransportKind × BrokerRequest)
  reports : List TransportReport
  counters : Counters
  retries : List (Nat × List (Command String))
  guards : List (String × Nat)

namespace Stage

/-- The moment at which every rehearsal begins. -/
def opening : Moment := ⟨63902822400000000000, 0, by decide⟩

/-- A stage on which nothing has happened, around a dispatcher. -/
def ofDispatcher (d : Dispatcher String) : Stage where
  clock := ⟨opening, 3600000000000⟩
  dispatcher := d
  session := none
  props := fun _ => {}
  hellos := fun _ => .standard
  gates := []
  interactiveLog := []
  sent := []
  reports := []
  counters := []
  retries := []
  guards := []

instance : Inhabited Stage := ⟨ofDispatcher default⟩

/-! ### Places -/

/-- The value that a function has for one name. -/
def entry {α : Type} (name : String) : Place (String → α) α where
  get f := f name
  set a f := fun n => if n = name then a else f n
  get_set _ _ := by simp
  set_get f := by funext n; by_cases h : n = name <;> simp [h]
  set_set a b f := by funext n; by_cases h : n = name <;> simp [h]

/-- The dispatcher. -/
def theDispatcher : Place Stage (Dispatcher String) :=
  { get := Stage.dispatcher, set := fun d s => { s with dispatcher := d } }

/-- The clock. -/
def theClock : Place Stage Clock :=
  { get := Stage.clock, set := fun c s => { s with clock := c } }

/-- What a controller has. -/
def propsOf (name : String) : Place Stage Props :=
  Place.inside { get := Stage.props, set := fun p s => { s with props := p } } (entry name)

/-- A cache of handshakes. -/
def helloOf (name : String) : Place Stage HelloCache :=
  Place.inside { get := Stage.hellos, set := fun h s => { s with hellos := h } } (entry name)

/-- The package that a broker controller was told. -/
def activeOf (name : String) : Place Stage ActiveBroker :=
  (propsOf name).inside { get := Props.active, set := fun a p => { p with active := a } }

/-- The store of a local controller. -/
def storeOf (name : String) : Place Stage TokenStore :=
  (propsOf name).inside { get := Props.store, set := fun t p => { p with store := t } }

/-! ### Sessions -/

/-- A session of the dispatcher's registry, as a controller holds it. -/
def dispatcherSession (correlationId : String) (id : Nat) (timeout : Option Duration) :
    SessionHandle Stage where
  correlationId
  timeout
  signal s := (s.dispatcher.registry.session? id).bind (·.signal)
  resolve signal := fun s =>
    let (taken, registry) := s.dispatcher.registry.resolve id signal
    (taken, { s with dispatcher := { s.dispatcher with registry } })
  clock := Stage.clock

/-- Resolves the session of the step, and tells whether that was the first time. -/
def resolveStepSession (signal : Signal) : StateM Stage Bool := fun s =>
  match s.session with
  | none => (false, s)
  | some session =>
    let (taken, session) := session.resolve signal
    (taken, { s with session := some session })

/-- The session of a step, as a controller holds it. -/
def stepSession (session : Session) : SessionHandle Stage where
  correlationId := session.correlationId
  timeout := session.timeout
  signal s := s.session.bind (·.signal)
  resolve := resolveStepSession
  clock := Stage.clock

/-- Resolves the session that the person is in: that of the step, or else the one in the slot. -/
def resolveCurrent (signal : Signal) : StateM Stage Bool := fun s =>
  match s.session with
  | some _ => resolveStepSession signal s
  | none =>
    match s.dispatcher.registry.active with
    | none => (false, s)
    | some id =>
      let (taken, registry) := s.dispatcher.registry.resolve id signal
      (taken, { s with dispatcher := { s.dispatcher with registry } })

/-! ### Notes -/

/-- Notes an attempt over a transport. -/
def noteReport (r : TransportReport) : StateM Stage Unit := fun s =>
  ((), { s with reports := s.reports ++ [r] })

/-- Counts an attempt over a transport. -/
def countReport (r : TransportReport) : StateM Stage Unit := fun s =>
  ((), { s with counters := s.counters.count (.transport r.transport r.outcome) })

/-- Notes a line about an interactive call. -/
def log (line : String) : StateM Stage Unit := fun s =>
  ((), { s with interactiveLog := s.interactiveLog ++ [line] })

end Stage

end SignOn.Rehearsal
