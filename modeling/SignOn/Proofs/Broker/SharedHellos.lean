import SignOn.Proofs.Broker.HandshakeGate
import SignOn.Proofs.Identity.Key

/-! # Broker controllers that share handshakes

Every scripted broker controller shares the setting around the cache of handshakes that it looks
into (`play_shares`), whatever its script says. So the gate of the handshake stands in every
rehearsal; in a small one a refusal that one controller was told keeps another one from asking. -/

namespace SignOn.Rehearsal

open Stage

/-- The stage around one of its caches of handshakes. -/
def settingOf (name : String) : Setting Stage where
  hellos := helloOf name
  clock := Stage.clock
  sent := Stage.sent
  clock_set _ _ := rfl
  sent_set _ _ := rfl

variable {name : String} {s s' : Stage}

theorem passes_of_eq (hellos : s'.hellos = s.hellos) (sent : s'.sent = s.sent)
    (clock : s'.clock = s.clock) :
    (settingOf name).Passes s s' where
  hellos := congrFun hellos name
  sent := by
    change s'.sent = s.sent ++ []
    rw [sent, List.append_nil]
  clock := by
    change s.clock.now.instant ≤ s'.clock.now.instant
    exact Int.le_of_eq (by rw [clock])

/-! ### What scripts change -/

theorem nextLine_props (owner : String) (number : Nat) (s : Stage) :
    ∃ props, (nextLine owner number s).2 = { s with props } := by
  unfold nextLine
  dsimp only
  split
  · exact ⟨s.props, rfl⟩
  · exact ⟨_, rfl⟩

theorem adds_send (script : TransportScript) (owner : String) (number : Nat)
    (request : BrokerRequest) (s : Stage) :
    (settingOf name).Adds [(script.kind, request)] s
      ((script.transport owner number).send request s).2 := by
  obtain ⟨props, hline⟩ :=
    nextLine_props owner number { s with sent := s.sent ++ [(script.kind, request)] }
  have hsend : ((script.transport owner number).send request s).2 =
      (nextLine owner number { s with sent := s.sent ++ [(script.kind, request)] }).2 := rfl
  rw [hsend, hline]
  exact ⟨rfl, rfl, Int.le_refl _⟩

theorem passes_report (isNoted : Bool) (r : TransportReport) (s : Stage) :
    (settingOf name).Passes s (reporter isNoted r s).2 := by
  cases isNoted <;> exact passes_of_eq rfl rfl rfl

theorem passes_resolveStepSession (signal : Signal) (s : Stage) :
    (settingOf name).Passes s (resolveStepSession signal s).2 := by
  unfold resolveStepSession
  cases s.session with
  | none => exact .refl _ s
  | some session => exact passes_of_eq rfl rfl rfl

theorem passes_resolveCurrent (signal : Signal) (s : Stage) :
    (settingOf name).Passes s (resolveCurrent signal s).2 := by
  unfold resolveCurrent
  cases s.session with
  | some _ => exact passes_resolveStepSession signal s
  | none =>
    dsimp only
    cases s.dispatcher.registry.active with
    | none => exact .refl _ s
    | some id => exact passes_of_eq rfl rfl rfl

theorem passes_present (script : ScreenScript) (owner : String) (launch : Launch) (s : Stage) :
    (settingOf name).Passes s (((script.screen owner).present launch).run s).2 := by
  cases script with
  | ignore => exact passes_of_eq rfl rfl rfl
  | respond continuation =>
    exact (passes_resolveCurrent (.completed continuation) s).trans (passes_of_eq rfl rfl rfl)
  | cancel => exact (passes_resolveCurrent .cancelled s).trans (passes_of_eq rfl rfl rfl)
  | fail failure => exact .refl _ s

/-- **A scripted broker controller shares the setting** around the cache that it looks into. -/
theorem play_shares (role : BrokerRole) (owner : String) (isNoted : Bool) :
    (settingOf (role.helloName owner)).Shares (role.play owner isNoted) where
  hellos := rfl
  clock := rfl
  send := by
    intro t ht request s
    have hmem : t ∈ transportsOf owner role.transports := (List.mem_filter.mp ht).1
    obtain ⟨⟨script, number⟩, -, rfl⟩ := List.mem_map.mp hmem
    exact adds_send script owner number request s
  report := passes_report isNoted
  active _ _ := passes_of_eq rfl rfl rfl
  present := passes_present role.screen owner

theorem hosts_stepSession (session : Session) : (settingOf name).Hosts (stepSession session) :=
  passes_resolveStepSession

/-! ### Two controllers of one device -/

namespace OneDevice

/-- A role in front of the one broker of the device; its handshakes are shared. -/
def role (transports : List TransportScript) : BrokerRole where
  identity := ⟨HelloCache.hub, "1.2.3"⟩
  transports
  maxVersion := none
  helloCache := some "device"
  helloTtl := none
  screen := .ignore

/-- The first application does not reach the broker over its first transport, and over the second
one the broker names no version. -/
def first : BrokerRole :=
  role [⟨.contentProvider, [.unreachable], none⟩, ⟨.boundService, [.answer .empty], none⟩]

/-- The second application would be given a version. -/
def second : BrokerRole :=
  role [⟨.boundService, [.answer ⟨[(BrokerController.versionKey, .string "9.0")]⟩], none⟩]

/-- Their stage. -/
def start : Stage :=
  Cast.prepare [("first", .broker first), ("second", .broker second)] default

/-- The session of the step. -/
def session : SessionHandle Stage := stepSession (.standalone "device" none)

/-- What the first application asks for. -/
def asked : Work Stage (Except Failure CommandValue) :=
  ((first.play "first" true).perform (Sample.parameters "device") session .getAccounts).run

/-- The stage after the first application was refused. -/
def refused : Stage := (asked.advance start).2

/-- The first application asks for a handshake twice and is refused; then the second one, which
could reach the broker, sends nothing at all. -/
theorem handshake_gate_refused :
    ∃ xs, (settingOf "shared device").Runs start xs refused ∧
      (settingOf "shared device").Gated start xs refused ∧
      refused.sent.map Prod.fst = [.contentProvider, .boundService] ∧
      ∀ o progress s',
        ((second.play "second" true).perform (Sample.parameters "device") session o).run.Reaches
          (settingOf "shared device").Passes refused progress s' →
        progress = .ended (.ok (.error Setting.refusal)) ∧ s'.sent = refused.sent := by
  have hruns : (settingOf "shared device").Runs start _ refused :=
    Setting.Runs.start.perform (play_shares first "first" true) (Sample.parameters "device")
      (hosts_stepSession _) .getAccounts (.here asked start)
  have hgated := Setting.handshake_gate hruns rfl
  have hfound : (((settingOf "shared device").hellos.get refused).get
      ((second.play "second" true).helloKey (Sample.parameters "device"))
      ((settingOf "shared device").clock refused).now).1 = some .refused := by
    decide +kernel
  have hsent : refused.sent.map Prod.fst = [.contentProvider, .boundService] := by
    decide +kernel
  refine ⟨_, hruns, hgated, hsent, ?_⟩
  intro o progress s' reached
  exact hgated.refused _ (play_shares second "second" true) (by decide +kernel) _ hfound session
    (hosts_stepSession _) o progress s' reached

end OneDevice

end SignOn.Rehearsal
