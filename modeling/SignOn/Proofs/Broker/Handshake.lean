import SignOn.Broker.Controller
import SignOn.Proofs.Broker.Fallback
import SignOn.Proofs.Broker.HelloCache

/-! # One errand to a broker

A broker controller may share its cache of handshakes and its clock with others (`Setting.Shares`).
An `Errand` is one attempt of it over one transport, from the surroundings as it finds them: first
the handshake, then the request.

* `Errand.adds_hello`: a handshake that is found in the cache sends nothing; otherwise it sends its
  request, and what the broker answered to it is learned.
* `Errand.adds_attempt`: the attempt sends its request after that, under the version agreed on, and
  nothing if there is none.
* `Errand.hello_unanswered`: where nobody was reached, nothing is stored.
* `Setting.Remembers.errand`: what was learned stays in the cache through an errand. -/

namespace SignOn

variable {σ : Type}

/-- Surroundings in which brokers are asked: a cache of handshakes, a clock, and what has been sent
over which kind of transport. What is put into the cache changes neither of the others. -/
structure Setting (σ : Type) where
  hellos : Place σ HelloCache
  clock : σ → Clock
  sent : σ → List (TransportKind × BrokerRequest)
  clock_set : ∀ cache s, clock (hellos.set cache s) = clock s
  sent_set : ∀ cache s, sent (hellos.set cache s) = sent s

namespace Setting

/-- Time passes and some requests are sent, and the cache stays as it is. -/
structure Adds (w : Setting σ) (requests : List (TransportKind × BrokerRequest)) (s s' : σ) :
    Prop where
  hellos : w.hellos.get s' = w.hellos.get s
  sent : w.sent s' = w.sent s ++ requests
  clock : (w.clock s).now.instant ≤ (w.clock s').now.instant

/-- Time passes, and nothing is sent. -/
abbrev Passes (w : Setting σ) (s s' : σ) : Prop := w.Adds [] s s'

/-- **A controller shares the setting**: it looks into the cache and at the clock; each of its
transports sends what it is given, whatever comes back; and nothing else that it makes use of sends
anything or touches the cache. -/
structure Shares (w : Setting σ) (c : BrokerController σ) : Prop where
  hellos : c.hellos = w.hellos
  clock : c.clock = w.clock
  send : ∀ t ∈ c.executor.transports, ∀ request s, w.Adds [(t.kind, request)] s (t.send request s).2
  report : ∀ r s, w.Passes s (c.executor.report r s).2
  active : ∀ kept s, w.Passes s (c.executor.active.set kept s)
  present : ∀ launch s, w.Passes s ((c.screen.present launch).run s).2

variable {w : Setting σ} {s s' s'' : σ} {requests later : List (TransportKind × BrokerRequest)}

theorem Adds.refl (w : Setting σ) (s : σ) : w.Passes s s :=
  ⟨rfl, (List.append_nil _).symm, Int.le_refl _⟩

theorem Adds.trans (h : w.Adds requests s s') (h' : w.Adds later s' s'') :
    w.Adds (requests ++ later) s s'' where
  hellos := h'.hellos.trans h.hellos
  sent := by rw [h'.sent, h.sent, List.append_assoc]
  clock := Int.le_trans h.clock h'.clock

theorem Adds.passes (h : w.Adds requests s s') (h' : w.Passes s' s'') : w.Adds requests s s'' := by
  have hboth := h.trans h'
  rwa [List.append_nil] at hboth

theorem Passes.trans (h : w.Passes s s') (h' : w.Passes s' s'') : w.Passes s s'' := Adds.trans h h'

end Setting

/-- One attempt of a controller over one of its transports: what it is about, which transports it
has left, and the surroundings that it finds. -/
structure Errand (σ : Type) where
  controller : BrokerController σ
  parameters : Parameters
  api : BrokerApi
  transport : Transport σ
  untried : List (Transport σ)
  before : σ

namespace Errand

/-- The handshake that the errand needs. -/
def key (x : Errand σ) : HelloKey := x.controller.helloKey x.parameters

/-- The moment at which the errand begins. -/
def began (x : Errand σ) : Moment := (x.controller.clock x.before).now

/-- What is found in the cache, and the cache after the look-up. -/
def found (x : Errand σ) : Option HelloOutcome × HelloCache :=
  (x.controller.hellos.get x.before).get x.key x.began

/-- What came back to the request of the handshake, and the surroundings after it; none if nothing
was sent. -/
def reply? (x : Errand σ) : Option (Except TransportFailure Bundle × σ) :=
  match x.found.1 with
  | some _ => none
  | none => some (x.transport.send (x.controller.helloRequest x.key)
      (x.controller.hellos.set x.found.2 x.before))

/-- What the errand learned from the broker. -/
def learned? (x : Errand σ) : Option HelloEntry :=
  match x.reply? with
  | some (.ok answer, s) => some ⟨BrokerController.helloOutcome answer, (x.controller.clock s).now⟩
  | _ => none

/-- The version that the handshake of the errand gave, or why it gave none. -/
def agreed (x : Errand σ) : Except AttemptFailure String :=
  (x.controller.hello x.transport x.parameters x.before).1

/-- The surroundings after the handshake. -/
def agreedAt (x : Errand σ) : σ := (x.controller.hello x.transport x.parameters x.before).2

/-- What the handshake sends. -/
def helloSends (x : Errand σ) : List (TransportKind × BrokerRequest) :=
  if x.reply?.isSome then [(x.transport.kind, x.controller.helloRequest x.key)] else []

/-- What is sent after the handshake. -/
def callSends (x : Errand σ) : List (TransportKind × BrokerRequest) :=
  match x.agreed with
  | .error _ => []
  | .ok version =>
    match BrokerController.payload x.parameters version with
    | .error _ => []
    | .ok payload => [(x.transport.kind, ⟨x.api, x.controller.broker.package, payload⟩)]

/-- All that the errand sends, in order. -/
def sends (x : Errand σ) : List (TransportKind × BrokerRequest) := x.helloSends ++ x.callSends

/-- An errand in a setting: its controller shares it, has the transport, and asks for something
other than a handshake. -/
structure In (x : Errand σ) (w : Setting σ) : Prop where
  shares : w.Shares x.controller
  among : x.transport ∈ x.controller.executor.transports
  asks : x.api ≠ .hello

variable {x : Errand σ} {w : Setting σ}

theorem found_eq (h : x.In w) :
    x.found = (w.hellos.get x.before).get x.key (w.clock x.before).now := by
  rw [found, began, h.shares.hellos, h.shares.clock]

/-! ### The handshake -/

theorem hello_of_found {o : HelloOutcome} (h : x.found.1 = some o) :
    x.controller.hello x.transport x.parameters x.before =
      (BrokerController.versionOf "A previous handshake with this broker failed." o,
        x.controller.hellos.set x.found.2 x.before) := by
  have hknown : x.controller.knownHello x.key x.before =
      (some o, x.controller.hellos.set x.found.2 x.before) := Prod.ext h rfl
  unfold BrokerController.hello
  change (x.controller.knownHello x.key >>= _) x.before = _
  simp only [bind, StateT.bind, hknown]
  rfl

theorem send_of_reply {reply : Except TransportFailure Bundle} {s : σ}
    (h : x.reply? = some (reply, s)) :
    x.found.1 = none ∧ x.transport.send (x.controller.helloRequest x.key)
      (x.controller.hellos.set x.found.2 x.before) = (reply, s) := by
  unfold reply? at h
  rcases hf : x.found.1 with _ | o
  · rw [hf] at h
    exact ⟨rfl, Option.some.inj h⟩
  · rw [hf] at h
    cases h

theorem knownHello_of_none (h : x.found.1 = none) :
    x.controller.knownHello x.key x.before = (none, x.controller.hellos.set x.found.2 x.before) :=
  Prod.ext h rfl

theorem hello_of_unanswered {f : TransportFailure} {s : σ} (h : x.reply? = some (.error f, s)) :
    x.controller.hello x.transport x.parameters x.before = (.error (.unreachable f), s) := by
  obtain ⟨hnone, hsend⟩ := send_of_reply h
  have hknown := knownHello_of_none hnone
  unfold key at hsend hknown
  unfold BrokerController.hello
  simp only [bind, StateT.bind, hknown, hsend]
  rfl

theorem hello_of_answered {answer : Bundle} {s : σ} (h : x.reply? = some (.ok answer, s)) :
    x.controller.hello x.transport x.parameters x.before =
      (BrokerController.versionOf (BrokerController.refusalOf answer)
        (BrokerController.helloOutcome answer),
        (x.controller.keepHello x.key (BrokerController.helloOutcome answer) s).2) := by
  obtain ⟨hnone, hsend⟩ := send_of_reply h
  have hknown := knownHello_of_none hnone
  unfold key at hsend hknown
  unfold BrokerController.hello
  simp only [bind, StateT.bind, hknown, hsend]
  rfl

theorem reply?_eq_none_iff : x.reply? = none ↔ x.found.1.isSome = true := by
  unfold reply?
  cases x.found.1 <;> simp

/-- **What a handshake does**: it sends its request if nothing is found, and the cache is what the
look-up leaves, with what was learned stored. -/
theorem adds_hello (h : x.In w) : w.sent x.agreedAt = w.sent x.before ++ x.helloSends ∧
    (w.clock x.before).now.instant ≤ (w.clock x.agreedAt).now.instant ∧
    match x.learned? with
    | none => w.hellos.get x.agreedAt = x.found.2
    | some e => w.hellos.get x.agreedAt = x.found.2.save x.key e.outcome e.storedAt ∧
      x.found.1 = none ∧ (w.clock x.before).now.instant ≤ e.storedAt.instant ∧
      e.storedAt.instant ≤ (w.clock x.agreedAt).now.instant := by
  rcases hr : x.reply? with _ | ⟨reply, s⟩
  · obtain ⟨o, ho⟩ := Option.isSome_iff_exists.mp (reply?_eq_none_iff.mp hr)
    have hlearned : x.learned? = none := by rw [learned?, hr]
    rw [hlearned, helloSends, hr, agreedAt, hello_of_found ho, h.shares.hellos]
    simp only [Option.isSome_none, Bool.false_eq_true, if_false, List.append_nil, w.sent_set,
      w.clock_set, w.hellos.get_set, and_true, true_and]
    exact Int.le_refl _
  · obtain ⟨hnone, hsend⟩ := send_of_reply hr
    have hsends : x.helloSends = [(x.transport.kind, x.controller.helloRequest x.key)] := by
      rw [helloSends, hr]
      rfl
    have hsent := h.shares.send x.transport h.among (x.controller.helloRequest x.key)
      (x.controller.hellos.set x.found.2 x.before)
    rw [hsend, h.shares.hellos] at hsent
    obtain ⟨hhellos, hsent, hclock⟩ := hsent
    rw [w.hellos.get_set] at hhellos
    rw [w.sent_set] at hsent
    rw [w.clock_set] at hclock
    rw [hsends, agreedAt, learned?]
    cases reply with
    | error f =>
      rw [hello_of_unanswered hr, hr]
      exact ⟨hsent, hclock, hhellos⟩
    | ok answer =>
      rw [hello_of_answered hr, hr]
      simp only [BrokerController.keepHello, Place.modify, h.shares.hellos, h.shares.clock,
        w.sent_set, w.clock_set, w.hellos.get_set, hhellos, true_and]
      exact ⟨hsent, hclock, hnone, hclock, Int.le_refl _⟩

/-- **Nobody was reached**: the errand gives no version and lets the next transport try, and its
handshake stored nothing. -/
theorem hello_unanswered (h : x.In w) {f : TransportFailure} {s : σ}
    (hr : x.reply? = some (.error f, s)) : x.agreed = .error (.unreachable f) ∧
      ∀ k e, (w.hellos.get x.agreedAt).held k = some e →
        (w.hellos.get x.before).held k = some e := by
  have hlearned : x.learned? = none := by rw [learned?, hr]
  obtain ⟨-, -, hcache⟩ := adds_hello h
  rw [hlearned] at hcache
  refine ⟨by rw [agreed, hello_of_unanswered hr], ?_⟩
  intro k e hheld
  rw [hcache, found_eq h] at hheld
  rcases HelloCache.held_use (.get x.key (w.clock x.before).now) hheld with hold | ⟨k₀, hsave, -⟩
  · exact hold
  · cases hsave

/-! ### The request -/

theorem build_run {α : Type} (c : BrokerController σ) (p : Parameters) (api : BrokerApi)
    (read : Bundle → Except Failure α) (version : String) (s : σ) :
    ((c.call p api read).build version).run s =
      ((BrokerController.payload p version).map fun b => ⟨api, c.broker.package, b⟩, s) := by
  change (Action.ofExcept (BrokerController.payload p version) >>= fun b =>
      pure _ : Action σ _).run s = _
  cases BrokerController.payload p version <;> rfl

/-- A payload names the version it was made for. -/
theorem payload_version {p : Parameters} {version : String} {b : Bundle}
    (h : BrokerController.payload p version = .ok b) :
    b.string? BrokerController.versionKey = some version := by
  unfold BrokerController.payload at h
  split at h
  · cases h
    simp [Bundle.string?, Bundle.get?, Bundle.insert, Json.Value.lookup_insertMember_self,
      Json.Value.string?]
  · cases h

theorem callSends_of_error {f : AttemptFailure} (h : x.agreed = .error f) : x.callSends = [] := by
  simp only [callSends, h]

theorem callSends_of_unpayable {version : String} {f : Failure} (h : x.agreed = .ok version)
    (hp : BrokerController.payload x.parameters version = .error f) : x.callSends = [] := by
  simp only [callSends, h, hp]

theorem callSends_of_payload {version : String} {b : Bundle} (h : x.agreed = .ok version)
    (hp : BrokerController.payload x.parameters version = .ok b) :
    x.callSends = [(x.transport.kind, ⟨x.api, x.controller.broker.package, b⟩)] := by
  simp only [callSends, h, hp]

/-- **What an errand sends after its handshake** goes over its transport to its broker, says what it
is about and names the version that the handshake gave. -/
theorem callSends_eq {y : TransportKind × BrokerRequest} (h : y ∈ x.callSends) :
    ∃ version, x.agreed = .ok version ∧ y.1 = x.transport.kind ∧ y.2.api = x.api ∧
      y.2.package = x.controller.broker.package ∧
      y.2.payload.string? BrokerController.versionKey = some version := by
  rcases ha : x.agreed with f | version
  · rw [callSends_of_error ha] at h
    cases h
  · rcases hp : BrokerController.payload x.parameters version with f | b
    · rw [callSends_of_unpayable ha hp] at h
      cases h
    · rw [callSends_of_payload ha hp] at h
      rw [List.mem_singleton.mp h]
      exact ⟨version, rfl, rfl, rfl, rfl, payload_version hp⟩

theorem helloSends_eq {y : TransportKind × BrokerRequest} (h : y ∈ x.helloSends) :
    y.1 = x.transport.kind ∧ y.2 = x.controller.helloRequest x.key := by
  unfold helloSends at h
  split at h
  · rw [List.mem_singleton.mp h]
    exact ⟨rfl, rfl⟩
  · cases h

/-- **After its handshake an attempt sends its request**, or nothing if it has none. -/
theorem adds_attempt {α : Type} (h : x.In w) (read : Bundle → Except Failure α) :
    w.Adds x.callSends x.agreedAt (x.controller.executor.attempt
      (x.controller.call x.parameters x.api read) x.transport x.before).2 := by
  obtain ⟨answer, story⟩ := Executor.attempt_story x.controller.executor
    (x.controller.call x.parameters x.api read) x.transport x.before
  have hello :
      ∀ {r s}, (x.controller.call x.parameters x.api read).prepare x.transport x.before = (r, s) →
      x.agreed = r ∧ x.agreedAt = s :=
    fun hp => ⟨congrArg Prod.fst hp, congrArg Prod.snd hp⟩
  -- where the request is made and sent, it is the one of the errand
  have request : ∀ {version request s s₂ reply s₃}, x.agreed = .ok version →
      ((x.controller.call x.parameters x.api read).build version).run s = (.ok request, s₂) →
      x.transport.send request s₂ = (reply, s₃) → w.Adds x.callSends s s₃ := by
    intro version request s s₂ reply s₃ ha hb hs
    rw [build_run] at hb
    rcases hp : BrokerController.payload x.parameters version with f | b
    · rw [hp] at hb
      cases hb
    · rw [hp] at hb
      cases hb
      have hsend := h.shares.send x.transport h.among ⟨x.api, x.controller.broker.package, b⟩ s
      rw [hs] at hsend
      rw [callSends_of_payload ha hp]
      exact hsend
  have reading : ∀ {answer s r s'}, ((x.controller.call x.parameters x.api read).read answer).run
      (x.controller.executor.learn answer s).2 = (r, s') →
      s' = (x.controller.executor.learn answer s).2 := fun hr => (congrArg Prod.snd hr).symm
  generalize (x.controller.executor.attempt (x.controller.call x.parameters x.api read) x.transport
    x.before).1 = result at story
  generalize (x.controller.executor.attempt (x.controller.call x.parameters x.api read) x.transport
    x.before).2 = s' at story ⊢
  cases story with
  | unprepared hp =>
    obtain ⟨ha, hat⟩ := hello hp
    rw [callSends_of_error ha, hat]
    exact .refl w s'
  | @unbuilt version f s₁ _ hp hb =>
    obtain ⟨ha, hat⟩ := hello hp
    rw [build_run] at hb
    cases hpayload : BrokerController.payload x.parameters version with
    | error f =>
      rw [hpayload] at hb
      cases hb
      rw [callSends_of_unpayable ha hpayload, hat]
      exact .refl w _
    | ok b =>
      rw [hpayload] at hb
      cases hb
  | unsent hp hb hs =>
    obtain ⟨ha, hat⟩ := hello hp
    rw [hat]
    exact request ha hb hs
  | @unread version r answer f s₁ s₂ s₃ _ hp hb hs hr =>
    obtain ⟨ha, hat⟩ := hello hp
    rw [hat, reading hr]
    exact (request ha hb hs).passes (h.shares.active _ s₃)
  | @made version r answer a s₁ s₂ s₃ _ hp hb hs hr =>
    obtain ⟨ha, hat⟩ := hello hp
    rw [hat, reading hr]
    exact (request ha hb hs).passes (h.shares.active _ s₃)

end Errand

/-! ### What is learned is remembered -/

/-- What errands learned, each under its handshake. -/
def learnedBy (xs : List (Errand σ)) : List (HelloKey × HelloEntry) :=
  xs.filterMap fun x => x.learned?.map (x.key, ·)

theorem learnedBy_concat (xs : List (Errand σ)) (x : Errand σ) :
    learnedBy (xs ++ [x]) = learnedBy xs ++ (x.learned?.map (x.key, ·)).toList := by
  rw [learnedBy, List.filterMap_append]
  cases hl : x.learned? <;> simp [learnedBy, hl]

namespace Setting

variable {w : Setting σ} {ttl : Duration} {xs : List (Errand σ)} {x y : Errand σ} {s s' : σ}
  {requests : List (TransportKind × BrokerRequest)}

/-- The cache is on and holds what the errands learned, as far as it is young enough. -/
structure Remembers (w : Setting σ) (ttl : Duration) (xs : List (Errand σ)) (s : σ) : Prop where
  on : (w.hellos.get s).enabled = true
  ttl : (w.hellos.get s).ttl = ttl
  lessons : (w.hellos.get s).Remembers (w.clock s).now (learnedBy xs)

theorem Remembers.adds (h : w.Remembers ttl xs s) (hs : w.Adds requests s s') :
    w.Remembers ttl xs s' where
  on := by rw [hs.hellos]; exact h.on
  ttl := by rw [hs.hellos]; exact h.ttl
  lessons := by rw [hs.hellos]; exact h.lessons.later hs.clock

/-- What an errand learned is found as long as it is young enough. -/
theorem Remembers.get_eq (h : w.Remembers ttl xs s) (hx : x ∈ xs) {e : HelloEntry}
    (hl : x.learned? = some e) (young : (w.clock s).now.since e.storedAt < ttl.nanos) :
    (w.hellos.get s).get x.key (w.clock s).now = (some e.outcome, w.hellos.get s) := by
  have hmem : (x.key, e) ∈ learnedBy xs :=
    List.mem_filterMap.mpr ⟨x, hx, by rw [hl]; rfl⟩
  exact h.lessons.get_eq h.on hmem (by rw [h.ttl]; exact young)

/-- **An errand is remembered too**, and nothing is forgotten over it. -/
theorem Remembers.errand (h : w.Remembers ttl xs x.before) (hx : x.In w)
    (asked : w.Adds x.callSends x.agreedAt s) : w.Remembers ttl (xs ++ [x]) s := by
  refine Remembers.adds ?_ asked
  obtain ⟨-, hclock, hcache⟩ := x.adds_hello hx
  have hget := h.lessons.get h.on x.key
  rw [← x.found_eq hx] at hget
  have hon : x.found.2.enabled = true := by rw [x.found_eq hx, HelloCache.enabled_get, h.on]
  have httl : x.found.2.ttl = ttl := by rw [x.found_eq hx, HelloCache.ttl_get, h.ttl]
  cases hl : x.learned? with
  | none =>
    rw [hl] at hcache
    refine ⟨by rw [hcache, hon], by rw [hcache, httl], ?_⟩
    rw [hcache, learnedBy_concat, hl]
    simpa using hget.later hclock
  | some e =>
    rw [hl] at hcache
    obtain ⟨hcache, hnone, hbegan, hend⟩ := hcache
    refine ⟨by rw [hcache, HelloCache.enabled_save, hon], by rw [hcache, HelloCache.ttl_save, httl],
      ?_⟩
    rw [x.found_eq hx] at hnone
    have hsave := h.lessons.save h.on hnone hbegan e.outcome
    rw [← x.found_eq hx] at hsave
    rw [hcache, learnedBy_concat, hl]
    exact hsave.later hend

/-- **No handshake is asked for again** before what was learned of it is too old. -/
theorem Remembers.too_old (h : w.Remembers ttl xs y.before) (hy : y.In w)
    (sends : y.helloSends ≠ []) (hx : x ∈ xs) (hk : x.key = y.key) {e : HelloEntry}
    (hl : x.learned? = some e) :
    ttl.nanos ≤ y.began.since e.storedAt := by
  refine Int.not_lt.mp fun hlt => ?_
  have hbegan : y.began = (w.clock y.before).now := by rw [Errand.began, hy.shares.clock]
  rw [hbegan] at hlt
  have hfound : y.found.1 = some e.outcome := by
    rw [y.found_eq hy, ← hk, h.get_eq hx hl (by omega)]
  refine sends ?_
  rw [Errand.helloSends, Errand.reply?_eq_none_iff.mpr (by rw [hfound]; rfl)]
  rfl

end Setting

end SignOn
