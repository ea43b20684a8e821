import SignOn.Command.Basic
import SignOn.Proofs.Broker.Handshake
import SignOn.Proofs.Work.Obeys

/-! # The gate of the handshake

A run in a setting is a row of operations of broker controllers that share it, with time passing
before, between and within them. Each operation makes errands, over one transport after another.

* `Asks.reaches`: an operation first asks over its transports, and sends nothing after that.
* `Trail`: the errands of a run one after another. What is sent is what they send (`Trail.sent`),
  and what they learned is remembered (`Trail.remembers`).
* `refused_at_once`: where a refusal is remembered an operation fails and sends nothing.
* `handshake_gate`: all this of every run. -/

namespace SignOn

/-! ### Operations -/

namespace BrokerController

variable {σ α : Type}

/-- An operation of a broker controller. -/
def perform (c : BrokerController σ) (p : Parameters) (session : SessionHandle σ) :
    Operation → Flow σ CommandValue
  | .acquireInteractive => .acquisition <$> c.controller.acquireInteractive p session
  | .acquireSilent => .acquisition <$> c.controller.acquireSilent p
  | .getAccounts => (fun as => .output (.accounts as)) <$> c.controller.accounts p
  | .removeAccount => (fun b => .output (.removed b)) <$> c.controller.removeAccount p
  | .getDeviceMode => (fun b => .output (.sharedDevice b)) <$> c.controller.deviceMode p
  | .getCurrentAccount => (fun as => .output (.accounts as)) <$> c.controller.currentAccount p
  | .removeCurrentAccount => (fun b => .output (.removed b)) <$> c.controller.removeCurrentAccount p

/-- The errands of a call over some transports: the next transport is tried after an attempt that
reached nobody. -/
def errands (c : BrokerController σ) (p : Parameters) (api : BrokerApi)
    (read : Bundle → Except Failure α) : List (Transport σ) → σ → List (Errand σ)
  | [], _ => []
  | t :: rest, s => ⟨c, p, api, t, rest, s⟩ ::
    match (c.executor.attempt (c.call p api read) t s).1 with
    | .error (.unreachable _) =>
      errands c p api read rest (c.executor.afterTrial (c.call p api read) t s)
    | _ => []

/-- The errands of a call over all transports. -/
def allErrands (c : BrokerController σ) (p : Parameters) (api : BrokerApi)
    (read : Bundle → Except Failure α) (s : σ) : List (Errand σ) :=
  c.errands p api read c.executor.transports s

/-- The errands of an operation. -/
def errandsOf (c : BrokerController σ) (p : Parameters) (s : σ) : Operation → List (Errand σ)
  | .acquireInteractive => c.allErrands p .interactiveLaunch Bundle.launchReply s
  | .acquireSilent => c.allErrands p .acquireTokenSilent Bundle.tokenReply s
  | .getAccounts => c.allErrands p .getAccounts Bundle.accountsReply s
  | .removeAccount => c.allErrands p .removeAccount Bundle.removedReply s
  | .getDeviceMode => c.allErrands p .getDeviceMode Bundle.deviceModeReply s
  | .getCurrentAccount => c.allErrands p .getCurrentAccount Bundle.accountsReply s
  | .removeCurrentAccount => c.allErrands p .signOutCurrentAccount Bundle.removedReply s

end BrokerController

/-! ### What an operation does after asking -/

namespace Setting

variable {σ α : Type} {w : Setting σ}

/-- A session is resolved with no other effect on the setting than that time passes. -/
def Hosts (w : Setting σ) (session : SessionHandle σ) : Prop :=
  ∀ signal s, w.Passes s (session.resolve signal s).2

theorem keeps_bind {β : Type} {work : Work σ α} {k : α → Work σ β} {s : σ}
    (h : work.Keeps w.Passes s) (hk : ∀ a s', (k a).Keeps w.Passes s') :
    (work >>= k).Keeps w.Passes s :=
  Work.Keeps.bind (Adds.refl w) Passes.trans h fun a s' _ => hk a s'

theorem keeps_act {action : StateM σ α} (h : ∀ s, w.Passes s (action s).2) (s : σ) :
    (Work.act action).Keeps w.Passes s :=
  Work.keeps_act fun s' _ => h s'

/-- A wait in a session sends nothing. -/
theorem keeps_wait {session : SessionHandle σ} (h : w.Hosts session) (s : σ) :
    session.wait.run.Keeps w.Passes s :=
  (SessionHandle.Obeys.wait h (Adds.refl w) s).keeps

/-- Work that first makes a call, ends if that failed, and sends nothing after it. -/
inductive Asks (w : Setting σ) (c : BrokerController σ) (p : Parameters) :
    (σ → List (Errand σ)) → Work σ (Except Failure CommandValue) → Prop
  | mk {α : Type} (api : BrokerApi) (asks : api ≠ .hello) (read : Bundle → Except Failure α)
    (k : Except Failure α → Work σ (Except Failure CommandValue))
    (failed : ∀ f, k (.error f) = .ended (.error f)) (keeps : ∀ r s, (k r).Keeps w.Passes s) :
    Asks w c p (c.allErrands p api read) (Work.act (c.ask p api read).run >>= k)

variable {c : BrokerController σ} {p : Parameters}

theorem asks_act (api : BrokerApi) (asks : api ≠ .hello) (read : Bundle → Except Failure α)
    (f : α → CommandValue) :
    w.Asks c p (c.allErrands p api read)
      (f <$> Flow.act (c.ask p api read) : Flow σ CommandValue).run := by
  rw [ExceptT.run_map, map_eq_pure_bind]
  exact .mk api asks read (fun r => pure (r.map f)) (fun _ => rfl) fun _ _ => trivial

/-- **Every operation asks first**, and for something other than a handshake. -/
theorem asks_perform (shares : w.Shares c) {session : SessionHandle σ} (hosts : w.Hosts session)
    (o : Operation) :
    w.Asks c p (fun s => c.errandsOf p s o) (c.perform p session o).run := by
  cases o with
  | acquireInteractive =>
    change w.Asks c p (c.allErrands p .interactiveLaunch Bundle.launchReply)
      (_ <$> c.acquireInteractive p session : Flow σ CommandValue).run
    rw [ExceptT.run_map, map_eq_pure_bind, BrokerController.acquireInteractive, ExceptT.run_bind,
      bind_assoc]
    refine .mk .interactiveLaunch (by decide) Bundle.launchReply _ (fun _ => rfl) ?_
    intro r s
    refine keeps_bind ?_ fun _ _ => trivial
    cases r with
    | error f => trivial
    | ok payload =>
      dsimp only
      rw [ExceptT.run_bind]
      refine keeps_bind (keeps_act (shares.present _) s) fun r s => ?_
      cases r with
      | error f => trivial
      | ok _ =>
        dsimp only
        rw [ExceptT.run_bind]
        refine keeps_bind (keeps_wait hosts s) fun r s => ?_
        cases r <;> trivial
  | acquireSilent => exact asks_act .acquireTokenSilent (by decide) _ _
  | getAccounts => exact asks_act .getAccounts (by decide) _ _
  | removeAccount => exact asks_act .removeAccount (by decide) _ _
  | getDeviceMode => exact asks_act .getDeviceMode (by decide) _ _
  | getCurrentAccount => exact asks_act .getCurrentAccount (by decide) _ _
  | removeCurrentAccount => exact asks_act .signOutCurrentAccount (by decide) _ _

/-- How far an operation gets: the call is made, and after that nothing is sent; and if the call
failed, the operation ended with its failure. -/
theorem Asks.reaches {errands : σ → List (Errand σ)} {work : Work σ (Except Failure CommandValue)}
    (h : w.Asks c p errands work) {s s' : σ}
    {progress : Work.Progress σ (Except Failure CommandValue)}
    (hr : work.Reaches w.Passes s progress s') :
    ∃ (α : Type) (api : BrokerApi) (read : Bundle → Except Failure α), api ≠ .hello ∧
      errands = c.allErrands p api read ∧ w.Passes ((c.ask p api read).run s).2 s' ∧
      ∀ f, ((c.ask p api read).run s).1 = .error f → progress = .ended (.ok (.error f)) := by
  cases h with
  | mk api asks read k failed keeps =>
    have hrest := hr.of_advance_eq (Work.advance_act_bind _ k s)
    refine ⟨_, api, read, asks, rfl, (keeps _ _).reaches (Adds.refl w) Passes.trans hrest, ?_⟩
    intro f hf
    rw [hf, failed] at hrest
    exact hrest.of_ended.1

end Setting

/-! ### Errands one after another -/

namespace Setting

/-- Errands one after another, with time passing between them. -/
inductive Trail {σ : Type} (w : Setting σ) (s₀ : σ) : List (Errand σ) → σ → Prop
  | start : Trail w s₀ [] s₀
  | pass {xs : List (Errand σ)} {s s' : σ} (h : Trail w s₀ xs s) (passes : w.Passes s s') :
      Trail w s₀ xs s'
  | errand {xs : List (Errand σ)} {x : Errand σ} {s' : σ} (h : Trail w s₀ xs x.before)
      (isIn : x.In w) (asked : w.Adds x.callSends x.agreedAt s') : Trail w s₀ (xs ++ [x]) s'

variable {σ α : Type} {w : Setting σ} {s₀ s s' : σ} {xs ys : List (Errand σ)}
  {c : BrokerController σ} {p : Parameters} {ttl : Duration}

theorem Trail.sent (h : w.Trail s₀ xs s) : w.sent s = w.sent s₀ ++ xs.flatMap Errand.sends := by
  induction h with
  | start => simp
  | pass _ passes ih => rw [passes.sent, List.append_nil, ih]
  | @errand xs x s' _ isIn asked ih =>
    obtain ⟨hhello, -, -⟩ := x.adds_hello isIn
    rw [asked.sent, hhello, ih, List.flatMap_append, List.flatMap_singleton, Errand.sends]
    simp only [List.append_assoc]

theorem Trail.isIn (h : w.Trail s₀ xs s) : ∀ x ∈ xs, x.In w := by
  induction h with
  | start => intro x hx; cases hx
  | pass _ _ ih => exact ih
  | errand _ isIn _ ih =>
    intro y hy
    rcases List.mem_append.mp hy with hy | hy
    · exact ih y hy
    · rw [List.mem_singleton.mp hy]
      exact isIn

theorem Trail.remembers (h : w.Trail s₀ xs s) (on : (w.hellos.get s₀).enabled = true) :
    w.Remembers (w.hellos.get s₀).ttl xs s := by
  induction h with
  | start => exact ⟨on, rfl, fun x hx => by cases hx⟩
  | pass _ passes ih => exact ih.adds passes
  | errand _ isIn asked ih => exact ih.errand isIn asked

/-- Of two errands for one handshake, the later one asks for it only if what the earlier one learned
is too old by then. -/
def Spaced (ttl : Duration) (x y : Errand σ) : Prop :=
  x.key = y.key → y.helloSends ≠ [] → ∀ e, x.learned? = some e →
    ttl.nanos ≤ y.began.since e.storedAt

theorem Trail.spaced (h : w.Trail s₀ xs s) (on : (w.hellos.get s₀).enabled = true) :
    xs.Pairwise (Spaced (w.hellos.get s₀).ttl) := by
  induction h with
  | start => exact .nil
  | pass _ _ ih => exact ih
  | errand h isIn _ ih =>
    rw [List.pairwise_append]
    refine ⟨ih, List.pairwise_singleton _ _, ?_⟩
    intro x hx y hy hk sends e hl
    rw [List.mem_singleton.mp hy] at hk sends ⊢
    exact (h.remembers on).too_old isIn sends hx hk hl

/-! ### The errands of a call -/

/-- The errands of a call follow one another. The induction is on the transports; the failures of
those tried before only go into the last failure. -/
theorem Trail.tryTransports (shares : w.Shares c) {api : BrokerApi} (asks : api ≠ .hello)
    (read : Bundle → Except Failure α) (ts : List (Transport σ))
    (among : ∀ t ∈ ts, t ∈ c.executor.transports) (failures : List TransportFailure)
    (h : w.Trail s₀ xs s) : w.Trail s₀ (xs ++ c.errands p api read ts s)
      ((c.executor.tryTransports (c.call p api read) ts failures).run s).2 := by
  induction ts generalizing xs s failures with
  | nil =>
    rw [Executor.tryTransports_nil, BrokerController.errands, List.append_nil]
    exact h
  | cons t rest ih =>
    have hx : (⟨c, p, api, t, rest, s⟩ : Errand σ).In w :=
      ⟨shares, among t List.mem_cons_self, asks⟩
    have hattempt := Trail.errand h hx (Errand.adds_attempt hx read)
    have hafter : w.Trail s₀ (xs ++ [⟨c, p, api, t, rest, s⟩])
        (c.executor.afterTrial (c.call p api read) t s) := hattempt.pass (shares.report _ _)
    rw [Executor.tryTransports_cons, BrokerController.errands]
    rcases (c.executor.attempt (c.call p api read) t s).1 with (f | f) | a
    · rw [List.append_cons]
      exact ih (fun t ht => among t (List.mem_cons_of_mem _ ht)) (failures ++ [f]) hafter
    · exact hafter
    · exact hafter

theorem Trail.ask (h : w.Trail s₀ xs s) (shares : w.Shares c) {api : BrokerApi}
    (asks : api ≠ .hello) (read : Bundle → Except Failure α) :
    w.Trail s₀ (xs ++ c.allErrands p api read s) ((c.ask p api read).run s).2 := by
  unfold BrokerController.ask BrokerController.allErrands
  by_cases hempty : c.executor.transports = []
  · have hrun : (c.executor.execute (c.call p api read)).run s =
        (.error (Executor.noTransport (c.call p api read).method), s) := by
      simp only [Executor.execute, hempty, List.isEmpty_nil, if_true]
      rfl
    rw [hrun, hempty, BrokerController.errands, List.append_nil]
    exact h
  · rw [Executor.execute_of_ne_nil _ _ hempty]
    exact h.tryTransports shares asks read _ (fun t ht => ht) []

/-- Wherever the handshake of an errand reached nobody and a transport is left, the next errand is
about the same and goes over that transport. -/
def Continued (xs : List (Errand σ)) : Prop :=
  ∀ earlier x later f s t rest, xs = earlier ++ x :: later → x.reply? = some (.error f, s) →
    x.untried = t :: rest → ∃ y more, later = y :: more ∧ y.controller = x.controller ∧
      y.parameters = x.parameters ∧ y.api = x.api ∧ y.transport = t ∧ y.untried = rest

theorem continued_nil : Continued ([] : List (Errand σ)) := by
  intro earlier x later f s t rest he
  simp at he

theorem Continued.append (h : Continued xs) (h' : Continued ys) : Continued (xs ++ ys) := by
  intro earlier x later f s t rest he hr ht
  rcases List.append_eq_append_iff.mp he with ⟨mid, rfl, hmid⟩ | ⟨mid, hmid, hlater⟩
  · exact h' mid x later f s t rest hmid hr ht
  · cases mid with
    | nil => exact h' [] x later f s t rest hlater.symm hr ht
    | cons y mid =>
      obtain ⟨rfl, rfl⟩ := List.cons.inj hlater
      obtain ⟨z, more, rfl, hz⟩ := h earlier x mid f s t rest hmid hr ht
      exact ⟨z, more ++ ys, rfl, hz⟩

theorem continued_errands (c : BrokerController σ) (p : Parameters) (api : BrokerApi)
    (read : Bundle → Except Failure α) (ts : List (Transport σ)) (s : σ) :
    Continued (c.errands p api read ts s) := by
  induction ts generalizing s with
  | nil => exact continued_nil
  | cons t rest ih =>
    intro earlier x later f s₁ t' rest' he hr ht
    rw [BrokerController.errands] at he
    cases earlier with
    | nil =>
      obtain ⟨rfl, hlater⟩ := List.cons.inj he
      have hattempt : c.executor.attempt (c.call p api read) t s = (.error (.unreachable f), s₁) :=
        Executor.attempt_of_unprepared (Errand.hello_of_unanswered hr)
      change rest = t' :: rest' at ht
      rw [hattempt, ht] at hlater
      exact ⟨_, _, hlater.symm, rfl, rfl, rfl, rfl, rfl⟩
    | cons x₀ earlier =>
      obtain ⟨-, hlater⟩ := List.cons.inj he
      split at hlater
      · exact ih _ earlier x later f s₁ t' rest' hlater hr ht
      · simp at hlater

/-! ### Refusals -/

/-- The failure of what is not asked, because a refusal is remembered. -/
def refusal : Failure :=
  .plain Code.unsupportedBrokerVersion "A previous handshake with this broker failed."

/-- An attempt that finds a refusal fails and sends nothing. -/
theorem attempt_of_refused (shares : w.Shares c)
    (refused : ((w.hellos.get s).get (c.helloKey p) (w.clock s).now).1 = some .refused)
    (api : BrokerApi) (read : Bundle → Except Failure α) (t : Transport σ) :
    (c.executor.attempt (c.call p api read) t s).1 = .error (.fatal refusal) ∧
      w.sent (c.executor.attempt (c.call p api read) t s).2 = w.sent s := by
  have hfound : (⟨c, p, api, t, [], s⟩ : Errand σ).found.1 = some .refused := by
    rw [← refused, Errand.found, Errand.began, shares.hellos, shares.clock]
    rfl
  have hattempt : c.executor.attempt (c.call p api read) t s = _ :=
    Executor.attempt_of_unprepared (Errand.hello_of_found hfound)
  rw [hattempt]
  refine ⟨rfl, ?_⟩
  change w.sent (c.hellos.set _ s) = w.sent s
  rw [shares.hellos, w.sent_set]

/-- A call for which a refusal is found fails at once and sends nothing. -/
theorem ask_of_refused (shares : w.Shares c) (some_transport : c.executor.transports ≠ [])
    (refused : ((w.hellos.get s).get (c.helloKey p) (w.clock s).now).1 = some .refused)
    (api : BrokerApi) (read : Bundle → Except Failure α) :
    ((c.ask p api read).run s).1 = .error refusal ∧
      w.sent ((c.ask p api read).run s).2 = w.sent s := by
  cases hts : c.executor.transports with
  | nil => exact absurd hts some_transport
  | cons t rest =>
    obtain ⟨hfailed, hsent⟩ := attempt_of_refused shares refused api read t
    unfold BrokerController.ask
    rw [Executor.execute_of_ne_nil _ _ some_transport, hts, Executor.tryTransports_cons, hfailed]
    refine ⟨rfl, ?_⟩
    dsimp only
    rw [Executor.afterTrial, (shares.report _ _).sent, List.append_nil, hsent]

/-- **Where a refusal is remembered**, an operation over any transports fails at once and sends
nothing. -/
theorem refused_at_once (shares : w.Shares c) (some_transport : c.executor.transports ≠ [])
    (refused : ((w.hellos.get s).get (c.helloKey p) (w.clock s).now).1 = some .refused)
    {session : SessionHandle σ} (hosts : w.Hosts session) (o : Operation)
    {progress : Work.Progress σ (Except Failure CommandValue)}
    (reached : (c.perform p session o).run.Reaches w.Passes s progress s') :
    progress = .ended (.ok (.error refusal)) ∧ w.sent s' = w.sent s := by
  obtain ⟨α, api, read, -, -, passes, ended⟩ := (asks_perform shares hosts o).reaches reached
  obtain ⟨hfailed, hsent⟩ := ask_of_refused shares some_transport refused api read
  refine ⟨ended _ hfailed, ?_⟩
  rw [passes.sent, List.append_nil, hsent]

end Setting

/-! ### Runs -/

namespace Setting

/-- Operations of controllers that share a setting, one after another, and the errands they make.
Time passes between them and while they wait, and an operation may be left waiting. -/
inductive Runs {σ : Type} (w : Setting σ) (s₀ : σ) : List (Errand σ) → σ → Prop
  | start : Runs w s₀ [] s₀
  | pass {xs : List (Errand σ)} {s s' : σ} (h : Runs w s₀ xs s) (passes : w.Passes s s') :
    Runs w s₀ xs s'
  | perform {xs : List (Errand σ)} {s s' : σ} (h : Runs w s₀ xs s) {c : BrokerController σ}
    (shares : w.Shares c) (p : Parameters) {session : SessionHandle σ} (hosts : w.Hosts session)
    (o : Operation) {progress : Work.Progress σ (Except Failure CommandValue)}
    (reached : (c.perform p session o).run.Reaches w.Passes s progress s') :
    Runs w s₀ (xs ++ c.errandsOf p s o) s'

variable {σ : Type} {w : Setting σ} {s₀ s : σ} {xs : List (Errand σ)}

theorem Runs.trail (h : w.Runs s₀ xs s) : w.Trail s₀ xs s := by
  induction h with
  | start => exact .start
  | pass _ passes ih => exact ih.pass passes
  | @perform xs s s' _ c shares p session hosts o progress reached ih =>
    obtain ⟨α, api, read, asks, herrands, passes, -⟩ :=
      (asks_perform shares hosts o).reaches reached
    rw [congrFun herrands s]
    exact (ih.ask shares asks read).pass passes

theorem Runs.continued (h : w.Runs s₀ xs s) : Continued xs := by
  induction h with
  | start => exact continued_nil
  | pass _ _ ih => exact ih
  | @perform xs s s' _ c shares p session hosts o progress reached ih =>
    obtain ⟨α, api, read, -, herrands, -, -⟩ := (asks_perform shares hosts o).reaches reached
    rw [congrFun herrands s]
    exact ih.append (continued_errands c p api read _ s)

/-- What the gate of the handshake lets through, of a run with its errands. -/
structure Gated (w : Setting σ) (s₀ : σ) (xs : List (Errand σ)) (s : σ) : Prop where
  /-- The errands send all that is sent, and in their order; each of them its handshake first. -/
  sent : w.sent s = w.sent s₀ ++ xs.flatMap fun x => x.helloSends ++ x.callSends
  /-- A handshake is sent as such. -/
  hello : ∀ x ∈ xs, ∀ y ∈ x.helloSends,
    y = (x.transport.kind, x.controller.helloRequest x.key) ∧ y.2.api = .hello
  /-- Another request is sent only where the handshake of the same attempt gave a version, and names
  it. -/
  request : ∀ x ∈ xs, ∀ y ∈ x.callSends, y.2.api ≠ .hello ∧ ∃ version, x.agreed = .ok version ∧
    y.1 = x.transport.kind ∧ y.2.payload.string? BrokerController.versionKey = some version
  /-- After an answer to a handshake nobody asks for it again until the lifetime of the cache is
  over. -/
  spaced : xs.Pairwise (Spaced (w.hellos.get s₀).ttl)
  /-- Until then the answer is found. -/
  remembered : ∀ x ∈ xs, ∀ e, x.learned? = some e →
    (w.clock s).now.since e.storedAt < (w.hellos.get s₀).ttl.nanos →
    ((w.hellos.get s).get x.key (w.clock s).now).1 = some e.outcome
  /-- Where a refusal is found, no operation sends anything, and each fails for the version. -/
  refused : ∀ c, w.Shares c → c.executor.transports ≠ [] → ∀ p,
    ((w.hellos.get s).get (c.helloKey p) (w.clock s).now).1 = some .refused →
    ∀ session, w.Hosts session → ∀ o progress s',
      (c.perform p session o).run.Reaches w.Passes s progress s' →
      progress = .ended (.ok (.error refusal)) ∧ w.sent s' = w.sent s
  /-- A handshake that reached nobody stores nothing. -/
  unanswered : ∀ x ∈ xs, ∀ f s₁, x.reply? = some (.error f, s₁) →
    x.agreed = .error (.unreachable f) ∧
    ∀ k e, (w.hellos.get x.agreedAt).held k = some e → (w.hellos.get x.before).held k = some e
  /-- After it the next transport is tried, if one is left. -/
  continued : Continued xs

/-- **The gate of the handshake.** In every run of operations of controllers that share a cache of
handshakes, which is on. -/
theorem handshake_gate (h : w.Runs s₀ xs s) (on : (w.hellos.get s₀).enabled = true) :
    w.Gated s₀ xs s where
  sent := h.trail.sent
  hello := by
    intro x _ y hy
    obtain ⟨hkind, hrequest⟩ := Errand.helloSends_eq hy
    refine ⟨Prod.ext hkind hrequest, ?_⟩
    rw [hrequest]
    rfl
  request := by
    intro x hx y hy
    obtain ⟨version, hagreed, hkind, hapi, -, hversion⟩ := Errand.callSends_eq hy
    refine ⟨?_, version, hagreed, hkind, hversion⟩
    rw [hapi]
    exact (h.trail.isIn x hx).asks
  spaced := h.trail.spaced on
  remembered := by
    intro x hx e hl young
    rw [(h.trail.remembers on).get_eq hx hl young]
  refused := by
    intro c shares some_transport p refused session hosts o progress s' reached
    exact refused_at_once shares some_transport refused hosts o reached
  unanswered := by
    intro x hx f s₁ hr
    exact Errand.hello_unanswered (h.trail.isIn x hx) hr
  continued := h.continued

end Setting

end SignOn
