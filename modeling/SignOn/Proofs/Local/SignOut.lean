import SignOn.Proofs.Dispatch.Reuse
import SignOn.Proofs.Dispatch.Workshop
import SignOn.Proofs.Local.Scripted
import SignOn.Proofs.Local.Told

/-! # After a removal

A removal touches the store and nothing else: results that are cached and executions under way are
left as they are. So it takes effect for executions that begin after it (`removal_takes_effect`). An
account that is shown all the same was stored again, or the command shares the result of an
execution that is older.

The executions share the store and take turns in any order, the steps of an acquisition being turns
of their own if need be. -/

namespace SignOn

open Workshop Dispatcher

variable {σ κ : Type}

/-- The executions of commands whose controllers are found by name, over a token store. -/
def Workshop.ofCommands (find : κ → Controller σ) (session : Execution κ → Option (SessionHandle σ))
    (store : Place σ TokenStore) : Workshop σ κ TokenStore where
  does e := ((e.job.submission.command.withControllers find).execute (session e)).run
  kept := store

namespace Workshop

/-- Between two moments of a run an acquisition stored an account that was not there, in one of its
turns. -/
def StoresBetween (w : Workshop σ κ TokenStore) (x : State σ κ) (key : StoreKey)
    (first last : List (Event σ κ)) : Prop :=
  ∃ (m : List (Event σ κ)) (place : Nat) (e : Execution κ)
      (work : Work σ (Except Failure CommandValue)),
    first <+: m ∧ m ++ [.turn place] <+: last ∧ (w.run x m).underway[place]? = some (e, work) ∧
      e.job.submission.command.operation.acquires = true ∧
      w.kept.Lacks key (w.run x m).around ∧ ¬ w.kept.Lacks key (w.run x (m ++ [.turn place])).around

section Reached

variable {find : κ → Controller σ} {session : Execution κ → Option (SessionHandle σ)}
  {store : Place σ TokenStore} {c : LocalController σ} {settings : Settings} {poster : Poster}
  {registry : Option Registry} {s₀ : σ} {key : StoreKey}

theorem plays_withControllers (plays : ∀ name, c.Plays (find name)) (cmd : Command κ) :
    ∀ k ∈ (cmd.withControllers find).controllers, c.Plays k := by
  intro k hk
  obtain ⟨name, -, rfl⟩ := List.mem_map.mp hk
  exact plays name

/-- An account that is shown was stored at a moment at which the execution was at work. -/
theorem exists_stored (keeps : c.KeepsIn store) (plays : ∀ name, c.Plays (find name))
    (earlier : List (Event σ κ)) {later : List (Event σ κ)} {y : Ended κ}
    (ended : y ∈ chronicle endedBy
      ((ofCommands find session store).run (opened settings poster registry s₀) earlier).dispatcher
      ((ofCommands find session store).inputs
        ((ofCommands find session store).run (opened settings poster registry s₀) earlier) later))
    (tells : y.execution.job.submission.command.operation.tells = true)
    (client : y.execution.job.submission.command.parameters.clientId = key.clientId)
    (shows : y.result.status.Shows key.homeAccountId) :
    ∃ m, m <+: earlier ++ later ∧
      y.execution ∈ ((ofCommands find session store).run (opened settings poster registry s₀)
        m).dispatcher.executions ∧
      ¬ store.Lacks key
        ((ofCommands find session store).run (opened settings poster registry s₀) m).around := by
  refine exists_moment ended
    (Command.while_tells keeps (plays_withControllers plays _) tells client _)
    fun outcome hresult => ?_
  rw [hresult] at shows
  exact exists_of_shows shows

/-- A removal that is told of left the account out at a moment at which the execution was at
work. -/
theorem exists_removed (keeps : c.KeepsIn store) (plays : ∀ name, c.Plays (find name))
    (earlier : List (Event σ κ)) {later : List (Event σ κ)} {y : Ended κ}
    (ended : y ∈ chronicle endedBy
      ((ofCommands find session store).run (opened settings poster registry s₀) earlier).dispatcher
      ((ofCommands find session store).inputs
        ((ofCommands find session store).run (opened settings poster registry s₀) earlier) later))
    (removes : y.execution.job.submission.command.operation.removes = true) {account : Account}
    (asked : y.execution.job.submission.command.parameters.account = some account)
    (told : y.result.status = .completed (.removed true)) :
    ∃ m, m <+: earlier ++ later ∧
      y.execution ∈ ((ofCommands find session store).run (opened settings poster registry s₀)
        m).dispatcher.executions ∧
      store.Lacks ⟨y.execution.job.submission.command.parameters.clientId, account.homeAccountId⟩
        ((ofCommands find session store).run (opened settings poster registry s₀) m).around := by
  let w := ofCommands find session store
  have hdoes : Flow.While _ (fun _ => False) (w.does y.execution) :=
    Command.while_removes keeps (plays_withControllers plays _) removes asked (session y.execution)
  have hremoved : ∀ outcome : Outcome, y.result = resultOf y.execution outcome →
      ∃ v, outcome = .ok (.ok v) ∧ ¬ False := by
    intro outcome hresult
    rw [hresult] at told
    obtain ⟨v, rfl⟩ := exists_of_removed told
    exact ⟨v, rfl, not_false⟩
  obtain ⟨m, hm, hwork, hlacks⟩ := exists_moment ended hdoes hremoved
  exact ⟨m, hm, hwork, not_not.mp hlacks⟩

/-- An account that was not stored at one moment and is stored at a later one was stored by an
acquisition. -/
theorem storesBetween_of_lacks (keeps : c.KeepsIn store) (plays : ∀ name, c.Plays (find name))
    {first last : List (Event σ κ)} (since : first <+: last)
    (lacks : store.Lacks key
      ((ofCommands find session store).run (opened settings poster registry s₀) first).around)
    (stored : ¬ store.Lacks key
      ((ofCommands find session store).run (opened settings poster registry s₀) last).around) :
    (ofCommands find session store).StoresBetween
      (opened settings poster registry s₀) key first last := by
  obtain ⟨later, rfl⟩ := since
  let w := ofCommands find session store
  obtain ⟨m, place, e, work, hm, hp, hbefore, hafter, hchanges⟩ :=
    exists_turn (w := w) (I := fun t => t.find? key = none) lacks stored
  refine ⟨first ++ m, place, e, work, List.prefix_append _ _, ?_, hp, ?_, hbefore, hafter⟩
  · rw [List.append_assoc]
    exact (List.prefix_append_right_inj first).mpr hm
  · by_contra hother
    exact hchanges (Command.upholds keeps (plays_withControllers plays _)
      (Bool.eq_false_of_not_eq_true hother) _)

end Reached

end Workshop

/-! ### What is told -/

section Told

variable {start : Dispatcher κ} {o : Occasion κ} {s : Submission κ} {result : CommandResult}

theorem CommandStatus.eq_of_attributedTo {status : CommandStatus} {correlationId : String}
    {removed : Bool} (h : status.attributedTo correlationId = .completed (.removed removed)) :
    status = .completed (.removed removed) := by
  match status with
  | .completed (.token _) => cases h
  | .completed (.accounts _) | .completed (.removed _) | .completed (.sharedDevice _) | .cancelled
  | .failed _ => exact h

theorem Command.isShareable_of_removes {cmd : Command κ} (h : cmd.operation.removes = true) :
    cmd.isShareable = false := by
  unfold isShareable
  cases ho : cmd.operation <;> first | rfl | (rw [ho] at h; cases h)

theorem command_of_handedIn {cmd : Command κ} (handed : s ∈ o.handedIn start)
    (input : o.input = .submitSilent cmd) : s.command = cmd := by
  rw [Occasion.handedIn, input] at handed
  rw [List.mem_singleton.mp handed]
  rfl

/-- A removal that is told of is that of the command's own execution. -/
theorem Answer.own_of_removed (h : Answer start o s result) (handed : s ∈ o.handedIn start)
    (removes : s.command.operation.removes = true) {correlationId : String}
    (told : (result.attributedTo correlationId).status = .completed (.removed true)) :
    ∃ x ∈ o.endedSince start, x.execution.job.submission = s ∧
      x.result.status = .completed (.removed true) := by
  have hunshared := Command.isShareable_of_removes removes
  cases h with
  | cached input shareable | joined input shareable | refusal input shareable =>
    rw [command_of_handedIn handed input, shareable] at hunshared
    cases hunshared
  | own _ _ ended same => exact ⟨_, ended, same, CommandStatus.eq_of_attributedTo told⟩
  | refused => cases told

/-- The command shares a result: it is the one last stored under its key, or that of an execution of
the key that was not over when the command was handed in. -/
structure SharedFrom (start : Dispatcher κ) (o : Occasion κ) (s : Submission κ) (x : Ended κ)
    (result : CommandResult) : Prop where
  shares : (o.state start).shares o.now o.input = true
  key : x.execution.job.key = some s.command.key
  source :
    ((chronicle endedBy start o.before).filter (·.stores s.command.key)).getLast? = some x ∧
        result = x.result.attributedTo s.command.correlationId ∨
      x ∈ o.endedSince start ∧ x.execution.job ∈ (o.state start).jobs ∧ result = x.result

/-- A result that shows an account comes from an execution: the command's own, or one whose result
it shares. -/
theorem Answer.exists_of_shows {settings : Settings} {poster : Poster} {registry : Option Registry}
    {home : HomeAccountId} (h : Answer (ofSettings settings poster registry) o s result)
    (handed : s ∈ o.handedIn (ofSettings settings poster registry))
    (shows : result.status.Shows home) :
    ∃ x, x ∈ o.endedSince (ofSettings settings poster registry) ∧ x.execution.job.submission = s ∧
        result = x.result ∨
      SharedFrom (ofSettings settings poster registry) o s x result := by
  cases h with
  | @cached cmd r input shareable hit =>
    obtain rfl := command_of_handedIn handed input
    obtain ⟨x, hlatest, rfl, -⟩ := exists_of_hit settings poster registry hit
    obtain ⟨-, hstores⟩ := List.mem_filter.mp (List.mem_of_getLast? hlatest)
    simp only [Ended.stores, Bool.and_eq_true, decide_eq_true_eq] at hstores
    refine ⟨x, .inr ⟨?_, hstores.1, .inl ⟨hlatest, rfl⟩⟩⟩
    rw [input]
    exact shares_of_hit shareable hit
  | @joined cmd x input shareable _ found ended underWay key =>
    obtain rfl := command_of_handedIn handed input
    refine ⟨x, .inr ⟨?_, key, .inr ⟨ended, underWay, rfl⟩⟩⟩
    rw [input]
    exact shares_of_found shareable found
  | own _ _ ended same => exact ⟨_, .inl ⟨ended, same, rfl⟩⟩
  | refusal | refused => cases shows

end Told

/-! ### After the removal -/

namespace Workshop

section Reached

variable {find : κ → Controller σ} {session : Execution κ → Option (SessionHandle σ)}
  {store : Place σ TokenStore} {c : LocalController σ} {settings : Settings} {poster : Poster}
  {registry : Option Registry} {s₀ : σ} {key : StoreKey} {before after : List (Event σ κ)}
  {now : Moment} {i : Input κ} {s : Submission κ}

/-- A removal that was told left the account out while it was at work. -/
theorem exists_removal (keeps : c.KeepsIn store) (plays : ∀ name, c.Plays (find name))
    {account : Account} (handed : s ∈ chronicle handedIn (ofSettings settings poster registry)
      ((ofCommands find session store).inputs (opened settings poster registry s₀) before))
    (removes : s.command.operation.removes = true)
    (asked : s.command.parameters.account = some account) {correlationId : String}
    (told : .called s.ticket correlationId (.completed (.removed true)) ∈
      ((ofCommands find session store).run
        (opened settings poster registry s₀) before).dispatcher.journal) :
    ∃ removed, removed <+: before ∧
      (∃ e ∈ ((ofCommands find session store).run (opened settings poster registry s₀)
        removed).dispatcher.executions, e.job.submission = s) ∧
      store.Lacks ⟨s.command.parameters.clientId, account.homeAccountId⟩
        ((ofCommands find session store).run
          (opened settings poster registry s₀) removed).around := by
  obtain ⟨earlier, now, i, later, hinputs, hin⟩ := mem_chronicle handed
  let o : Occasion κ := ⟨earlier, now, i, later⟩
  have hinputs' :
      (ofCommands find session store).inputs (opened settings poster registry s₀) before =
        o.inputs := hinputs
  have htells := tellsOnly_reached settings poster registry o hin
  rw [dispatcher_run, hinputs'] at told
  obtain ⟨result, hanswer, hstatus⟩ := htells.1 _ _ told
  obtain ⟨x, hx, rfl, hremoved⟩ := hanswer.own_of_removed hin removes hstatus.symm
  have hended : x ∈ chronicle endedBy (ofSettings settings poster registry)
      ((ofCommands find session store).inputs (opened settings poster registry s₀) before) := by
    rw [hinputs']
    exact Occasion.mem_ended hx
  obtain ⟨m, hm, hwork, hlacks⟩ := exists_removed keeps plays [] hended removes asked hremoved
  exact ⟨m, hm, ⟨_, hwork, rfl⟩, hlacks⟩

/-- **A removal takes effect** for what begins after it. Once a removal of an account was told,
there was a moment, while it was at work, at which the account was not stored. If a silent command
of the client that is handed in later is told a token of the account, or a list that has it, then
this is the result of an execution that was at work at a moment up to which an acquisition had
stored the account again; or the command shares the result of an execution that was at work at that
moment of the removal or before. -/
theorem removal_takes_effect (keeps : c.KeepsIn store) (plays : ∀ name, c.Plays (find name))
    (session : Execution κ → Option (SessionHandle σ)) (settings : Settings) (poster : Poster)
    (registry : Option Registry) (s₀ : σ) (before : List (Event σ κ)) {r : Submission κ}
    {account : Account} {correlationId : String} :
    let w := ofCommands find session store
    let start := opened settings poster registry s₀
    let key : StoreKey := ⟨r.command.parameters.clientId, account.homeAccountId⟩
    r ∈ chronicle handedIn start.dispatcher (w.inputs start before) →
      r.command.operation.removes = true →
      r.command.parameters.account = some account →
      .called r.ticket correlationId (.completed (.removed true)) ∈
        (w.run start before).dispatcher.journal →
    ∃ removed, removed <+: before ∧ store.Lacks key (w.run start removed).around ∧
      (∃ e ∈ (w.run start removed).dispatcher.executions, e.job.submission = r) ∧
      ∀ now i after s, s ∈ (w.run start before).dispatcher.handedIn now i →
        s.command.operation.tells = true → s.command.parameters.clientId = key.clientId →
        (w.run start (before ++ .call now i :: after)).dispatcher.TellsOnly s.ticket
          ((w.run start before).dispatcher.futureFor now i) fun result =>
            result.status.Shows account.homeAccountId →
              ∃ (x : Ended κ) (m : List (Event σ κ)), m <+: before ++ .call now i :: after ∧
                x.execution ∈ (w.run start m).dispatcher.executions ∧
                (x.execution.job.submission = s ∧ result = x.result ∧
                    w.StoresBetween start key removed m ∨
                  SharedFrom start.dispatcher (w.occasion start before now i after) s x result ∧
                    (w.StoresBetween start key removed m ∨ m <+: removed)) := by
  intro w start key handed removes asked told
  obtain ⟨removed, hremoved, hremoval, hlacks⟩ :=
    exists_removal keeps plays handed removes asked told
  refine ⟨removed, hremoved, hlacks, hremoval, fun now i after s hs tells client => ?_⟩
  let o := w.occasion start before now i after
  have hbefore : before <+: before ++ .call now i :: after := List.prefix_append _ _
  have hin : s ∈ o.handedIn start.dispatcher := by rwa [handedIn_occasion]
  -- what an execution shows that has ended since was stored while it was at work
  have hsince {x : Ended κ} (hx : x ∈ o.endedSince start.dispatcher)
      (htells : x.execution.job.submission.command.operation.tells = true)
      (hclient : x.execution.job.submission.command.parameters.clientId = key.clientId)
      (shows : x.result.status.Shows account.homeAccountId) :
      ∃ m, m <+: before ++ .call now i :: after ∧
        x.execution ∈ (w.run start m).dispatcher.executions ∧
        ¬ store.Lacks key (w.run start m).around := by
    rw [w.endedSince_occasion start (isOfWork_of_handedIn hs)] at hx
    have hstored := exists_stored keeps plays _ hx htells hclient shows
    rwa [← List.append_cons] at hstored
  refine (w.tellsOnly_call hs).mono fun result hanswer shows => ?_
  obtain ⟨x, ⟨hx, rfl, rfl⟩ | hshared⟩ := hanswer.exists_of_shows hin shows
  · obtain ⟨m, hm, hwork, hstored⟩ := hsince hx tells client shows
    have hlate : removed <+: m := hremoved.trans (w.prefix_of_handedIn hs hwork rfl hm hbefore)
    exact ⟨x, m, hm, hwork,
      .inl ⟨rfl, rfl, storesBetween_of_lacks keeps plays hlate hlacks hstored⟩⟩
  · have hlike {inputs : List (Moment × Input κ)}
        (hx : x ∈ chronicle endedBy start.dispatcher inputs) :
        x.execution.job.submission.command.operation.tells = true ∧
          x.execution.job.submission.command.parameters.clientId = key.clientId := by
      obtain ⟨hoperation, halike⟩ := Command.key_eq_iff.mp (key_of_ended hx hshared.key).2
      exact ⟨hoperation ▸ tells, halike.clientId.trans client⟩
    obtain ⟨m, hm, hwork, hstored⟩ : ∃ m, m <+: before ++ .call now i :: after ∧
        x.execution ∈ (w.run start m).dispatcher.executions ∧
          ¬ store.Lacks key (w.run start m).around := by
      rcases hshared.source with ⟨hlatest, rfl⟩ | ⟨hx, -, rfl⟩
      · have hended := (List.mem_filter.mp (List.mem_of_getLast? hlatest)).1
        obtain ⟨htells, hclient⟩ := hlike hended
        obtain ⟨m, hm, hstored⟩ := exists_stored keeps plays [] hended htells hclient
          (CommandStatus.shows_attributedTo.mp shows)
        exact ⟨m, hm.trans hbefore, hstored⟩
      · obtain ⟨htells, hclient⟩ := hlike (Occasion.mem_ended hx)
        exact hsince hx htells hclient shows
    refine ⟨x, m, hm, hwork, .inr ⟨hshared, ?_⟩⟩
    exact (List.prefix_or_prefix_of_prefix (hremoved.trans hbefore) hm).imp_left fun hlate =>
      storesBetween_of_lacks keeps plays hlate hlacks hstored

end Reached

end Workshop

namespace Rehearsal.OneApp

/-- Tokens of which the access token is good for a while. -/
def lasting : Credentials :=
  { ended with accessToken := some ⟨⟨"at-0"⟩, .empty, Sample.opened, Sample.issued.expiresOn⟩ }

/-- The stage on which they are stored. -/
def furnished : Stage :=
  { (Role.localApp (role [] lasting)).prepare "app" default with clock := ⟨Sample.opened, 0⟩ }

/-- A command for the account. -/
def asking (operation : Operation) (correlationId : String) : Command Unit :=
  { Sample.command operation correlationId with
    parameters := { parameters with correlationId := some correlationId }
    isCorrelated := rfl }

/-- The executions of its commands. -/
def desk : Workshop Stage Unit TokenStore :=
  .ofCommands (fun _ => app.controller) (fun _ => none) store

/-- A command that is handed in, executed and told. -/
def round (ticket : Nat) (now : Moment) (c : Command Unit) : List (Workshop.Event Stage Unit) :=
  [.call now (.submitSilent c), .start now .silent 0, .turn 0, .finish now 0,
    .call now (.endCallback ticket false)]

/-- A token is handed out, and then the account is removed. -/
def signedOut : List (Workshop.Event Stage Unit) :=
  round 0 Sample.begun (asking .acquireSilent "a") ++
    round 1 Sample.returned (asking .removeAccount "b")

/-- Nothing is at work yet. -/
def atFirst : Workshop.State Stage Unit := Workshop.opened .standard .inline none furnished

/-- The token is asked for again. -/
def afterwards : List (Workshop.Event Stage Unit) :=
  signedOut ++ [.call Sample.returnedLater (.submitSilent (asking .acquireSilent "c"))]

/-- The token as it is handed out. -/
def handedOut (correlationId : String) : IssuedToken where
  accessToken := ⟨"at-0"⟩
  expiresOn := Sample.issued.expiresOn
  scopes := .empty
  account := user
  tenantId := none
  idToken := none
  servedFromCache := true
  correlationId := some correlationId

/-- The command that removed the account. -/
def removal : Submission Unit := ⟨1, asking .removeAccount "b", .silent⟩

/-- The token that is handed out after the removal is that of an execution that was at work no later
than the removal, or else it was stored again. -/
theorem removal_takes_effect_signedOut :
    .called 2 "c" (.completed (.token (handedOut "c"))) ∈
        (desk.run atFirst afterwards).dispatcher.journal ∧
      ∃ removed, removed <+: signedOut ∧ store.Lacks key (desk.run atFirst removed).around ∧
        ∃ (x : Ended Unit) (m : List (Workshop.Event Stage Unit)), m <+: afterwards ∧
          x.execution ∈ (desk.run atFirst m).dispatcher.executions ∧
            (desk.StoresBetween atFirst key removed m ∨ m <+: removed) := by
  have htold : .called 2 "c" (.completed (.token (handedOut "c"))) ∈
      (desk.run atFirst afterwards).dispatcher.journal := by decide
  have handed : removal ∈ chronicle handedIn atFirst.dispatcher (desk.inputs atFirst signedOut) :=
    .tail _ (.head _)
  obtain ⟨removed, hremoved, hlacks, -, hlater⟩ := Workshop.removal_takes_effect keepsIn_app
    (fun _ => .atOnce) (fun _ => none) .standard .inline none furnished signedOut handed rfl rfl
    (by decide : .called 1 "b" (.completed (.removed true)) ∈
      (desk.run atFirst signedOut).dispatcher.journal)
  obtain ⟨result, hshown, hstatus⟩ := (hlater Sample.returnedLater
    (.submitSilent (asking .acquireSilent "c")) []
    ⟨2, asking .acquireSilent "c", .silent⟩ (.head _) rfl rfl).1 _ _ htold
  have shows : (result.attributedTo "c").status.Shows user.homeAccountId := by
    rw [← hstatus]
    exact .token rfl
  obtain ⟨x, m, hm, hwork, hmoment⟩ := hshown (CommandStatus.shows_attributedTo.mp shows)
  refine ⟨htold, removed, hremoved, hlacks, x, m, hm, hwork, ?_⟩
  exact hmoment.elim (fun h => .inl h.2.2) (·.2)

/-- After the removal was told nothing is stored and nothing is under way, and the token is handed
out once more. -/
theorem token_after_removal :
    .called 1 "b" (.completed (.removed true)) ∈ (desk.run atFirst signedOut).dispatcher.journal ∧
      (desk.run atFirst signedOut).dispatcher.isQuiet = true ∧
      (store.get (desk.run atFirst signedOut).around).find? key = none ∧
      (store.get (desk.run atFirst afterwards).around).find? key = none ∧
      .called 2 "c" (.completed (.token (handedOut "c"))) ∈
        (desk.run atFirst afterwards).dispatcher.journal := by
  decide

end Rehearsal.OneApp

end SignOn
