import SignOn.Proofs.Command.Ending
import SignOn.Proofs.Dispatch.Answer
import SignOn.Proofs.Identity.Key

/-! # Results that are handed out again

A silent command may be answered with the result of an execution that is over: the one last stored
under its key, as long as it is young (`exists_of_hit`). The lifetime of the cache is all that is
looked at. A token may expire before (`cached_tokens_last`), and a command that insists on a fresh
token is answered so if the last one insisted as well (`forced_refresh`). -/

namespace SignOn

variable {κ : Type}

/-- The command asks for a token and insists on a fresh one. -/
structure Command.IsForced (c : Command κ) : Prop where
  silent : c.operation = .acquireSilent
  forced : c.parameters.forceRefresh = true

theorem Command.IsForced.of_key {a b : Command κ} (h : a.IsForced) (hkey : b.key = a.key) :
    b.IsForced := by
  obtain ⟨hoperation, halike⟩ := Command.key_eq_iff.mp hkey
  exact ⟨hoperation.trans h.silent, halike.forceRefresh.trans h.forced⟩

theorem Command.isShareable_of_silent {c : Command κ} (h : c.operation = .acquireSilent) :
    c.isShareable = true := by
  rw [isShareable, h]
  rfl

/-! ### Answers by what the look-up finds -/

section Answer

variable {start : Dispatcher κ} {o : Occasion κ} {s : Submission κ} {c : Command κ}
  {r : CommandResult}

/-- Where the look-up finds a result, this is the answer. -/
theorem Answer.of_hit {cached : CommandResult} (h : Answer start o s r)
    (input : o.input = .submitSilent c) (shareable : c.isShareable = true)
    (hit : ((o.state start).results.get c.key o.now).1 = some cached) :
    r = cached.attributedTo c.correlationId := by
  cases h with
  | cached input' _ hit' =>
    obtain rfl := Input.submitSilent.inj (input.symm.trans input')
    rw [Option.some.inj (hit.symm.trans hit')]
  | joined input' _ missed | refusal input' _ missed =>
    obtain rfl := Input.submitSilent.inj (input.symm.trans input')
    rw [hit] at missed
    cases missed
  | own alone | refused alone =>
    rw [input, Dispatcher.shares_of_hit shareable hit] at alone
    cases alone

/-- Where the look-up finds nothing, the answer comes from an execution that was not over, or is a
rejection: that of the command itself, on a lane that takes no commands, or one that is being told
under its key. -/
theorem Answer.of_missed (h : Answer start o s r) (input : o.input = .submitSilent c)
    (shareable : c.isShareable = true)
    (missed : ((o.state start).results.get c.key o.now).1 = none) :
    (∃ x ∈ o.endedSince start, r = x.result ∧ (x.execution.job.submission = s ∨
      x.execution.job ∈ (o.state start).jobs ∧ x.execution.job.key = some c.key)) ∨
    (((o.state start).lane s.lane).accepting = false ∧
      (o.state start).inFlight.lookup c.key = none ∧ r = Dispatcher.rejected s) ∨
    ∃ s' ∈ Dispatcher.chronicle Dispatcher.refusedBy start o.before, s'.command.key = c.key ∧
      (∃ x ∈ (o.state start).strands, x.ending.key = some c.key) ∧ r = Dispatcher.rejected s' := by
  cases h with
  | cached input' _ hit =>
    obtain rfl := Input.submitSilent.inj (input.symm.trans input')
    rw [missed] at hit
    cases hit
  | joined input' _ _ _ ended underWay key =>
    obtain rfl := Input.submitSilent.inj (input.symm.trans input')
    exact .inl ⟨_, ended, rfl, .inr ⟨underWay, key⟩⟩
  | refusal input' _ _ _ refused key telling ending =>
    obtain rfl := Input.submitSilent.inj (input.symm.trans input')
    exact .inr (.inr ⟨_, refused, key, ⟨_, telling, ending⟩, rfl⟩)
  | own _ _ ended same => exact .inl ⟨_, ended, rfl, .inl same⟩
  | refused alone closed =>
    refine .inr (.inl ⟨closed, ?_, rfl⟩)
    rw [input] at alone
    simpa [Dispatcher.shares, shareable, missed] using alone

end Answer

namespace Dispatcher

variable (settings : Settings) (poster : Poster) (registry : Option Registry)

/-- **What a look-up finds** is the result of the last execution of the key that was stored, less
than the lifetime of the cache ago. -/
theorem exists_of_hit {before : List (Moment × Input κ)} {now : Moment} {k : CommandKey}
    {r : CommandResult}
    (hit : (((ofSettings settings poster registry : Dispatcher κ).run before).results.get k now).1
      = some r) :
    ∃ x, ((chronicle endedBy (ofSettings settings poster registry) before).filter
        (·.stores k)).getLast? = some x ∧ x.result = r ∧
      now.since x.moment < settings.resultCacheTtl.nanos ∧
      x.execution.job.submission.command.key = k := by
  obtain ⟨m, hstored, hfresh⟩ := ResultCache.get_eq_some_iff.mp hit
  obtain ⟨x, hlatest, rfl, rfl⟩ := kept_reached settings poster registry before _ _ _ hstored
  rw [ttl_run] at hfresh
  obtain ⟨hmem, hstores⟩ := List.mem_filter.mp (List.mem_of_getLast? hlatest)
  simp only [Ended.stores, Bool.and_eq_true, decide_eq_true_eq] at hstores
  exact ⟨x, hlatest, rfl, hfresh, (key_of_ended hmem hstores.1).2⟩

/-- A result that was stored is found as long as it is young, unless a later one took its place or a
step dropped it. -/
theorem hit_of_stored {before since : List (Moment × Input κ)} {m now : Moment} {i : Input κ}
    {x : Ended κ} {k : CommandKey}
    (ended : x ∈ ((ofSettings settings poster registry : Dispatcher κ).run before).endedBy m i)
    (stores : x.stores k = true)
    (last : ∀ y ∈ chronicle endedBy ((ofSettings settings poster registry).run
        (before ++ [(m, i)])) since, y.execution.job.key ≠ some k)
    (stays : ∀ b t j a, since = b ++ (t, j) :: a →
      ¬ ((ofSettings settings poster registry : Dispatcher κ).run
        (before ++ (m, i) :: b)).Drops t k j)
    (young : now.since m < settings.resultCacheTtl.nanos) :
    (((ofSettings settings poster registry : Dispatcher κ).run
        (before ++ (m, i) :: since)).results.get k now).1 = some x.result := by
  obtain ⟨ticket, outcome, rfl, hresult, -, found⟩ := endedBy_cases ended
  simp only [Ended.stores, Bool.and_eq_true, decide_eq_true_eq] at stores
  have hstored := stored_finish m found stores.1 (hresult ▸ stores.2)
  rw [← run_concat] at hstored
  refine ResultCache.get_eq_some_iff.mpr ⟨m, ?_, by rwa [ttl_run]⟩
  rw [List.append_cons, run_append, hresult]
  rcases stored_run since hstored last with hstill | ⟨b, t, j, a, rfl, hdrops⟩
  · exact hstill
  · refine absurd hdrops ?_
    rw [← run_append, ← List.append_cons]
    exact stays b t j a rfl

/-! ### Tokens from the cache -/

/-- **A token from the result cache** was given less than the lifetime of the cache ago, and nothing
else is asked of it: it is handed out as long as it is stored and young, whenever it expires. So it
has not expired when it is handed out if, when its execution ended, it had the lifetime of the cache
to go; in general it may have expired by what it fell short of this. -/
theorem cached_tokens_last (before : List (Moment × Input κ)) :
    let start : Dispatcher κ := ofSettings settings poster registry
    (∀ (now : Moment) (c : Command κ) (after : List (Moment × Input κ)) (r : CommandResult),
      c.operation = .acquireSilent → ((start.run before).results.get c.key now).1 = some r →
      let asked := start.run before
      let d := start.run (before ++ (now, .submitSilent c) :: after)
      d.TellsOnly asked.stats.submitted (some (asked.submitSilent c now).1)
          (· = r.attributedTo c.correlationId) ∧
        ∃ x, ((chronicle endedBy start before).filter (·.stores c.key)).getLast? = some x ∧
          x.result = r ∧ x.execution.job.submission.command.key = c.key ∧
          now.since x.moment < settings.resultCacheTtl.nanos ∧
          ∀ issued, r.status = .completed (.token issued) →
            (r.attributedTo c.correlationId).status = .completed
              (.token { issued with correlationId := some c.correlationId }) ∧
            issued.expiresOn.since x.moment
              < issued.expiresOn.since now + settings.resultCacheTtl.nanos ∧
            (settings.resultCacheTtl.nanos ≤ issued.expiresOn.since x.moment →
              0 < issued.expiresOn.since now)) ∧
    ∀ earlier m i since x k, before = earlier ++ (m, i) :: since →
      x ∈ (start.run earlier).endedBy m i →
      x.stores k = true →
      (∀ y ∈ chronicle endedBy (start.run (earlier ++ [(m, i)])) since,
        y.execution.job.key ≠ some k) →
      (∀ b t j a, since = b ++ (t, j) :: a → ¬ (start.run (earlier ++ (m, i) :: b)).Drops t k j) →
      ∀ now : Moment, now.since m < settings.resultCacheTtl.nanos →
        ((start.run before).results.get k now).1 = some x.result := by
  intro start
  refine ⟨fun now c after r silent hit => ⟨?_, ?_⟩,
    fun earlier m i since x k hsplit ended stores last stays now young => ?_⟩
  · have hin :
        (start.run before).next c .silent ∈ (start.run before).handedIn now (.submitSilent c) :=
      List.mem_singleton_self _
    let o : Occasion κ := ⟨before, now, .submitSilent c, after⟩
    exact (tellsOnly_reached settings poster registry o hin).mono fun r' h =>
      h.of_hit rfl (Command.isShareable_of_silent silent) hit
  · obtain ⟨x, hlatest, hresult, hyoung, hkey⟩ := exists_of_hit settings poster registry hit
    refine ⟨x, hlatest, hresult, hkey, hyoung, fun issued hissued => ⟨?_, ?_⟩⟩
    · rw [CommandResult.attributedTo, hissued]
      rfl
    · simp only [Moment.since] at hyoung ⊢
      omega
  · subst hsplit
    exact hit_of_stored settings poster registry ended stores last stays young

end Dispatcher

namespace Sample

/-- The parameters of a request that insists on a fresh token. -/
def insisting (correlationId : String) : Parameters :=
  { parameters correlationId with forceRefresh := true }

/-- The command for a token with its parameters. -/
def asking (p : Parameters) (correlationId : String) (h : p.correlationId = some correlationId) :
    Command Unit :=
  { command .acquireSilent correlationId with parameters := p, isCorrelated := h }

/-- A command for a token that is served with a token of a given expiry. -/
def servedRun (c : Command Unit) (expiresOn : Moment) : List (Moment × Input Unit) :=
  [(second 0, .submitSilent c),
    (second 1, .startJob .silent 0),
    (second 2, .finishJob 0 (.ok (.ok (.acquisition (.ofIssued { issued with expiresOn }))))),
    (second 2, .endCallback 0 false)]

end Sample

namespace Dispatcher

theorem cached_tokens_last_servedRun :
    let start : Dispatcher Unit := ofSettings .standard .inline none
    let before := Sample.servedRun (Sample.command .acquireSilent "a") (Sample.second 900)
    let c := Sample.command .acquireSilent "b"
    let d := start.run (before ++ [(Sample.second 20, .submitSilent c)])
    let issued := { Sample.issued with correlationId := some "a" }
    ∃ r, ((start.run before).results.get c.key (Sample.second 20)).1 = some r ∧
      r.status = .completed (.token issued) ∧ 0 < issued.expiresOn.since (Sample.second 20) ∧
      ∀ correlationId status, .called 1 correlationId status ∈ d.journal →
        ∃ r', r' = r.attributedTo "b" ∧ status = (r'.attributedTo correlationId).status := by
  intro start before c d issued
  let outcome : Outcome := .ok (.ok (.acquisition (.ofIssued Sample.issued)))
  obtain ⟨htold, hstored⟩ := cached_tokens_last .standard .inline none before
  obtain ⟨e, hfound⟩ : ∃ e, (start.run (before.take 2)).executions.find?
      (fun e => e.job.submission.ticket = 0) = some e := ⟨_, rfl⟩
  have hended : ⟨e, resultOf e outcome, Sample.second 2⟩
      ∈ (start.run (before.take 2)).endedBy (Sample.second 2) (.finishJob 0 outcome) := by
    rw [endedBy_finished hfound]
    exact List.mem_singleton_self _
  have hstays : ∀ b t j a, before.drop 3 = b ++ (t, j) :: a →
      ¬ (start.run (before.take 2 ++ (Sample.second 2, .finishJob 0 outcome) :: b)).Drops t
        c.key j := by
    rintro (_ | ⟨y, b⟩) t j a hsplit hdrops
    · obtain ⟨rfl, rfl⟩ := Prod.mk.inj (List.cons.inj hsplit).1
      cases hdrops
    · simp [before, Sample.servedRun] at hsplit
  have hit := hstored (before.take 2) (Sample.second 2) _ (before.drop 3) _ c.key rfl hended
    (by obtain rfl := Option.some.inj hfound; decide)
    (by simp [before, Sample.servedRun, chronicle, endedBy]) hstays (Sample.second 20) (by decide)
  have hstatus : (resultOf e outcome).status = .completed (.token issued) := by
    obtain rfl := Option.some.inj hfound
    rfl
  obtain ⟨htells, x, hlatest, -, -, -, hlasts⟩ := htold (Sample.second 20) c [] _ rfl hit
  have hmoment : x.moment = Sample.second 2 := by
    have heq : ((chronicle endedBy start before).filter (·.stores c.key)).getLast?.map (·.moment)
        = some (Sample.second 2) := by decide
    rw [hlatest] at heq
    exact Option.some.inj heq
  obtain ⟨-, -, hlast⟩ := hlasts issued hstatus
  exact ⟨_, hit, hstatus, hlast (by rw [hmoment]; decide), htells.1⟩

/-- A token that expires ten seconds after its execution has ended, and is handed out eight seconds
after it has expired. -/
theorem expired_token_from_cache :
    let start : Dispatcher Unit := ofSettings .standard .inline none
    let before := Sample.servedRun (Sample.command .acquireSilent "a") (Sample.second 12)
    let d :=
      start.run (before ++ [(Sample.second 20, .submitSilent (Sample.command .acquireSilent "b"))])
    Settings.standard.problem? = none ∧ 0 < (Sample.second 12).since (Sample.second 2) ∧
      (Sample.second 12).since (Sample.second 20) < 0 ∧ d.stats.cacheHits = 1 ∧
      .called 1 "b" (.completed (.token
        { Sample.issued with expiresOn := Sample.second 12, correlationId := some "b" })) ∈
          d.journal := by
  decide

/-! ### Commands that insist -/

variable (settings : Settings) (poster : Poster) (registry : Option Registry)

/-- **A forced refresh** is answered by an execution that was not over, unless the last one that was
forced is still in the result cache. Where the look-up finds nothing, the result is that of its own
execution or of one of its key, forced as well, that was waiting or at work when the command was
handed in; otherwise the lane took no commands, or a command of its key is just being told so, and
the result is this rejection. Where it finds a result, the command is told it, and it comes from an
execution that was forced and is over. Once all is settled and no callback broke off, the command
has been told. -/
theorem forced_refresh (before : List (Moment × Input κ)) (now : Moment) (c : Command κ)
    (after : List (Moment × Input κ)) (forced : c.IsForced) :
    let start : Dispatcher κ := ofSettings settings poster registry
    let asked := start.run before
    let o : Occasion κ := ⟨before, now, .submitSilent c, after⟩
    let s := asked.next c .silent
    let d := start.run o.inputs
    let n := (asked.submitSilent c now).1
    ((asked.results.get c.key now).1 = none → d.TellsOnly s.ticket (some n) fun r =>
      (∃ x ∈ o.endedSince start, r = x.result ∧ x.execution.job.submission.command.IsForced ∧
        (x.execution.job.submission = s ∨
          x.execution.job ∈ asked.jobs ∧ x.execution.job.key = some c.key)) ∨
      (asked.silent.accepting = false ∧ asked.inFlight.lookup c.key = none ∧ r = rejected s) ∨
      ∃ s' ∈ chronicle refusedBy start before, s'.command.key = c.key ∧
        (∃ x ∈ asked.strands, x.ending.key = some c.key) ∧ r = rejected s') ∧
    (∀ r, (asked.results.get c.key now).1 = some r →
      d.TellsOnly s.ticket (some n) (· = r.attributedTo c.correlationId) ∧
        ∃ x, ((chronicle endedBy start before).filter (·.stores c.key)).getLast? = some x ∧
          x.result = r ∧ now.since x.moment < settings.resultCacheTtl.nanos ∧
          x.execution.job.submission.command.IsForced) ∧
    ((∀ i ∈ o.inputs, i.2.IsCalm) → d.IsSettled →
      ∃ status, .called s.ticket c.correlationId status ∈ d.journal) := by
  intro start asked o s d n
  have hin : s ∈ asked.handedIn now (.submitSilent c) := List.mem_singleton_self _
  have hshareable := Command.isShareable_of_silent forced.silent
  have htells := tellsOnly_reached settings poster registry o hin
  refine ⟨fun missed => htells.mono fun r h => ?_, fun r hit => ⟨htells.mono fun r' h =>
    h.of_hit rfl hshareable hit, ?_⟩, fun hcalm hsettled => ?_⟩
  · rcases h.of_missed rfl hshareable missed with ⟨x, hx, hr, hjob⟩ | hrefused | hrefusal
    · refine .inl ⟨x, hx, hr, ?_, hjob⟩
      rcases hjob with hsame | ⟨-, hkey⟩
      · rw [hsame]
        exact forced
      · exact forced.of_key (key_of_ended (Occasion.mem_ended hx) hkey).2
    · exact .inr (.inl hrefused)
    · exact .inr (.inr hrefusal)
  · obtain ⟨x, hlatest, hresult, hyoung, hkey⟩ := exists_of_hit settings poster registry hit
    exact ⟨x, hlatest, hresult, hyoung, forced.of_key hkey⟩
  · refine called_of_served (served_of_settled settings poster registry hcalm hsettled s ?_)
    unfold Occasion.inputs
    rw [chronicle_append]
    exact List.mem_append_right _ (List.mem_append_left _ hin)

theorem forced_refresh_servedRun :
    let start : Dispatcher Unit := ofSettings .standard .inline none
    let c := Sample.asking (Sample.insisting "a") "a" rfl
    let o : Occasion Unit :=
      ⟨[], Sample.second 0, .submitSilent c, (Sample.servedRun c (Sample.second 900)).tail⟩
    c.IsForced ∧ ∃ status, .called 0 "a" status ∈ (start.run o.inputs).journal ∧
      ∃ x ∈ o.endedSince start, x.execution.job.submission = start.next c .silent ∧
        status = (x.result.attributedTo "a").status := by
  intro start c o
  have hforced : c.IsForced := ⟨rfl, rfl⟩
  obtain ⟨hmissed, -, hcalled⟩ := forced_refresh .standard .inline none [] (Sample.second 0) c
    (Sample.servedRun c (Sample.second 900)).tail hforced
  obtain ⟨status, hstatus⟩ := hcalled
    (by simp [Occasion.inputs, Sample.servedRun, Input.IsCalm]) (isSettled_of_isQuiet (by decide))
  obtain ⟨r, hr, rfl⟩ := (hmissed (by decide)).1 _ _ hstatus
  rcases hr with ⟨x, hx, rfl, -, hjob⟩ | ⟨hclosed, -⟩ | ⟨s', hs', -⟩
  · refine ⟨hforced, _, hstatus, x, hx, ?_, rfl⟩
    rcases hjob with hsame | ⟨hold, -⟩
    · exact hsame
    · exact absurd hold (Multiset.notMem_zero _)
  · cases hclosed
  · cases hs'

/-- Two commands that insist on a fresh token, one after the other: when the second is handed in
nothing is under way, and it is told the token of the first at once. -/
theorem forced_refresh_from_cache :
    let start : Dispatcher Unit := ofSettings .standard .inline none
    let first := Sample.asking (Sample.insisting "a") "a" rfl
    let second := Sample.asking (Sample.insisting "b") "b" rfl
    let before := Sample.servedRun first (Sample.second 900)
    let d := start.run (before ++ [(Sample.second 20, .submitSilent second)])
    second.IsForced ∧ (start.run before).silent.accepting = true ∧
      (start.run before).isQuiet = true ∧ d.executions.isEmpty = true ∧
      .called 1 "b" (.completed (.token { Sample.issued with correlationId := some "b" })) ∈
        d.journal := by
  refine ⟨⟨rfl, rfl⟩, ?_⟩
  decide

end Dispatcher

end SignOn
