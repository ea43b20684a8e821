import SignOn.Proofs.Dispatch.Ledger
import SignOn.Proofs.Dispatch.ResultCache

/-! # Results that are kept

The result cache of a dispatcher changes in three steps: a shareable command looks for a result, an
execution under a key ends, the cache is cleared. What the cache holds under a key is the result of
the last execution of the key whose result could be stored (`kept_reached`). It stays there until
the next execution of the key ends, or a step drops it (`stored_run`): the cache is cleared, a
look-up finds the result too old, or another one needs the room (`Drops`). -/

namespace SignOn

variable {κ : Type}

/-- An execution that has ended, with its result and the moment. -/
structure Ended (κ : Type) where
  execution : Execution κ
  result : CommandResult
  moment : Moment

/-- Has the execution a key under which its result may be stored? -/
def Ended.stores (x : Ended κ) (k : CommandKey) : Bool :=
  x.execution.job.key = some k && x.result.status.isCacheable

namespace Dispatcher

variable {d d' : Dispatcher κ} {t t' : Task κ}

/-- The execution that a step ends. -/
def endedBy (d : Dispatcher κ) (now : Moment) : Input κ → List (Ended κ)
  | .finishJob ticket outcome =>
    ((d.executions.find? fun e => e.job.submission.ticket = ticket).map
      fun e => ⟨e, resultOf e outcome, now⟩).toList
  | _ => []

/-- The steps that drop what is stored under a key: the cache is cleared, a look-up finds the value
too old, or another value needs the room. -/
inductive Drops (d : Dispatcher κ) (now : Moment) (k : CommandKey) : Input κ → Prop
  | cleared : Drops d now k .clearResults
  | expired {c v m} (asks : c.isShareable = true ∧ c.key = k)
      (stored : d.results.stored k = some (v, m)) (old : d.results.ttl.nanos ≤ now.since m) :
      Drops d now k (.submitSilent c)
  | evicted {ticket outcome e k'}
      (found : d.executions.find? (fun e => e.job.submission.ticket = ticket) = some e)
      (key : e.job.key = some k') (stores : (resultOf e outcome).status.isCacheable = true)
      (evicts : d.results.Evicts k' k) : Drops d now k (.finishJob ticket outcome)

theorem endedBy_finished {now : Moment} {ticket : Nat} {outcome : Outcome} {e : Execution κ}
    (found : d.executions.find? (fun e => e.job.submission.ticket = ticket) = some e) :
    d.endedBy now (.finishJob ticket outcome) = [⟨e, resultOf e outcome, now⟩] := by
  rw [endedBy, found]
  rfl

/-- An opening takes away the job whose execution it ends, and no other. -/
theorem jobs_of_opening {now : Moment} {i : Input κ} (ho : Opening d now i d' t)
    (hd : d.Numbered) (hn : (d.executions.map fun e => e.job.submission.ticket).Nodup) :
    d.jobs = (((d.endedBy now i).map fun x => x.execution.job : List (Job κ)) : Multiset (Job κ))
      + d'.jobs := by
  have hsame (h : d'.jobs = d.jobs) : d.jobs = (([] : List (Job κ)) : Multiset (Job κ)) + d'.jobs :=
    h.symm.trans (zero_add _).symm
  cases ho with
  | answered | joined | joinedLate | launched | alone | forgotten | continuation | cleared | expired
  | stopped | reset | shutDown | closed | ended | ran => exact hsame (jobs_congr rfl rfl rfl)
  | begun => exact hsame (by rw [makeWay_eq]; exact jobs_congr rfl rfl rfl)
  | reopened => exact hsame (jobs_congr rfl (Lane.waiting_reopen _) rfl)
  | waits | idle | noStrand | nonePosted => exact hsame rfl
  | startedSilent taken => exact hsame (jobs_started .silent hd taken rfl rfl rfl rfl)
  | startedInteractive taken => exact hsame (jobs_started .interactive hd taken rfl rfl rfl rfl)
  | broke => exact hsame ((jobs_breakOff _ _).trans (jobs_congr rfl rfl rfl))
  | @finished ticket outcome e found =>
    rw [endedBy_finished found]
    obtain rfl := ticket_of_found found
    exact (jobs_executed hn found _ now).trans (Multiset.singleton_add _ _).symm
  | unfinished missing =>
    rw [endedBy, missing]
    exact hsame rfl

/-! ### What touches the cache -/

theorem results_move (hm : Move d t d' t') : d'.results = d.results := by
  cases hm with
  | queue => rw [withLane_eq]
  | reject | post | call => rfl
  | free => rw [freeWorker_eq]
  | settle =>
    rw [settle_eq]

theorem results_perform (d : Dispatcher κ) (t : Task κ) : (d.perform t).results = d.results :=
  perform_keeps (I := fun d' _ => d'.results = d.results)
    (fun hm h => (results_move hm).trans h) rfl

theorem results_submit {c : Command κ} {now : Moment} (ho : Opening d now (.submitSilent c) d' t) :
    d'.results = if c.isShareable then (d.results.get c.key now).2 else d.results := by
  cases ho with
  | answered shareable | joined shareable | joinedLate shareable | launched shareable =>
    rw [if_pos shareable]
    rfl
  | alone unshareable =>
    rw [if_neg (by simp [unshareable])]
    rfl

theorem results_finish (d : Dispatcher κ) (e : Execution κ) (result : CommandResult)
    (now : Moment) :
    (d.executed e result now).results =
      match e.job.key with
      | none => d.results
      | some k => if result.status.isCacheable then d.results.put k result now else d.results := by
  rw [executed_eq]
  cases e.job.key with
  | none => rfl
  | some k => simp only [keepResult_some]

/-- Which steps touch the result cache. -/
theorem results_opening {now : Moment} {i : Input κ} (ho : Opening d now i d' t) :
    d'.results = d.results ∧ d.endedBy now i = [] ∨ i = .clearResults ∨ (∃ c, i = .submitSilent c) ∨
      ∃ ticket outcome, i = .finishJob ticket outcome := by
  cases ho with
  | answered | joined | joinedLate | launched | alone => exact .inr (.inr (.inl ⟨_, rfl⟩))
  | cleared => exact .inr (.inl rfl)
  | finished | unfinished => exact .inr (.inr (.inr ⟨_, _, rfl⟩))
  | begun => rw [makeWay_eq]; exact .inl ⟨rfl, rfl⟩
  | broke => rw [breakOff_eq]; exact .inl ⟨rfl, rfl⟩
  | _ => exact .inl ⟨rfl, rfl⟩

/-! ### What is stored -/

/-- The end of an execution that others may share stores its result, if this may be stored. -/
theorem stored_finish {ticket : Nat} {outcome : Outcome} {e : Execution κ} {k : CommandKey}
    (now : Moment)
    (found : d.executions.find? (fun e => e.job.submission.ticket = ticket) = some e)
    (key : e.job.key = some k) (stores : (resultOf e outcome).status.isCacheable = true) :
    (d.step now (.finishJob ticket outcome)).results.stored k = some (resultOf e outcome, now) := by
  obtain ⟨d', t, ho, he⟩ := step_opening d now (.finishJob ticket outcome)
  rw [he, results_perform]
  cases ho with
  | unfinished missing => rw [found] at missing; cases missing
  | @finished _ _ e' found' =>
    obtain rfl : e' = e := Option.some.inj (found'.symm.trans found)
    rw [results_finish, key]
    simp only [stores, if_true]
    exact ResultCache.stored_put_self _ _ _ _

/-- **What is stored stays stored**, unless it is replaced or dropped. -/
theorem stored_step {now : Moment} {i : Input κ} {k : CommandKey} {v : CommandResult} {m : Moment}
    (h : d.results.stored k = some (v, m))
    (hc : ∀ x ∈ d.endedBy now i, x.execution.job.key ≠ some k) (hd : ¬ d.Drops now k i) :
    (d.step now i).results.stored k = some (v, m) := by
  obtain ⟨d', t, ho, he⟩ := step_opening d now i
  rw [he, results_perform]
  rcases results_opening ho with ⟨hsame, -⟩ | rfl | ⟨c, rfl⟩ | ⟨ticket, outcome, rfl⟩
  · rw [hsame]; exact h
  · exact absurd .cleared hd
  · rw [results_submit ho]
    by_cases hs : c.isShareable = true
    · rw [if_pos hs]
      by_cases hk : c.key = k
      · subst hk
        rcases hg : (d.results.get c.key now).1 with _ | v'
        · refine absurd (.expired ⟨hs, rfl⟩ h ?_) hd
          by_contra hlive
          have hlt : now.since m < d.results.ttl.nanos := by omega
          have hfound := ResultCache.get_eq_some_iff.mpr ⟨m, h, hlt⟩
          rw [hg] at hfound
          cases hfound
        · rw [ResultCache.stored_get_of_some hg]; exact h
      · rw [ResultCache.stored_get_of_ne (Ne.symm hk)]; exact h
    · rw [if_neg hs]; exact h
  · cases ho with
    | unfinished => exact h
    | @finished _ _ e found =>
      rw [endedBy_finished found] at hc
      rw [results_finish]
      cases hkey : e.job.key with
      | none => exact h
      | some k' =>
        have hne : k ≠ k' := fun hk => hc _ (List.mem_singleton_self _) (hk ▸ hkey)
        simp only
        split
        · rename_i hcache
          rcases ResultCache.stored_put_of_ne (c := d.results) hne (resultOf e outcome) now with
            hput | ⟨hevicts, -⟩
          · rw [hput]; exact h
          · exact absurd (.evicted found hkey hcache hevicts) hd
        · exact h

/-- What is stored stays stored over a run in which no execution of its key ends, unless a step
drops it. -/
theorem stored_run {k : CommandKey} {v : CommandResult} {m : Moment} :
    ∀ (inputs : List (Moment × Input κ)) {d : Dispatcher κ}, d.results.stored k = some (v, m) →
      (∀ x ∈ chronicle endedBy d inputs, x.execution.job.key ≠ some k) →
        (d.run inputs).results.stored k = some (v, m) ∨
          ∃ before now i after, inputs = before ++ (now, i) :: after ∧ (d.run before).Drops now k i
  | [], _, h, _ => .inl h
  | (now, i) :: inputs, d, h, hc => by
    by_cases hd : d.Drops now k i
    · exact .inr ⟨[], now, i, inputs, rfl, hd⟩
    · rw [chronicle] at hc
      have hstep := stored_step h (fun x hx => hc x (List.mem_append_left _ hx)) hd
      rcases stored_run inputs hstep fun x hx => hc x (List.mem_append_right _ hx) with
        hrun | ⟨before, now', i', after, rfl, hdrop⟩
      · exact .inl hrun
      · exact .inr ⟨(now, i) :: before, now', i', after, rfl, hdrop⟩

theorem ttl_step (d : Dispatcher κ) (now : Moment) (i : Input κ) :
    (d.step now i).results.ttl = d.results.ttl := by
  obtain ⟨d', t, ho, he⟩ := step_opening d now i
  rw [he, results_perform]
  rcases results_opening ho with ⟨hsame, -⟩ | rfl | ⟨c, rfl⟩ | ⟨ticket, outcome, rfl⟩
  · rw [hsame]
  · cases ho; rfl
  · rw [results_submit ho]
    split
    · exact ResultCache.ttl_get _ _ _
    · rfl
  · cases ho with
    | unfinished => rfl
    | finished =>
      rw [results_finish]
      split
      · rfl
      · split <;> rfl

theorem ttl_run : ∀ (inputs : List (Moment × Input κ)) (d : Dispatcher κ),
    (d.run inputs).results.ttl = d.results.ttl
  | [], _ => rfl
  | (now, i) :: inputs, d => (ttl_run inputs (d.step now i)).trans (ttl_step d now i)

/-- The result with which an execution ended, after which the dispatcher was `d`, is of no use any
more: it could not be stored, it is too old, or it was dropped since. -/
def IsSpent (d : Dispatcher κ) (since : List (Moment × Input κ)) (now : Moment) (k : CommandKey)
    (x : Ended κ) : Prop :=
  x.result.status.isCacheable = false ∨ d.results.ttl.nanos ≤ now.since x.moment ∨
    ∃ before t i after, since = before ++ (t, i) :: after ∧ (d.run before).Drops t k i

theorem endedBy_cases {now : Moment} {i : Input κ} {x : Ended κ} (h : x ∈ d.endedBy now i) :
    ∃ ticket outcome, i = .finishJob ticket outcome ∧ x.result = resultOf x.execution outcome ∧
      x.moment = now ∧
      d.executions.find? (fun e => e.job.submission.ticket = ticket) = some x.execution := by
  cases i with
  | finishJob ticket outcome =>
    rw [endedBy, Option.mem_toList, Option.map_eq_some_iff] at h
    obtain ⟨e, found, rfl⟩ := h
    exact ⟨ticket, outcome, rfl, rfl, rfl, found⟩
  | _ => cases h

/-- Where a look-up finds nothing, the result of the last execution of the key is spent. -/
theorem isSpent_of_missed {now t : Moment} {i : Input κ} {k : CommandKey} {x : Ended κ}
    {since : List (Moment × Input κ)} (hx : x ∈ d.endedBy t i) (key : x.execution.job.key = some k)
    (last : ∀ y ∈ chronicle endedBy (d.step t i) since, y.execution.job.key ≠ some k)
    (missed : (((d.step t i).run since).results.get k now).1 = none) :
    (d.step t i).IsSpent since now k x := by
  obtain ⟨ticket, outcome, rfl, hresult, rfl, found⟩ := endedBy_cases hx
  by_cases hcache : x.result.status.isCacheable = true
  · have hstored := stored_finish x.moment found key (hresult ▸ hcache)
    rcases stored_run since hstored last with hstill | hdropped
    · refine .inr (.inl ?_)
      by_contra hlive
      have hlt : now.since x.moment <
          ((d.step x.moment (.finishJob ticket outcome)).run since).results.ttl.nanos := by
        rw [ttl_run]
        omega
      have hfound := ResultCache.get_eq_some_iff.mpr ⟨x.moment, hstill, hlt⟩
      rw [missed] at hfound
      cases hfound
    · exact .inr (.inr hdropped)
  · exact .inl (by simpa using hcache)

/-! ### What was stored -/

/-- What is stored under a key comes from the last execution of the key whose result could be
stored. -/
def Kept (ended : List (Ended κ)) (d : Dispatcher κ) : Prop :=
  ∀ k v m, d.results.stored k = some (v, m) →
    ∃ x, (ended.filter (·.stores k)).getLast? = some x ∧ x.result = v ∧ x.moment = m

variable {ended : List (Ended κ)}

theorem Kept.mono (h : Kept ended d) (hs : ∀ k v m, d'.results.stored k = some (v, m) →
    d.results.stored k = some (v, m)) : Kept ended d' :=
  fun k v m hk => h k v m (hs k v m hk)

/-- A result that is not stored under a key changes nothing for the key. -/
theorem filter_stores_of_not {x : Ended κ} {k : CommandKey} (h : x.stores k = false) :
    (ended ++ [x]).filter (·.stores k) = ended.filter (·.stores k) := by
  simp [List.filter_append, h]

theorem Kept.finish (h : Kept ended d) (e : Execution κ) (result : CommandResult) (now : Moment)
    (hr : d'.results = match e.job.key with
      | none => d.results
      | some k => if result.status.isCacheable then d.results.put k result now else d.results) :
    Kept (ended ++ [⟨e, result, now⟩]) d' := by
  intro k v m hk
  rw [hr] at hk
  -- the new result is the last of its own key; another key keeps its last one, or is evicted
  by_cases hs : Ended.stores ⟨e, result, now⟩ k = true
  · obtain ⟨hkey, hcache⟩ : e.job.key = some k ∧ result.status.isCacheable = true := by
      simpa [Ended.stores] using hs
    rw [hkey] at hk
    simp only [hcache, if_true, ResultCache.stored_put_self, Option.some.injEq, Prod.mk.injEq] at hk
    obtain ⟨rfl, rfl⟩ := hk
    exact ⟨⟨e, result, now⟩, by simp [List.filter_append, hs], rfl, rfl⟩
  · rw [filter_stores_of_not (by simpa using hs)]
    refine h k v m ?_
    cases hkey : e.job.key with
    | none => rw [hkey] at hk; exact hk
    | some k' =>
      rw [hkey] at hk
      simp only at hk
      split at hk
      · rename_i hcache
        have hne : k ≠ k' := by
          rintro rfl
          exact hs (by simp [Ended.stores, hkey, hcache])
        rcases ResultCache.stored_put_of_ne (c := d.results) hne result now with
          hput | ⟨-, hnone⟩
        · rw [hput] at hk; exact hk
        · rw [hnone] at hk; cases hk
      · exact hk

theorem Kept.submit {c : Command κ} {now : Moment} (h : Kept ended d)
    (hr : d'.results = if c.isShareable then (d.results.get c.key now).2 else d.results) :
    Kept ended d' := by
  refine h.mono fun k v m hk => ?_
  rw [hr] at hk
  split at hk
  · by_cases hkey : k = c.key
    · subst hkey
      rcases hg : (d.results.get c.key now).1 with _ | v'
      · rw [ResultCache.stored_get_of_none hg] at hk; cases hk
      · rw [ResultCache.stored_get_of_some hg] at hk; exact hk
    · rw [ResultCache.stored_get_of_ne hkey] at hk; exact hk
  · exact hk

/-- **Every step keeps** the cache to what was stored last. -/
theorem Kept.step (h : Kept ended d) (now : Moment) (i : Input κ) :
    Kept (ended ++ d.endedBy now i) (d.step now i) := by
  obtain ⟨d', t, ho, he⟩ := step_opening d now i
  have hp : (d.step now i).results = d'.results := by rw [he, results_perform]
  rcases results_opening ho with ⟨hsame, hnone⟩ | rfl | ⟨c, rfl⟩ | ⟨ticket, outcome, rfl⟩
  · rw [hnone, List.append_nil]
    exact h.mono fun k v m hk => by rw [hp, hsame] at hk; exact hk
  · have hnone : d.endedBy now .clearResults = [] := rfl
    rw [hnone, List.append_nil]
    exact h.mono fun k v m hk => by
      have hempty := ResultCache.stored_clear d.results k
      cases hempty.symm.trans hk
  · have hnone : d.endedBy now (.submitSilent c) = [] := rfl
    rw [hnone, List.append_nil]
    exact h.submit (hp.trans (results_submit ho))
  · cases ho with
    | unfinished missing =>
      have hnone : d.endedBy now (.finishJob ticket outcome) = [] := by rw [endedBy, missing]; rfl
      rw [hnone, List.append_nil]
      exact h.mono fun k v m hk => by rw [hp] at hk; exact hk
    | finished found =>
      rw [endedBy_finished found]
      exact h.finish _ _ _ (hp.trans (results_finish _ _ _ _))

theorem kept_reached (settings : Settings) (poster : Poster) (registry : Option Registry)
    (inputs : List (Moment × Input κ)) :
    Kept (chronicle endedBy (ofSettings settings poster registry) inputs)
      ((ofSettings settings poster registry).run inputs) :=
  run_induction (P := fun inputs =>
      Kept (chronicle endedBy (ofSettings settings poster registry) inputs)
        ((ofSettings settings poster registry).run inputs))
    (fun k v m hk => by cases hk)
    (fun inputs now i h => by
      rw [chronicle_concat, run_concat]
      exact h.step now i) inputs

end Dispatcher

end SignOn
