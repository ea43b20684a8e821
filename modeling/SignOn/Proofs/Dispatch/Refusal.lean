import SignOn.Proofs.Dispatch.Answer
import SignOn.Proofs.Dispatch.BrokenOff

/-! # Commands that are turned away

A command that shares nothing and whose lane takes no commands is turned away: it is told so, and
nothing is executed for it (`turnedAway_of_closed`). What others share stays as it is. The result
cache loses no result that is young. The in-flight map gets an entry for the command, since that is
made before the lane is asked; it is taken out again in the same step, or, where a callback runs at
once, when that callback has ended, and with it nothing else (`leavesShared_of_closed`). -/

namespace SignOn

variable {κ : Type}

namespace ResultCache

variable {α ν : Type} [DecidableEq α] {c c' : ResultCache α ν} {k : α} {now : Moment}

/-- The cache keeps its entries in their order, but for one of a key that is too old. -/
structure Spares (c c' : ResultCache α ν) (k : α) (now : Moment) : Prop where
  capacity : c'.capacity = c.capacity
  ttl : c'.ttl = c.ttl
  entries : c'.entries.Sublist c.entries
  others : ∀ k' ≠ k, c'.stored k' = c.stored k'
  young : ∀ v m, c.stored k = some (v, m) → now.since m < c.ttl.nanos → c'.stored k = some (v, m)

theorem spares_refl (c : ResultCache α ν) (k : α) (now : Moment) : c.Spares c k now :=
  ⟨rfl, rfl, List.Sublist.refl _, fun _ _ => rfl, fun _ _ h _ => h⟩

/-- A look-up that finds nothing takes out what is stored under the key, and nothing else. -/
theorem get_of_missed (h : (c.get k now).1 = none) :
    (c.get k now).2 = { c with stamps := c.stamps + 1, entries := without k c.entries } := by
  unfold get at h ⊢
  rcases hf : c.find? k with _ | e
  · have hnone : ∀ e ∈ c.entries, e.1 ≠ k := by
      simpa [find?, List.find?_eq_none] using hf
    have hwithout : without k c.entries = c.entries :=
      List.filter_eq_self.mpr fun e he => decide_eq_true (hnone e he)
    simp [hwithout]
  · rw [hf] at h
    by_cases hl : c.isLive e now = true
    · simp [hl] at h
    · simp [hl]

theorem spares_of_missed (h : (c.get k now).1 = none) : c.Spares (c.get k now).2 k now := by
  refine ⟨?_, ?_, ?_, fun k' hne => stored_get_of_ne hne, fun v m hstored hyoung => ?_⟩
  · rw [get_of_missed h]
  · rw [get_of_missed h]
  · rw [get_of_missed h]
    exact List.filter_sublist
  · rw [get_eq_some_iff.mpr ⟨m, hstored, hyoung⟩] at h
    cases h

end ResultCache

/-- The command that was handed in on an occasion is turned away. Its callback is called at most
once and tells of the rejection, its future too, and no job is there for it. Where all is settled
and no callback broke off, the callback has been called and the future is set. -/
structure TurnedAway (start : Dispatcher κ) (o : Occasion κ) (s : Submission κ) : Prop where
  tells : (start.run o.inputs).TellsOnly s.ticket ((o.state start).futureFor o.now o.input)
    (· = Dispatcher.rejected s)
  once : ((entriesOf (start.run o.inputs).journal s.ticket).filter Entry.isCall).length ≤ 1
  unexecuted : ∀ j ∈ (start.run o.inputs).jobs, j.submission.ticket ≠ s.ticket
  settled : (∀ i ∈ o.inputs, i.2.IsCalm) → (start.run o.inputs).IsSettled →
    (entriesOf (start.run o.inputs).journal s.ticket).filter Entry.isCall
        = [.called s.ticket s.command.correlationId (.failed (Dispatcher.rejection s.lane))] ∧
      ∀ n, (o.state start).futureFor o.now o.input = some n →
        ((start.run o.inputs).future n).value = some (Dispatcher.rejected s)

/-- The step that hands in a command leaves what others share as it was. Stored results stay in
their order; only one of the key of the command may go, if it is too old. What the step adds to the
in-flight map is gone at its end or, if a callback runs at once, with the end of the callback. -/
structure LeavesShared (start : Dispatcher κ) (o : Occasion κ) (s : Submission κ) : Prop where
  results : (o.state start).results.Spares
    ((o.state start).step o.now o.input).results s.command.key o.now
  later : (o.state start).poster.runsAtOnce s.ticket = false →
    ((o.state start).step o.now o.input).inFlight = (o.state start).inFlight
  added : (o.state start).poster.runsAtOnce s.ticket = true → ∃ own,
    ((o.state start).step o.now o.input).inFlight = (o.state start).inFlight ++ own ∧
      ∀ e ∈ own, (o.state start).futureFor o.now o.input = some e.2
  takenOut : (o.state start).poster.runsAtOnce s.ticket = true → ∀ meanwhile t rest,
    o.after = meanwhile ++ (t, .endCallback (o.state start).strandCount false) :: rest →
    (∀ i ∈ meanwhile, ∀ brokeOff, i.2 ≠ .endCallback (o.state start).strandCount brokeOff) →
    let d := start.run (o.before ++ (o.now, o.input) :: meanwhile)
    (d.step t (.endCallback (o.state start).strandCount false)).inFlight
      = d.inFlight.filter fun e => (o.state start).futureFor o.now o.input ≠ some e.2

/-- Who has been served had one callback. -/
theorem Submission.IsServed.calls {s : Submission κ} {entries : List Entry}
    (h : s.IsServed entries) :
    ∃ status, entries.filter Entry.isCall = [.called s.ticket s.command.correlationId status] := by
  obtain ⟨asides, status, failure, hasides, rfl, -⟩ := h
  have hnone : asides.filter Entry.isCall = [] := by
    refine List.filter_eq_nil_iff.mpr fun e he => ?_
    rcases hasides e he with rfl | rfl <;> simp [Entry.isCall]
  refine ⟨status, ?_⟩
  rw [List.filter_append, List.filter_cons_of_neg (by simp [Submission.startEntry, Entry.isCall]),
    hnone]
  rfl

/-- Where nothing is shared and the lane takes no commands, the rejection is the one answer. -/
theorem Answer.eq_rejected {start : Dispatcher κ} {o : Occasion κ} {s : Submission κ}
    {r : CommandResult} (h : Answer start o s r)
    (alone : (o.state start).shares o.now o.input = false)
    (closed : ((o.state start).lane s.lane).accepting = false) : r = Dispatcher.rejected s := by
  cases h with
  | refused => rfl
  | own _ accepted =>
    rw [closed] at accepted
    cases accepted
  | cached input shareable hit =>
    rw [input, Dispatcher.shares_of_hit shareable hit] at alone
    cases alone
  | joined input shareable _ found | refusal input shareable _ found =>
    rw [input, Dispatcher.shares_of_found shareable found] at alone
    cases alone

namespace Dispatcher

variable {d d' : Dispatcher κ} {lost : Multiset Claim} {now : Moment} {i : Input κ}
  {s : Submission κ} {j : Job κ}

/-! ### The step -/

/-- Who is handed in and shares nothing has a job to be placed. -/
theorem placed_of_alone (hs : s ∈ d.handedIn now i) (alone : d.shares now i = false) :
    ∃ d' j, Opening d now i d' (.place j) ∧ d.step now i = d'.enqueue j ∧ j.submission = s := by
  cases i with
  | submitSilent c =>
    obtain rfl := List.mem_singleton.mp hs
    obtain ⟨d', t, ho⟩ := exists_opening_submitSilent d now c
    have he := submitSilent_of_opening ho
    cases ho with
    | answered shareable cached => cases alone.symm.trans (shares_of_hit shareable cached)
    | joined shareable missed found | joinedLate shareable missed found =>
      cases alone.symm.trans (shares_of_found shareable (Option.isSome_of_eq_some found))
    | launched shareable missed free => exact ⟨_, _, .launched shareable missed free, he, rfl⟩
    | alone unshareable => exact ⟨_, _, .alone unshareable, he, rfl⟩
  | submitAndForget c =>
    obtain rfl := List.mem_singleton.mp hs
    exact ⟨_, _, .forgotten, rfl, rfl⟩
  | beginInteractive c =>
    obtain rfl := List.mem_singleton.mp hs
    exact ⟨_, _, .begun, rfl, rfl⟩
  | _ => cases hs

/-- Who is handed in to be executed looks in the cache in vain, or does not look. -/
theorem results_of_placed (ho : Opening d now i d' (.place j)) : d'.results = d.results ∨
    (d.results.get j.submission.command.key now).1 = none ∧
      d'.results = (d.results.get j.submission.command.key now).2 := by
  cases ho with
  | launched shareable missed => exact .inr ⟨missed, rfl⟩
  | begun => exact .inl (by rw [makeWay_eq]; rfl)
  | alone | forgotten => exact .inl rfl

theorem inFlight_deliver_nothing : ∀ (xs : List (Delivery κ)) (d : Dispatcher κ),
    (d.deliver xs .nothing).inFlight = d.inFlight
  | [], _ => rfl
  | x :: xs, d => by
    rw [deliver_cons]
    split
    · rfl
    · exact inFlight_deliver_nothing xs (d.post x)

/-- What is settled leaves the in-flight map, and nothing else does. -/
theorem inFlight_deliver_settle (d : Dispatcher κ) (key : Option CommandKey) (future : Option Nat)
    (result : CommandResult) :
    (d.deliver [] (.settle key future result)).inFlight = (d.leaveFlight key).inFlight := by
  rw [deliver_settle, inFlight_deliver_nothing, settle_eq]

/-- A job that leaves the in-flight map leaves it as it was before. -/
theorem inFlight_of_entry {entries : List (CommandKey × Nat)}
    (h : d.inFlight = entries ++ j.entry.toList)
    (free : ∀ k, j.key = some k → entries.lookup k = none) :
    (d.leaveFlight j.key).inFlight = entries := by
  rcases hk : j.key with _ | k
  · change d.inFlight = entries
    rw [h, Job.entry, hk]
    exact List.append_nil _
  · change d.inFlight.filter _ = entries
    have hothers : entries.filter (fun e => e.1 ≠ k) = entries := by
      refine List.filter_eq_self.mpr fun e he => decide_eq_true ?_
      have := List.lookup_eq_none_iff.mp (free k hk) e he
      simpa using Ne.symm (by simpa using this)
    have hown : (j.entry.toList).filter (fun e => e.1 ≠ k) = [] := by
      refine List.filter_eq_nil_iff.mpr fun e he => ?_
      obtain ⟨n, -, rfl⟩ := Option.map_eq_some_iff.mp (by simpa [Job.entry, hk] using he)
      simp
    rw [h, List.filter_append, hothers, hown, List.append_nil]

/-! ### Until the callback has ended -/

/-- The callback of a strand runs until it ends. -/
theorem mem_strands_opening {t : Task κ} (ho : Opening d now i d' t) {x : Strand κ}
    (hx : x ∈ d.strands) (running : ∀ brokeOff, i ≠ .endCallback x.id brokeOff) :
    x ∈ d'.strands := by
  have hstays {strand : Nat} {b : Bool} (hi : i = .endCallback strand b) :
      x ∈ d.strands.filter fun s => s.id ≠ strand :=
    List.mem_filter.mpr ⟨hx, decide_eq_true fun he => running b (he ▸ hi)⟩
  cases ho with
  | finished => rw [executed_eq]; exact hx
  | begun => rw [makeWay_eq]; exact hx
  | ended => exact hstays rfl
  | broke => rw [breakOff_eq]; exact hstays rfl
  | ran => exact List.mem_cons_of_mem _ hx
  | _ => exact hx

theorem mem_strands_move {t t' : Task κ} (hm : Move d t d' t') {x : Strand κ} (hx : x ∈ d.strands) :
    x ∈ d'.strands := by
  cases hm with
  | queue => rw [withLane_eq]; exact hx
  | free => rw [freeWorker_eq]; exact hx
  | settle => rw [settle_eq]; exact hx
  | call => exact List.mem_cons_of_mem _ hx
  | reject | post => exact hx

theorem mem_strands_run {x : Strand κ} : ∀ (inputs : List (Moment × Input κ)) {d : Dispatcher κ},
    x ∈ d.strands → (∀ i ∈ inputs, ∀ brokeOff, i.2 ≠ .endCallback x.id brokeOff) →
      x ∈ (d.run inputs).strands
  | [], _, hx, _ => hx
  | (now, i) :: inputs, d, hx, running => by
    have hstep : x ∈ (d.step now i).strands :=
      step_keeps (I := fun d' _ => x ∈ d'.strands)
        (fun ho hx => mem_strands_opening ho hx (running _ (List.mem_cons_self ..)))
        (fun hm hx => mem_strands_move hm hx) hx
    exact mem_strands_run inputs hstep fun i hi => running i (List.mem_cons_of_mem _ hi)

theorem find?_of_mem_strands (hd : d.Numbered) {x : Strand κ} (hx : x ∈ d.strands) :
    d.strands.find? (fun s => s.id = x.id) = some x := by
  have hsome : (d.strands.find? fun s => s.id = x.id).isSome :=
    List.find?_isSome.mpr ⟨x, hx, decide_eq_true rfl⟩
  obtain ⟨y, hy⟩ := Option.isSome_iff_exists.mp hsome
  have hid : y.id = x.id := by simpa using List.find?_some hy
  rw [hy, List.inj_on_of_nodup_map hd.strands (List.mem_of_find?_eq_some hy) hx hid]

/-- What a callback settles at its end is in the in-flight map by its future alone. -/
theorem inFlight_of_strand (hflight : Flight lost d .done) (hform : Formed d .done) {x : Strand κ}
    (hx : x ∈ d.strands) {key : Option CommandKey} {future : Option Nat} {r : CommandResult}
    (hr : x.ending = .settle key future r) :
    (d.leaveFlight key).inFlight = d.inFlight.filter fun e => future ≠ some e.2 := by
  have hkey {n : Nat} {e : CommandKey × Nat} (he : e ∈ d.inFlight) (hn : future = some n)
      (hen : e.2 = n) : key = some e.1 := by
    subst hn hen
    exact hflight.key_of_strand he hx hr
  rcases key with _ | k
  · refine (List.filter_eq_self.mpr fun e he => ?_).symm
    have hother : future ≠ some e.2 := fun hn => by cases hkey he hn rfl
    exact decide_eq_true hother
  · have hfuture : future.isSome := by
      have := hform.strands x hx
      rw [hr] at this
      exact this rfl
    obtain ⟨n, rfl⟩ := Option.isSome_iff_exists.mp hfuture
    have hin : (k, n) ∈ d.inFlight := by
      rw [← Multiset.mem_coe, hflight.entries, mem_keyed]
      refine Multiset.mem_add.mpr
        (.inl (Multiset.mem_add.mpr (.inl (Multiset.mem_add.mpr (.inr ?_)))))
      refine Multiset.mem_bind.mpr ⟨x, hx, ?_⟩
      rw [hr]
      exact List.mem_singleton_self _
    refine List.filter_congr
      fun e he => decide_eq_decide.mpr (not_congr ⟨fun hek => ?_, fun hn => ?_⟩)
    · rw [List.inj_on_of_nodup_map hflight.keys he hin hek]
    · exact (Option.some.inj (hkey he hn rfl)).symm

/-! ### In every run -/

section Reached

variable (settings : Settings) (poster : Poster) (registry : Option Registry) {o : Occasion κ}

/-- A command that is turned away is followed from there. -/
theorem answers_of_closed (hs : s ∈ o.handedIn (ofSettings settings poster registry))
    (alone : (o.state (ofSettings settings poster registry)).shares o.now o.input = false)
    (closed : ((o.state (ofSettings settings poster registry)).lane s.lane).accepting = false) :
    Answers (Answer (ofSettings settings poster registry) o s) (fun _ => False) s.ticket
      ((o.state (ofSettings settings poster registry)).futureFor o.now o.input)
      ((ofSettings settings poster registry).run o.inputs) .done := by
  obtain ⟨d', j, ho, he, rfl⟩ := placed_of_alone hs alone
  have hd := numbered_reached (κ := κ) settings poster registry o.before
  refine answers_refused settings poster registry o.after ho he ?_
  rw [(places_of_opening ho rfl).lanes]
  exact (Lane.submit?_eq_none_iff (hd.lane j.submission.lane) j).mpr closed

/-- **Who is handed in to a lane that takes no commands** is turned away. -/
theorem turnedAway_of_closed (hs : s ∈ o.handedIn (ofSettings settings poster registry))
    (alone : (o.state (ofSettings settings poster registry)).shares o.now o.input = false)
    (closed : ((o.state (ofSettings settings poster registry)).lane s.lane).accepting = false) :
    TurnedAway (ofSettings settings poster registry) o s := by
  have hanswers := answers_of_closed settings poster registry hs alone closed
  have htells := hanswers.tellsOnly.mono fun r h => h.eq_rejected alone closed
  obtain ⟨through, hledger⟩ := ledger_reached (κ := κ) settings poster registry o.inputs
  refine ⟨htells, hledger.accounted.calls_le s.ticket, fun j hj ht => ?_,
    fun hcalm hsettled => ⟨?_, ?_⟩⟩
  · exact hanswers.own j (Multiset.mem_add.mpr (.inl hj)) ht
  · have hin : s ∈ chronicle handedIn (ofSettings settings poster registry) o.inputs := by
      unfold Occasion.inputs
      rw [chronicle_append]
      exact List.mem_append_right _ (List.mem_append_left _ hs)
    obtain ⟨status, hcalls⟩ :=
      (served_of_settled settings poster registry hcalm hsettled s hin).calls
    have hcalled : .called s.ticket s.command.correlationId status
        ∈ ((ofSettings settings poster registry).run o.inputs).journal := by
      have hmem : Entry.called s.ticket s.command.correlationId status ∈
          (entriesOf ((ofSettings settings poster registry).run o.inputs).journal
            s.ticket).filter Entry.isCall := by
        rw [hcalls]
        exact List.mem_singleton_self _
      exact (List.mem_filter.mp (List.mem_filter.mp hmem).1).1
    obtain ⟨r, rfl, rfl⟩ := htells.1 _ _ hcalled
    exact hcalls
  · intro n hn
    obtain ⟨before, now, i, after⟩ := o
    cases i with
    | submitSilent c =>
      obtain rfl := List.mem_singleton.mp hs
      have hkept := promises_reached settings poster registry
        (before ++ (now, .submitSilent c) :: after) _ promise_mem
      obtain ⟨status, hcalled⟩ := called_of_served (served_of_settled settings poster registry hcalm
        hsettled _ (mem_chronicle_at hs))
      obtain ⟨r, hdue⟩ := (hkept.told _ _ (.journal hcalled)).2.2 hcalm
      have hset := hsettled.set_of_due hdue
      obtain rfl := Option.some.inj hn
      obtain rfl := htells.2 _ rfl r hset
      exact hset
    | _ => cases hn

/-- **A command that is turned away leaves the cache and the in-flight map** as they were. -/
theorem leavesShared_of_closed (hs : s ∈ o.handedIn (ofSettings settings poster registry))
    (alone : (o.state (ofSettings settings poster registry)).shares o.now o.input = false)
    (closed : ((o.state (ofSettings settings poster registry)).lane s.lane).accepting = false) :
    LeavesShared (ofSettings settings poster registry) o s := by
  obtain ⟨d', j, ho, he, rfl⟩ := placed_of_alone hs alone
  have hp := places_of_opening ho rfl
  have hd := numbered_reached (κ := κ) settings poster registry o.before
  have hrefused : (d'.lane j.submission.lane).submit? j = none := by
    rw [hp.lanes]
    exact (Lane.submit?_eq_none_iff (hd.lane j.submission.lane) j).mpr closed
  have hresults : ((o.state (ofSettings settings poster registry)).step o.now o.input).results
      = d'.results := by
    rw [he]
    exact results_perform d' (.place j)
  rw [enqueue_refused hrefused, deliver_cons, hp.poster] at he
  have hbegun (atOnce : (o.state (ofSettings settings poster registry)).poster.runsAtOnce
      j.submission.ticket = true) :
        (o.state (ofSettings settings poster registry)).step o.now o.input
          = (d'.announce ⟨j.submission, rejected j.submission⟩).openCallback
            ⟨j.submission, rejected j.submission⟩ []
            (.settle j.key j.future (rejected j.submission)) := by
    rw [he, if_pos atOnce]
  refine { results := ?_, later := ?_, added := ?_, takenOut := ?_ }
  · rw [hresults]
    rcases results_of_placed ho with hsame | ⟨missed, hlooked⟩
    · rw [hsame]
      exact ResultCache.spares_refl _ _ _
    · rw [hlooked]
      exact ResultCache.spares_of_missed missed
  · intro later
    rw [he, if_neg (by rw [later]; exact Bool.false_ne_true), inFlight_deliver_settle]
    exact inFlight_of_entry hp.inFlight hp.free
  · intro atOnce
    refine ⟨j.entry.toList, ?_, fun e hmem => ?_⟩
    · rw [hbegun atOnce]
      exact hp.inFlight
    · obtain ⟨k, -, hfuture⟩ := Option.bind_eq_some_iff.mp (Option.mem_toList.mp hmem)
      obtain ⟨n, hn, rfl⟩ := Option.map_eq_some_iff.mp hfuture
      rw [← hp.future, hn]
  · intro atOnce meanwhile t rest hafter running d
    let x : Strand κ := ⟨d'.strandCount, ⟨j.submission, rejected j.submission⟩, [],
      .settle j.key j.future (rejected j.submission)⟩
    have hx : x ∈ d.strands := by
      have hbegun :
          x ∈ ((o.state (ofSettings settings poster registry)).step o.now o.input).strands := by
        rw [hbegun atOnce]
        exact List.mem_cons_self ..
      have hrun :
          d = ((o.state (ofSettings settings poster registry)).step o.now o.input).run meanwhile :=
        run_append _ _ _
      rw [hrun]
      refine mem_strands_run meanwhile hbegun fun i hi brokeOff => ?_
      rw [show x.id = _ from hp.strandCount]
      exact running i hi brokeOff
    have hnumbered : d.Numbered := numbered_reached settings poster registry _
    have hid : x.id = (o.state (ofSettings settings poster registry)).strandCount := hp.strandCount
    have hfound := find?_of_mem_strands hnumbered hx
    rw [hid] at hfound
    have hflight := flight_reached (κ := κ) settings poster registry
      (o.before ++ (o.now, o.input) :: meanwhile)
    have hform := formed_reached (κ := κ) settings poster registry
      (o.before ++ (o.now, o.input) :: meanwhile)
    rw [← hp.future, ← inFlight_of_strand hflight hform hx rfl]
    rw [step_of_opening (.ended hfound) (by simp)]
    refine (inFlight_deliver_settle _ j.key j.future _).trans ?_
    cases j.key <;> rfl

end Reached

end Dispatcher

end SignOn
