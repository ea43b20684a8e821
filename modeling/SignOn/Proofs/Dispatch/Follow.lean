import SignOn.Proofs.Dispatch.Agreement

/-! # Following a command

`Answers` follows the ticket of a command, and the future that was given out for it, through a run:
what its callback tells and what its future is due to is an answer, and only certain jobs may still
bring one. Steps that set no future keep this (`Answers.still`), and so do those that set one
(`Answers.give`), if the job that comes to its end brings an answer (`Yields`). A command is
followed from where its job is, or from where it was handed in. -/

namespace SignOn

variable {κ : Type}

namespace Dispatcher

variable {calm : Prop} {d d' : Dispatcher κ} {t t' : Task κ} {lost : Multiset Claim} {now : Moment}
  {i : Input κ}

/-! ### The job that brings a result -/

/-- A step that sets a future, and the job that comes to its end with it. Those who are told are
that job and the listeners of the future; without such a job the future was due to the result
before. -/
structure Yields (d : Dispatcher κ) (t : Task κ) (origin : Option (Job κ)) (future : Option Nat)
    (result : CommandResult) (d' : Dispatcher κ) (t' : Task κ) : Prop where
  gives : Gives False d t future result d' t'
  told : ∀ e, d'.Calls t' e → d.Calls t e ∨ ∃ x : Delivery κ, e = x.callEntry ∧ x.result = result ∧
    ((∃ j, origin = some j ∧ j.submission = x.submission) ∨
      ∃ n, future = some n ∧ x.submission ∈ (d.future n).listeners)
  unfinished : ∀ j, origin = some j → j ∈ d.unfinished t ∧ j.future = future
  due : origin = none → ∀ n, future = some n → d.Due t n result

/-- Where callbacks are neither called nor posted, only what is in hand comes to be called. -/
theorem calls_of_inHand {more : List Entry} (hs : d'.strands = d.strands)
    (hp : d'.posted = d.posted) (hj : d'.journal = d.journal ++ more)
    (hmore : ∀ e ∈ more, e.isCall = false) {e : Entry} (he : d'.Calls t' e) :
    d.Calls t e ∨ ∃ x ∈ t'.deliveries, e = x.callEntry := by
  cases he with
  | journal h => exact .inl (.journal (mem_of_called hmore _ _ _ (hj ▸ h)))
  | posted h => exact .inl (.posted (hp ▸ h))
  | behind h hx => exact .inl (.behind (hs ▸ h) hx)
  | inHand h => exact .inr ⟨_, h, rfl⟩

theorem yields_finish {e : Execution κ} {ticket : Nat} (outcome : Outcome)
    (hflight : Flight lost d .done)
    (hn : (d.executions.map fun e => e.job.submission.ticket).Nodup)
    (found : d.executions.find? (fun e => e.job.submission.ticket = ticket) = some e) :
    Yields d .done (some e.job) e.job.future (resultOf e outcome)
      (d.executed e (resultOf e outcome) now)
      (.tell (d.listeners e.job.future (resultOf e outcome)
        ++ [⟨e.job.submission, resultOf e outcome⟩]) (.freeWorker e.lane e.pool ticket)) := by
  have heq := executed_eq d e (resultOf e outcome) now
  refine ⟨gives_finish hflight hn found False.elim, fun entry hcall => ?_, fun j hj => ?_, by simp⟩
  · refine (calls_of_inHand (by rw [heq]; rfl) (by rw [heq]; rfl)
      (by rw [heq]; exact (List.append_nil _).symm) (by simp) hcall).imp_right ?_
    rintro ⟨x, hx, rfl⟩
    rcases List.mem_append.mp hx with hx | hx
    · obtain ⟨hresult, hlistens⟩ := exists_of_mem_listeners hx
      exact ⟨x, rfl, hresult, .inr hlistens⟩
    · rw [List.mem_singleton.mp hx]
      exact ⟨_, rfl, rfl, .inl ⟨e.job, rfl, rfl⟩⟩
  · obtain rfl := Option.some.inj hj
    exact ⟨Multiset.mem_add.mpr (.inl (mem_jobs_of_execution (List.mem_of_find?_eq_some found))),
      rfl⟩

theorem yields_reject {j : Job κ} (hflight : Flight lost d (.place j)) :
    Yields d (.place j) (some j) j.future (rejected j.submission) d
      (.tell [⟨j.submission, rejected j.submission⟩]
        (.settle j.key j.future (rejected j.submission))) := by
  refine ⟨gives_reject hflight, fun entry hcall => ?_, fun j' hj => ?_, by simp⟩
  · refine (calls_of_inHand rfl rfl (List.append_nil _).symm (by simp) hcall).imp_right ?_
    rintro ⟨x, hx, rfl⟩
    rw [List.mem_singleton.mp hx]
    exact ⟨_, rfl, rfl, .inl ⟨j, rfl, rfl⟩⟩
  · obtain rfl := Option.some.inj hj
    rw [unfinished_place]
    exact ⟨Multiset.mem_cons_self _ _, rfl⟩

theorem yields_settle {key : Option CommandKey} {future : Option Nat} {result : CommandResult}
    (hflight : Flight lost d (.tell [] (.settle key future result))) :
    Yields d (.tell [] (.settle key future result)) none future result
      (d.settle key future result) (.tell (d.listeners future result) .nothing) := by
  have heq := settle_eq d key future result
  refine ⟨gives_settle hflight, fun entry hcall => ?_, by simp, fun _ n hn => ?_⟩
  · refine (calls_of_inHand (by rw [heq]) (by rw [heq])
      (by rw [heq]; exact (List.append_nil _).symm) (by simp) hcall).imp_right ?_
    rintro ⟨x, hx, rfl⟩
    obtain ⟨hresult, hlistens⟩ := exists_of_mem_listeners hx
    exact ⟨x, rfl, hresult, .inr hlistens⟩
  · rw [hn]
    exact .inHand rfl

/-! ### Following a ticket -/

/-- The command of a ticket is told, and its future is due to, nothing but answers. Of the jobs that
are not finished, its own and those with its future are among `J`, from which answers may still
come; none of these is about to be placed. -/
structure Answers (A : CommandResult → Prop) (J : Job κ → Prop) (ticket : Nat) (future : Option Nat)
    (d : Dispatcher κ) (t : Task κ) : Prop where
  handed : ticket < d.stats.submitted
  made : ∀ n, future = some n → n < d.futures.length
  older : ∀ j, J j → j.submission.ticket < d.stats.submitted
  placed : ∀ j ∈ t.jobs, ¬ J j
  own : ∀ j ∈ d.unfinished t, j.submission.ticket = ticket → J j
  jobs : ∀ j ∈ d.unfinished t, ∀ n, future = some n → j.future = some n → J j
  listening : ∀ m, ∀ s ∈ (d.future m).listeners, s.ticket = ticket → future = some m
  told : ∀ correlationId status, d.Calls t (.called ticket correlationId status) →
    ∃ r, A r ∧ status = (r.attributedTo correlationId).status
  due : ∀ n, future = some n → ∀ r, d.Due t n r → A r

variable {A : CommandResult → Prop} {J : Job κ → Prop} {ticket : Nat} {future : Option Nat}

theorem Answers.still (h : Answers A J ticket future d t) (hs : Still calm d t d' t')
    (placed : ∀ j ∈ t'.jobs, ¬ J j) : Answers A J ticket future d' t' := by
  have hhanded := h.handed
  have hsubmitted := hs.submitted
  refine ⟨by omega, fun n hn => (h.made n hn).trans_le hs.futures,
    fun j hj => (h.older j hj).trans_le hsubmitted, placed, fun j hj ht => ?_,
    fun j hj n hn hjn => ?_, fun m s hm ht => ?_, fun correlationId status hcall => ?_,
    fun n hn r hdue => h.due n hn r (hs.due n (h.made n hn) r hdue)⟩
  · rcases hs.jobs j hj with hj | ⟨hnew, -⟩
    · exact h.own j hj ht
    · omega
  · rcases hs.jobs j hj with hj | ⟨-, hnew⟩
    · exact h.jobs j hj n hn hjn
    · exact absurd (h.made n hn) (not_lt.mpr (hnew n hjn))
  · rcases hs.listening m s hm with hm | hnew
    · exact h.listening m s hm ht
    · omega
  · rcases hs.calls _ hcall with hcall | hnew
    · exact h.told correlationId status hcall
    · exact absurd hhanded (not_lt.mpr hnew)

theorem Answers.give {origin : Option (Job κ)} {set : Option Nat} {result : CommandResult}
    (h : Answers A J ticket future d t) (hy : Yields d t origin set result d' t')
    (brings : ∀ j, origin = some j → J j → A result) (placed : ∀ j ∈ t'.jobs, ¬ J j) :
    Answers A J ticket future d' t' := by
  -- whoever has or awaits the future that is set awaits that of the ticket
  have hanswer : ∀ n, set = some n → future = some n → A result := by
    intro n hset hn
    cases horigin : origin with
    | none => exact h.due n hn result (hy.due horigin n hset)
    | some j =>
      obtain ⟨hj, hjf⟩ := hy.unfinished j horigin
      exact brings j horigin (h.jobs j hj n hn (hjf.trans hset))
  have hsubmitted := hy.gives.submitted
  refine ⟨hsubmitted ▸ h.handed, fun n hn => hy.gives.futures ▸ h.made n hn,
    fun j hj => hsubmitted ▸ h.older j hj, placed, fun j hj => h.own j (hy.gives.jobs j hj).1,
    fun j hj => h.jobs j (hy.gives.jobs j hj).1,
    fun m s hm => h.listening m s (hy.gives.listening m s hm),
    fun correlationId status hcall => ?_, fun n hn r hdue => ?_⟩
  · rcases hy.told _ hcall with hcall | ⟨x, he, rfl, hwho⟩
    · exact h.told correlationId status hcall
    · obtain ⟨ht, rfl, rfl⟩ := Entry.called.inj he
      refine ⟨x.result, ?_, rfl⟩
      rcases hwho with ⟨j, horigin, hsame⟩ | ⟨n, hset, hlistens⟩
      · exact brings j horigin (h.own j (hy.unfinished j horigin).1 (by rw [hsame, ht]))
      · exact hanswer n hset (h.listening n _ hlistens ht.symm)
  · have hr := (hy.gives.due n r).mp hdue
    split at hr
    · rename_i hset
      rw [hr]
      exact hanswer n hset hn
    · exact h.due n hn r hr

/-! ### Steps and runs -/

/-- A job that is placed belongs to a command handed in just now. -/
theorem ticket_of_placed (ho : Opening d now i d' t) :
    ∀ j ∈ t.jobs, j.submission.ticket = d.stats.submitted := by
  intro j hj
  cases ho with
  | launched | alone | forgotten | begun => rw [Multiset.mem_singleton.mp hj]; rfl
  | _ => exact absurd hj (Multiset.notMem_zero _)

/-- No move leaves a job to be placed. -/
theorem jobs_of_move (hm : Move d t d' t') : t'.jobs = 0 := by
  cases hm <;> rfl

theorem Answers.opening (ho : Opening d now i d' t) (hd : d.Numbered)
    (hn : (d.executions.map fun e => e.job.submission.ticket).Nodup) (hflight : Flight lost d .done)
    (brings : ∀ x ∈ d.endedBy now i, J x.execution.job → A x.result)
    (h : Answers A J ticket future d .done) : Answers A J ticket future d' t := by
  have placed : ∀ j ∈ t.jobs, ¬ J j := fun j hj hJ =>
    absurd (h.older j hJ) (ticket_of_placed ho j hj).not_lt
  rcases (still_or_finished ho hd hflight False.elim : Still False d .done d' t ∨ _) with
    hs | ⟨e, ticket, outcome, rfl, found, rfl, rfl⟩
  · exact h.still hs placed
  · refine h.give (yields_finish outcome hflight hn found) (fun j hj hJ => ?_) placed
    obtain rfl := Option.some.inj hj
    refine brings ⟨e, resultOf e outcome, now⟩ ?_ hJ
    rw [endedBy_finished found]
    exact List.mem_singleton_self _

theorem Answers.move (hm : Move d t d' t') (hflight : Flight lost d t)
    (h : Answers A J ticket future d t) : Answers A J ticket future d' t' := by
  have placed : ∀ j ∈ t'.jobs, ¬ J j := fun j hj => by
    rw [jobs_of_move hm] at hj
    exact absurd hj (Multiset.notMem_zero _)
  rcases (still_or_settles hm : Still False d t d' t' ∨ _) with
    hs | ⟨j, rfl, -, rfl, rfl⟩ | ⟨key, future, result, rfl, rfl, rfl⟩
  · exact h.still hs placed
  · refine h.give (yields_reject hflight) (fun j' hj hJ => ?_) placed
    obtain rfl := Option.some.inj hj
    exact absurd hJ (h.placed j (Multiset.mem_singleton_self _))
  · exact h.give (yields_settle hflight) (by simp) placed

/-- What a step has left to do is done with answers only. -/
theorem Answers.perform (hform : Formed d t) (hflight : Flight lost d t)
    (h : Answers A J ticket future d t) : Answers A J ticket future (d.perform t) .done :=
  (perform_keeps (I := fun d t => Formed d t ∧ Flight lost d t ∧ Answers A J ticket future d t)
    (fun hm h => ⟨h.1.move hm, h.2.1.move hm h.1, h.2.2.move hm h.2.1⟩) ⟨hform, hflight, h⟩).2.2

section Reached

variable (settings : Settings) (poster : Poster) (registry : Option Registry)

/-- What is answered once a step has opened is so at its end. -/
theorem Answers.concluded {before : List (Moment × Input κ)}
    (ho : Opening ((ofSettings settings poster registry).run before) now i d' t)
    (he : ((ofSettings settings poster registry).run before).step now i = d'.perform t)
    (h : Answers A J ticket future d' t) :
    Answers A J ticket future ((ofSettings settings poster registry).run (before ++ [(now, i)]))
      .done := by
  have hd := numbered_reached (κ := κ) settings poster registry before
  have hn := executions_nodup_reached (κ := κ) settings poster registry before
  have hform := formed_reached (κ := κ) settings poster registry before
  have hflight := flight_reached (κ := κ) settings poster registry before
  rw [run_concat, he]
  exact h.perform (hform.opening ho hd hn) (hflight.opening ho hd hn hform)

/-- **A run brings answers only**, if the jobs from which they may come do. -/
theorem Answers.run : ∀ (after : List (Moment × Input κ)) {before : List (Moment × Input κ)},
    Answers A J ticket future ((ofSettings settings poster registry).run before) .done →
    (∀ x ∈ chronicle endedBy ((ofSettings settings poster registry).run before) after,
      J x.execution.job → A x.result) →
    Answers A J ticket future ((ofSettings settings poster registry).run (before ++ after)) .done
  | [], before, h, _ => by rwa [List.append_nil]
  | (now, i) :: after, before, h, brings => by
    obtain ⟨d', t, ho, he⟩ := step_opening
      ((ofSettings settings poster registry : Dispatcher κ).run before) now i
    have hopened : Answers A J ticket future d' t :=
      h.opening ho (numbered_reached settings poster registry before)
        (executions_nodup_reached settings poster registry before)
        (flight_reached settings poster registry before)
          fun x hx => brings x (List.mem_append_left _ hx)
    rw [List.append_cons]
    refine Answers.run after (hopened.concluded settings poster registry ho he)
      fun x hx => brings x ?_
    rw [run_concat] at hx
    exact List.mem_append_right _ hx

end Reached

/-! ### From where a ticket is followed -/

variable {handed : List (Submission κ)} {through : Multiset (Phase κ)} {j : Job κ}

/-- **A job that is not finished** is the only trace of its command: no other job has its ticket, it
listens to nothing, and nobody has called its callback or is about to. -/
theorem Ledger.only_job (h : Ledger calm handed through d .done) (hj : j ∈ d.jobs) :
    (∀ j' ∈ d.jobs, j'.submission.ticket = j.submission.ticket → j' = j) ∧
      (∀ m, ∀ s ∈ (d.future m).listeners, s.ticket ≠ j.submission.ticket) ∧
      ∀ correlationId status,
        ¬ d.Calls .done (.called j.submission.ticket correlationId status) := by
  obtain ⟨rest, hrest⟩ := Multiset.exists_cons_of_mem hj
  have hsplit : d.phases + Task.done.phases + through = .waiting j.submission ::ₘ
      (rest.map (fun j => .waiting j.submission) + d.listening.map .waiting
        + (d.posted : Multiset (Delivery κ)).map .announced
        + (d.strands : Multiset (Strand κ)).bind Strand.phases + through) := by
    rw [phases, hrest, Multiset.map_cons, Task.phases_done, add_zero]
    simp only [Multiset.cons_add]
  have haccounted := h.accounted
  rw [hsplit] at haccounted
  have hnodup := haccounted.nodup
  rw [Multiset.map_cons, Multiset.nodup_cons] at hnodup
  have hother : ∀ g ∈ rest.map (fun j => Phase.waiting j.submission) + d.listening.map .waiting
        + (d.posted : Multiset (Delivery κ)).map .announced
        + (d.strands : Multiset (Strand κ)).bind Strand.phases + through,
      g.ticket ≠ j.submission.ticket := fun g hg he =>
    hnodup.1 (Multiset.mem_map.mpr ⟨g, hg, he⟩)
  have hin {g : Phase κ} {a b c e f : Multiset (Phase κ)} (hg : g ∈ a ∨ g ∈ b ∨ g ∈ c ∨ g ∈ e) :
      g ∈ a + b + c + e + f := by
    simp only [Multiset.mem_add]
    tauto
  refine ⟨fun j' hj' ht => ?_, fun m s hs ht => ?_, fun correlationId status hcall => ?_⟩
  · rw [hrest] at hj'
    rcases Multiset.mem_cons.mp hj' with rfl | hj'
    · rfl
    · exact absurd ht (hother _ (hin (.inl (Multiset.mem_map_of_mem _ hj'))))
  · refine hother (.waiting s) (hin (.inr (.inl (Multiset.mem_map_of_mem _ ?_)))) ht
    rcases Nat.lt_or_ge m d.futures.length with hlt | hge
    · exact Multiset.mem_bind.mpr
        ⟨_, Multiset.mem_coe.mpr (List.mem_of_getElem? (future_eq_of_lt hlt)), hs⟩
    · rw [(listeners_future_of_le hge).1] at hs
      cases hs
  · generalize he : Entry.called j.submission.ticket correlationId status = e at hcall
    have ht : e.ticket = j.submission.ticket := by rw [← he]; rfl
    cases hcall with
    | journal hm =>
      obtain ⟨rfl, rfl, rfl⟩ := Entry.called.inj he
      have hwaiting := haccounted.matched (.waiting j.submission) (Multiset.mem_cons_self _ _)
      exact hwaiting.not_called _ _ _ (List.mem_filter.mpr ⟨hm, decide_eq_true rfl⟩)
    | @posted x hx =>
      exact hother (.announced x) (hin (.inr (.inr (.inl (Multiset.mem_map_of_mem _ hx))))) ht
    | @behind s x hs hx =>
      refine hother (.waiting x.submission) (hin (.inr (.inr (.inr ?_)))) ht
      exact Multiset.mem_bind.mpr
        ⟨s, hs, Multiset.mem_cons_of_mem (Multiset.mem_map_of_mem _ hx)⟩
    | inHand hx => cases hx

/-- A job that is not finished is followed from where it is. -/
theorem answers_of_job (A : CommandResult → Prop) (hledger : Ledger calm handed through d .done)
    (hflight : Flight lost d .done) (hj : j ∈ d.jobs) :
    Answers A (· = j) j.submission.ticket j.future d .done := by
  have hu : j ∈ d.unfinished .done := Multiset.mem_add.mpr (.inl hj)
  have hjobs : d.unfinished .done = d.jobs := add_zero _
  obtain ⟨hown, hlistening, hcalls⟩ := hledger.only_job hj
  refine ⟨hledger.job_lt hu, fun n hn => (hflight.unset (mem_openFutures_of_job hu hn)).1,
    fun j' hj' => hj' ▸ hledger.job_lt hu, fun j' hj' => absurd hj' (Multiset.notMem_zero _),
    fun j' hj' => hown j' (hjobs ▸ hj'), fun j' hj' n hn hjn => ?_,
    fun m s hs ht => absurd ht (hlistening m s hs),
    fun correlationId status hcall => absurd hcall (hcalls correlationId status),
    fun n hn r hdue => absurd hdue (hflight.not_due hu hn r)⟩
  obtain ⟨rest, hrest⟩ := Multiset.exists_cons_of_mem hu
  rw [hrest] at hj'
  rcases Multiset.mem_cons.mp hj' with rfl | hj'
  · rfl
  · exact absurd hjn (hflight.apart hrest hn hj')

/-- A command that has its result when it is handed in is followed from there; a future that is made
for it is due to this result. -/
theorem answers_told (hledger : Ledger calm handed through d .done) (hflight : Flight lost d .done)
    {fresh : List (Future CommandResult (Submission κ))} {more : List Entry}
    (hn : d'.stats.submitted = d.stats.submitted + 1) (hf : d'.futures = d.futures ++ fresh)
    (hfresh : ∀ f ∈ fresh, f.listeners = []) (hfuture : ∀ n, future = some n →
      n = d.futures.length ∧ fresh ≠ []) (hu : d'.jobs = d.jobs) (hs : d'.strands = d.strands)
    (hp : d'.posted = d.posted) (hj : d'.journal = d.journal ++ more)
    (hmore : ∀ e ∈ more, e.isCall = false) (jobs : t.jobs = 0)
    (deliveries : ∀ x ∈ t.deliveries, A x.result)
    (value : ∀ f ∈ fresh, ∀ r, f.value = some r → A r)
    (ending : ∀ key n r, t.ending = .settle key (some n) r → A r) :
    Answers A (fun _ => False) d.stats.submitted future d' t := by
  have hunfinished : d'.unfinished t = d.unfinished .done := by rw [unfinished, hu, jobs]; rfl
  refine ⟨by omega, fun n hnf => ?_, fun j hj => hj.elim, fun j _ hj => hj, fun j hjm ht => ?_,
    fun j hjm n hnf hjn => ?_, fun m s hsm ht => ?_, fun correlationId status hcall => ?_,
    fun n hnf r hdue => ?_⟩
  · obtain ⟨rfl, hne⟩ := hfuture n hnf
    have hlen := List.length_pos_iff.mpr hne
    rw [hf, List.length_append]
    omega
  · rw [hunfinished] at hjm
    exact absurd ht (hledger.job_lt hjm).ne
  · rw [hunfinished] at hjm
    obtain ⟨rfl, -⟩ := hfuture n hnf
    exact absurd (hflight.unset (mem_openFutures_of_job hjm hjn)).1 (lt_irrefl _)
  · exact absurd ht (hledger.listener_lt (mem_listeners_fresh hf hfresh hsm)).ne
  · rcases calls_of_inHand hs hp hj hmore hcall with hold | ⟨x, hx, he⟩
    · exact absurd (hledger.call_lt hold) (lt_irrefl _)
    · obtain ⟨-, rfl, rfl⟩ := Entry.called.inj he
      exact ⟨x.result, deliveries x hx, rfl⟩
  · obtain ⟨rfl, -⟩ := hfuture n hnf
    cases hdue with
    | set hv =>
      rw [Dispatcher.future, hf, List.getElem?_append_right le_rfl, Nat.sub_self] at hv
      rcases fresh with _ | ⟨f, fresh⟩
      · cases hv
      · exact value f (List.mem_cons_self ..) r hv
    | behind h he => exact absurd (hflight.due_lt (.behind (hs ▸ h) he)) (lt_irrefl _)
    | inHand he => exact ending _ _ r he

/-- A command that attaches to an execution under way is followed from there. -/
theorem answers_joined {n : Nat} {c : Command κ} {more : List Entry}
    (hledger : Ledger calm handed through d .done) (hlt : n < d.futures.length)
    (unset : (d.future n).value = none) (hn : d'.stats.submitted = d.stats.submitted + 1)
    (hf : d'.futures = d.futures.set n
      { d.future n with listeners := (d.future n).listeners ++ [d.next c .silent] })
    (hu : d'.jobs = d.jobs) (hs : d'.strands = d.strands) (hp : d'.posted = d.posted)
    (hj : d'.journal = d.journal ++ more) (hmore : ∀ e ∈ more, e.isCall = false)
    (telling : ∀ s ∈ d.strands, ∀ key r, s.ending = .settle key (some n) r → A r) :
    Answers A (fun j => j ∈ d.jobs ∧ j.future = some n) d.stats.submitted (some n) d' .done := by
  have hunfinished : d'.unfinished .done = d.unfinished .done := by rw [unfinished, hu]; rfl
  have hjobs : d.unfinished .done = d.jobs := add_zero _
  refine ⟨by omega, fun m hm => ?_, fun j hjm => ?_,
    fun j hjm => absurd hjm (Multiset.notMem_zero _),
    fun j hjm ht => ?_, fun j hjm m hm hjf => ?_, fun m s hsm ht => ?_,
    fun correlationId status hcall => ?_, fun m hm r hdue => ?_⟩
  · obtain rfl := Option.some.inj hm
    rwa [hf, List.length_set]
  · have := hledger.job_lt (hjobs ▸ hjm.1)
    omega
  · rw [hunfinished] at hjm
    exact absurd ht (hledger.job_lt hjm).ne
  · obtain rfl := Option.some.inj hm
    rw [hunfinished, hjobs] at hjm
    exact ⟨hjm, hjf⟩
  · by_cases hmn : m = n
    · rw [hmn]
    · rw [future_set_of_ne hf hmn] at hsm
      exact absurd ht (hledger.listener_lt hsm).ne
  · rcases calls_of_inHand hs hp hj hmore hcall with hold | ⟨x, hx, -⟩
    · exact absurd (hledger.call_lt hold) (lt_irrefl _)
    · cases hx
  · obtain rfl := Option.some.inj hm
    cases hdue with
    | set hv =>
      rw [future_set_self hf hlt, unset] at hv
      cases hv
    | behind h he => exact telling _ (hs ▸ h) _ r he
    | inHand he => cases he

end Dispatcher

end SignOn
