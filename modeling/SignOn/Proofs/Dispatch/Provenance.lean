import SignOn.Proofs.Dispatch.ExactlyOnce
import SignOn.Proofs.Dispatch.Flight
import SignOn.Proofs.Dispatch.Source

/-! # Every result has its source

`Traced` follows results through a run, from where they come from to the callbacks that tell of
them: what is to be told has a source, the executions to whose futures commands listen were under
way when these were handed in, and what is settled with a rejected command is its rejection. -/

namespace SignOn

/-- The future that is set at the end. -/
def Ending.future : Ending → Option Nat
  | .settle _ future _ => future
  | .nothing | .freeWorker _ _ _ => none

variable {κ : Type}

/-- What a task does at its end. -/
def Task.ending : Task κ → Ending
  | .place _ => .nothing
  | .tell _ ending => ending

namespace Dispatcher

variable {start d d' : Dispatcher κ} {t t' : Task κ} {inputs : List (Moment × Input κ)}
  {s : Submission κ} {now : Moment} {i : Input κ}

/-! ### Listeners -/

theorem mem_listeners_append {f : Future CommandResult (Submission κ)} (hl : f.listeners = [])
    (hf : d'.futures = d.futures ++ [f]) {n : Nat} (h : s ∈ (d'.future n).listeners) :
    s ∈ (d.future n).listeners := by
  rcases Nat.lt_trichotomy n d.futures.length with hn | hn | hn
  · rwa [future_append_of_lt hf hn] at h
  · rw [future, hf, hn] at h
    simp [hl] at h
  · rw [future, hf, List.getElem?_eq_none (by simp; omega)] at h
    cases h

theorem mem_listeners_resolve {future : Option Nat} {result : CommandResult} {n : Nat}
    (h : s ∈ ((d.resolve future result).2.future n).listeners) : s ∈ (d.future n).listeners := by
  cases future with
  | none => exact h
  | some m =>
    by_cases hn : n = m
    · subst hn
      rcases Nat.lt_or_ge n d.futures.length with hlt | hge
      · rw [future_set_self rfl hlt] at h
        split at h
        · exact h
        · cases h
      · rw [(listeners_future_of_le (by simpa [resolve] using hge)).1] at h
        cases h
    · rwa [future_set_of_ne rfl hn] at h

theorem exists_of_mem_listeners {future : Option Nat} {result : CommandResult} {x : Delivery κ}
    (h : x ∈ d.listeners future result) :
    x.result = result ∧ ∃ n, future = some n ∧ x.submission ∈ (d.future n).listeners := by
  obtain ⟨s, hs, rfl⟩ := List.mem_map.mp h
  refine ⟨rfl, ?_⟩
  cases future with
  | none => cases hs
  | some n =>
    refine ⟨n, rfl, ?_⟩
    simp only [resolve, Future.set] at hs
    split at hs
    · cases hs
    · exact hs

/-! ### The invariant -/

/-- What is settled with a command that was rejected is its rejection, under its key. -/
def IsRefusal (start : Dispatcher κ) (inputs : List (Moment × Input κ)) : Ending → Prop
  | .settle key _ result => ∃ s ∈ chronicle refusedBy start inputs,
    (∀ k, key = some k → s.command.key = k) ∧ result = rejected s
  | .nothing | .freeWorker _ _ _ => True

/-- A command that was handed in on an occasion listens to a future: the execution whose result will
be told was under way on the occasion, or the future is about to be set to a result that has a
source. -/
structure Attached (start : Dispatcher κ) (o : Occasion κ) (d : Dispatcher κ) (t : Task κ) (n : Nat)
    (s : Submission κ) : Prop where
  shared : s ∈ o.sharedIn start
  jobs : ∀ j ∈ d.jobs, j.future = some n →
    j ∈ (o.state start).jobs ∧ j.key = some s.command.key
  strands : ∀ x ∈ d.strands, ∀ key r, x.ending = .settle key (some n) r → Source start o s r
  task : ∀ key r, t.ending = .settle key (some n) r → Source start o s r

/-- What is left to do tells of results that have a source. A job that is placed was handed in just
now, and nobody listens to its future. -/
def TaskTraced (start : Dispatcher κ) (inputs : List (Moment × Input κ)) (d : Dispatcher κ) :
    Task κ → Prop
  | .place j => (∃ before now i, inputs = before ++ [(now, i)] ∧
        j.submission ∈ (start.run before).handedIn now i) ∧
      ((d.lane j.submission.lane).accepting = false →
        j.submission ∈ chronicle refusedBy start inputs) ∧
      (∀ k, j.key = some k → j.submission.command.key = k) ∧
      ∀ n, j.future = some n → (d.future n).listeners = []
  | .tell xs ending =>
    (∀ x ∈ xs, IsSourced start inputs x.submission x.status) ∧ IsRefusal start inputs ending

/-- What is told, was told or is to be told has a source. -/
structure Traced (start : Dispatcher κ) (inputs : List (Moment × Input κ)) (d : Dispatcher κ)
    (t : Task κ) : Prop where
  jobs : ∀ j ∈ d.jobs, WasHandedIn start inputs j.submission
  posted : ∀ x ∈ d.posted, IsSourced start inputs x.submission x.status
  strands : ∀ x ∈ d.strands, (∀ y ∈ x.rest, IsSourced start inputs y.submission y.status) ∧
    IsRefusal start inputs x.ending
  listening : ∀ n, ∀ s ∈ (d.future n).listeners,
    ∃ o : Occasion κ, o.inputs = inputs ∧ s ∈ o.handedIn start ∧ Attached start o d t n s
  called : ∀ ticket correlationId status, .called ticket correlationId status ∈ d.journal →
    ∃ s : Submission κ, s.ticket = ticket ∧ s.command.correlationId = correlationId ∧
      IsSourced start inputs s status
  task : TaskTraced start inputs d t

theorem IsRefusal.further {ending : Ending} (h : IsRefusal start inputs ending) (now : Moment)
    (i : Input κ) : IsRefusal start (inputs ++ [(now, i)]) ending := by
  cases ending with
  | settle key future result =>
    obtain ⟨s, hs, hkey, hresult⟩ := h
    refine ⟨s, ?_, hkey, hresult⟩
    rw [chronicle_concat]
    exact List.mem_append_left _ hs
  | nothing | freeWorker => trivial

/-- What is traced stays traced when the run goes on. -/
theorem Traced.further (h : Traced start inputs d .done) (now : Moment) (i : Input κ) :
    Traced start (inputs ++ [(now, i)]) d .done := by
  refine ⟨fun j hj => (h.jobs j hj).further now i, fun x hx => (h.posted x hx).further now i,
    fun x hx => ⟨fun y hy => ((h.strands x hx).1 y hy).further now i,
      (h.strands x hx).2.further now i⟩, fun n s hs => ?_, fun ticket correlationId status hm => ?_,
    ⟨fun x hx => (by cases hx), trivial⟩⟩
  · obtain ⟨o, rfl, hin, ha⟩ := h.listening n s hs
    exact ⟨o.further now i, o.inputs_further now i, hin, ha.shared, ha.jobs,
      fun x hx key r hr => (ha.strands x hx key r hr).further now i,
      fun key r hr => (ha.task key r hr).further now i⟩
  · obtain ⟨s, hticket, hcorrelation, hs⟩ := h.called ticket correlationId status hm
    exact ⟨s, hticket, hcorrelation, hs.further now i⟩

/-- Nothing is told, and nothing comes to be listened to or executed. -/
theorem Traced.keep (h : Traced start inputs d t) (hj : d'.jobs ≤ d.jobs)
    (hp : d'.posted = d.posted) (hs : ∀ x ∈ d'.strands, x ∈ d.strands)
    (hl : ∀ n, ∀ s ∈ (d'.future n).listeners, s ∈ (d.future n).listeners)
    (hc : ∀ ticket correlationId status, .called ticket correlationId status ∈ d'.journal →
      .called ticket correlationId status ∈ d.journal)
    (he : t'.ending = t.ending ∨ t'.ending.future = none) (ht : TaskTraced start inputs d' t') :
    Traced start inputs d' t' := by
  refine ⟨fun j hm => h.jobs j (Multiset.mem_of_le hj hm), by rw [hp]; exact h.posted,
    fun x hx => h.strands x (hs x hx), fun n s hm => ?_,
    fun ticket correlationId status hm => h.called _ _ _ (hc _ _ _ hm), ht⟩
  obtain ⟨o, ho, hin, ha⟩ := h.listening n s (hl n s hm)
  refine ⟨o, ho, hin, ha.shared, fun j hm => ha.jobs j (Multiset.mem_of_le hj hm),
    fun x hx => ha.strands x (hs x hx), fun key r hr => ?_⟩
  rcases he with he | he
  · exact ha.task key r (he ▸ hr)
  · rw [hr] at he; cases he

theorem taskTraced_done : TaskTraced start inputs d .done := ⟨fun x hx => (by cases hx), trivial⟩

/-! ### Moves -/

variable {xs : List (Delivery κ)} {ending : Ending} {x : Delivery κ}

/-- A callback is called with a result that has a source. -/
theorem Traced.call (h : Traced start inputs d (.tell (x :: xs) ending)) :
    Traced start inputs (d.openCallback x xs ending) .done := by
  obtain ⟨htold, hrefusal⟩ := h.task
  refine ⟨h.jobs, h.posted, fun y hy => ?_, fun n s hs => ?_,
    fun ticket correlationId status hm => ?_, taskTraced_done⟩
  · rcases List.mem_cons.mp hy with rfl | hy
    · exact ⟨fun z hz => htold z (List.mem_cons_of_mem _ hz), hrefusal⟩
    · exact h.strands y hy
  · obtain ⟨o, ho, hin, ha⟩ := h.listening n s hs
    refine ⟨o, ho, hin, ha.shared, ha.jobs, fun y hy key r hr => ?_, fun key r hr => by cases hr⟩
    rcases List.mem_cons.mp hy with rfl | hy
    · exact ha.task key r hr
    · exact ha.strands y hy key r hr
  · rcases List.mem_append.mp hm with hm | hm
    · exact h.called _ _ _ hm
    · cases List.mem_singleton.mp hm
      exact ⟨x.submission, rfl, rfl, htold x (List.mem_cons_self ..)⟩

/-- The end of a command is announced. -/
theorem Traced.announce (h : Traced start inputs d t) (x : Delivery κ)
    (ht : TaskTraced start inputs (d.announce x) t) : Traced start inputs (d.announce x) t := by
  refine h.keep (le_of_eq rfl) rfl (fun _ => id) (fun _ _ => id) (fun _ _ _ hm => ?_) (.inl rfl) ht
  rcases List.mem_append.mp hm with hm | hm
  · exact hm
  · cases List.mem_singleton.mp hm

/-- A job that is placed waits in its lane. -/
theorem Traced.queue {j : Job κ} {l : Lane (Job κ)} (h : Traced start inputs d (.place j))
    (accepted : (d.lane j.submission.lane).submit? j = some l) :
    Traced start inputs (d.withLane j.submission.lane l) .done := by
  obtain ⟨⟨before, now, i, rfl, hin⟩, -, -, hfuture⟩ := h.task
  have hjobs := jobs_withLane (Lane.waiting_submit accepted)
  have heq := withLane_eq d j.submission.lane l
  refine ⟨fun j' hm => ?_, by rw [heq]; exact h.posted, by rw [heq]; exact h.strands,
    fun n s hs => ?_, by rw [heq]; exact h.called, taskTraced_done⟩
  · rw [hjobs] at hm
    rcases Multiset.mem_cons.mp hm with rfl | hm
    · exact ⟨.last before now i, rfl, hin⟩
    · exact h.jobs j' hm
  · have hold : s ∈ (d.future n).listeners := by rwa [heq] at hs
    obtain ⟨o, ho, hin', ha⟩ := h.listening n s hold
    refine ⟨o, ho, hin', ha.shared, fun j' hm hn => ?_, by rw [heq]; exact ha.strands,
      fun key r hr => by cases hr⟩
    rw [hjobs] at hm
    rcases Multiset.mem_cons.mp hm with rfl | hm
    · rw [hfuture n hn] at hold; cases hold
    · exact ha.jobs j' hm hn

/-- A job that is turned away is told of its rejection. -/
theorem Traced.reject {j : Job κ} (h : Traced start inputs d (.place j))
    (refused : (d.lane j.submission.lane).accepting = false) :
    Traced start inputs d (.tell [⟨j.submission, rejected j.submission⟩]
      (.settle j.key j.future (rejected j.submission))) := by
  obtain ⟨⟨before, now, i, rfl, hin⟩, hrefused, hkey, hfuture⟩ := h.task
  refine ⟨h.jobs, h.posted, h.strands, fun n s hs => ?_, h.called, fun x hx => ?_,
    j.submission, hrefused refused, hkey, rfl⟩
  · obtain ⟨o, ho, hin', ha⟩ := h.listening n s hs
    refine ⟨o, ho, hin', ha.shared, ha.jobs, ha.strands, fun key r hr => ?_⟩
    obtain ⟨-, hn, -⟩ := Ending.settle.inj hr
    rw [hfuture n hn] at hs
    cases hs
  · rw [List.mem_singleton.mp hx]
    exact ⟨.last before now i, rfl, hin, rejected j.submission,
      .refused (hrefused refused) rfl, rfl⟩

/-- Those who listen to a future that is settled are told. -/
theorem Traced.settle {key : Option CommandKey} {future : Option Nat} {result : CommandResult}
    (h : Traced start inputs d (.tell [] (.settle key future result))) :
    Traced start inputs (d.settle key future result)
      (.tell (d.listeners future result) .nothing) := by
  rw [settle_eq]
  refine h.keep (le_of_eq rfl) rfl (fun _ => id) (fun n s hs => mem_listeners_resolve hs)
    (fun _ _ _ => id) (.inr rfl) ⟨fun x hx => ?_, trivial⟩
  obtain ⟨rfl, n, rfl, hs⟩ := exists_of_mem_listeners hx
  obtain ⟨o, ho, hin, ha⟩ := h.listening n x.submission hs
  exact ⟨o, ho, hin, x.result, ha.task key x.result rfl, rfl⟩

/-- **A move tells only of results that have a source.** -/
theorem Traced.move (hd : d.Numbered) (hm : Move d t d' t') (h : Traced start inputs d t) :
    Traced start inputs d' t' := by
  cases hm with
  | queue accepted => exact h.queue accepted
  | @reject j refused =>
    exact h.reject ((Lane.submit?_eq_none_iff (hd.lane _) _).mp refused)
  | @post x xs ending later =>
    obtain ⟨htold, hrefusal⟩ := h.task
    have ha := h.announce x h.task
    refine ⟨ha.jobs, fun y hy => ?_, ha.strands, fun n s hs => ?_, ha.called,
      fun y hy => htold y (List.mem_cons_of_mem _ hy), hrefusal⟩
    · rcases List.mem_append.mp hy with hy | hy
      · exact h.posted y hy
      · rw [List.mem_singleton.mp hy]
        exact htold x (List.mem_cons_self ..)
    · obtain ⟨o, ho, hin, hatt⟩ := ha.listening n s hs
      exact ⟨o, ho, hin, hatt.shared, hatt.jobs, hatt.strands, hatt.task⟩
  | @call x xs ending atOnce =>
    have ha : Traced start inputs (d.announce x) (.tell (x :: xs) ending) := h.announce x h.task
    exact ha.call
  | @free kind pool ticket =>
    have heq := freeWorker_eq d kind pool ticket
    refine h.keep (le_of_eq (jobs_freeWorker _ _ _ _)) (by rw [heq])
      (by rw [heq]; exact fun _ => id) ?_ (by rw [heq]; exact fun _ _ _ => id) (.inr rfl)
      taskTraced_done
    intro n s hs
    rwa [heq] at hs
  | settle => exact h.settle

/-! ### Openings -/

theorem mem_of_called {journal more : List Entry} (hmore : ∀ e ∈ more, e.isCall = false)
    (ticket : Nat) (correlationId : String) (status : CommandStatus)
    (h : .called ticket correlationId status ∈ journal ++ more) :
    .called ticket correlationId status ∈ journal := by
  rcases List.mem_append.mp h with h | h
  · exact h
  · cases hmore _ h

/-- Handing in an interactive command calls nobody. -/
theorem journal_begun (d : Dispatcher κ) (c : Command κ) :
    ∃ more, ((d.enrolled c .interactive).makeWay (d.next c .interactive)).journal =
      d.journal ++ more ∧
      ∀ e ∈ more, e.isCall = false := by
  rcases ha : (d.enrolled c .interactive).registry.cancelActive.1 with _ | _
  · rw [makeWay_of_free ha]
    exact ⟨_, rfl, by simp [Entry.isCall]⟩
  · rw [makeWay_of_active ha]
    exact ⟨_, List.append_assoc _ _ _, by simp [Entry.isCall]⟩

/-- A job is handed in: it is placed as the job of a command that shares nothing that is there. -/
theorem Traced.place (h : Traced start inputs d .done) (hr : start.run inputs = d) {j : Job κ}
    {more : List Entry} (hin : d.handedIn now i = [j.submission]) (hshares : d.shares now i = false)
    (hkey : ∀ k, j.key = some k → j.submission.command.key = k)
    (hfuture : ∀ n, j.future = some n → (d'.future n).listeners = [])
    (hlane : ∀ kind, (d'.lane kind).accepting = (d.lane kind).accepting) (hj : d'.jobs = d.jobs)
    (hp : d'.posted = d.posted) (hs : d'.strands = d.strands)
    (hl : ∀ n, ∀ s ∈ (d'.future n).listeners, s ∈ (d.future n).listeners)
    (hjournal : d'.journal = d.journal ++ more) (hmore : ∀ e ∈ more, e.isCall = false) :
    Traced start (inputs ++ [(now, i)]) d' (.place j) := by
  refine (h.further now i).keep (le_of_eq hj) hp (by rw [hs]; exact fun _ => id) hl
    (fun _ _ _ hm => mem_of_called hmore _ _ _ (hjournal ▸ hm)) (.inr rfl)
    ⟨⟨inputs, now, i, rfl, ?_⟩, fun haccepting => ?_, hkey, hfuture⟩
  · rw [hr, hin]
    exact List.mem_singleton_self _
  · rw [chronicle_concat, hr, refusedBy, hin, hshares]
    rw [hlane] at haccepting
    simp [haccepting]

/-- A command attaches to an execution under way. -/
theorem Traced.join {c : Command κ} {n : Nat} {lost : Multiset Claim}
    (h : Traced start inputs d .done) (hr : start.run inputs = d) (hflight : Flight lost d .done)
    (shareable : c.isShareable = true) (hk : (c.key, n) ∈ d.inFlight) (hj : d'.jobs = d.jobs)
    (hp : d'.posted = d.posted) (hs : d'.strands = d.strands)
    (hf : d'.futures = d.futures.set n
      { d.future n with listeners := (d.future n).listeners ++ [d.next c .silent] })
    {more : List Entry} (hjournal : d'.journal = d.journal ++ more)
    (hmore : ∀ e ∈ more, e.isCall = false) :
    Traced start (inputs ++ [(now, .submitSilent c)]) d' .done := by
  have hclaim := hflight.claim_of_mem hk
  obtain ⟨hlt, -⟩ := hflight.pending _ hclaim
  -- claims have futures of their own, so whatever else has this future has the key of the command
  have hsame : ∀ key, (key, n) ∈ d.claims → key = some c.key := fun key hm => by
    have hm : (key, n) ∈ allClaims lost d .done :=
      Multiset.mem_add.mpr (.inl (Multiset.mem_add.mpr (.inl hm)))
    exact congrArg Prod.fst (Multiset.inj_on_of_nodup_map hflight.futures _ hm _ hclaim rfl)
  have hfurther := h.further now (.submitSilent c)
  refine ⟨by rw [hj]; exact hfurther.jobs, by rw [hp]; exact hfurther.posted,
    by rw [hs]; exact hfurther.strands, fun m s hm => ?_, fun ticket correlationId status hm =>
      hfurther.called _ _ _ (mem_of_called hmore _ _ _ (hjournal ▸ hm)), taskTraced_done⟩
  have hold : s ∈ (d.future m).listeners ∨ m = n ∧ s = d.next c .silent := by
    by_cases hmn : m = n
    · subst hmn
      rw [future_set_self hf hlt] at hm
      rcases List.mem_append.mp hm with hm | hm
      · exact .inl hm
      · exact .inr ⟨rfl, List.mem_singleton.mp hm⟩
    · rw [future_set_of_ne hf hmn] at hm
      exact .inl hm
  rcases hold with hold | ⟨rfl, rfl⟩
  · obtain ⟨o, ho, hin, ha⟩ := hfurther.listening m s hold
    exact ⟨o, ho, hin, ha.shared, by rw [hj]; exact ha.jobs, by rw [hs]; exact ha.strands, ha.task⟩
  · refine ⟨.last inputs now (.submitSilent c), rfl, ?_, ?_, fun j hm hn => ?_,
      fun x hx key r hr' => ?_, fun key r hr' => by cases hr'⟩
    · subst hr
      exact List.mem_singleton_self _
    · subst hr
      change _ ∈ (start.run inputs).sharedBy now (.submitSilent c)
      rw [sharedBy, if_pos shareable]
      exact List.mem_singleton_self _
    · rw [hj] at hm
      refine ⟨by change j ∈ (start.run inputs).jobs; rw [hr]; exact hm, hsame _ ?_⟩
      refine Multiset.mem_add.mpr (.inl (Multiset.mem_bind.mpr ⟨j, hm, ?_⟩))
      rw [Job.claims, hn]
      exact List.mem_singleton_self _
    · rw [hs] at hx
      have hrefusal := (h.strands x hx).2
      rw [hr'] at hrefusal
      obtain ⟨s', hs', hkey, rfl⟩ := hrefusal
      refine .refused ?_ (hkey _ (hsame key ?_))
      · change s' ∈ chronicle refusedBy start (inputs ++ _)
        rw [chronicle_append]
        exact List.mem_append_left _ hs'
      · refine Multiset.mem_add.mpr (.inr (Multiset.mem_bind.mpr ⟨x, hx, ?_⟩))
        rw [hr']
        exact List.mem_singleton_self _

theorem attributedTo_attributedTo (status : CommandStatus) (correlationId : String) :
    (status.attributedTo correlationId).attributedTo correlationId
      = status.attributedTo correlationId := by
  rcases status with ⟨_ | _⟩ | _ | _ <;> rfl

/-- A command is answered with what was last stored under its key. -/
theorem isSourced_of_cached {c : Command κ} {result : CommandResult} (hr : start.run inputs = d)
    (httl : start.results.ttl = start.settings.resultCacheTtl)
    (hkept : Kept (chronicle endedBy start inputs) d) (shareable : c.isShareable = true)
    (cached : (d.results.get c.key now).1 = some result) :
    IsSourced start (inputs ++ [(now, .submitSilent c)]) (d.next c .silent)
      (Delivery.status ⟨d.next c .silent, result.attributedTo c.correlationId⟩) := by
  obtain ⟨m, hstored, hfresh⟩ := ResultCache.get_eq_some_iff.mp cached
  obtain ⟨x, hlatest, rfl, rfl⟩ := hkept _ _ _ hstored
  subst hr
  rw [ttl_run, httl] at hfresh
  refine ⟨.last inputs now (.submitSilent c), rfl, List.mem_singleton_self _, x.result,
    .cached ?_ hlatest hfresh, attributedTo_attributedTo _ _⟩
  change _ ∈ (start.run inputs).sharedBy now (.submitSilent c)
  rw [sharedBy, if_pos shareable]
  exact List.mem_singleton_self _

/-- An execution that ends is among those that have ended since. -/
theorem mem_endedSince {o : Occasion κ} {x : Ended κ} (ho : start.run o.inputs = d)
    (hx : x ∈ d.endedBy now i) : x ∈ (o.further now i).endedSince start := by
  subst ho
  have hrun : start.run o.inputs = ((o.state start).step o.now o.input).run o.after :=
    run_append _ _ _
  rw [hrun] at hx
  unfold Occasion.endedSince Occasion.further
  rw [chronicle_concat]
  exact List.mem_append_right _ hx

/-- The controllers of a job are done: its command and those who listen to its future are told. -/
theorem Traced.finish {e : Execution κ} {ticket : Nat} {outcome : Outcome}
    (h : Traced start inputs d .done) (hr : start.run inputs = d)
    (hn : (d.executions.map fun e => e.job.submission.ticket).Nodup)
    (found : d.executions.find? (fun e => e.job.submission.ticket = ticket) = some e) :
    Traced start (inputs ++ [(now, .finishJob ticket outcome)])
      (d.executed e (resultOf e outcome) now)
      (.tell (d.listeners e.job.future (resultOf e outcome)
        ++ [⟨e.job.submission, resultOf e outcome⟩]) (.freeWorker e.lane e.pool ticket)) := by
  have hended : ⟨e, resultOf e outcome, now⟩ ∈ d.endedBy now (.finishJob ticket outcome) := by
    rw [endedBy_finished found]
    exact List.mem_singleton_self _
  have hjob := mem_jobs_of_execution (List.mem_of_find?_eq_some found)
  obtain rfl := ticket_of_found found
  refine (h.further now _).keep ?_ ?_ ?_ (fun n s hs => ?_) ?_ (.inr rfl) ⟨fun x hx => ?_, trivial⟩
  · rw [jobs_executed hn found (resultOf e outcome) now]
    exact Multiset.le_cons_self _ _
  · rw [executed_eq]
    rfl
  · rw [executed_eq]
    exact fun _ => id
  · have hset : s ∈ ((d.resolve e.job.future (resultOf e outcome)).2.future n).listeners := by
      rwa [executed_eq] at hs
    exact mem_listeners_resolve hset
  · rw [executed_eq]
    exact fun _ _ _ => id
  · rcases List.mem_append.mp hx with hx | hx
    · obtain ⟨hresult, n, hfuture, hs⟩ := exists_of_mem_listeners hx
      obtain ⟨o, rfl, hin, ha⟩ := h.listening n x.submission hs
      obtain ⟨hunder, hkey⟩ := ha.jobs _ hjob hfuture
      have hsource : Source start (o.further now (.finishJob e.job.submission.ticket outcome))
          x.submission (resultOf e outcome) :=
        Source.joined (o := o.further now _) (x := ⟨e, resultOf e outcome, now⟩) ha.shared
          (mem_endedSince hr hended) hunder hkey
      exact ⟨o.further now _, o.inputs_further now _, hin, x.result, hresult ▸ hsource, rfl⟩
    · rw [List.mem_singleton.mp hx]
      obtain ⟨o, rfl, hin⟩ := h.jobs _ hjob
      have hsource : Source start (o.further now (.finishJob e.job.submission.ticket outcome))
          e.job.submission (resultOf e outcome) :=
        Source.own (x := ⟨e, resultOf e outcome, now⟩) (mem_endedSince hr hended) rfl
      exact ⟨o.further now _, o.inputs_further now _, hin, _, hsource, rfl⟩

/-- A callback has come to its end or broken off. -/
theorem Traced.withoutStrand (h : Traced start inputs d .done) {strand : Nat} {x : Strand κ}
    (hx : d.strands.find? (fun s => s.id = strand) = some x) :
    Traced start inputs { d with strands := d.strands.filter fun t => t.id ≠ strand }
      (.tell x.rest x.ending) := by
  have hmem := List.mem_of_find?_eq_some hx
  refine ⟨h.jobs, h.posted, fun y hy => h.strands y (List.mem_filter.mp hy).1, fun n s hs => ?_,
    h.called, h.strands x hmem⟩
  obtain ⟨o, ho, hin, ha⟩ := h.listening n s hs
  exact ⟨o, ho, hin, ha.shared, ha.jobs, fun y hy => ha.strands y (List.mem_filter.mp hy).1,
    ha.strands x hmem⟩

/-- **An opening tells only of results that have a source.** -/
theorem Traced.opening {lost : Multiset Claim} (ho : Opening d now i d' t)
    (hr : start.run inputs = d) (httl : start.results.ttl = start.settings.resultCacheTtl)
    (hd : d.Numbered) (hn : (d.executions.map fun e => e.job.submission.ticket).Nodup)
    (hflight : Flight lost d .done) (hkept : Kept (chronicle endedBy start inputs) d)
    (h : Traced start inputs d .done) : Traced start (inputs ++ [(now, i)]) d' t := by
  have hf := h.further now i
  cases ho with
  | @answered c result shareable cached =>
    simp only [consulted_eq, note]
    refine hf.keep (le_of_eq (jobs_congr rfl rfl rfl)) rfl (fun _ => id)
      (fun n s hs => mem_listeners_append rfl rfl hs)
      (fun ticket correlationId status hm => ?_) (.inr rfl) ⟨fun x hx => ?_, trivial⟩
    · have hm : .called ticket correlationId status ∈ (d.journal ++
          [(d.next c .silent).startEntry]) ++ [.noted d.stats.submitted
            (.cacheHit c.apiId c.correlationId)] := hm
      rw [List.append_assoc] at hm
      exact mem_of_called (by simp [Entry.isCall, Submission.startEntry]) _ _ _ hm
    · rw [List.mem_singleton.mp hx]
      exact isSourced_of_cached hr httl hkept shareable cached
  | joined shareable missed found unset =>
    exact h.join hr hflight shareable (mem_inFlight found) (jobs_congr rfl rfl rfl) rfl rfl rfl rfl
      (by simp [Entry.isCall])
  | @joinedLate c n result shareable missed found set =>
    rw [(hflight.pending _ (hflight.claim_of_mem (mem_inFlight found))).2] at set
    cases set
  | @launched c shareable missed free =>
    refine h.place hr rfl ?_ (fun k hk => Option.some.inj hk) (fun n hn' => ?_) (fun _ => rfl)
      (jobs_congr rfl rfl rfl) rfl rfl (fun n s hs => mem_listeners_append rfl rfl hs) rfl
      (by simp [Entry.isCall])
    · simp [shares, missed, free]
    · rw [← Option.some.inj hn', future]
      simp [Future.pending]
  | @alone c unshareable =>
    refine h.place hr rfl ?_ (fun k hk => by cases hk) (fun n hn' => ?_) (fun _ => rfl)
      (jobs_congr rfl rfl rfl) rfl rfl (fun n s hs => mem_listeners_append rfl rfl hs) rfl
      (by simp [Entry.isCall])
    · simp [shares, unshareable]
    · rw [← Option.some.inj hn', future]
      simp [Future.pending]
  | forgotten =>
    exact h.place hr rfl rfl (fun k hk => by cases hk) (fun n hn' => by cases hn') (fun _ => rfl)
      (jobs_congr rfl rfl rfl) rfl rfl (fun _ _ => id) rfl (by simp [Entry.isCall])
  | @begun c =>
    have heq := makeWay_eq (d.enrolled c .interactive) (d.next c .interactive)
    obtain ⟨more, hjournal, hmore⟩ := journal_begun d c
    refine h.place hr rfl rfl (fun k hk => by cases hk) (fun n hn' => by cases hn') (fun kind => ?_)
      ?_ (by rw [heq]; rfl) (by rw [heq]; rfl) (fun n s hs => ?_) hjournal hmore
    · rw [heq]
      cases kind <;> rfl
    · rw [heq]
      exact jobs_congr rfl rfl rfl
    · rwa [heq] at hs
  | continuation | cleared | expired | stopped | reset | shutDown | closed =>
    exact hf.keep (le_of_eq (jobs_congr rfl rfl rfl)) rfl (fun _ => id) (fun _ _ => id)
      (fun _ _ _ => id) (.inr rfl) taskTraced_done
  | reopened =>
    exact hf.keep (le_of_eq (jobs_congr rfl (Lane.waiting_reopen _) rfl)) rfl (fun _ => id)
      (fun _ _ => id) (fun _ _ _ => id) (.inr rfl) taskTraced_done
  | waits | idle | unfinished | noStrand | nonePosted => exact hf
  | startedSilent taken =>
    exact hf.keep (le_of_eq (jobs_started .silent hd taken rfl rfl rfl rfl)) rfl (fun _ => id)
      (fun _ _ => id) (fun _ _ _ => id) (.inr rfl) taskTraced_done
  | startedInteractive taken =>
    exact hf.keep (le_of_eq (jobs_started .interactive hd taken rfl rfl rfl rfl)) rfl (fun _ => id)
      (fun _ _ => id) (fun _ _ _ => id) (.inr rfl) taskTraced_done
  | finished found => exact h.finish hr hn found
  | ended found =>
    have hs := hf.withoutStrand found
    exact hs.keep (le_of_eq (jobs_congr rfl rfl rfl)) rfl (fun _ => id) (fun _ _ => id)
      (mem_of_called (by simp [Entry.isCall])) (.inl rfl) hs.task
  | @broke strand x found =>
    have hs := hf.withoutStrand found
    have heq := breakOff_eq { d with strands := d.strands.filter fun t => t.id ≠ strand } x.ending
    refine hs.keep (le_of_eq (jobs_breakOff _ _)) (by rw [heq]) (by rw [heq]; exact fun _ => id)
      (fun n s hm => ?_) (by rw [heq]; exact fun _ _ _ => id) (.inr rfl) taskTraced_done
    rwa [heq] at hm
  | @ran place x found =>
    have hx := hf.posted x (List.mem_of_getElem? found)
    have hp : Traced start (inputs ++ [(now, .runPosted place)])
        { d with posted := d.posted.eraseIdx place } (.tell [x] .nothing) := by
      obtain ⟨hjobs, hposted, hstrands, hlistening, hcalled, -⟩ := hf
      refine ⟨hjobs, fun y hy => hposted y (List.mem_of_mem_eraseIdx hy), hstrands,
        fun n s hs => ?_, hcalled, fun y hy => ?_, trivial⟩
      · obtain ⟨o, ho, hin, ha⟩ := hlistening n s hs
        exact ⟨o, ho, hin, ha.shared, ha.jobs, ha.strands, fun key r hr => by cases hr⟩
      · rw [List.mem_singleton.mp hy]
        exact hx
    exact hp.call

theorem traced_ofSettings (settings : Settings) (poster : Poster) (registry : Option Registry) :
    Traced (ofSettings settings poster registry : Dispatcher κ) []
      (ofSettings settings poster registry) .done := by
  refine ⟨fun j hj => ?_, by simp [ofSettings], by simp [ofSettings], fun n s hs => ?_,
    by simp [ofSettings], taskTraced_done⟩
  · simp [Dispatcher.jobs, ofSettings, Lane.waiting, Lane.new] at hj
  · simp [future, ofSettings, Future.pending] at hs

/-- **In every run** what is told has a source. -/
theorem traced_reached (settings : Settings) (poster : Poster) (registry : Option Registry)
    (inputs : List (Moment × Input κ)) :
    Traced (ofSettings settings poster registry) inputs
      ((ofSettings settings poster registry : Dispatcher κ).run inputs) .done :=
  reached_keeps (I := fun inputs d t => Traced (ofSettings settings poster registry) inputs d t)
    (traced_ofSettings settings poster registry)
    (fun {inputs _ _ _ _ _} hr hd hn ho h =>
      h.opening ho hr rfl hd hn (hr ▸ flight_reached settings poster registry inputs)
        (hr ▸ kept_reached settings poster registry inputs))
    (fun hd hm h => h.move hd hm) inputs

/-! ### What callbacks are told -/

theorem token_attributed {status : CommandStatus} {correlationId : String} {issued : IssuedToken}
    (h : status.attributedTo correlationId = .completed (.token issued)) :
    issued.correlationId = some correlationId := by
  rcases status with ⟨_ | _⟩ | _ | _ <;> cases h
  rfl

/-- What is stored may be stored. -/
theorem Kept.isCacheable {ended : List (Ended κ)} (h : Kept ended d) {k : CommandKey}
    {v : CommandResult} {m : Moment} (hk : d.results.stored k = some (v, m)) :
    v.status.isCacheable = true := by
  obtain ⟨x, hx, rfl, -⟩ := h k v m hk
  have hs := (List.mem_filter.mp (List.mem_of_getLast? hx)).2
  simp only [Ended.stores, Bool.and_eq_true] at hs
  exact hs.2

theorem isCacheable_iff {status : CommandStatus} : status.isCacheable = true ↔
    status ≠ .cancelled ∧ ∀ f, status = .failed f → f.code ∉ Code.passing := by
  cases status <;> simp [CommandStatus.isCacheable, Failure.isCacheable]

/-- An execution under a key is that of a command with this key, which may be shared. -/
theorem key_of_ended {settings : Settings} {poster : Poster} {registry : Option Registry}
    {x : Ended κ} (h : x ∈ chronicle endedBy (ofSettings settings poster registry) inputs)
    {k : CommandKey} (hk : x.execution.job.key = some k) :
    x.execution.job.submission.command.isShareable = true ∧
      x.execution.job.submission.command.key = k := by
  obtain ⟨before, now, i, after, rfl, hx⟩ := mem_chronicle h
  obtain ⟨ticket, outcome, rfl, -, -, found⟩ := endedBy_cases hx
  have hform := formed_reached (κ := κ) settings poster registry before
  have hjob := hform.jobs _ (mem_jobs_of_execution (List.mem_of_find?_eq_some found))
  exact (hjob.shared k hk).2

/-- **Every result has its source.** A callback is that of one command, handed in on one occasion,
and is told a result from a source of that command, attributed to it: the result of its own
execution; that of an execution of its key which was under way on the occasion; the one last stored
under its key, less than the lifetime of the cache before; or the failure of a command of its key
whose lane took none. A token that it is told of carries its correlation id. What the cache gives
out is never that the person gave up, nor a passing failure, and what is executed or stored under a
key is of commands with this key. -/
theorem results_have_sources (settings : Settings) (poster : Poster) (registry : Option Registry)
    (inputs : List (Moment × Input κ)) :
    let start : Dispatcher κ := ofSettings settings poster registry
    let d := start.run inputs
    (∀ ticket correlationId status, Entry.called ticket correlationId status ∈ d.journal →
      ∃ (o : Occasion κ) (s : Submission κ),
        (∀ o' s', o'.inputs = inputs ∧ s' ∈ o'.handedIn start ∧ s'.ticket = ticket ↔
          o' = o ∧ s' = s) ∧
        correlationId = s.command.correlationId ∧
        (∃ r, Source start o s r ∧ status = (r.attributedTo correlationId).status) ∧
        ∀ issued, status = .completed (.token issued) →
          issued.correlationId = some correlationId) ∧
      (∀ k now v, (d.results.get k now).1 = some v → v.status ≠ .cancelled ∧
        ∀ f, v.status = .failed f → f.code ∉ Code.passing) ∧
      ∀ x ∈ chronicle endedBy start inputs, ∀ k, x.execution.job.key = some k →
        x.execution.job.submission.command.isShareable = true ∧
          x.execution.job.submission.command.key = k := by
  intro start d
  have htraced := traced_reached (κ := κ) settings poster registry inputs
  refine ⟨fun ticket correlationId status hm => ?_, fun k now v hget => ?_,
    fun x hx k hk => key_of_ended hx hk⟩
  · obtain ⟨s, rfl, rfl, o, ho, hin, r, hr, rfl⟩ := htraced.called _ _ _ hm
    refine ⟨o, s, fun o' s' => ⟨fun ⟨ho', hin', ht⟩ => ?_, ?_⟩, rfl, ⟨r, hr, rfl⟩,
      fun issued hi => token_attributed hi⟩
    · obtain ⟨rfl, rfl⟩ :=
        occasion_unique settings poster registry (ho.trans ho'.symm) hin hin' ht.symm
      exact ⟨rfl, rfl⟩
    · rintro ⟨rfl, rfl⟩
      exact ⟨ho, hin, rfl⟩
  · obtain ⟨m, hstored, -⟩ := ResultCache.get_eq_some_iff.mp hget
    exact isCacheable_iff.mp ((kept_reached settings poster registry inputs).isCacheable hstored)

theorem results_have_sources_sharedRun :
    let start : Dispatcher Unit := ofSettings .standard .inline none
    let status : CommandStatus := .completed (.sharedDevice true)
    Entry.called 1 "b" status ∈ (start.run Sample.sharedRun).journal ∧
      ∃ (o : Occasion Unit) (s : Submission Unit) (r : CommandResult), o.inputs = Sample.sharedRun ∧
        s ∈ o.handedIn start ∧ s.ticket = 1 ∧ Source start o s r ∧
          status = (r.attributedTo "b").status := by
  intro start status
  have hcalled : Entry.called 1 "b" status ∈ (start.run Sample.sharedRun).journal := by decide
  obtain ⟨h, -⟩ := results_have_sources .standard .inline none Sample.sharedRun
  obtain ⟨o, s, hunique, -, ⟨r, hr, hstatus⟩, -⟩ := h 1 "b" status hcalled
  obtain ⟨ho, hin, ht⟩ := (hunique o s).mpr ⟨rfl, rfl⟩
  exact ⟨hcalled, o, s, r, ho, hin, ht, hr, hstatus⟩

end Dispatcher

end SignOn
