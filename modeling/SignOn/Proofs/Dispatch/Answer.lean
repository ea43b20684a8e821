import SignOn.Proofs.Dispatch.Follow

/-! # What a command is answered with

When a command is handed in, it is settled where its result will come from, and `Answer` lists the
ways: the result cache, an execution under way, a rejection that is being told under its key, an
execution of its own, or its own rejection. Its callback and its future tell of nothing else
(`answered_reached`). -/

namespace SignOn

variable {κ : Type}

namespace Dispatcher

variable {d d' : Dispatcher κ} {t : Task κ} {lost : Multiset Claim} {j : Job κ} {now : Moment}
  {i : Input κ}

/-- A future that is in the in-flight map is claimed under its key only. -/
theorem Flight.key_of_claim (h : Flight lost d .done) {k : CommandKey} {n : Nat}
    (hk : (k, n) ∈ d.inFlight) {key : Option CommandKey} (hc : (key, n) ∈ d.claims) :
    key = some k := by
  have hc : (key, n) ∈ allClaims lost d .done :=
    Multiset.mem_add.mpr (.inl (Multiset.mem_add.mpr (.inl hc)))
  exact congrArg Prod.fst
    (Multiset.inj_on_of_nodup_map h.futures _ hc _ (h.claim_of_mem hk) rfl)

theorem Flight.key_of_job (h : Flight lost d .done) {k : CommandKey} {n : Nat}
    (hk : (k, n) ∈ d.inFlight) (hj : j ∈ d.jobs) (hn : j.future = some n) : j.key = some k := by
  refine h.key_of_claim hk (Multiset.mem_add.mpr (.inl (Multiset.mem_bind.mpr ⟨j, hj, ?_⟩)))
  rw [Job.claims, hn]
  exact List.mem_singleton_self _

theorem Flight.key_of_strand (h : Flight lost d .done) {k : CommandKey} {n : Nat}
    (hk : (k, n) ∈ d.inFlight) {x : Strand κ} (hx : x ∈ d.strands) {key : Option CommandKey}
    {r : CommandResult} (hr : x.ending = .settle key (some n) r) : key = some k := by
  refine h.key_of_claim hk (Multiset.mem_add.mpr (.inr (Multiset.mem_bind.mpr ⟨x, hx, ?_⟩)))
  rw [hr]
  exact List.mem_singleton_self _

/-- What is settled with a command that was rejected. -/
theorem IsRefusal.of_settle {start : Dispatcher κ} {inputs : List (Moment × Input κ)}
    {ending : Ending} (h : IsRefusal start inputs ending) {key : Option CommandKey} {n : Option Nat}
    {r : CommandResult} (hr : ending = .settle key n r) : ∃ s ∈ chronicle refusedBy start inputs,
      (∀ k, key = some k → s.command.key = k) ∧ r = rejected s := by
  subst hr
  exact h

end Dispatcher

/-- What stands in the in-flight map for a job. -/
def Job.entry (j : Job κ) : Option (CommandKey × Nat) := j.key.bind fun k => j.future.map (k, ·)

namespace Dispatcher

/-- The future that a step gives out. -/
def futureFor (d : Dispatcher κ) (now : Moment) : Input κ → Option Nat
  | .submitSilent c => some (d.submitSilent c now).1
  | _ => none

/-- A command is handed in to be executed: it shares nothing, its job is to be placed, and a future
may be made for it. -/
structure Places (d : Dispatcher κ) (now : Moment) (i : Input κ) (d' : Dispatcher κ) (j : Job κ) :
    Prop where
  handedIn : d.handedIn now i = [j.submission]
  alone : d.shares now i = false
  ticket : j.submission.ticket = d.stats.submitted
  submitted : d'.stats.submitted = d.stats.submitted + 1
  future : j.future = d.futureFor now i
  made : ∀ n, j.future = some n → n = d.futures.length
  futures : d'.futures = d.futures ++ (j.future.map fun _ => .pending).toList
  jobs : d'.jobs = d.jobs
  strands : d'.strands = d.strands
  posted : d'.posted = d.posted
  journal : ∃ more, d'.journal = d.journal ++ more ∧ ∀ e ∈ more, e.isCall = false
  lanes : ∀ kind, d'.lane kind = d.lane kind
  inFlight : d'.inFlight = d.inFlight ++ j.entry.toList
  free : ∀ k, j.key = some k → d.inFlight.lookup k = none
  poster : d'.poster = d.poster
  strandCount : d'.strandCount = d.strandCount

theorem places_of_opening (ho : Opening d now i d' t) (ht : t = .place j) :
    Places d now i d' j := by
  cases ho with
  | @launched c shareable missed free =>
    obtain rfl := Task.place.inj ht
    have hfuture : some d.futures.length = d.futureFor now (.submitSilent c) := by
      rw [futureFor, fst_submitSilent, if_pos ⟨shareable, missed⟩, free, Option.getD_none]
    exact {
      handedIn := rfl
      alone := by simp [shares, missed, free]
      ticket := rfl
      submitted := rfl
      future := hfuture
      made := fun n hn => (Option.some.inj hn).symm
      futures := rfl
      jobs := jobs_congr rfl rfl rfl
      strands := rfl
      posted := rfl
      journal := ⟨_, rfl, by simp [Entry.isCall]⟩
      lanes := fun kind => by cases kind <;> rfl
      inFlight := rfl
      free := fun k hk => Option.some.inj hk ▸ free
      poster := rfl
      strandCount := rfl }
  | @alone c unshareable =>
    obtain rfl := Task.place.inj ht
    have hfuture : some d.futures.length = d.futureFor now (.submitSilent c) := by
      rw [futureFor, fst_submitSilent, if_neg (by simp [unshareable])]
    exact {
      handedIn := rfl
      alone := by simp [shares, unshareable]
      ticket := rfl
      submitted := rfl
      future := hfuture
      made := fun n hn => (Option.some.inj hn).symm
      futures := rfl
      jobs := jobs_congr rfl rfl rfl
      strands := rfl
      posted := rfl
      journal := ⟨_, rfl, by simp [Entry.isCall]⟩
      lanes := fun kind => by cases kind <;> rfl
      inFlight := (List.append_nil _).symm
      free := fun _ hk => absurd hk (by simp)
      poster := rfl
      strandCount := rfl }
  | forgotten =>
    obtain rfl := Task.place.inj ht
    exact {
      handedIn := rfl
      alone := rfl
      ticket := rfl
      submitted := rfl
      future := rfl
      made := fun _ hn => absurd hn (by simp)
      futures := (List.append_nil _).symm
      jobs := jobs_congr rfl rfl rfl
      strands := rfl
      posted := rfl
      journal := ⟨_, rfl, by simp [Entry.isCall]⟩
      lanes := fun kind => by cases kind <;> rfl
      inFlight := (List.append_nil _).symm
      free := fun _ hk => absurd hk (by simp)
      poster := rfl
      strandCount := rfl }
  | @begun c =>
    obtain rfl := Task.place.inj ht
    have heq := makeWay_eq (d.enrolled c .interactive) (d.next c .interactive)
    have hsubmitted : ((d.enrolled c .interactive).makeWay (d.next c .interactive)).stats.submitted
        = d.stats.submitted + 1 := by
      rcases ha : (d.enrolled c .interactive).registry.cancelActive.1 with _ | _
      · rw [makeWay_of_free ha]
        rfl
      · rw [makeWay_of_active ha]
        rfl
    exact {
      handedIn := rfl
      alone := rfl
      ticket := rfl
      submitted := hsubmitted
      future := rfl
      made := fun _ hn => absurd hn (by simp)
      futures := by rw [heq]; exact (List.append_nil _).symm
      jobs := by rw [heq]; exact jobs_congr rfl rfl rfl
      strands := by rw [heq]; rfl
      posted := by rw [heq]; rfl
      journal := journal_begun d c
      lanes := fun kind => by rw [heq]; cases kind <;> rfl
      inFlight := by rw [heq]; exact (List.append_nil _).symm
      free := fun _ hk => absurd hk (by simp)
      poster := by rw [heq]; rfl
      strandCount := by rw [heq]; rfl }
  | _ => cases ht

end Dispatcher

open Dispatcher

/-- What the command that is handed in on an occasion is answered with. -/
inductive Answer (start : Dispatcher κ) (o : Occasion κ) (s : Submission κ) : CommandResult → Prop
  | cached {c r} (input : o.input = .submitSilent c) (shareable : c.isShareable = true)
      (hit : ((o.state start).results.get c.key o.now).1 = some r) :
      Answer start o s (r.attributedTo c.correlationId)
  | joined {c x} (input : o.input = .submitSilent c) (shareable : c.isShareable = true)
      (missed : ((o.state start).results.get c.key o.now).1 = none)
      (found : ((o.state start).inFlight.lookup c.key).isSome) (ended : x ∈ o.endedSince start)
      (underWay : x.execution.job ∈ (o.state start).jobs) (key : x.execution.job.key = some c.key) :
      Answer start o s x.result
  | refusal {c s' x} (input : o.input = .submitSilent c) (shareable : c.isShareable = true)
      (missed : ((o.state start).results.get c.key o.now).1 = none)
      (found : ((o.state start).inFlight.lookup c.key).isSome)
      (refused : s' ∈ chronicle refusedBy start o.before) (key : s'.command.key = c.key)
      (telling : x ∈ (o.state start).strands) (ending : x.ending.key = some c.key) :
      Answer start o s (rejected s')
  | own {x} (alone : (o.state start).shares o.now o.input = false)
      (accepted : ((o.state start).lane s.lane).accepting = true) (ended : x ∈ o.endedSince start)
      (same : x.execution.job.submission = s) : Answer start o s x.result
  | refused (alone : (o.state start).shares o.now o.input = false)
      (closed : ((o.state start).lane s.lane).accepting = false) : Answer start o s (rejected s)

namespace Dispatcher

section Reached

variable (settings : Settings) (poster : Poster) (registry : Option Registry)

/-- A command whose job is accepted is answered by its own execution. -/
theorem answers_accepted {before : List (Moment × Input κ)} {now : Moment} {i : Input κ}
    (after : List (Moment × Input κ)) {d' : Dispatcher κ} {j : Job κ} {l : Lane (Job κ)}
    (ho : Opening ((ofSettings settings poster registry).run before) now i d' (.place j))
    (he : ((ofSettings settings poster registry).run before).step now i = d'.enqueue j)
    (hs : (d'.lane j.submission.lane).submit? j = some l) :
    let start : Dispatcher κ := ofSettings settings poster registry
    let o : Occasion κ := ⟨before, now, i, after⟩
    Answers (Answer start o j.submission) (· = j) j.submission.ticket
      ((o.state start).futureFor now i) (start.run o.inputs) .done := by
  intro start o
  have hp := places_of_opening ho rfl
  have hd := numbered_reached (κ := κ) settings poster registry before
  have hinputs : o.inputs = before ++ [(now, i)] ++ after := List.append_cons _ _ _
  have hstep : start.run (before ++ [(now, i)]) = d'.enqueue j := (run_concat _ _ _ _).trans he
  have haccepted : ((o.state start).lane j.submission.lane).accepting = true := by
    by_contra hclosed
    have hnone := (Lane.submit?_eq_none_iff (hd.lane j.submission.lane) j).mpr
      (Bool.eq_false_of_not_eq_true hclosed)
    rw [← hp.lanes, hs] at hnone
    cases hnone
  have hjob : j ∈ (start.run (before ++ [(now, i)])).jobs := by
    rw [hstep, enqueue_accepted hs, jobs_withLane (Lane.waiting_submit hs)]
    exact Multiset.mem_cons_self _ _
  obtain ⟨through, hledger⟩ :=
    ledger_reached (κ := κ) settings poster registry (before ++ [(now, i)])
  have hfollow := answers_of_job (Answer start o j.submission) hledger
    (flight_reached settings poster registry (before ++ [(now, i)])) hjob
  rw [hp.future] at hfollow
  rw [hinputs]
  refine hfollow.run settings poster registry after fun x hx hxj => ?_
  rw [run_concat] at hx
  exact .own hp.alone haccepted hx (by rw [hxj])

/-- A command whose job is refused is turned away, and no job can bring it anything else. -/
theorem answers_refused {before : List (Moment × Input κ)} {now : Moment} {i : Input κ}
    (after : List (Moment × Input κ)) {d' : Dispatcher κ} {j : Job κ}
    (ho : Opening ((ofSettings settings poster registry).run before) now i d' (.place j))
    (he : ((ofSettings settings poster registry).run before).step now i = d'.enqueue j)
    (hs : (d'.lane j.submission.lane).submit? j = none) :
    let start : Dispatcher κ := ofSettings settings poster registry
    let o : Occasion κ := ⟨before, now, i, after⟩
    Answers (Answer start o j.submission) (fun _ => False) j.submission.ticket
      ((o.state start).futureFor now i) (start.run o.inputs) .done := by
  intro start o
  have hp := places_of_opening ho rfl
  have hd := numbered_reached (κ := κ) settings poster registry before
  have hform := formed_reached (κ := κ) settings poster registry before
  have hflight := flight_reached (κ := κ) settings poster registry before
  have hn := executions_nodup_reached (κ := κ) settings poster registry before
  have hinputs : o.inputs = before ++ [(now, i)] ++ after := List.append_cons _ _ _
  have hstep : start.run (before ++ [(now, i)]) = d'.enqueue j := (run_concat _ _ _ _).trans he
  have hclosed : ((o.state start).lane j.submission.lane).accepting = false := by
    refine (Lane.submit?_eq_none_iff (hd.lane j.submission.lane) j).mp ?_
    rw [← hp.lanes]
    exact hs
  obtain ⟨through, hledger⟩ := ledger_reached (κ := κ) settings poster registry before
  obtain ⟨more, hjournal, hmore⟩ := hp.journal
  have hrefused : Answer start o j.submission (rejected j.submission) := .refused hp.alone hclosed
  have hfresh :
      ∀ f ∈ (j.future.map fun _ => (.pending : Future CommandResult (Submission κ))).toList,
        f = .pending := by
    intro f hf
    obtain ⟨n, -, rfl⟩ := Option.map_eq_some_iff.mp (Option.mem_toList.mp hf)
    rfl
  have htold : Answers (Answer start o j.submission) (fun _ => False)
      (start.run before).stats.submitted j.future d'
      (.tell [⟨j.submission, rejected j.submission⟩]
        (.settle j.key j.future (rejected j.submission))) := by
    refine answers_told hledger hflight hp.submitted hp.futures
      (fun f hf => by rw [hfresh f hf]; rfl)
      (fun n hn => ⟨hp.made n hn, by simp [hn]⟩) hp.jobs hp.strands hp.posted hjournal hmore rfl
      (fun x hx => ?_) (fun f hf r hr => ?_) (fun key n r hr => ?_)
    · rw [List.mem_singleton.mp hx]
      exact hrefused
    · rw [hfresh f hf] at hr
      cases hr
    · rw [← (Ending.settle.inj hr).2.2]
      exact hrefused
  have hdone := htold.perform ((hform.opening ho hd hn).move (.reject hs))
    ((hflight.opening ho hd hn hform).move (.reject hs) (hform.opening ho hd hn))
  have hdone : Answers (Answer start o j.submission) (fun _ => False) j.submission.ticket
      ((o.state start).futureFor now i) (start.run (before ++ [(now, i)])) .done := by
    rw [hstep, enqueue_refused hs, hp.ticket]
    exact hp.future ▸ hdone
  rw [hinputs]
  exact hdone.run settings poster registry after fun _ _ hfalse => hfalse.elim

/-- A command that is handed in to be executed is answered by its own execution or turned away. -/
theorem answered_of_placed {before : List (Moment × Input κ)} {now : Moment} {i : Input κ}
    (after : List (Moment × Input κ)) {d' : Dispatcher κ} {j : Job κ}
    (ho : Opening ((ofSettings settings poster registry).run before) now i d' (.place j))
    (he : ((ofSettings settings poster registry).run before).step now i = d'.enqueue j) :
    let start : Dispatcher κ := ofSettings settings poster registry
    let o : Occasion κ := ⟨before, now, i, after⟩
    ∃ J, Answers (Answer start o j.submission) J j.submission.ticket
      ((o.state start).futureFor now i) (start.run o.inputs) .done := by
  cases hs : (d'.lane j.submission.lane).submit? j with
  | some l => exact ⟨_, answers_accepted settings poster registry after ho he hs⟩
  | none => exact ⟨_, answers_refused settings poster registry after ho he hs⟩

/-- A command for which the look-up finds a result is answered with it. -/
theorem answers_cached {before : List (Moment × Input κ)} {now : Moment}
    (after : List (Moment × Input κ)) {c : Command κ} {result : CommandResult}
    (shareable : c.isShareable = true)
    (cached :
      (((ofSettings settings poster registry : Dispatcher κ).run before).results.get c.key now).1 =
        some result) :
    let start : Dispatcher κ := ofSettings settings poster registry
    let o : Occasion κ := ⟨before, now, .submitSilent c, after⟩
    let s := (o.state start).next c .silent
    Answers (Answer start o s) (fun _ => False) s.ticket ((o.state start).futureFor now o.input)
      (start.run o.inputs) .done := by
  intro start o s
  have ho := Opening.answered shareable cached
  have hanswer : Answer start o s (result.attributedTo c.correlationId) :=
    .cached rfl shareable cached
  have hnew : ((start.run before).submitSilent c now).1 = (start.run before).futures.length := by
    rw [fst_submitSilent, if_neg (by rw [cached]; simp)]
  have hinputs : o.inputs = before ++ [(now, o.input)] ++ after := List.append_cons _ _ _
  obtain ⟨through, hledger⟩ := ledger_reached (κ := κ) settings poster registry before
  rw [hinputs]
  refine (Answers.concluded settings poster registry ho (submitSilent_of_opening ho) ?_).run
    settings poster registry after fun _ _ hfalse => hfalse.elim
  simp only [consulted_eq, note]
  refine answers_told hledger (flight_reached settings poster registry before) rfl rfl
    (by simp [Future.completed]) (fun n hn => ?_) (jobs_congr rfl rfl rfl) rfl rfl
    (List.append_assoc _ _ _) (by simp [Entry.isCall]) rfl (fun x hx => ?_)
    (fun f hf r hr => ?_) (by simp [Task.ending])
  · exact ⟨(Option.some.inj hn).symm.trans hnew, by simp⟩
  · rw [List.mem_singleton.mp hx]
    exact hanswer
  · rw [List.mem_singleton.mp hf] at hr
    rw [← Option.some.inj hr]
    exact hanswer

/-- A command that attaches to an execution under way is answered with what this execution brings,
or with the rejection that is being told. -/
theorem answers_attached {before : List (Moment × Input κ)} {now : Moment}
    (after : List (Moment × Input κ)) {c : Command κ} {n : Nat} (shareable : c.isShareable = true)
    (missed :
      (((ofSettings settings poster registry : Dispatcher κ).run before).results.get c.key now).1 =
        none)
    (found : ((ofSettings settings poster registry : Dispatcher κ).run before).inFlight.lookup
      c.key = some n)
    (unset : (((ofSettings settings poster registry : Dispatcher κ).run before).future n).value =
      none) :
    let start : Dispatcher κ := ofSettings settings poster registry
    let o : Occasion κ := ⟨before, now, .submitSilent c, after⟩
    let s := (o.state start).next c .silent
    Answers (Answer start o s) (fun j => j ∈ (o.state start).jobs ∧ j.future = some n) s.ticket
      ((o.state start).futureFor now o.input) (start.run o.inputs) .done := by
  intro start o s
  have ho := Opening.joined shareable missed found unset
  have hfuture : (o.state start).futureFor now o.input = some n := by
    change (start.run before).futureFor now (.submitSilent c) = some n
    rw [futureFor, fst_submitSilent, if_pos ⟨shareable, missed⟩, found, Option.getD_some]
  have hinputs : o.inputs = before ++ [(now, o.input)] ++ after := List.append_cons _ _ _
  have hunderWay := mem_inFlight found
  have hfound := Option.isSome_of_eq_some found
  have hflight := flight_reached (κ := κ) settings poster registry before
  have htraced := traced_reached (κ := κ) settings poster registry before
  obtain ⟨through, hledger⟩ := ledger_reached (κ := κ) settings poster registry before
  have hdone := Answers.concluded settings poster registry ho (submitSilent_of_opening ho)
    (answers_joined (A := Answer start o s) (c := c) hledger
      ((numbered_reached settings poster registry before).inFlight _ hunderWay) unset rfl rfl
      (jobs_congr rfl rfl rfl) rfl rfl rfl (by simp [Entry.isCall]) fun x hx key r hr => by
        obtain ⟨s', hs', hkey, rfl⟩ := (htraced.strands x hx).2.of_settle hr
        obtain rfl := hflight.key_of_strand hunderWay hx hr
        exact .refusal rfl shareable missed hfound hs' (hkey _ rfl) hx (by rw [hr]; rfl))
  rw [hfuture, hinputs]
  refine hdone.run settings poster registry after fun x hx hxj => ?_
  rw [run_concat] at hx
  exact .joined rfl shareable missed hfound hx hxj.1 (hflight.key_of_job hunderWay hxj.1 hxj.2)

/-- **A command is answered** in one of the ways that are open on the occasion: in every run its
callback and its future tell of nothing else. -/
theorem answered_reached (o : Occasion κ) {s : Submission κ}
    (hs : s ∈ o.handedIn (ofSettings settings poster registry)) :
    ∃ J, Answers (Answer (ofSettings settings poster registry) o s) J s.ticket
      ((o.state (ofSettings settings poster registry)).futureFor o.now o.input)
      ((ofSettings settings poster registry).run o.inputs) .done := by
  obtain ⟨before, now, i, after⟩ := o
  obtain ⟨d', t, ho, he⟩ := step_opening
    ((ofSettings settings poster registry : Dispatcher κ).run before) now i
  cases ho with
  | launched shareable missed free =>
    obtain rfl := List.mem_singleton.mp hs
    exact answered_of_placed settings poster registry after (.launched shareable missed free) he
  | alone unshareable =>
    obtain rfl := List.mem_singleton.mp hs
    exact answered_of_placed settings poster registry after (.alone unshareable) he
  | forgotten =>
    obtain rfl := List.mem_singleton.mp hs
    exact answered_of_placed settings poster registry after .forgotten he
  | begun =>
    obtain rfl := List.mem_singleton.mp hs
    exact answered_of_placed settings poster registry after .begun he
  | answered shareable cached =>
    obtain rfl := List.mem_singleton.mp hs
    exact ⟨_, answers_cached settings poster registry after shareable cached⟩
  | joined shareable missed found unset =>
    obtain rfl := List.mem_singleton.mp hs
    exact ⟨_, answers_attached settings poster registry after shareable missed found unset⟩
  | joinedLate _ _ found set =>
    have hflight := flight_reached (κ := κ) settings poster registry before
    rw [(hflight.pending _ (hflight.claim_of_mem (mem_inFlight found))).2] at set
    cases set
  | _ => cases hs

end Reached

/-! ### What is told -/

variable {d : Dispatcher κ} {t : Task κ}

/-- The callback of a ticket has told, and its future tells, of nothing but results with a
property. -/
def TellsOnly (d : Dispatcher κ) (ticket : Nat) (future : Option Nat) (P : CommandResult → Prop) :
    Prop :=
  (∀ correlationId status, .called ticket correlationId status ∈ d.journal →
    ∃ r, P r ∧ status = (r.attributedTo correlationId).status) ∧
  ∀ n, future = some n → ∀ r, (d.future n).value = some r → P r

theorem TellsOnly.mono {ticket : Nat} {future : Option Nat} {P Q : CommandResult → Prop}
    (h : d.TellsOnly ticket future P) (hPQ : ∀ r, P r → Q r) : d.TellsOnly ticket future Q := by
  refine ⟨fun correlationId status hcalled => ?_, fun n hn r hr => hPQ r (h.2 n hn r hr)⟩
  obtain ⟨r, hr, hstatus⟩ := h.1 correlationId status hcalled
  exact ⟨r, hPQ r hr, hstatus⟩

theorem Answers.tellsOnly {A : CommandResult → Prop} {J : Job κ → Prop} {ticket : Nat}
    {future : Option Nat} (h : Answers A J ticket future d t) : d.TellsOnly ticket future A :=
  ⟨fun correlationId status hcalled => h.told correlationId status (.journal hcalled),
    fun n hn r hr => h.due n hn r (.set hr)⟩

/-- In every run a command is told of its answers only. -/
theorem tellsOnly_reached (settings : Settings) (poster : Poster) (registry : Option Registry)
    (o : Occasion κ) {s : Submission κ}
    (hs : s ∈ o.handedIn (ofSettings settings poster registry)) :
    ((ofSettings settings poster registry).run o.inputs).TellsOnly s.ticket
      ((o.state (ofSettings settings poster registry)).futureFor o.now o.input)
      (Answer (ofSettings settings poster registry) o s) := by
  obtain ⟨J, h⟩ := answered_reached settings poster registry o hs
  exact h.tellsOnly

end Dispatcher

end SignOn
