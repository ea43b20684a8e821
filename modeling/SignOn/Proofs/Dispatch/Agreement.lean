import SignOn.Proofs.Command.Ending
import SignOn.Proofs.Dispatch.ExactlyOnce
import SignOn.Proofs.Dispatch.Promise

/-! # Futures agree with callbacks

In every run what is given out for silent commands is kept (`promises_reached`), so a future and a
callback tell of one result (`futures_agree_with_callbacks`): the callback is told the result of the
future attributed to its command. The future itself carries the correlation id of the command for
which it was made, which need not be the command that was given its number. -/

namespace SignOn

open Dispatcher

variable {κ : Type}

namespace Dispatcher

variable {calm genuine : Prop} {d d' : Dispatcher κ} {t t' : Task κ} {lost : Multiset Claim}
  {now : Moment} {i : Input κ}

/-! ### Openings -/

/-- The controllers of a job are done: its future is set, and its command is told with the
listeners. -/
theorem gives_finish {e : Execution κ} {ticket : Nat} {outcome : Outcome}
    (hflight : Flight lost d .done)
    (hn : (d.executions.map fun e => e.job.submission.ticket).Nodup)
    (found : d.executions.find? (fun e => e.job.submission.ticket = ticket) = some e)
    (hgenuine : genuine → outcome.IsGenuine) :
    Gives genuine d .done e.job.future (resultOf e outcome) (d.executed e (resultOf e outcome) now)
      (.tell (d.listeners e.job.future (resultOf e outcome)
        ++ [⟨e.job.submission, resultOf e outcome⟩]) (.freeWorker e.lane e.pool ticket)) := by
  obtain rfl := ticket_of_found found
  have heq := executed_eq d e (resultOf e outcome) now
  have hu : d.unfinished .done = e.job ::ₘ (d.executed e (resultOf e outcome) now).jobs :=
    (add_zero _).trans (jobs_executed hn found (resultOf e outcome) now)
  have hmem : e.job ∈ d.unfinished .done := by
    rw [hu]
    exact Multiset.mem_cons_self _ _
  refine gives_of_resolve [⟨e.job.submission, resultOf e outcome⟩] hflight
    (fun n hf => mem_openFutures_of_job hmem hf) (fun n hf r hdue => ?_) (fun n r hne => ?_)
    (by rw [heq]; rfl) (by rw [heq]) (fun j hj => ?_) (by rw [heq]; rfl) (by rw [heq]; rfl)
    (by rw [heq]; rfl) rfl (fun x hx => ?_) rfl (.job hmem rfl rfl fun hgen => ?_)
  · exact (hflight.not_due hmem hf r hdue).elim
  · rintro ⟨key, he⟩
    cases he
  · rw [unfinished_tell] at hj
    exact ⟨by rw [hu]; exact Multiset.mem_cons_of_mem hj, fun n hf => hflight.apart hu hf hj⟩
  · rw [List.mem_singleton.mp hx]
    exact ⟨rfl, .job hmem rfl rfl⟩
  · have hstatus := statusOf_attributedTo (hgenuine hgen) e.job.submission.command.correlationId
    unfold CommandResult.attributedTo resultOf
    rw [hstatus]

theorem mem_strands_iff (hd : d.Numbered) {strand : Nat} {s : Strand κ}
    (found : d.strands.find? (fun s => s.id = strand) = some s) (s' : Strand κ) :
    s' ∈ d.strands ↔ s' = s ∨ s' ∈ d.strands.filter fun t => t.id ≠ strand := by
  rw [← Multiset.mem_coe, split_of_find hd.strands found, Multiset.mem_cons, Multiset.mem_coe]

/-- A callback has come to its end: those behind it are taken in hand. -/
theorem still_ended (hd : d.Numbered) {strand : Nat} {s : Strand κ}
    (found : d.strands.find? (fun s => s.id = strand) = some s) :
    Still calm d .done
      ({ d with strands := d.strands.filter fun t => t.id ≠ strand }.flush s.current)
      (.tell s.rest s.ending) := by
  have hmem := mem_strands_iff hd found
  refine .of_moved rfl rfl rfl (fun e he => ?_) (fun key n r => ?_)
  · cases he with
    | journal h => exact .journal (mem_of_called (by simp [Entry.isCall]) _ _ _ h)
    | posted h => exact .posted h
    | behind hs hx => exact .behind ((hmem _).mpr (.inr hs)) hx
    | inHand h => exact .behind ((hmem s).mpr (.inl rfl)) h
  · constructor
    · rintro (he | ⟨s', hs, he⟩)
      · exact .inr ⟨s, (hmem s).mpr (.inl rfl), he⟩
      · exact .inr ⟨s', (hmem s').mpr (.inr hs), he⟩
    · rintro (he | ⟨s', hs, he⟩)
      · cases he
      · rcases (hmem s').mp hs with rfl | hs
        · exact .inl he
        · exact .inr ⟨s', hs, he⟩

/-- A callback has broken off: what was behind it is lost. -/
theorem still_broke (hd : d.Numbered) {strand : Nat} {s : Strand κ}
    (found : d.strands.find? (fun s => s.id = strand) = some s) (hcalm : ¬ calm) :
    Still calm d .done
      ({ d with strands := d.strands.filter fun t => t.id ≠ strand }.breakOff s.ending)
      .done := by
  have hmem := mem_strands_iff hd found
  have heq := breakOff_eq { d with strands := d.strands.filter fun t => t.id ≠ strand } s.ending
  have hu := jobs_breakOff { d with strands := d.strands.filter fun t => t.id ≠ strand } s.ending
  refine ⟨by rw [heq], by rw [heq], fun j hj => ?_, fun m s' hm => ?_, fun e he => ?_,
    fun n _ r hdue => ?_, fun h => absurd h hcalm⟩
  · rw [unfinished, hu] at hj
    exact .inl hj
  · rw [heq] at hm
    exact .inl hm
  · rw [heq] at he
    cases he with
    | journal h => exact .inl (.journal h)
    | posted h => exact .inl (.posted h)
    | behind hs hx => exact .inl (.behind ((hmem _).mpr (.inr hs)) hx)
    | inHand h => cases h
  · rw [heq] at hdue
    cases hdue with
    | set hv => exact .set hv
    | behind hs he => exact .behind ((hmem _).mpr (.inr hs)) he
    | inHand he => cases he

/-- A posted callback is called. -/
theorem still_ran {place : Nat} {x : Delivery κ} (found : d.posted[place]? = some x) :
    Still calm d .done ({ d with posted := d.posted.eraseIdx place }.openCallback x [] .nothing)
      .done := by
  refine .of_moved rfl rfl rfl (fun e he => ?_) (fun key n r => ?_)
  · cases he with
    | journal h =>
      rcases List.mem_append.mp h with h | h
      · exact .journal h
      · rw [List.mem_singleton.mp h]
        exact .posted (List.mem_of_getElem? found)
    | posted h => exact .posted (List.mem_of_mem_eraseIdx h)
    | behind hs hx =>
      rcases List.mem_cons.mp hs with rfl | hs
      · cases hx
      · exact .behind hs hx
    | inHand h => cases h
  · have hnew : ({ d with posted := d.posted.eraseIdx place }.openCallback x [] .nothing).strands
        = ⟨d.strandCount, x, [], .nothing⟩ :: d.strands := rfl
    constructor
    · rintro (he | ⟨s, hs, he⟩)
      · cases he
      · rw [hnew] at hs
        rcases List.mem_cons.mp hs with rfl | hs
        · cases he
        · exact .inr ⟨s, hs, he⟩
    · rintro (he | ⟨s, hs, he⟩)
      · cases he
      · exact .inr ⟨s, List.mem_cons_of_mem _ hs, he⟩

/-- Nobody listens to futures that are new. -/
theorem mem_listeners_fresh {fresh : List (Future CommandResult (Submission κ))}
    (hf : d'.futures = d.futures ++ fresh) (hfresh : ∀ f ∈ fresh, f.listeners = []) {m : Nat}
    {s : Submission κ} (hm : s ∈ (d'.future m).listeners) : s ∈ (d.future m).listeners := by
  rcases Nat.lt_or_ge m d.futures.length with hlt | hge
  · rwa [future, hf, List.getElem?_append_left hlt] at hm
  · rw [future, hf, List.getElem?_append_right hge] at hm
    rcases hget : fresh[m - d.futures.length]? with _ | f
    · rw [hget] at hm
      cases hm
    · rw [hget, Option.getD_some, hfresh f (List.mem_of_getElem? hget)] at hm
      cases hm

/-- A command is handed in, and a future may be made for it. -/
theorem still_handedIn (fresh : List (Future CommandResult (Submission κ))) {more : List Entry}
    (hn : d'.stats.submitted = d.stats.submitted + 1) (hf : d'.futures = d.futures ++ fresh)
    (hfresh : ∀ f ∈ fresh, f.listeners = []) (hu : d'.jobs = d.jobs) (hs : d'.strands = d.strands)
    (hp : d'.posted = d.posted) (hj : d'.journal = d.journal ++ more)
    (hmore : ∀ e ∈ more, e.isCall = false)
    (jobs : ∀ j ∈ t.jobs, d.stats.submitted ≤ j.submission.ticket ∧
      ∀ n, j.future = some n → d.futures.length ≤ n)
    (deliveries : ∀ x ∈ t.deliveries, d.stats.submitted ≤ x.submission.ticket)
    (ending : t.ending.future = none) : Still calm d .done d' t := by
  have hold : ∀ n < d.futures.length, d'.future n = d.future n := fun n hlt => by
    rw [future, future, hf, List.getElem?_append_left hlt]
  refine .of_same (by omega) (by simp [hf]) (fun j hm => ?_) (fun m s hm =>
      .inl (mem_listeners_fresh hf hfresh hm))
    (fun n hlt => by rw [hold n hlt]) hs hp hj hmore (fun x hx => .inr (deliveries x hx))
    (.inr ⟨ending, rfl⟩)
  · rcases Multiset.mem_add.mp hm with hm | hm
    · rw [hu] at hm
      exact .inl (Multiset.mem_add.mpr (.inl hm))
    · exact .inr (jobs j hm)

theorem still_joined {c : Command κ} {n : Nat} (hlt : n < d.futures.length)
    (hn : d'.stats.submitted = d.stats.submitted + 1)
    (hf : d'.futures = d.futures.set n
      { d.future n with listeners := (d.future n).listeners ++ [d.next c .silent] })
    (hu : d'.jobs = d.jobs) (hs : d'.strands = d.strands) (hp : d'.posted = d.posted)
    {more : List Entry} (hj : d'.journal = d.journal ++ more)
    (hmore : ∀ e ∈ more, e.isCall = false) : Still calm d .done d' .done := by
  refine .of_same (by omega) (by rw [hf, List.length_set]) (fun j hm => ?_) (fun m s hm => ?_)
    (fun m _ => ?_) hs hp hj hmore (fun x hx => .inl hx) (.inl rfl)
  · rw [unfinished, hu] at hm
    exact .inl hm
  · by_cases hmn : m = n
    · subst hmn
      rw [future_set_self hf hlt] at hm
      rcases List.mem_append.mp hm with hm | hm
      · exact .inl hm
      · rw [List.mem_singleton.mp hm]
        exact .inr le_rfl
    · rw [future_set_of_ne hf hmn] at hm
      exact .inl hm
  · by_cases hmn : m = n
    · subst hmn
      rw [future_set_self hf hlt]
    · rw [future_set_of_ne hf hmn]

/-- **What an opening does**: it sets no future, or the controllers of a job are done. -/
theorem still_or_finished (ho : Opening d now i d' t) (hd : d.Numbered)
    (hflight : Flight lost d .done) (hcalm : calm → i.IsCalm) : Still calm d .done d' t ∨
    ∃ e ticket outcome, i = .finishJob ticket outcome ∧
      d.executions.find? (fun e => e.job.submission.ticket = ticket) = some e ∧
      d' = d.executed e (resultOf e outcome) now ∧
      t = .tell (d.listeners e.job.future (resultOf e outcome)
        ++ [⟨e.job.submission, resultOf e outcome⟩]) (.freeWorker e.lane e.pool ticket) := by
  cases ho with
  | finished found => exact .inr ⟨_, _, _, rfl, found, rfl, rfl⟩
  | @answered c result =>
    simp only [consulted_eq, note]
    refine .inl (still_handedIn [_] rfl rfl (by simp [Future.completed]) rfl rfl rfl
      (List.append_assoc _ _ _) (by simp [Entry.isCall]) (fun j hj => ?_) (fun x hx => ?_) rfl)
    · cases hj
    · rw [List.mem_singleton.mp hx]
      exact le_rfl
  | joined shareable missed found unset =>
    exact .inl (still_joined (hd.inFlight _ (mem_inFlight found)) rfl rfl rfl rfl rfl rfl
      (by simp [Entry.isCall]))
  | @joinedLate c n result shareable missed found set =>
    rw [(hflight.pending _ (hflight.claim_of_mem (mem_inFlight found))).2] at set
    cases set
  | launched | alone =>
    refine .inl (still_handedIn [_] rfl rfl (by simp [Future.pending]) rfl rfl rfl rfl
      (by simp [Entry.isCall]) (fun j hj => ?_) (by simp [Task.deliveries]) rfl)
    rw [Multiset.mem_singleton.mp hj]
    refine ⟨le_rfl, fun n hn => ?_⟩
    rw [← Option.some.inj hn]
  | forgotten =>
    refine .inl (still_handedIn [] rfl (List.append_nil _).symm (by simp) rfl rfl rfl rfl
      (by simp [Entry.isCall]) (fun j hj => ?_) (by simp [Task.deliveries]) rfl)
    rw [Multiset.mem_singleton.mp hj]
    exact ⟨le_rfl, by simp⟩
  | @begun c =>
    have heq := makeWay_eq (d.enrolled c .interactive) (d.next c .interactive)
    obtain ⟨more, hjournal, hmore⟩ := journal_begun d c
    refine .inl (still_handedIn [] ?_ ?_ (by simp) (by rw [heq]; rfl) (by rw [heq]; rfl)
      (by rw [heq]; rfl) hjournal hmore (fun j hj => ?_) (by simp [Task.deliveries]) rfl)
    · rcases ha : (d.enrolled c .interactive).registry.cancelActive.1 with _ | _
      · rw [makeWay_of_free ha]
        rfl
      · rw [makeWay_of_active ha]
        rfl
    · rw [heq]
      exact (List.append_nil _).symm
    · rw [Multiset.mem_singleton.mp hj]
      exact ⟨le_rfl, by simp⟩
  | continuation | cleared | expired | stopped | reset | shutDown | closed =>
    exact .inl (.of_jobs rfl rfl rfl rfl rfl rfl rfl ⟨rfl, rfl⟩)
  | reopened =>
    refine .inl (.of_jobs ?_ rfl rfl rfl rfl rfl rfl ⟨rfl, rfl⟩)
    exact congrArg (· + _) (jobs_congr rfl (Lane.waiting_reopen _) rfl)
  | waits | idle | unfinished | noStrand | nonePosted =>
    exact .inl (.of_jobs rfl rfl rfl rfl rfl rfl rfl ⟨rfl, rfl⟩)
  | startedSilent taken =>
    refine .inl (.of_jobs ?_ rfl rfl rfl rfl rfl rfl ⟨rfl, rfl⟩)
    exact congrArg (· + _) (jobs_started .silent hd taken rfl rfl rfl rfl)
  | startedInteractive taken =>
    refine .inl (.of_jobs ?_ rfl rfl rfl rfl rfl rfl ⟨rfl, rfl⟩)
    exact congrArg (· + _) (jobs_started .interactive hd taken rfl rfl rfl rfl)
  | ended found => exact .inl (still_ended hd found)
  | broke found =>
    refine .inl (still_broke hd found fun hc => ?_)
    exact absurd (hcalm hc) (by simp [Input.IsCalm])
  | ran found => exact .inl (still_ran found)

end Dispatcher

/-- **An opening keeps a promise** that was given before. -/
theorem Promise.Kept.opening {calm genuine : Prop} {p : Promise κ} {d d' : Dispatcher κ}
    {t : Task κ} {lost : Multiset Claim} {now : Moment} {i : Input κ} (ho : Opening d now i d' t)
    (hd : d.Numbered) (hn : (d.executions.map fun e => e.job.submission.ticket).Nodup)
    (hflight : Flight lost d .done) (hcalm : calm → i.IsCalm) (hgenuine : genuine → i.IsGenuine)
    (h : p.Kept calm genuine d .done) :
    p.Kept calm genuine d' t := by
  rcases still_or_finished ho hd hflight hcalm with
    hs | ⟨e, ticket, outcome, rfl, found, rfl, rfl⟩
  · exact h.still hs
  · exact h.give (gives_finish hflight hn found hgenuine)

namespace Dispatcher

variable {calm genuine : Prop} {d d' : Dispatcher κ} {t t' : Task κ} {lost : Multiset Claim}
  {now : Moment} {i : Input κ} {handed : List (Submission κ)} {through : Multiset (Phase κ)}

/-! ### What is given out -/

/-- The future that is given out: that of the execution under way to which the command attaches, or
a new one. -/
theorem fst_submitSilent (d : Dispatcher κ) (c : Command κ) (now : Moment) :
    (d.submitSilent c now).1 =
      if c.isShareable = true ∧ (d.results.get c.key now).1 = none then
        (d.inFlight.lookup c.key).getD d.futures.length
      else d.futures.length := by
  by_cases hs : c.isShareable = true
  · rcases hg : d.results.get c.key now with ⟨_ | result, results⟩
    · rcases hl : d.inFlight.lookup c.key with _ | n
      · simp only [submitSilent, hs, if_true, enroll, count, note, hg, hl, true_and]
        rfl
      · rcases hv : (d.future n).value with _ | result <;>
          simp [submitSilent, hs, enroll, count, note, hg, hl, attach, Dispatcher.future,
            Future.whenComplete] at hv ⊢ <;> simp [hv]
    · simp only [submitSilent, hs, if_true, enroll, count, note, hg]
      rfl
  · simp [submitSilent, hs, addFuture, enroll, count, note]

/-- A future that is not new is that of an execution under way with the same key. -/
theorem attached_of_fst_ne {c : Command κ} (h : (d.submitSilent c now).1 ≠ d.futures.length) :
    c.isShareable = true ∧ d.inFlight.lookup c.key = some (d.submitSilent c now).1 := by
  rw [fst_submitSilent] at h ⊢
  by_cases hmissed : c.isShareable = true ∧ (d.results.get c.key now).1 = none
  · rw [if_pos hmissed] at h ⊢
    rcases hl : d.inFlight.lookup c.key with _ | n
    · rw [hl] at h
      exact absurd rfl h
    · exact ⟨hmissed.1, rfl⟩
  · rw [if_neg hmissed] at h
    exact absurd rfl h

/-- The commands in a dispatcher have tickets that were given out. -/
theorem Ledger.ticket_lt (h : Ledger calm handed through d t) {g : Phase κ} (hg : g ∈ d.phases) :
    g.ticket < d.stats.submitted := by
  rw [h.submitted]
  exact h.accounted.ticket_lt (h.mem_of_phases hg)

theorem Ledger.job_lt (h : Ledger calm handed through d .done) {j : Job κ}
    (hj : j ∈ d.unfinished .done) : j.submission.ticket < d.stats.submitted := by
  rw [Task.done, unfinished_tell] at hj
  exact h.ticket_lt (waiting_mem_phases hj)

theorem Ledger.listener_lt (h : Ledger calm handed through d .done) {m : Nat} {s : Submission κ}
    (hs : s ∈ (d.future m).listeners) : s.ticket < d.stats.submitted := by
  rcases Nat.lt_or_ge m d.futures.length with hlt | hge
  · have hmem : s ∈ d.listening :=
      Multiset.mem_bind.mpr ⟨_, Multiset.mem_coe.mpr (List.mem_of_getElem? (future_eq_of_lt hlt)),
        hs⟩
    refine h.ticket_lt (g := .waiting s) (Multiset.mem_add.mpr (.inl (Multiset.mem_add.mpr (.inl
      (Multiset.mem_add.mpr (.inr (Multiset.mem_map_of_mem _ hmem)))))))
  · rw [(listeners_future_of_le hge).1] at hs
    cases hs

theorem Ledger.call_lt (h : Ledger calm handed through d .done) {e : Entry} (he : d.Calls .done e) :
    e.ticket < d.stats.submitted := by
  cases he with
  | journal hm =>
    rw [h.submitted]
    exact h.accounted.known _ hm
  | @posted x hx =>
    exact h.ticket_lt (g := .announced x) (Multiset.mem_add.mpr (.inl (Multiset.mem_add.mpr
      (.inr (Multiset.mem_map_of_mem _ hx)))))
  | @behind s x hs hx =>
    refine h.ticket_lt (g := .waiting x.submission) (Multiset.mem_add.mpr (.inr
      (Multiset.mem_bind.mpr ⟨s, hs, Multiset.mem_cons_of_mem (Multiset.mem_map_of_mem _ hx)⟩)))
  | inHand hx => cases hx

/-- Nothing that is there is due to a future that is not. -/
theorem Flight.due_lt (h : Flight lost d t) {n : Nat} {r : CommandResult} (hdue : d.Due t n r) :
    n < d.futures.length := by
  have hopen : n ∈ d.openFutures t → n < d.futures.length := fun hn => (h.unset hn).1
  cases hdue with
  | set hv =>
    rcases Nat.lt_or_ge n d.futures.length with hlt | hge
    · exact hlt
    · rw [(listeners_future_of_le hge).2] at hv
      cases hv
  | behind hs he =>
    refine hopen (Multiset.mem_add.mpr (.inl (Multiset.mem_add.mpr (.inr
      (Multiset.mem_bind.mpr ⟨_, hs, ?_⟩)))))
    rw [he]
    exact List.mem_singleton_self _
  | inHand he =>
    refine hopen (Multiset.mem_add.mpr (.inr ?_))
    rw [he]
    exact List.mem_singleton_self _

end Dispatcher

/-- **A future that is made for a command** is its own, and nobody else's. -/
theorem Promise.kept_new {calm calm' genuine : Prop} {d d' : Dispatcher κ} {t : Task κ}
    {lost : Multiset Claim} {handed : List (Submission κ)} {through : Multiset (Phase κ)}
    {c : Command κ} {f : Future CommandResult (Submission κ)} {own : Bool}
    (hledger : Ledger calm' handed through d .done) (hflight : Flight lost d .done)
    (hn : d'.stats.submitted = d.stats.submitted + 1) (hf : d'.futures = d.futures ++ [f])
    (hl : f.listeners = []) (hu : d'.jobs = d.jobs) (hs : d'.strands = d.strands)
    (hp : d'.posted = d.posted) {more : List Entry} (hj : d'.journal = d.journal ++ more)
    (hmore : ∀ e ∈ more, e.isCall = false)
    (jobs : ∀ j ∈ t.jobs, f.value = none ∧ j.future = some d.futures.length ∧
      j.submission.command.correlationId = c.correlationId)
    (deliveries : ∀ x ∈ t.deliveries, f.value = some x.result)
    (value : ∀ r, f.value = some r → r.correlationId = c.correlationId ∧
      r.attributedTo c.correlationId = r)
    (ending : t.ending.future = none) :
    Promise.Kept calm genuine ⟨d.next c .silent, d.futures.length, own⟩ d' t := by
  have hself : d'.future d.futures.length = f := by
    rw [Dispatcher.future, hf, List.getElem?_concat_length]
    rfl
  have hlen : d.futures.length < d'.futures.length := by
    rw [hf, List.length_append, List.length_singleton]
    exact Nat.lt_succ_self _
  have hjobs : ∀ j ∈ d'.unfinished t, j ∈ d.unfinished .done ∨ j ∈ t.jobs := fun j hm => by
    rw [unfinished, hu] at hm
    exact (Multiset.mem_add.mp hm).imp_left fun h => Multiset.mem_add.mpr (.inl h)
  have hother : ∀ j ∈ d.unfinished .done, j.future ≠ some d.futures.length := fun j hm he =>
    absurd (hflight.unset (mem_openFutures_of_job hm he)).1 (lt_irrefl _)
  have hcalls : ∀ e, d'.Calls t e → e.ticket < d.stats.submitted ∨
      ∃ x ∈ t.deliveries, e = x.callEntry := by
    intro e he
    cases he with
    | journal h => exact .inl (hledger.call_lt (.journal (mem_of_called hmore _ _ _ (hj ▸ h))))
    | posted h => exact .inl (hledger.call_lt (.posted (hp ▸ h)))
    | behind h hx => exact .inl (hledger.call_lt (.behind (hs ▸ h) hx))
    | inHand h => exact .inr ⟨_, h, rfl⟩
  have hdue : ∀ r, d'.Due t d.futures.length r → f.value = some r := by
    intro r hr
    cases hr with
    | set hv => rwa [hself] at hv
    | behind h he => exact absurd (hflight.due_lt (.behind (hs ▸ h) he)) (lt_irrefl _)
    | inHand he => rw [he] at ending; cases ending
  refine ⟨hlen, by rw [hn]; exact Nat.lt_succ_self _, fun j hm ht => ?_, fun m s hm ht => ?_,
    fun correlationId status hcall => ?_, fun _ => ⟨fun j hm he => ?_, fun r hr => ?_⟩⟩
  · rcases hjobs j hm with hm | hm
    · exact absurd ht (hledger.job_lt hm).ne
    · exact (jobs j hm).2.1
  · exact absurd ht (hledger.listener_lt (mem_listeners_append hl hf hm)).ne
  · rcases hcalls _ hcall with hlt | ⟨x, hx, he⟩
    · exact absurd hlt (lt_irrefl _)
    · obtain ⟨-, rfl, rfl⟩ := Entry.called.inj he
      refine ⟨fun j hm hjf => ?_, fun r hr => ?_, fun _ => ⟨x.result, .set ?_⟩⟩
      · rcases hjobs j hm with hm | hm
        · exact hother j hm hjf
        · have hnone := (jobs j hm).1
          rw [deliveries x hx] at hnone
          cases hnone
      · have hr := hdue r hr
        rw [deliveries x hx] at hr
        rw [← Option.some.inj hr]
        rfl
      · rw [hself, deliveries x hx]
  · rcases hjobs j hm with hm | hm
    · exact absurd he (hother j hm)
    · exact (jobs j hm).2.2
  · exact ⟨(value r (hdue r hr)).1, fun _ => (value r (hdue r hr)).2⟩

/-- **A future that was there before** is what a command attaches to. -/
theorem Promise.kept_joined {calm calm' genuine : Prop} {d d' : Dispatcher κ} {n : Nat}
    {handed : List (Submission κ)} {through : Multiset (Phase κ)} {c : Command κ}
    (hledger : Ledger calm' handed through d .done) (hlt : n < d.futures.length)
    (hn : d'.stats.submitted = d.stats.submitted + 1)
    (hf : d'.futures = d.futures.set n
      { d.future n with listeners := (d.future n).listeners ++ [d.next c .silent] })
    (hu : d'.jobs = d.jobs) (hs : d'.strands = d.strands) (hp : d'.posted = d.posted)
    {more : List Entry} (hj : d'.journal = d.journal ++ more)
    (hmore : ∀ e ∈ more, e.isCall = false) :
    Promise.Kept calm genuine ⟨d.next c .silent, n, false⟩ d' .done := by
  have hcalls : ∀ e, d'.Calls .done e → d.Calls .done e := by
    intro e he
    cases he with
    | journal h => exact .journal (mem_of_called hmore _ _ _ (hj ▸ h))
    | posted h => exact .posted (hp ▸ h)
    | behind h hx => exact .behind (hs ▸ h) hx
    | inHand h => cases h
  refine ⟨by rw [hf, List.length_set]; exact hlt, by rw [hn]; exact Nat.lt_succ_self _,
    fun j hm ht => ?_, fun m s hm ht => ?_, fun correlationId status hcall => ?_, fun how => by
      cases how⟩
  · rw [unfinished, hu] at hm
    exact absurd ht (hledger.job_lt hm).ne
  · by_cases hmn : m = n
    · exact hmn
    · rw [future_set_of_ne hf hmn] at hm
      exact absurd ht (hledger.listener_lt hm).ne
  · exact absurd (hledger.call_lt (hcalls _ hcall)) (lt_irrefl _)

/-- **What is given out is kept** from the first. -/
theorem Promise.kept_opening {calm calm' genuine : Prop} {p : Promise κ} {d d' : Dispatcher κ}
    {t : Task κ} {lost : Multiset Claim} {handed : List (Submission κ)}
    {through : Multiset (Phase κ)} {now : Moment} {i : Input κ} (ho : Opening d now i d' t)
    (hd : d.Numbered) (hledger : Ledger calm' handed through d .done)
    (hflight : Flight lost d .done) (hp : p ∈ d.promisedBy now i) : p.Kept calm genuine d' t := by
  cases i with
  | submitSilent c =>
    rw [List.mem_singleton.mp hp, fst_submitSilent]
    cases ho with
    | @answered _ result shareable cached =>
      rw [if_neg (by rw [cached]; simp)]
      simp only [consulted_eq, note]
      refine kept_new hledger hflight rfl rfl rfl rfl rfl rfl (List.append_assoc _ _ _)
        (by simp [Entry.isCall]) (fun j hj => by cases hj) (fun x hx => ?_) (fun r hr => ?_) rfl
      · rw [List.mem_singleton.mp hx]
        rfl
      · rw [← Option.some.inj hr]
        exact ⟨rfl, congrArg (CommandResult.mk · _) (attributedTo_attributedTo _ _)⟩
    | @joined _ n shareable missed found unset =>
      rw [if_pos ⟨shareable, missed⟩, found, Option.getD_some]
      have hlt : n < d.futures.length := hd.inFlight _ (mem_inFlight found)
      rw [decide_eq_false hlt.ne]
      exact kept_joined hledger hlt rfl rfl rfl rfl rfl rfl (by simp [Entry.isCall])
    | @joinedLate _ n result shareable missed found set =>
      rw [(hflight.pending _ (hflight.claim_of_mem (mem_inFlight found))).2] at set
      cases set
    | launched shareable missed free =>
      rw [if_pos ⟨shareable, missed⟩, free, Option.getD_none]
      refine kept_new hledger hflight rfl rfl rfl rfl rfl rfl rfl (by simp [Entry.isCall])
        (fun j hj => ?_) (by simp [Task.deliveries]) (by simp [Future.pending]) rfl
      rw [Multiset.mem_singleton.mp hj]
      exact ⟨rfl, rfl, rfl⟩
    | alone unshareable =>
      rw [if_neg (by simp [unshareable])]
      refine kept_new hledger hflight rfl rfl rfl rfl rfl rfl rfl (by simp [Entry.isCall])
        (fun j hj => ?_) (by simp [Task.deliveries]) (by simp [Future.pending]) rfl
      rw [Multiset.mem_singleton.mp hj]
      exact ⟨rfl, rfl, rfl⟩
  | _ => cases hp

namespace Dispatcher

variable (settings : Settings) (poster : Poster) (registry : Option Registry)

/-- **In every run** what was given out is kept. -/
theorem promises_reached (inputs : List (Moment × Input κ)) :
    ∀ p ∈ chronicle promisedBy (ofSettings settings poster registry) inputs,
      p.Kept (∀ i ∈ inputs, i.2.IsCalm) (∀ i ∈ inputs, i.2.IsGenuine)
        ((ofSettings settings poster registry : Dispatcher κ).run inputs) .done := by
  have hkept := reached_keeps
    (I := fun inputs d t => Formed d t ∧
      Flight (chronicle lostBy (ofSettings settings poster registry) inputs) d t ∧
      ∀ p ∈ chronicle promisedBy (ofSettings settings poster registry) inputs,
        p.Kept (∀ i ∈ inputs, i.2.IsCalm) (∀ i ∈ inputs, i.2.IsGenuine) d t)
    ⟨formed_ofSettings settings poster registry, flight_ofSettings settings poster registry,
      fun p hp => by cases hp⟩
    (fun {inputs d now i d' t} hr hd hn ho h => ?_)
    (fun _ hm h => ⟨h.1.move hm, h.2.1.move hm h.1, fun p hp => (h.2.2 p hp).move hm h.2.1⟩) inputs
  · exact hkept.2.2
  · obtain ⟨hform, hflight, hpromises⟩ := h
    refine ⟨hform.opening ho hd hn, ?_, fun p hp => ?_⟩
    · rw [chronicle_concat, hr, ← Multiset.coe_add]
      exact hflight.opening ho hd hn hform
    · rw [chronicle_concat, hr] at hp
      rcases List.mem_append.mp hp with hp | hp
      · refine Promise.Kept.opening ho hd hn hflight (fun hc => ?_) (fun hg => ?_)
          ((hpromises p hp).weaken (fun hc j hj => ?_) (fun hg j hj => ?_))
        · exact hc (now, i) (by simp)
        · exact hg (now, i) (by simp)
        · exact hc j (by simp [hj])
        · exact hg j (by simp [hj])
      · obtain ⟨through, hledger⟩ := ledger_reached (κ := κ) settings poster registry inputs
        rw [hr] at hledger
        exact Promise.kept_opening ho hd hledger hflight hp

/-! ### Who is in the in-flight map -/

theorem mem_of_mem_leaveFlight {d : Dispatcher κ} {key : Option CommandKey} {e : CommandKey × Nat}
    (he : e ∈ (d.leaveFlight key).inFlight) : e ∈ d.inFlight := by
  cases key with
  | none => exact he
  | some k => exact (List.mem_filter.mp he).1

theorem mem_inFlight_of_move {d d' : Dispatcher κ} {t t' : Task κ} (hm : Move d t d' t')
    {e : CommandKey × Nat} (he : e ∈ d'.inFlight) : e ∈ d.inFlight := by
  cases hm with
  | queue => rw [withLane_eq] at he; exact he
  | free => rw [freeWorker_eq] at he; exact he
  | settle => rw [settle_eq] at he; exact mem_of_mem_leaveFlight he
  | reject | post | call => exact he

/-- **Only a launch** brings an entry into the in-flight map. -/
theorem mem_inFlight_of_opening {d d' : Dispatcher κ} {t : Task κ} {now : Moment} {i : Input κ}
    (ho : Opening d now i d' t) {e : CommandKey × Nat} (he : e ∈ d'.inFlight) :
    e ∈ d.inFlight ∨ ∃ p ∈ d.promisedBy now i,
      p.isOwn = true ∧ p.future = e.2 ∧ p.submission.command.key = e.1 := by
  cases ho with
  | @launched c shareable missed free =>
    rcases List.mem_append.mp he with he | he
    · exact .inl he
    · have hnew : (d.submitSilent c now).1 = d.futures.length := by
        rw [fst_submitSilent, if_pos ⟨shareable, missed⟩, free, Option.getD_none]
      refine .inr ⟨_, List.mem_singleton_self _, decide_eq_true hnew, ?_⟩
      rw [List.mem_singleton.mp he]
      exact ⟨hnew, rfl⟩
  | finished => rw [executed_eq] at he; exact .inl (mem_of_mem_leaveFlight he)
  | broke => rw [breakOff_eq] at he; exact .inl he
  | begun => rw [makeWay_eq] at he; exact .inl he
  | _ => exact .inl he

/-- **An execution under way** has the future of the command for which it was launched. -/
theorem promise_of_inFlight (inputs : List (Moment × Input κ)) :
    ∀ e ∈ ((ofSettings settings poster registry : Dispatcher κ).run inputs).inFlight,
      ∃ p ∈ chronicle promisedBy (ofSettings settings poster registry) inputs,
        p.isOwn = true ∧ p.future = e.2 ∧ p.submission.command.key = e.1 := by
  refine reached_keeps
    (I := fun inputs d _ => ∀ e ∈ d.inFlight,
      ∃ p ∈ chronicle promisedBy (ofSettings settings poster registry) inputs,
        p.isOwn = true ∧ p.future = e.2 ∧ p.submission.command.key = e.1)
    (fun e he => by cases he) (fun hr _ _ ho h e he => ?_)
    (fun _ hm h e he => h e (mem_inFlight_of_move hm he)) inputs
  rw [chronicle_concat, hr]
  rcases mem_inFlight_of_opening ho he with he | ⟨p, hp, hwhat⟩
  · obtain ⟨p, hp, hwhat⟩ := h e he
    exact ⟨p, List.mem_append_left _ hp, hwhat⟩
  · exact ⟨p, List.mem_append_right _ hp, hwhat⟩

/-! ### The two channels -/

theorem promise_mem {start : Dispatcher κ} {before after : List (Moment × Input κ)} {now : Moment}
    {c : Command κ} :
    ⟨(start.run before).next c .silent, ((start.run before).submitSilent c now).1,
      decide (((start.run before).submitSilent c now).1 = (start.run before).futures.length)⟩
        ∈ chronicle promisedBy start (before ++ (now, .submitSilent c) :: after) := by
  rw [chronicle_append]
  exact List.mem_append_right _ (List.mem_append_left _ (List.mem_singleton_self _))

/-- A callback names the command that was handed in under its ticket. -/
theorem correlation_of_called {before after : List (Moment × Input κ)} {now : Moment} {i : Input κ}
    {s : Submission κ} {correlationId : String} {status : CommandStatus}
    (hin : s ∈ ((ofSettings settings poster registry : Dispatcher κ).run before).handedIn now i)
    (hcalled : .called s.ticket correlationId status
      ∈ ((ofSettings settings poster registry).run (before ++ (now, i) :: after)).journal) :
    correlationId = s.command.correlationId := by
  have htraced := traced_reached settings poster registry (before ++ (now, i) :: after)
  obtain ⟨s', ht, rfl, o, ho, hin', -⟩ := htraced.called _ _ _ hcalled
  let occasion : Occasion κ := ⟨before, now, i, after⟩
  have hsame : o = occasion ∧ s' = s := occasion_unique settings poster registry ho hin' hin ht
  rw [hsame.2]

/-- Where all is settled, what is due is set. -/
theorem IsSettled.set_of_due {d : Dispatcher κ} (h : d.IsSettled) {n : Nat} {r : CommandResult}
    (hdue : d.Due .done n r) : (d.future n).value = some r := by
  cases hdue with
  | set hv => exact hv
  | behind hs he => rw [h.strands] at hs; cases hs
  | inHand he => cases he

/-- In a state that is settled after a run without a callback that broke off, every command has been
served. -/
theorem served_of_settled {inputs : List (Moment × Input κ)} (hcalm : ∀ i ∈ inputs, i.2.IsCalm)
    (hsettled : ((ofSettings settings poster registry : Dispatcher κ).run inputs).IsSettled) :
    ∀ s ∈ chronicle handedIn (ofSettings settings poster registry) inputs,
      s.IsServed
        (entriesOf ((ofSettings settings poster registry).run inputs).journal s.ticket) := by
  obtain ⟨through, hl⟩ := ledger_reached (κ := κ) settings poster registry inputs
  have hf := flight_reached (κ := κ) settings poster registry inputs
  rw [chronicle_eq_nil fun i hi d => lostBy_of_calm (hcalm i hi)] at hf
  have hall := ledger_settled hsettled (staffed_reached settings poster registry inputs) hf
    ⟨hl.accounted, hl.submitted, hl.counted, fun _ => hl.flushed hcalm⟩
  exact hall.1

/-- Who has been served had the callback called. -/
theorem called_of_served {d : Dispatcher κ} {s : Submission κ}
    (h : s.IsServed (entriesOf d.journal s.ticket)) :
    ∃ status, .called s.ticket s.command.correlationId status ∈ d.journal := by
  obtain ⟨asides, status, failure, -, hentries, -⟩ := h
  have hmem : .called s.ticket s.command.correlationId status ∈ entriesOf d.journal s.ticket := by
    rw [hentries]
    simp
  exact ⟨status, (List.mem_filter.mp hmem).1⟩

/-- **Futures agree with callbacks**, up to attribution. A silent command is handed in and the
number of a future given out. The callback of the command carries its correlation id and is told the
result of that future attributed to the command. A future that was made for the command carries the
correlation id of the command too, and attribution changes nothing; another one was made for an
earlier command with the same key, and carries that one's. Where all is settled and no callback
broke off, there are both. -/
theorem futures_agree_with_callbacks (before : List (Moment × Input κ)) (now : Moment)
    (c : Command κ) (after : List (Moment × Input κ)) :
    let start : Dispatcher κ := ofSettings settings poster registry
    let asked := start.run before
    let inputs := before ++ (now, .submitSilent c) :: after
    let d := start.run inputs
    let n := (asked.submitSilent c now).1
    (∀ correlationId status, .called asked.stats.submitted correlationId status ∈ d.journal →
      correlationId = c.correlationId ∧
        ∀ r, (d.future n).value = some r → status = (r.attributedTo c.correlationId).status) ∧
      (n = asked.futures.length → ∀ r, (d.future n).value = some r →
        r.correlationId = c.correlationId ∧
          ((∀ i ∈ inputs, i.2.IsGenuine) → r.attributedTo c.correlationId = r)) ∧
      (n ≠ asked.futures.length → c.isShareable = true ∧
        ∃ p ∈ chronicle promisedBy start before, p.isOwn = true ∧ p.future = n ∧
          p.submission.command.key = c.key ∧
          ∀ r, (d.future n).value = some r →
            r.correlationId = p.submission.command.correlationId) ∧
      ((∀ i ∈ inputs, i.2.IsCalm) → d.IsSettled → ∃ r, (d.future n).value = some r ∧
        .called asked.stats.submitted c.correlationId (r.attributedTo c.correlationId).status
          ∈ d.journal) := by
  intro start asked inputs d n
  have hkept := promises_reached settings poster registry inputs _ promise_mem
  have hin : asked.next c .silent ∈ asked.handedIn now (.submitSilent c) :=
    List.mem_singleton_self _
  have hcorrelation {correlationId : String} {status : CommandStatus}
      (h : .called asked.stats.submitted correlationId status ∈ d.journal) :
      correlationId = c.correlationId := correlation_of_called settings poster registry hin h
  refine ⟨fun correlationId status hcalled => ?_, fun hown r hr => ?_, fun hother => ?_,
    fun hcalm hsettled => ?_⟩
  · obtain rfl := hcorrelation hcalled
    exact ⟨rfl, fun r hr => (hkept.told _ _ (.journal hcalled)).2.1 r (.set hr)⟩
  · exact (hkept.own (decide_eq_true hown)).2 r (.set hr)
  · obtain ⟨shareable, found⟩ := attached_of_fst_ne hother
    obtain ⟨p, hp, hown, hfuture, hkey⟩ :=
      promise_of_inFlight settings poster registry before _ (mem_inFlight found)
    have hmem : p ∈ chronicle promisedBy start inputs := by
      rw [chronicle_append]
      exact List.mem_append_left _ hp
    have hearlier := promises_reached settings poster registry inputs p hmem
    refine ⟨shareable, p, hp, hown, hfuture, hkey, fun r hr => ?_⟩
    have hr : (d.future p.future).value = some r := by
      rw [hfuture]
      exact hr
    exact ((hearlier.own hown).2 r (.set hr)).1
  · have hmem : asked.next c .silent ∈ chronicle handedIn start inputs := by
      rw [chronicle_append]
      exact List.mem_append_right _ (List.mem_append_left _ hin)
    obtain ⟨status, hcalled⟩ :=
      called_of_served (served_of_settled settings poster registry hcalm hsettled _ hmem)
    obtain ⟨-, hstatus, hsome⟩ := hkept.told _ _ (.journal hcalled)
    obtain ⟨r, hdue⟩ := hsome hcalm
    have hsame : status = (r.attributedTo c.correlationId).status := hstatus r hdue
    refine ⟨r, hsettled.set_of_due hdue, ?_⟩
    rw [← hsame]
    exact hcalled

end Dispatcher

namespace Sample

/-- Two requests for the same token: the second is given the future of the first. -/
def tokenRun : List (Moment × Input Unit) :=
  [(second 0, .submitSilent (command .acquireSilent "a")),
    (second 0, .submitSilent (command .acquireSilent "b")),
    (second 1, .startJob .silent 0),
    (second 2, .finishJob 0 (.ok (.ok (.acquisition (.ofIssued issued))))),
    (second 2, .endCallback 0 false),
    (second 2, .endCallback 1 false)]

end Sample

namespace Dispatcher

theorem futures_agree_with_callbacks_tokenRun :
    let start : Dispatcher Unit := ofSettings .standard .inline none
    let asked := start.run (Sample.tokenRun.take 1)
    let d := start.run Sample.tokenRun
    let n := (asked.submitSilent (Sample.command .acquireSilent "b") (Sample.second 0)).1
    n ≠ asked.futures.length ∧ (∀ i ∈ Sample.tokenRun, i.2.IsCalm) ∧ d.IsSettled ∧
      ∃ r, (d.future n).value = some r ∧
        .called asked.stats.submitted "b" (r.attributedTo "b").status ∈ d.journal ∧
        ∃ p ∈ chronicle promisedBy start (Sample.tokenRun.take 1),
          p.future = n ∧ r.correlationId = p.submission.command.correlationId := by
  intro start asked d n
  have hcalm : ∀ i ∈ Sample.tokenRun, i.2.IsCalm := by simp [Sample.tokenRun, Input.IsCalm]
  have hsettled : d.IsSettled := isSettled_of_isQuiet (by decide)
  have hother : n ≠ asked.futures.length := by decide
  obtain ⟨-, -, hfirst, hboth⟩ := futures_agree_with_callbacks .standard .inline none
    (Sample.tokenRun.take 1) (Sample.second 0) (Sample.command .acquireSilent "b")
    (Sample.tokenRun.drop 2)
  obtain ⟨-, p, hp, -, hfuture, -, hnamed⟩ := hfirst hother
  obtain ⟨r, hr, hcalled⟩ := hboth hcalm hsettled
  exact ⟨hother, hcalm, hsettled, r, hr, hcalled, p, hp, hfuture, hnamed r hr⟩

/-- The future that is given out for the second of two requests for one token carries the
correlation id of the first, and so does the token in it; the callback of the second names the
second. -/
theorem future_of_another :
    let start : Dispatcher Unit := ofSettings .standard .inline none
    let asked := start.run (Sample.tokenRun.take 1)
    let d := start.run Sample.tokenRun
    let n := (asked.submitSilent (Sample.command .acquireSilent "b") (Sample.second 0)).1
    let told (correlationId : String) : CommandStatus :=
      .completed (.token { Sample.issued with correlationId := some correlationId })
    (d.future n).value = some ⟨told "a", "a"⟩ ∧
      .called asked.stats.submitted "b" (told "b") ∈ d.journal ∧ told "a" ≠ told "b" := by
  decide

end Dispatcher

end SignOn
