import SignOn.Proofs.Dispatch.Formed

/-! # Commands that share nothing

A command that may not be shared, one that nobody waits for and an interactive one are kept apart
from the in-flight map and the result cache. `IsApart` lists the steps that concern such commands
alone; whatever the map and the cache hold, such a step does the same, and it leaves both as they
are (`step_apart`). `Tagged` follows the keys through a run: only a shareable command that was
handed in to be shared ever has one. -/

namespace SignOn

/-- The key under which something is settled at the end. -/
def Ending.key : Ending → Option CommandKey
  | .settle key _ _ => key
  | .nothing | .freeWorker _ _ _ => none

variable {κ : Type}

/-- A job has a key just if its command was handed in to be shared. -/
structure Job.IsTagged (shared apart : List (Submission κ)) (j : Job κ) : Prop where
  shared : j.key.isSome → j.submission ∈ shared
  apart : j.key = none → j.submission ∈ apart

namespace Dispatcher

variable {d d' : Dispatcher κ} {t t' : Task κ}

/-! ### The map and the cache replaced -/

/-- The dispatcher with another in-flight map and another result cache. -/
def withShared (d : Dispatcher κ) (inFlight : List (CommandKey × Nat))
    (results : ResultCache CommandKey CommandResult) : Dispatcher κ := { d with inFlight, results }

/-- Does the step concern only commands that share nothing? -/
def IsApart (d : Dispatcher κ) : Input κ → Prop
  | .submitSilent c => c.isShareable = false
  | .finishJob ticket _ => ∀ e,
    d.executions.find? (fun e => e.job.submission.ticket = ticket) = some e → e.job.key = none
  | .endCallback strand _ => ∀ s,
    d.strands.find? (fun s => s.id = strand) = some s → s.ending.key = none
  | .clearResults => False
  | _ => True

section WithShared

variable (inFlight : List (CommandKey × Nat)) (results : ResultCache CommandKey CommandResult)

theorem announceAll_withShared : ∀ (xs : List (Delivery κ)) (d : Dispatcher κ),
    (d.withShared inFlight results).announceAll xs
      = ((d.announceAll xs).1.withShared inFlight results, (d.announceAll xs).2)
  | [], _ => rfl
  | x :: xs, d => by
    have hp : ((d.withShared inFlight results).announce x).poster = (d.announce x).poster := rfl
    rw [announceAll, announceAll, hp]
    by_cases h : (d.announce x).poster.runsAtOnce x.submission.ticket = true
    · simp only [h, if_true]
      rfl
    · simp only [h]
      exact announceAll_withShared xs { d.announce x with posted := (d.announce x).posted ++ [x] }

theorem freeWorker_withShared (d : Dispatcher κ) (kind : LaneKind) (pool ticket : Nat) :
    (d.withShared inFlight results).freeWorker kind pool ticket
      = (d.freeWorker kind pool ticket).withShared inFlight results := by
  cases kind <;> rfl

theorem resolve_withShared (d : Dispatcher κ) (future : Option Nat) (result : CommandResult) :
    (d.withShared inFlight results).resolve future result
      = ((d.resolve future result).1, (d.resolve future result).2.withShared inFlight results) := by
  cases future <;> rfl

theorem breakOff_withShared (d : Dispatcher κ) (ending : Ending) :
    (d.withShared inFlight results).breakOff ending
      = (d.breakOff ending).withShared inFlight results := by
  cases ending with
  | freeWorker => exact freeWorker_withShared ..
  | nothing | settle => rfl

theorem conclude_withShared (d : Dispatcher κ) {ending : Ending} (h : ending.key = none) :
    (d.withShared inFlight results).conclude ending
      = (d.conclude ending).withShared inFlight results := by
  cases ending with
  | nothing => rfl
  | freeWorker => exact freeWorker_withShared ..
  | settle key future result =>
    obtain rfl : key = none := h
    simp only [conclude, leaveFlight, resolve_withShared, announceAll_withShared]
    rcases ((d.resolve future result).2.announceAll _) with ⟨d', _ | ⟨x, rest⟩⟩ <;> rfl

theorem deliver_withShared (d : Dispatcher κ) (xs : List (Delivery κ)) (ending : Ending)
    (h : ending.key = none) : (d.withShared inFlight results).deliver xs ending
      = (d.deliver xs ending).withShared inFlight results := by
  unfold deliver
  rw [announceAll_withShared]
  rcases d.announceAll xs with ⟨d', _ | ⟨x, rest⟩⟩
  · exact conclude_withShared inFlight results d' h
  · rfl

theorem enqueue_withShared (d : Dispatcher κ) {j : Job κ} (h : j.key = none) :
    (d.withShared inFlight results).enqueue j = (d.enqueue j).withShared inFlight results := by
  have hl : (d.withShared inFlight results).lane j.submission.lane = d.lane j.submission.lane := by
    cases j.submission.lane <;> rfl
  unfold enqueue
  simp only [hl]
  rcases (d.lane j.submission.lane).submit? j with _ | l
  · exact deliver_withShared inFlight results d _ _ h
  · cases j.submission.lane <;> rfl

theorem submitSilent_withShared (d : Dispatcher κ) {c : Command κ} (h : c.isShareable = false)
    (now : Moment) : ((d.withShared inFlight results).submitSilent c now).2
      = (d.submitSilent c now).2.withShared inFlight results := by
  simp only [submitSilent, h]
  exact enqueue_withShared inFlight results ((d.enroll c .silent).2.addFuture .pending).2 rfl

theorem beginInteractive_withShared (d : Dispatcher κ) (c : Command κ) :
    (d.withShared inFlight results).beginInteractive c
      = (d.beginInteractive c).withShared inFlight results := by
  have hm : ((d.withShared inFlight results).enrolled c .interactive).makeWay
        (d.next c .interactive)
      = ((d.enrolled c .interactive).makeWay (d.next c .interactive)).withShared inFlight
        results := by
    have hr : ((d.withShared inFlight results).enrolled c .interactive).registry
      = (d.enrolled c .interactive).registry := rfl
    rcases h : (d.enrolled c .interactive).registry.cancelActive.1 with _ | _
    · rw [makeWay_of_free h, makeWay_of_free (hr ▸ h)]
      rfl
    · rw [makeWay_of_active h, makeWay_of_active (hr ▸ h)]
      rfl
  change (((d.withShared inFlight results).enrolled c .interactive).makeWay
    (d.next c .interactive)).enqueue _ = _
  rw [hm]
  exact enqueue_withShared inFlight results _ rfl

theorem executed_withShared (d : Dispatcher κ) {e : Execution κ} (he : e.job.key = none)
    (result : CommandResult) (now : Moment) :
    (d.withShared inFlight results).executed e result now
      = (d.executed e result now).withShared inFlight results := by
  rw [executed, executed, he]
  exact congrArg Prod.snd (resolve_withShared inFlight results (d.retired e) e.job.future result)

theorem finishJob_withShared (d : Dispatcher κ) {ticket : Nat} (outcome : Outcome) (now : Moment)
    (h : d.IsApart (.finishJob ticket outcome)) :
    (d.withShared inFlight results).finishJob ticket outcome now
      = (d.finishJob ticket outcome now).withShared inFlight results := by
  have hx : (d.withShared inFlight results).executions = d.executions := rfl
  rcases he : d.executions.find? (fun e => e.job.submission.ticket = ticket) with _ | e
  · simp only [finishJob, hx, he]
  · obtain rfl := ticket_of_found he
    have hl : (d.withShared inFlight results).listeners e.job.future (resultOf e outcome)
        = d.listeners e.job.future (resultOf e outcome) := by
      refine listeners_of_futures ?_ _ _
      rfl
    rw [finishJob_eq he, finishJob_eq (hx ▸ he), executed_withShared inFlight results d (h e he),
      hl]
    exact deliver_withShared inFlight results _ _ (.freeWorker e.lane e.pool _) rfl

theorem endCallback_withShared (d : Dispatcher κ) {strand : Nat} {brokeOff : Bool}
    (h : d.IsApart (.endCallback strand brokeOff)) :
    (d.withShared inFlight results).endCallback strand brokeOff
      = (d.endCallback strand brokeOff).withShared inFlight results := by
  have hx : (d.withShared inFlight results).strands = d.strands := rfl
  rcases hs : d.strands.find? (fun s => s.id = strand) with _ | s
  · simp only [endCallback, hx, hs]
  · have hk := h s hs
    simp only [endCallback, hx, hs]
    cases brokeOff with
    | true =>
      exact breakOff_withShared inFlight results
        { d with strands := d.strands.filter fun t => t.id ≠ strand } s.ending
    | false =>
      exact deliver_withShared inFlight results
        ({ d with strands := d.strands.filter fun t => t.id ≠ strand }.flush s.current) s.rest
        s.ending hk

theorem goOn_withShared (d : Dispatcher κ) (place : Nat) :
    (d.withShared inFlight results).goOn place = (d.goOn place).withShared inFlight results := by
  have hx : (d.withShared inFlight results).continued = d.continued := rfl
  unfold goOn
  rw [hx]
  rcases d.continued[place]? with _ | call
  · rfl
  · have hm : (d.withShared inFlight results).mayGoOn call = d.mayGoOn call := by
      rcases call with ⟨_ | _⟩ | ⟨_ | _⟩ <;> rfl
    simp only [hm]
    split
    · cases call <;> rfl
    · rfl

theorem startJob_withShared (d : Dispatcher κ) (kind : LaneKind) (pool : Nat) :
    (((d.withShared inFlight results).startJob? kind pool).map Prod.snd).getD
        (d.withShared inFlight results)
      = (((d.startJob? kind pool).map Prod.snd).getD d).withShared inFlight results := by
  have hl : (d.withShared inFlight results).lane kind = d.lane kind := by cases kind <;> rfl
  unfold startJob?
  rw [hl]
  rcases (d.lane kind).start? pool with _ | ⟨j, l⟩
  · rfl
  · cases kind <;> rfl

theorem runPosted_withShared (d : Dispatcher κ) (place : Nat) :
    (d.withShared inFlight results).runPosted place
      = (d.runPosted place).withShared inFlight results := by
  have hx : (d.withShared inFlight results).posted = d.posted := rfl
  unfold runPosted
  rw [hx]
  rcases d.posted[place]? with _ | x <;> rfl

/-- **A step that concerns only commands that share nothing** neither reads nor changes the
in-flight map and the result cache. -/
theorem step_apart (d : Dispatcher κ) (now : Moment) {i : Input κ} (h : d.IsApart i) :
    (d.withShared inFlight results).step now i
      = (d.step now i).withShared inFlight results := by
  cases i with
  | submitSilent c => exact submitSilent_withShared inFlight results d h now
  | submitAndForget c => exact enqueue_withShared inFlight results (d.enrolled c .silent) rfl
  | beginInteractive c => exact beginInteractive_withShared inFlight results d c
  | completeInteractive | stopSilent | resetSilent | shutdown | expireSession => rfl
  | clearResults => exact h.elim
  | goOn place => exact goOn_withShared inFlight results d place
  | startJob kind pool => exact startJob_withShared inFlight results d kind pool
  | finishJob ticket outcome => exact finishJob_withShared inFlight results d outcome now h
  | endCallback strand brokeOff => exact endCallback_withShared inFlight results d h
  | runPosted place => exact runPosted_withShared inFlight results d place

end WithShared

/-! ### Who has a key -/

/-- The command that a step hands in to be shared. -/
def sharedBy (d : Dispatcher κ) (_ : Moment) : Input κ → List (Submission κ)
  | .submitSilent c => if c.isShareable then [d.next c .silent] else []
  | _ => []

/-- The command that a step hands in to share nothing. -/
def apartBy (d : Dispatcher κ) (_ : Moment) : Input κ → List (Submission κ)
  | .submitSilent c => if c.isShareable then [] else [d.next c .silent]
  | .submitAndForget c => [d.next c .silent]
  | .beginInteractive c => [d.next c .interactive]
  | _ => []

/-- What is left to do under a key is for commands that were handed in to be shared. -/
def TaskTagged (shared apart : List (Submission κ)) : Task κ → Prop
  | .place j => j.IsTagged shared apart
  | .tell xs ending => ending.key.isSome → ∀ x ∈ xs, x.submission ∈ shared

/-- Keys are those of commands that were handed in to be shared. -/
structure Tagged (shared apart : List (Submission κ)) (d : Dispatcher κ) (t : Task κ) : Prop where
  jobs : ∀ j ∈ d.jobs, j.IsTagged shared apart
  strands : ∀ s ∈ d.strands, s.ending.key.isSome → ∀ x ∈ s.current :: s.rest, x.submission ∈ shared
  task : TaskTagged shared apart t

variable {shared apart : List (Submission κ)} {xs : List (Delivery κ)} {ending : Ending}

theorem Tagged.keep (h : Tagged shared apart d t) (hj : d'.jobs = d.jobs)
    (hs : d'.strands = d.strands) (ht : TaskTagged shared apart t') : Tagged shared apart d' t' :=
  ⟨by rw [hj]; exact h.jobs, by rw [hs]; exact h.strands, ht⟩

theorem Tagged.mono {more more' : List (Submission κ)} (h : Tagged shared apart d t) :
    Tagged (shared ++ more) (apart ++ more') d t := by
  have hjob {j : Job κ} (hj : j.IsTagged shared apart) :
      j.IsTagged (shared ++ more) (apart ++ more') :=
    ⟨fun hk => List.mem_append_left _ (hj.shared hk),
      fun hk => List.mem_append_left _ (hj.apart hk)⟩
  refine ⟨fun j hj => hjob (h.jobs j hj),
    fun s hs hk x hx => List.mem_append_left _ (h.strands s hs hk x hx), ?_⟩
  cases t with
  | place => exact hjob h.task
  | tell => exact fun hk x hx => List.mem_append_left _ (h.task hk x hx)

theorem Tagged.call {x : Delivery κ} (h : Tagged shared apart d (.tell (x :: xs) ending)) :
    Tagged shared apart (d.openCallback x xs ending) .done := by
  refine ⟨h.jobs, fun s hs => ?_, fun hk => by cases hk⟩
  rcases List.mem_cons.mp hs with rfl | hs
  · exact h.task
  · exact h.strands s hs

theorem Tagged.move (hm : Move d t d' t') (h : Tagged shared apart d t) :
    Tagged shared apart d' t' := by
  cases hm with
  | @queue j l accepted =>
    refine ⟨fun j' hj => ?_, ?_, fun hk => by cases hk⟩
    · rw [jobs_withLane (Lane.waiting_submit accepted)] at hj
      rcases Multiset.mem_cons.mp hj with rfl | hj
      · exact h.task
      · exact h.jobs j' hj
    · rw [withLane_eq]
      exact h.strands
  | @reject j =>
    refine h.keep rfl rfl fun hk x hx => ?_
    rw [List.mem_singleton.mp hx]
    exact h.task.shared hk
  | post => exact h.keep rfl rfl fun hk x hx => h.task hk x (List.mem_cons_of_mem _ hx)
  | @call x xs ending atOnce =>
    have ha : Tagged shared apart (d.announce x) (.tell (x :: xs) ending) := h.keep rfl rfl h.task
    exact ha.call
  | free =>
    refine h.keep (jobs_freeWorker _ _ _ _) ?_ fun hk => by cases hk
    rw [freeWorker_eq]
  | settle =>
    refine h.keep ?_ ?_ fun hk => by cases hk
    · rw [settle_eq]
      rfl
    · rw [settle_eq]

theorem Tagged.strand (h : Tagged shared apart d .done) {strand : Nat} {s : Strand κ}
    (hs : d.strands.find? (fun s => s.id = strand) = some s) :
    Tagged shared apart { d with strands := d.strands.filter fun t => t.id ≠ strand }
      (.tell s.rest s.ending) :=
  ⟨h.jobs, fun s' hm => h.strands s' (List.mem_filter.mp hm).1, fun hk x hx =>
    h.strands s (List.mem_of_find?_eq_some hs) hk x (List.mem_cons_of_mem _ hx)⟩

/-- A step that hands in no command with a key. -/
theorem Tagged.pass {more more' : List (Submission κ)} (h : Tagged shared apart d .done)
    (hj : d'.jobs = d.jobs) (hs : d'.strands = d.strands)
    (ht : TaskTagged (shared ++ more) (apart ++ more') t') :
    Tagged (shared ++ more) (apart ++ more') d' t' :=
  h.mono.keep hj hs ht

theorem Tagged.opening {now : Moment} {i : Input κ} (ho : Opening d now i d' t) (hd : d.Numbered)
    (hn : (d.executions.map fun e => e.job.submission.ticket).Nodup)
    (h : Tagged shared apart d .done) :
    Tagged (shared ++ d.sharedBy now i) (apart ++ d.apartBy now i) d' t := by
  cases ho with
  | @launched c shareable =>
    refine h.pass (jobs_congr rfl rfl rfl) rfl ⟨fun _ => ?_, (by cases ·)⟩
    rw [sharedBy, if_pos shareable]
    exact List.mem_append_right _ (List.mem_singleton_self _)
  | @alone c unshareable =>
    refine h.pass (jobs_congr rfl rfl rfl) rfl ⟨(by cases ·), fun _ => ?_⟩
    rw [apartBy, if_neg (by simp [unshareable])]
    exact List.mem_append_right _ (List.mem_singleton_self _)
  | forgotten =>
    exact h.pass (jobs_congr rfl rfl rfl) rfl
      ⟨(by cases ·), fun _ => List.mem_append_right _ (List.mem_singleton_self _)⟩
  | begun =>
    rw [makeWay_eq]
    exact h.pass (jobs_congr rfl rfl rfl) rfl
      ⟨(by cases ·), fun _ => List.mem_append_right _ (List.mem_singleton_self _)⟩
  | answered | joined | joinedLate =>
    exact h.pass (jobs_congr rfl rfl rfl) rfl fun hk => by cases hk
  | continuation | cleared | expired | stopped | reset | shutDown | closed =>
    exact h.pass (jobs_congr rfl rfl rfl) rfl fun hk => by cases hk
  | reopened => exact h.pass (jobs_congr rfl (Lane.waiting_reopen _) rfl) rfl fun hk => by cases hk
  | waits | idle | unfinished | noStrand | nonePosted => exact h.mono
  | startedSilent taken =>
    exact h.pass (jobs_started .silent hd taken rfl rfl rfl rfl) rfl fun hk => by cases hk
  | startedInteractive taken =>
    exact h.pass (jobs_started .interactive hd taken rfl rfl rfl rfl) rfl fun hk => by cases hk
  | @finished ticket outcome e found =>
    obtain rfl := ticket_of_found found
    have hm : Tagged (shared ++ []) (apart ++ []) d .done := h.mono
    refine ⟨fun j hj => hm.jobs j ?_, ?_, fun hk => by cases hk⟩
    · rw [jobs_executed hn found (resultOf e outcome) now]
      exact Multiset.mem_cons_of_mem hj
    · rw [executed_eq]
      exact hm.strands
  | ended found =>
    have hs : Tagged (shared ++ []) (apart ++ []) _ _ := (h.strand found).mono
    exact hs.keep (jobs_congr rfl rfl rfl) rfl hs.task
  | @broke strand s found =>
    have hs : Tagged (shared ++ []) (apart ++ []) _ _ := (h.strand found).mono
    exact hs.keep (jobs_breakOff _ _) (by rw [breakOff_eq]) fun hk => by cases hk
  | @ran place x found =>
    have hp :
        Tagged shared apart { d with posted := d.posted.eraseIdx place } (.tell [x] .nothing) :=
      h.keep rfl rfl fun hk => by cases hk
    exact hp.call.mono

theorem tagged_reached (settings : Settings) (poster : Poster) (registry : Option Registry)
    (inputs : List (Moment × Input κ)) :
    Tagged (chronicle sharedBy (ofSettings settings poster registry) inputs)
      (chronicle apartBy (ofSettings settings poster registry) inputs)
      ((ofSettings settings poster registry).run inputs) .done :=
  reached_keeps (I := fun inputs d t =>
      Tagged (chronicle sharedBy (ofSettings settings poster registry) inputs)
        (chronicle apartBy (ofSettings settings poster registry) inputs) d t)
    ⟨by simp [Dispatcher.jobs, ofSettings, Lane.waiting, Lane.new], by simp [ofSettings],
      fun hk => by cases hk⟩
    (fun hr hd hn ho h => by
      rw [chronicle_concat, chronicle_concat, hr]
      exact h.opening ho hd hn)
    (fun _ hm h => h.move hm) inputs

/-! ### Commands apart -/

/-- A command that is handed in is to be shared or to share nothing. -/
theorem handedIn_split (d : Dispatcher κ) (now : Moment) (i : Input κ) :
    (d.handedIn now i : Multiset (Submission κ)) = d.sharedBy now i + d.apartBy now i := by
  cases i with
  | submitSilent c => cases h : c.isShareable <;> simp [handedIn, sharedBy, apartBy, h]
  | _ => rfl

theorem chronicle_split : ∀ (inputs : List (Moment × Input κ)) (d : Dispatcher κ),
    (chronicle handedIn d inputs : Multiset (Submission κ))
      = chronicle sharedBy d inputs + chronicle apartBy d inputs
  | [], _ => rfl
  | (now, i) :: inputs, d => by
    simp only [chronicle, ← Multiset.coe_add, chronicle_split inputs, handedIn_split]
    ac_rfl

section Reached

variable (settings : Settings) (poster : Poster) (registry : Option Registry)
  (inputs : List (Moment × Input κ))

/-- Commands that are shared and commands that are not have different tickets. -/
theorem shared_ne_apart {s s' : Submission κ}
    (h : s ∈ chronicle sharedBy (ofSettings settings poster registry) inputs)
    (h' : s' ∈ chronicle apartBy (ofSettings settings poster registry) inputs) :
    s.ticket ≠ s'.ticket := by
  intro ht
  obtain ⟨through, hl⟩ := ledger_reached (κ := κ) settings poster registry inputs
  have hn : ((chronicle handedIn (ofSettings settings poster registry : Dispatcher κ) inputs :
      Multiset (Submission κ)).map (·.ticket)).Nodup := by
    rw [Multiset.map_coe, hl.accounted.tickets]
    exact Multiset.coe_nodup.mpr List.nodup_range
  rw [chronicle_split, Multiset.map_add, Multiset.nodup_add] at hn
  exact Multiset.disjoint_left.mp hn.2.2 (Multiset.mem_map_of_mem _ h)
    (ht ▸ Multiset.mem_map_of_mem _ h')

/-- A job has a key just if its command was handed in to be shared. -/
theorem key_isSome_iff {j : Job κ}
    (hj : j ∈ ((ofSettings settings poster registry : Dispatcher κ).run inputs).jobs) :
    j.key.isSome ↔
      j.submission ∈ chronicle sharedBy (ofSettings settings poster registry) inputs := by
  have htag := (tagged_reached settings poster registry inputs).jobs j hj
  refine ⟨htag.shared, fun hs => ?_⟩
  rcases hk : j.key with _ | k
  · exact absurd rfl (shared_ne_apart settings poster registry inputs hs (htag.apart hk))
  · rfl

/-- **What ends for a command that shares nothing**, its execution or its callback, is apart. -/
theorem apart_reached {s : Submission κ}
    (h : s ∈ chronicle apartBy (ofSettings settings poster registry) inputs) :
    let d := (ofSettings settings poster registry : Dispatcher κ).run inputs
    (∀ outcome, d.IsApart (.finishJob s.ticket outcome)) ∧
      ∀ strand ∈ d.strands, strand.current.submission = s →
        ∀ brokeOff, d.IsApart (.endCallback strand.id brokeOff) := by
  intro d
  have htag := tagged_reached settings poster registry inputs
  refine ⟨fun outcome e he => ?_, fun strand hm hs brokeOff s' hs' => ?_⟩
  · have ht := ticket_of_found he
    have hj := mem_jobs_of_execution (List.mem_of_find?_eq_some he)
    rw [← Option.not_isSome_iff_eq_none, key_isSome_iff settings poster registry inputs hj]
    exact fun hs => shared_ne_apart settings poster registry inputs hs h ht
  · have hd := numbered_reached (κ := κ) settings poster registry inputs
    have hid : s'.id = strand.id := by simpa using List.find?_some hs'
    obtain rfl : s' = strand :=
      List.inj_on_of_nodup_map hd.strands (List.mem_of_find?_eq_some hs') hm hid
    rw [← Option.not_isSome_iff_eq_none]
    intro hk
    have hshared := htag.strands s' hm hk s'.current (List.mem_cons_self ..)
    rw [hs] at hshared
    exact shared_ne_apart settings poster registry inputs hshared h rfl

end Reached

end Dispatcher

end SignOn
