import SignOn.Proofs.Dispatch.ExactlyOnce

/-! # Callbacks that break off

A callback that breaks off takes along what stands behind it: results that were still to be told,
and the end of an execution that was rejected. Once all is settled each command has met one of four
ends (`Fate`): it was served; its own callback broke off; it stood behind one that did; or it
listens to a future that nobody sets, because the end of its execution was behind one that did.
Where nothing stood behind those that broke off, they have harmed nobody (`fate_of_commands`), and
nothing does where callbacks wait in the row (`isLast_of_posted`). -/

namespace SignOn

variable {κ : Type}

namespace Dispatcher

/-- The callback that breaks off, with what stands behind it. -/
def brokenBy (d : Dispatcher κ) (_ : Moment) : Input κ → List (Strand κ)
  | .endCallback strand true => (d.strands.find? fun s => s.id = strand).toList
  | _ => []

end Dispatcher

open Dispatcher

/-- Nothing stands behind the callback: no result that is to be told and no execution that is to be
settled. -/
def Strand.IsLast (b : Strand κ) : Prop := b.rest = [] ∧ b.ending.claims = []

/-- What has become of a command once all is settled: what its journal holds, and why. -/
inductive Submission.Fate (start : Dispatcher κ) (inputs : List (Moment × Input κ))
    (s : Submission κ) : List Entry → Prop
  | served {entries : List Entry} (h : s.IsServed entries) : Fate start inputs s entries
  | brokeOff {b : Strand κ} {before entries : List Entry}
      (hb : b ∈ chronicle brokenBy start inputs) (hs : b.current.submission = s)
      (h : s.Begins before) (he : entries = before ++ [b.current.endEntry, b.current.callEntry]) :
      Fate start inputs s entries
  | cutOff {b : Strand κ} {x : Delivery κ} {entries : List Entry}
      (hb : b ∈ chronicle brokenBy start inputs) (hx : x ∈ b.rest) (hs : x.submission = s)
      (h : s.Begins entries) : Fate start inputs s entries
  | orphaned {b : Strand κ} {key : CommandKey} {n : Nat} {result : CommandResult}
      {entries : List Entry} (hb : b ∈ chronicle brokenBy start inputs)
      (he : b.ending = .settle (some key) (some n) result)
      (hs : s ∈ ((start.run inputs).future n).listeners) (h : s.Begins entries) :
      Fate start inputs s entries

namespace Dispatcher

variable {start d d' : Dispatcher κ} {t t' : Task κ} {inputs : List (Moment × Input κ)}
  {now : Moment} {i : Input κ}

/-! ### What is lost -/

theorem mem_chronicle_at {α : Type} {f : Dispatcher κ → Moment → Input κ → List α} {a : α}
    {before after : List (Moment × Input κ)} (h : a ∈ f (start.run before) now i) :
    a ∈ chronicle f start (before ++ (now, i) :: after) := by
  rw [chronicle_append]
  exact List.mem_append_right _ (List.mem_append_left _ h)

/-- A claim is lost with a callback that breaks off. -/
theorem broken_of_lost {c : Claim} (h : c ∈ chronicle lostBy start inputs) :
    ∃ b ∈ chronicle brokenBy start inputs, c ∈ b.ending.claims := by
  obtain ⟨before, now, i, after, rfl, hc⟩ := mem_chronicle h
  suffices hb : ∃ b ∈ (start.run before).brokenBy now i, c ∈ b.ending.claims by
    obtain ⟨b, hb, hc⟩ := hb
    exact ⟨b, mem_chronicle_at hb, hc⟩
  rcases calm_or_breaks i with hi | ⟨strand, rfl⟩
  · rw [lostBy_of_calm hi] at hc
    cases hc
  · rw [lostBy] at hc
    rcases hs : (start.run before).strands.find? fun s => s.id = strand with _ | s
    · rw [hs] at hc
      cases hc
    · rw [hs] at hc
      exact ⟨s, by rw [brokenBy, hs]; exact List.mem_singleton_self _, hc⟩

/-- Who is through was served, or a callback has broken off. -/
theorem broken_of_through {g : Phase κ} (h : g ∈ chronicle throughBy start inputs) :
    (∃ x, g = .flushed x) ∨ ∃ b ∈ chronicle brokenBy start inputs,
      g = .called b.current ∨ ∃ x ∈ b.rest, g = .waiting x.submission := by
  obtain ⟨before, now, i, after, rfl, hg⟩ := mem_chronicle h
  cases i with
  | endCallback strand brokeOff =>
    rw [throughBy] at hg
    rcases hs : (start.run before).strands.find? fun s => s.id = strand with _ | s
    · rw [hs] at hg
      cases hg
    · rw [hs] at hg
      cases brokeOff with
      | false => exact .inl ⟨s.current, List.mem_singleton.mp hg⟩
      | true =>
        have hb : s ∈ (start.run before).brokenBy now (.endCallback strand true) := by
          rw [brokenBy, hs]
          exact List.mem_singleton_self _
        refine .inr ⟨s, mem_chronicle_at hb, ?_⟩
        rcases List.mem_cons.mp hg with hg | hg
        · exact .inl hg
        · obtain ⟨x, hx, rfl⟩ := List.mem_map.mp hg
          exact .inr ⟨x, hx, rfl⟩
  | _ => cases hg

/-! ### What is left -/

theorem IsSettled.allClaims_eq (h : d.IsSettled) (hj : d.jobs = 0) (lost : Multiset Claim) :
    allClaims lost d .done = lost := by
  rw [allClaims, claims, hj, h.strands]
  exact zero_add lost

/-- Where all is settled, who is not through listens. -/
theorem IsSettled.phases_listening (h : d.IsSettled) (hj : d.jobs = 0) :
    d.phases = d.listening.map .waiting := by
  rw [phases, hj, h.strands, h.posted]
  simp

theorem exists_of_mem_listening {s : Submission κ} (hs : s ∈ d.listening) :
    ∃ n, s ∈ (d.future n).listeners := by
  obtain ⟨f, hf, hl⟩ := Multiset.mem_bind.mp hs
  obtain ⟨n, hn, rfl⟩ := List.getElem_of_mem (Multiset.mem_coe.mp hf)
  refine ⟨n, ?_⟩
  rw [future, List.getElem?_eq_getElem hn]
  exact hl

/-- **Who listens in vain** listens to the future of an execution whose end was lost. -/
theorem broken_of_listening (hf : Flight (chronicle lostBy start inputs) d .done)
    (hclaims : allClaims (chronicle lostBy start inputs : Multiset Claim) d .done
      = (chronicle lostBy start inputs : Multiset Claim)) {n : Nat} {s : Submission κ}
    (hs : s ∈ (d.future n).listeners) :
    ∃ b ∈ chronicle brokenBy start inputs, ∃ key result,
      b.ending = .settle (some key) (some n) result := by
  obtain ⟨key, hk⟩ := hf.attached n (List.ne_nil_of_mem hs)
  have hlost := hf.claim_of_mem hk
  rw [hclaims] at hlost
  obtain ⟨b, hb, hc⟩ := broken_of_lost (Multiset.mem_coe.mp hlost)
  refine ⟨b, hb, key, ?_⟩
  cases he : b.ending with
  | settle key' future result =>
    rw [he, Ending.claims, claimsOf] at hc
    obtain ⟨m, hm, hpair⟩ := List.mem_map.mp hc
    obtain ⟨rfl, rfl⟩ := Prod.mk.inj hpair
    rw [Option.mem_toList.mp hm]
    exact ⟨result, rfl⟩
  | nothing => rw [he] at hc; cases hc
  | freeWorker => rw [he] at hc; cases hc

/-! ### The fate of commands -/

section Reached

variable (settings : Settings) (poster : Poster) (registry : Option Registry)

/-- **Each command meets its fate**, and the in-flight map keeps the claims that were lost. -/
theorem fate_of_settled (inputs : List (Moment × Input κ))
    (h : ((ofSettings settings poster registry : Dispatcher κ).run inputs).IsSettled) :
    (((ofSettings settings poster registry : Dispatcher κ).run inputs).inFlight : Multiset _)
        = keyed (chronicle lostBy (ofSettings settings poster registry : Dispatcher κ) inputs) ∧
      ∀ s ∈ chronicle handedIn (ofSettings settings poster registry) inputs,
        s.Fate (ofSettings settings poster registry) inputs
          (entriesOf ((ofSettings settings poster registry).run inputs).journal s.ticket) := by
  have hj := h.jobs_eq (staffed_reached settings poster registry inputs)
  have hf := flight_reached (κ := κ) settings poster registry inputs
  have hclaims := h.allClaims_eq hj
    (chronicle lostBy (ofSettings settings poster registry : Dispatcher κ) inputs)
  have hl := ledger_through (κ := κ) settings poster registry inputs
  have ha := hl.accounted
  rw [h.phases_listening hj, Task.phases_done, add_zero] at ha
  refine ⟨by rw [hf.entries, hclaims], fun s hs => ?_⟩
  obtain ⟨g, hg, rfl⟩ := ha.exists_phase hs
  obtain ⟨before, hbegins, hentries⟩ := ha.matched g hg
  rw [Phase.ticket] at hentries
  rcases Multiset.mem_add.mp hg with hg' | hg'
  · obtain ⟨s, hlistens, rfl⟩ := Multiset.mem_map.mp hg'
    obtain ⟨n, hn⟩ := exists_of_mem_listening hlistens
    obtain ⟨b, hb, key, result, he⟩ := broken_of_listening hf hclaims hn
    rw [hentries, Phase.told, List.append_nil]
    exact .orphaned hb he hn hbegins
  · rcases broken_of_through hg' with ⟨x, rfl⟩ | ⟨b, hb, rfl | ⟨x, hx, rfl⟩⟩
    · exact .served (ha.matched _ hg).served
    · exact .brokeOff hb rfl hbegins hentries
    · rw [hentries, Phase.told, List.append_nil]
      exact .cutOff hb hx rfl hbegins

/-- **A callback that breaks off harms those behind it, and nobody else.** Where all is settled,
what is still in flight are the executions whose ends were lost with a callback, and each command
has met its fate: one that was not served is that of a callback that broke off, stood behind one, or
listens to the future of a lost execution. So if nothing stood behind the callbacks that broke off,
nothing is in flight and every other command has been served. -/
theorem fate_of_commands (inputs : List (Moment × Input κ)) :
    let start : Dispatcher κ := ofSettings settings poster registry
    let d := start.run inputs
    d.IsSettled →
      (d.inFlight : Multiset (CommandKey × Nat)) = keyed (chronicle lostBy start inputs) ∧
        (∀ s ∈ chronicle handedIn start inputs,
          s.Fate start inputs (entriesOf d.journal s.ticket)) ∧
        ((∀ b ∈ chronicle brokenBy start inputs, b.IsLast) → d.inFlight = [] ∧
          ∀ s ∈ chronicle handedIn start inputs, s.IsServed (entriesOf d.journal s.ticket) ∨
            ∃ b ∈ chronicle brokenBy start inputs, b.current.submission = s) := by
  intro start d hsettled
  obtain ⟨hflight, hfate⟩ := fate_of_settled settings poster registry inputs hsettled
  refine ⟨hflight, hfate, fun hlast => ⟨?_, fun s hs => ?_⟩⟩
  · have hnone : chronicle lostBy start inputs = [] := by
      refine List.eq_nil_iff_forall_not_mem.mpr fun c hc => ?_
      obtain ⟨b, hb, hc⟩ := broken_of_lost hc
      rw [(hlast b hb).2] at hc
      cases hc
    rw [hnone] at hflight
    exact (Multiset.coe_eq_zero _).mp hflight
  · cases hfate s hs with
    | served h => exact .inl h
    | brokeOff hb hs => exact .inr ⟨_, hb, hs⟩
    | cutOff hb hx =>
      rw [(hlast _ hb).1] at hx
      cases hx
    | orphaned hb he =>
      have hnone := (hlast _ hb).2
      rw [he] at hnone
      cases hnone

end Reached

end Dispatcher

namespace Sample

/-- Two requests that ask for the same, and the callback of the second breaks off. -/
def brokenRun : List (Moment × Input Unit) :=
  sharedRun.take 4 ++ [(second 2, .endCallback 0 true)]

/-- A request that is turned away, and whose callback breaks off; another one that asks for the same
is handed in after the lane was started anew. -/
def refusedRun : List (Moment × Input Unit) :=
  [(second 0, .stopSilent),
    (second 0, .submitSilent (command .getDeviceMode "a")),
    (second 0, .endCallback 0 true),
    (second 1, .resetSilent),
    (second 1, .goOn 0),
    (second 2, .submitSilent (command .getDeviceMode "b"))]

end Sample

namespace Dispatcher

theorem fate_of_commands_brokenRun :
    let start : Dispatcher Unit := ofSettings .standard .inline none
    let d := start.run Sample.brokenRun
    let s : Submission Unit := ⟨0, Sample.command .getDeviceMode "a", .silent⟩
    d.IsSettled ∧ d.inFlight = [] ∧ s.Fate start Sample.brokenRun (entriesOf d.journal 0) ∧
      ¬ s.IsServed (entriesOf d.journal 0) := by
  intro start d s
  have hsettled : d.IsSettled := isSettled_of_isQuiet (by decide)
  obtain ⟨hflight, hfate, -⟩ := fate_of_commands .standard .inline none Sample.brokenRun hsettled
  have hs : s ∈ chronicle handedIn start Sample.brokenRun := List.mem_cons_self ..
  have hempty : d.inFlight = [] := by decide
  refine ⟨hsettled, hempty, hfate s hs, ?_⟩
  rintro ⟨asides, status, failure, -, he, -⟩
  have hcalled : Entry.called s.ticket s.command.correlationId status ∈ entriesOf d.journal 0 := by
    rw [he]
    simp
  have hnone : ∀ e ∈ entriesOf d.journal 0, e.isCall = false := by decide
  cases hnone _ hcalled

/-- A callback that breaks off does not harm itself alone. Of two requests that ask for the same,
the one that was executed is told nothing once the callback of the other has broken off. Once the
callback of a request that was turned away has broken off, its entry stays in the in-flight map, and
the next request that asks for the same is attached to a future that nobody sets. -/
theorem broken_callback_harms_others :
    let start : Dispatcher Unit := ofSettings .standard .inline none
    let joined := start.run Sample.brokenRun
    let refused := start.run Sample.refusedRun
    ((chronicle brokenBy start Sample.brokenRun).map (·.current.submission.ticket) = [1] ∧
        joined.isQuiet = true ∧ joined.stats.submitted = 2 ∧
        ∀ e ∈ entriesOf joined.journal 0, e.isCall = false) ∧
      (chronicle brokenBy start Sample.refusedRun).map (·.current.submission.ticket) = [0] ∧
        refused.isQuiet = true ∧ refused.inFlight.map Prod.snd = [0] ∧
        (refused.future 0).value = none ∧ (refused.future 0).listeners.map (·.ticket) = [1] ∧
        ∀ e ∈ entriesOf refused.journal 1, e.isCall = false := by
  decide

/-! ### Where nothing stands behind -/

variable {d d' : Dispatcher κ} {t t' : Task κ} {now : Moment} {i : Input κ}

/-- All callbacks wait in the row, and none that runs has anything behind it. -/
structure NothingBehind (d : Dispatcher κ) : Prop where
  later : ∀ ticket, d.poster.runsAtOnce ticket = false
  strands : ∀ s ∈ d.strands, s.IsLast

theorem NothingBehind.keep (h : d.NothingBehind) (hp : d'.poster = d.poster)
    (hs : ∀ s ∈ d'.strands, s ∈ d.strands) : d'.NothingBehind :=
  ⟨by rw [hp]; exact h.later, fun s hm => h.strands s (hs s hm)⟩

theorem NothingBehind.move (hm : Move d t d' t') (h : d.NothingBehind) : d'.NothingBehind := by
  cases hm with
  | queue => rw [withLane_eq]; exact h.keep rfl fun _ => id
  | reject => exact h
  | post => exact h.keep rfl fun _ => id
  | call atOnce => rw [h.later] at atOnce; cases atOnce
  | free => rw [freeWorker_eq]; exact h.keep rfl fun _ => id
  | settle => rw [settle_eq]; exact h.keep rfl fun _ => id

theorem NothingBehind.opening (ho : Opening d now i d' t) (h : d.NothingBehind) :
    d'.NothingBehind := by
  cases ho with
  | finished => rw [executed_eq]; exact h.keep rfl fun _ => id
  | begun => rw [makeWay_eq]; exact h.keep rfl fun _ => id
  | ended => exact h.keep rfl fun _ hm => (List.mem_filter.mp hm).1
  | broke => rw [breakOff_eq]; exact h.keep rfl fun _ hm => (List.mem_filter.mp hm).1
  | @ran place x found =>
    refine ⟨h.later, fun s hm => ?_⟩
    rcases List.mem_cons.mp hm with rfl | hm
    · exact ⟨rfl, rfl⟩
    · exact h.strands s hm
  | _ => exact h.keep rfl fun _ => id

/-- **Callbacks that wait in the row** have nothing behind them when they break off. -/
theorem isLast_of_posted (settings : Settings) (registry : Option Registry) {poster : Poster}
    (hlater : ∀ ticket, poster.runsAtOnce ticket = false) (inputs : List (Moment × Input κ)) :
    ∀ b ∈ chronicle brokenBy (ofSettings settings poster registry) inputs, b.IsLast := by
  intro b hb
  obtain ⟨before, now, i, after, rfl, hbroke⟩ := mem_chronicle hb
  have hstart : (ofSettings settings poster registry : Dispatcher κ).NothingBehind :=
    ⟨hlater, fun s hs => by cases hs⟩
  have hrun := run_keeps (I := fun d _ => d.NothingBehind) (fun ho h => h.opening ho)
    (fun hm h => h.move hm) before _ hstart
  cases i with
  | endCallback strand brokeOff =>
    cases brokeOff with
    | false => cases hbroke
    | true => exact hrun.strands b (List.mem_of_find?_eq_some (Option.mem_toList.mp hbroke))
  | _ => cases hbroke

end Dispatcher

end SignOn
