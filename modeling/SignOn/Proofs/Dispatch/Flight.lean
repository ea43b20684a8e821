import SignOn.Proofs.Dispatch.Formed

/-! # Executions under way

An execution that others may share is claimed from when it is launched until its result is set: by
its job, by the callback that tells that it was rejected, or by the step under way. `Flight` states
that the entries of the in-flight map are the claims that have a key, one for each key, and that
their futures are the only ones with listeners. A rejected execution whose callback breaks off never
gives its claim back; such claims are kept apart as lost (`lostBy`). -/

namespace SignOn

/-- The key of an execution, if others may share it, and the number of its future. -/
abbrev Claim := Option CommandKey × Nat

/-- The claims of executions that others may share, as entries of the in-flight map. -/
def keyed (claims : Multiset Claim) : Multiset (CommandKey × Nat) :=
  claims.filterMap fun c => c.1.map fun k => (k, c.2)

/-- The claim of an execution with a key and a future. -/
def claimsOf (key : Option CommandKey) (future : Option Nat) : List Claim :=
  future.toList.map fun n => (key, n)

/-- The claim that is given back at the end. -/
def Ending.claims : Ending → List Claim
  | .settle key future _ => claimsOf key future
  | .nothing | .freeWorker _ _ _ => []

variable {κ : Type}

/-- The claim of a job. -/
def Job.claims (j : Job κ) : List Claim := claimsOf j.key j.future

/-- The claim that a step has in hand. -/
def Task.claims : Task κ → List Claim
  | .place j => j.claims
  | .tell _ ending => ending.claims

theorem keyed_cons_some (k : CommandKey) (n : Nat) (claims : Multiset Claim) :
    keyed ((some k, n) ::ₘ claims) = (k, n) ::ₘ keyed claims :=
  Multiset.filterMap_cons_some _ _ _ rfl

theorem keyed_cons_none (n : Nat) (claims : Multiset Claim) :
    keyed ((none, n) ::ₘ claims) = keyed claims := Multiset.filterMap_cons_none _ _ rfl

theorem mem_keyed {claims : Multiset Claim} {k : CommandKey} {n : Nat} :
    (k, n) ∈ keyed claims ↔ (some k, n) ∈ claims := by
  simp only [keyed, Multiset.mem_filterMap, Option.map_eq_some_iff, Prod.mk.injEq]
  constructor
  · rintro ⟨⟨_, _⟩, hc, k', rfl, rfl, rfl⟩
    exact hc
  · exact fun h => ⟨_, h, k, rfl, rfl, rfl⟩

namespace Dispatcher

variable {d d' : Dispatcher κ} {t t' : Task κ} {lost : Multiset Claim}

/-- The claims of jobs and of callbacks that run. -/
def claims (d : Dispatcher κ) : Multiset Claim :=
  (d.jobs.bind fun j => j.claims)
    + (d.strands : Multiset (Strand κ)).bind fun s => s.ending.claims

/-- The claims of a dispatcher, of what is left to do and those that are lost. -/
def allClaims (lost : Multiset Claim) (d : Dispatcher κ) (t : Task κ) : Multiset Claim :=
  d.claims + t.claims + lost

/-- The in-flight map holds the claims with a key, one for each key; a claim is of a future of its
own that is not set, and who listens to a future listens to one of the map. -/
structure Flight (lost : Multiset Claim) (d : Dispatcher κ) (t : Task κ) : Prop where
  entries : (d.inFlight : Multiset (CommandKey × Nat)) = keyed (allClaims lost d t)
  keys : (d.inFlight.map Prod.fst).Nodup
  futures : ((allClaims lost d t).map Prod.snd).Nodup
  pending : ∀ c ∈ allClaims lost d t, c.2 < d.futures.length ∧ (d.future c.2).value = none
  attached : ∀ n, (d.future n).listeners ≠ [] → ∃ k, (k, n) ∈ d.inFlight

theorem future_congr (hf : d'.futures = d.futures) (n : Nat) : d'.future n = d.future n := by
  rw [future, future, hf]

theorem Flight.congr {lost' : Multiset Claim} (h : Flight lost d t)
    (hc : allClaims lost' d' t' = allClaims lost d t) (hi : d'.inFlight = d.inFlight)
    (hf : d'.futures = d.futures) : Flight lost' d' t' := by
  obtain ⟨he, hk, hn, hp, ha⟩ := h
  refine ⟨by rw [hi, hc]; exact he, by rw [hi]; exact hk, by rw [hc]; exact hn, ?_, ?_⟩
  · intro c hm
    rw [hc] at hm
    rw [hf, future_congr hf]
    exact hp c hm
  · intro n hl
    rw [future_congr hf] at hl
    rw [hi]
    exact ha n hl

theorem allClaims_congr (hj : d'.jobs = d.jobs) (hs : d'.strands = d.strands)
    (ht : t'.claims = t.claims) : allClaims lost d' t' = allClaims lost d t := by
  rw [allClaims, allClaims, claims, claims, hj, hs, ht]

/-- Nothing is done that concerns claims. -/
theorem Flight.keep (h : Flight lost d t) (hj : d'.jobs = d.jobs) (hs : d'.strands = d.strands)
    (ht : t'.claims = t.claims) (hi : d'.inFlight = d.inFlight) (hf : d'.futures = d.futures) :
    Flight lost d' t' :=
  h.congr (allClaims_congr hj hs ht) hi hf

/-! ### Futures -/

theorem future_append_of_lt {f : Future CommandResult (Submission κ)}
    (hf : d'.futures = d.futures ++ [f]) {n : Nat} (hn : n < d.futures.length) :
    d'.future n = d.future n := by
  rw [future, future, hf, List.getElem?_append_left hn]

theorem listeners_append {f : Future CommandResult (Submission κ)} (hl : f.listeners = [])
    (hf : d'.futures = d.futures ++ [f]) {n : Nat} (h : (d'.future n).listeners ≠ []) :
    (d.future n).listeners ≠ [] := by
  rcases Nat.lt_trichotomy n d.futures.length with hn | hn | hn
  · rwa [future_append_of_lt hf hn] at h
  · rw [future, hf, hn] at h
    simp [hl] at h
  · rw [future, hf, List.getElem?_eq_none (by simp; omega)] at h
    exact absurd rfl h

theorem future_set_of_ne {n m : Nat} {f : Future CommandResult (Submission κ)}
    (hf : d'.futures = d.futures.set n f) (hne : m ≠ n) : d'.future m = d.future m := by
  rw [future, future, hf, List.getElem?_set_ne (Ne.symm hne)]

theorem future_set_self {n : Nat} {f : Future CommandResult (Submission κ)}
    (hf : d'.futures = d.futures.set n f) (hn : n < d.futures.length) : d'.future n = f := by
  rw [future, hf, List.getElem?_set_self hn]
  rfl

/-! ### Giving claims back -/

theorem keyed_filter {k : CommandKey} {claims : Multiset (CommandKey × Nat)}
    (h : k ∉ claims.map Prod.fst) : claims.filter (fun e => e.1 ≠ k) = claims :=
  Multiset.filter_eq_self.mpr fun _ he hk => h (hk ▸ Multiset.mem_map_of_mem _ he)

/-- The entry of a claim that is given back is the only one that goes. -/
theorem Flight.entries_leave {key : Option CommandKey} {n : Nat} {rest : Multiset Claim}
    (h : Flight lost d t) (hc : allClaims lost d t = (key, n) ::ₘ rest) :
    ((d.leaveFlight key).inFlight : Multiset (CommandKey × Nat)) = keyed rest := by
  have he := h.entries
  rw [hc] at he
  cases key with
  | none => rw [keyed_cons_none] at he; exact he
  | some k =>
    rw [keyed_cons_some] at he
    have hk := Multiset.coe_nodup.mpr h.keys
    rw [← Multiset.map_coe, he, Multiset.map_cons, Multiset.nodup_cons] at hk
    change ((d.inFlight.filter fun e => e.1 ≠ k : List _) : Multiset (CommandKey × Nat)) = _
    rw [← Multiset.filter_coe, he, Multiset.filter_cons_of_neg _ (by simp), keyed_filter hk.1]

/-- **A claim is given back** and its future set; all other claims stay. -/
theorem Flight.giveBack {lost' : Multiset Claim} {key : Option CommandKey} {n : Nat}
    {result : CommandResult} (h : Flight lost d t)
    (hc : allClaims lost d t = (key, n) ::ₘ allClaims lost' d' t')
    (hi : d'.inFlight = (d.leaveFlight key).inFlight)
    (hf : d'.futures = (d.resolve (some n) result).2.futures) : Flight lost' d' t' := by
  have hn := h.futures
  rw [hc, Multiset.map_cons, Multiset.nodup_cons] at hn
  obtain ⟨hlt, hv⟩ := h.pending (key, n) (by rw [hc]; exact Multiset.mem_cons_self _ _)
  have hset : d'.futures = d.futures.set n ⟨some result, []⟩ := by
    rw [hf]
    simp only [resolve, Future.set, hv]
  have hsub : (d.leaveFlight key).inFlight.Sublist d.inFlight := by
    cases key
    · exact List.Sublist.refl _
    · exact List.filter_sublist
  refine ⟨by rw [hi, h.entries_leave hc], by rw [hi]; exact (hsub.map _).nodup h.keys, hn.2, ?_, ?_⟩
  · intro c hm
    have hne : c.2 ≠ n := by
      rintro rfl
      exact hn.1 (Multiset.mem_map.mpr ⟨c, hm, rfl⟩)
    rw [future_set_of_ne hset hne, hset, List.length_set]
    exact h.pending c (by rw [hc]; exact Multiset.mem_cons_of_mem hm)
  · intro m hl
    -- setting the future has taken its listeners out, so nobody misses the entry that goes
    by_cases hm : m = n
    · subst hm
      rw [future_set_self hset hlt] at hl
      exact absurd rfl hl
    · rw [future_set_of_ne hset hm] at hl
      obtain ⟨k, hk⟩ := h.attached m hl
      refine ⟨k, ?_⟩
      have hmem : (k, m) ∈ keyed ((key, n) ::ₘ allClaims lost' d' t') := by
        rw [← hc, ← h.entries]; exact hk
      have hrest : (k, m) ∈ keyed (allClaims lost' d' t') := by
        rw [mem_keyed] at hmem ⊢
        rcases Multiset.mem_cons.mp hmem with he | hmem
        · exact absurd (Prod.mk.inj he).2 hm
        · exact hmem
      rw [hi, ← Multiset.mem_coe, h.entries_leave hc]
      exact hrest

/-- A future that nobody claims is set, or none. -/
theorem Flight.settled {lost' : Multiset Claim} (key : Option CommandKey) (future : Option Nat)
    (result : CommandResult) (h : Flight lost d t) (hkey : key.isSome → future.isSome)
    (hc : allClaims lost d t = (claimsOf key future : Multiset Claim) + allClaims lost' d' t')
    (hi : d'.inFlight = (d.leaveFlight key).inFlight)
    (hf : d'.futures = (d.resolve future result).2.futures) : Flight lost' d' t' := by
  cases future with
  | some n => exact h.giveBack (hc.trans (Multiset.singleton_add _ _)) hi hf
  | none =>
    cases key with
    | none => exact h.congr (by rw [hc]; exact (zero_add _).symm) hi hf
    | some k => exact absurd (hkey rfl) (by simp)

/-! ### Moves -/

theorem claims_openCallback (d : Dispatcher κ) (x : Delivery κ) (rest : List (Delivery κ))
    (ending : Ending) : (d.openCallback x rest ending).claims = d.claims + ending.claims := by
  have hs : ((d.openCallback x rest ending).strands : Multiset (Strand κ))
      = ⟨d.strandCount, x, rest, ending⟩ ::ₘ (d.strands : Multiset (Strand κ)) := rfl
  rw [claims, hs, Multiset.cons_bind, add_comm (ending.claims : Multiset Claim), ← add_assoc]
  rfl

theorem Flight.call {xs : List (Delivery κ)} {ending : Ending} (h : Flight lost d (.tell xs ending))
    (x : Delivery κ) (rest : List (Delivery κ)) :
    Flight lost (d.openCallback x rest ending) .done := by
  refine h.congr ?_ rfl rfl
  rw [allClaims, claims_openCallback]
  exact congrArg (· + lost) (add_zero _)

theorem Flight.move (hm : Move d t d' t') (hform : Formed d t) (h : Flight lost d t) :
    Flight lost d' t' := by
  cases hm with
  | @queue j l accepted =>
    have hc : (d.withLane j.submission.lane l).claims = j.claims + d.claims := by
      rw [claims, jobs_withLane (Lane.waiting_submit accepted), Multiset.cons_bind, claims,
        withLane_eq, add_assoc]
    refine h.congr ?_ (by rw [withLane_eq]) (by rw [withLane_eq])
    rw [allClaims, hc, add_comm (j.claims : Multiset Claim)]
    exact congrArg (· + lost) (add_zero _)
  | reject => exact h.keep rfl rfl rfl rfl rfl
  | post => exact h.keep rfl rfl rfl rfl rfl
  | @call x xs ending atOnce =>
    have ha : Flight lost (d.announce x) (.tell xs ending) := h.keep rfl rfl rfl rfl rfl
    exact ha.call _ _
  | @free kind pool ticket =>
    refine h.keep (jobs_freeWorker _ _ _ _) ?_ rfl ?_ ?_ <;>
      rw [freeWorker_eq]
  | @settle key future result =>
    have hs : (d.settle key future result).strands = d.strands := by
      rw [settle_eq]
    have hj : (d.settle key future result).jobs = d.jobs := by
      rw [settle_eq]; rfl
    refine h.settled key future result hform.task ?_ ?_ ?_
    · rw [allClaims, allClaims, claims, claims, hj, hs]
      change d.claims + claimsOf key future + lost = _ + (d.claims + 0 + lost)
      rw [add_zero, add_comm d.claims, add_assoc]
    · rw [settle_eq]
    · rw [settle_eq]

/-! ### Openings -/

theorem Flight.append (h : Flight lost d t) {f : Future CommandResult (Submission κ)}
    (hl : f.listeners = []) (hf : d'.futures = d.futures ++ [f])
    (hc : allClaims lost d' t' = allClaims lost d t) (hi : d'.inFlight = d.inFlight) :
    Flight lost d' t' := by
  refine ⟨by rw [hi, hc]; exact h.entries, by rw [hi]; exact h.keys, by rw [hc]; exact h.futures,
    fun c hm => ?_, fun n hn => ?_⟩
  · rw [hc] at hm
    obtain ⟨hlt, hv⟩ := h.pending c hm
    rw [future_append_of_lt hf hlt, hf, List.length_append]
    exact ⟨by omega, hv⟩
  · rw [hi]
    exact h.attached n (listeners_append hl hf hn)

/-- Who is in the in-flight map has a claim. -/
theorem Flight.claim_of_mem (h : Flight lost d t) {k : CommandKey} {n : Nat}
    (hk : (k, n) ∈ d.inFlight) :
    (some k, n) ∈ allClaims lost d t := by
  rw [← mem_keyed, ← h.entries]
  exact hk

/-- A command attaches to an execution under way. -/
theorem Flight.join (h : Flight lost d t) {k : CommandKey} {n : Nat} {s : Submission κ}
    (hk : (k, n) ∈ d.inFlight)
    (hf : d'.futures = d.futures.set n
      { d.future n with listeners := (d.future n).listeners ++ [s] })
    (hc : allClaims lost d' t' = allClaims lost d t) (hi : d'.inFlight = d.inFlight) :
    Flight lost d' t' := by
  obtain ⟨hlt, -⟩ := h.pending _ (h.claim_of_mem hk)
  refine ⟨by rw [hi, hc]; exact h.entries, by rw [hi]; exact h.keys, by rw [hc]; exact h.futures,
    fun c hm => ?_, fun m hm => ?_⟩
  · rw [hc] at hm
    rw [hf, List.length_set]
    refine ⟨(h.pending c hm).1, ?_⟩
    by_cases hcn : c.2 = n
    · rw [hcn, future_set_self hf hlt]
      exact hcn ▸ (h.pending c hm).2
    · rw [future_set_of_ne hf hcn]
      exact (h.pending c hm).2
  · rw [hi]
    by_cases hmn : m = n
    · exact ⟨k, hmn ▸ hk⟩
    · rw [future_set_of_ne hf hmn] at hm
      exact h.attached m hm

/-- **An execution is launched**: it claims a new future, under a key that nobody has. -/
theorem Flight.launch (key : Option CommandKey) (h : Flight lost d .done)
    (hkey : ∀ k, key = some k → d.inFlight.lookup k = none) (hj : d'.jobs = d.jobs)
    (hs : d'.strands = d.strands) (ht : t'.claims = [(key, d.futures.length)])
    (hi : d'.inFlight = d.inFlight ++ key.toList.map fun k => (k, d.futures.length))
    (hf : d'.futures = d.futures ++ [.pending]) : Flight lost d' t' := by
  have hc : allClaims lost d' t' = (key, d.futures.length) ::ₘ allClaims lost d .done := by
    rw [allClaims, allClaims, claims, claims, hj, hs, ht, Multiset.coe_singleton,
      add_singleton_eq_cons, Multiset.cons_add]
    exact congrArg (fun m => _ ::ₘ (m + lost)) (add_zero _).symm
  refine ⟨?_, ?_, ?_, fun c hm => ?_, fun n hn => ?_⟩
  · rw [hi, hc, ← Multiset.coe_add, h.entries]
    cases key with
    | none => rw [keyed_cons_none]; exact add_zero _
    | some k => rw [keyed_cons_some]; exact add_singleton_eq_cons _ _
  · rw [hi]
    cases key with
    | none => simpa using h.keys
    | some k =>
      have hnone : k ∉ d.inFlight.map Prod.fst := by
        intro hm
        obtain ⟨e, he, rfl⟩ := List.mem_map.mp hm
        exact absurd (List.lookup_eq_none_iff.mp (hkey _ rfl) e he) (by simp)
      rw [List.map_append, List.nodup_append]
      refine ⟨h.keys, by simp, fun a ha b hb hab => ?_⟩
      have hbk : b = k := by simpa using hb
      exact hnone (hbk ▸ hab ▸ ha)
  · rw [hc, Multiset.map_cons, Multiset.nodup_cons]
    refine ⟨fun hm => ?_, h.futures⟩
    obtain ⟨c, hcm, he⟩ := Multiset.mem_map.mp hm
    have := (h.pending c hcm).1
    omega
  · rw [hc] at hm
    rw [hf, List.length_append, List.length_singleton]
    rcases Multiset.mem_cons.mp hm with rfl | hm
    · refine ⟨by omega, ?_⟩
      rw [future, hf]
      simp [Future.pending]
    · obtain ⟨hlt, hv⟩ := h.pending c hm
      rw [future_append_of_lt hf hlt]
      exact ⟨by omega, hv⟩
  · obtain ⟨k, hk⟩ := h.attached n (listeners_append rfl hf hn)
    rw [hi]
    exact ⟨k, List.mem_append.mpr (.inl hk)⟩

/-- The controllers of a job are done: its claim is given back. -/
theorem Flight.finish (h : Flight lost d .done) (hform : Formed d .done)
    (hn : (d.executions.map fun e => e.job.submission.ticket).Nodup) {ticket : Nat}
    {e : Execution κ} (he : d.executions.find? (fun e => e.job.submission.ticket = ticket) = some e)
    (result : CommandResult) (now : Moment) (ht : t.claims = []) :
    Flight lost (d.executed e result now) t := by
  obtain rfl := ticket_of_found he
  have hjob := hform.jobs _ (mem_jobs_of_execution (List.mem_of_find?_eq_some he))
  have hc : d.claims = (e.job.claims : Multiset Claim) + (d.executed e result now).claims := by
    rw [claims, jobs_executed hn he result now, Multiset.cons_bind, claims, add_assoc, executed_eq]
    rfl
  refine h.settled e.job.key e.job.future result hjob.hasFuture ?_ ?_ ?_
  · rw [allClaims, allClaims, hc, ht]
    change Multiset.ofList (claimsOf e.job.key e.job.future) + _ + 0 + lost = _ + (_ + 0 + lost)
    rw [add_zero, add_zero, add_assoc]
  · rw [executed_eq]
  · rw [executed_eq]

theorem claims_withoutStrand (hd : d.Numbered) {strand : Nat} {s : Strand κ}
    (hs : d.strands.find? (fun s => s.id = strand) = some s) :
    d.claims = { d with strands := d.strands.filter fun t => t.id ≠ strand }.claims
      + s.ending.claims := by
  rw [claims, split_of_find hd.strands hs, Multiset.cons_bind,
    add_comm (s.ending.claims : Multiset Claim), ← add_assoc]
  rfl

/-- The claim that is lost with a callback that breaks off. -/
def lostBy (d : Dispatcher κ) (_ : Moment) : Input κ → List Claim
  | .endCallback strand true =>
    ((d.strands.find? fun s => s.id = strand).map fun s => s.ending.claims).getD []
  | _ => []

theorem Flight.withoutStrand (h : Flight lost d .done) (hd : d.Numbered) {strand : Nat}
    {s : Strand κ} (hs : d.strands.find? (fun s => s.id = strand) = some s) :
    Flight lost { d with strands := d.strands.filter fun t => t.id ≠ strand }
      (.tell s.rest s.ending) := by
  refine h.congr ?_ rfl rfl
  rw [allClaims, allClaims, claims_withoutStrand hd hs]
  exact congrArg (· + lost) (add_zero _).symm

/-- A callback that breaks off takes the claim behind it along. -/
theorem Flight.breakOff {xs : List (Delivery κ)} {ending : Ending}
    (h : Flight lost d (.tell xs ending)) :
    Flight (lost + (ending.claims : Multiset Claim)) (d.breakOff ending) .done := by
  have hj := jobs_breakOff d ending
  have hs : (d.breakOff ending).strands = d.strands := by rw [breakOff_eq]
  refine h.congr ?_ (by rw [breakOff_eq]) (by rw [breakOff_eq])
  rw [allClaims, claims, hj, hs]
  change d.claims + 0 + (lost + ending.claims) = d.claims + ending.claims + lost
  rw [add_zero, add_comm lost, add_assoc]

/-- An opening without a callback that breaks off loses no claim. -/
theorem Flight.opening_calm {now : Moment} {i : Input κ} (ho : Opening d now i d' t)
    (hd : d.Numbered) (hn : (d.executions.map fun e => e.job.submission.ticket).Nodup)
    (hform : Formed d .done) (hi : i.IsCalm) (h : Flight lost d .done) : Flight lost d' t := by
  cases ho with
  | answered => exact h.append rfl rfl (allClaims_congr (jobs_congr rfl rfl rfl) rfl rfl) rfl
  | joined shareable missed found unset =>
    exact h.join (mem_inFlight found) rfl (allClaims_congr (jobs_congr rfl rfl rfl) rfl rfl) rfl
  | joinedLate => exact h.keep (jobs_congr rfl rfl rfl) rfl rfl rfl rfl
  | @launched c shareable missed free =>
    refine h.launch (some c.key) (fun k hk => ?_) (jobs_congr rfl rfl rfl) rfl rfl rfl rfl
    rw [← Option.some.inj hk]
    exact free
  | alone =>
    exact h.launch none (by simp) (jobs_congr rfl rfl rfl) rfl rfl (List.append_nil _).symm rfl
  | forgotten => exact h.keep (jobs_congr rfl rfl rfl) rfl rfl rfl rfl
  | begun =>
    rw [makeWay_eq]
    exact h.keep (jobs_congr rfl rfl rfl) rfl rfl rfl rfl
  | continuation | cleared | expired => exact h.keep (jobs_congr rfl rfl rfl) rfl rfl rfl rfl
  | waits | idle | unfinished | noStrand | nonePosted => exact h
  | stopped | reset | shutDown | closed => exact h.keep (jobs_congr rfl rfl rfl) rfl rfl rfl rfl
  | reopened => exact h.keep (jobs_congr rfl (Lane.waiting_reopen _) rfl) rfl rfl rfl rfl
  | startedSilent taken =>
    exact h.keep (jobs_started .silent hd taken rfl rfl rfl rfl) rfl rfl rfl rfl
  | startedInteractive taken =>
    exact h.keep (jobs_started .interactive hd taken rfl rfl rfl rfl) rfl rfl rfl rfl
  | finished found => exact h.finish hform hn found _ _ rfl
  | ended found => exact (h.withoutStrand hd found).keep (jobs_congr rfl rfl rfl) rfl rfl rfl rfl
  | broke found => cases hi
  | @ran place x found =>
    have hp : Flight lost { d with posted := d.posted.eraseIdx place } (.tell [] .nothing) :=
      h.keep (jobs_congr rfl rfl rfl) rfl rfl rfl rfl
    exact hp.call _ _

theorem lostBy_of_calm {now : Moment} {i : Input κ} (h : i.IsCalm) : lostBy d now i = [] := by
  cases i <;> simp_all [lostBy, Input.IsCalm]

theorem calm_or_breaks (i : Input κ) : i.IsCalm ∨ ∃ strand, i = .endCallback strand true := by
  cases i with
  | endCallback strand brokeOff =>
    cases brokeOff with
    | false => exact .inl rfl
    | true => exact .inr ⟨strand, rfl⟩
  | _ => exact .inl trivial

/-- **A step keeps the in-flight map right**; a callback that breaks off may lose a claim. -/
theorem Flight.opening {now : Moment} {i : Input κ} (ho : Opening d now i d' t) (hd : d.Numbered)
    (hn : (d.executions.map fun e => e.job.submission.ticket).Nodup) (hform : Formed d .done)
    (h : Flight lost d .done) : Flight (lost + (d.lostBy now i : Multiset Claim)) d' t := by
  rcases calm_or_breaks i with hi | ⟨strand, rfl⟩
  · rw [lostBy_of_calm hi, Multiset.coe_nil, add_zero]
    exact h.opening_calm ho hd hn hform hi
  · cases ho with
    | broke found =>
      rw [lostBy, found]
      exact (h.withoutStrand hd found).breakOff
    | noStrand missing =>
      rw [lostBy, missing]
      exact h.congr (congrArg (_ + ·) (add_zero _)) rfl rfl

theorem flight_ofSettings (settings : Settings) (poster : Poster) (registry : Option Registry) :
    Flight 0 (ofSettings settings poster registry : Dispatcher κ) .done := by
  have hnone : allClaims 0 (ofSettings settings poster registry : Dispatcher κ) .done = 0 := by
    simp [allClaims, claims, jobs, ofSettings, Lane.new, Lane.waiting, Task.claims, Task.done,
      Ending.claims]
  refine ⟨?_, by simp [ofSettings], ?_, ?_, fun n hn => ?_⟩
  · rw [hnone]; rfl
  · rw [hnone]; simp
  · rw [hnone]; simp
  · exact absurd (by simp [future, ofSettings, Future.pending]) hn

/-- **In every run** the in-flight map is right. -/
theorem flight_reached (settings : Settings) (poster : Poster) (registry : Option Registry)
    (inputs : List (Moment × Input κ)) :
    Flight (chronicle lostBy (ofSettings settings poster registry) inputs)
      ((ofSettings settings poster registry : Dispatcher κ).run inputs) .done := by
  have hkept := reached_keeps
    (I := fun inputs d t => Formed d t ∧
      Flight (chronicle lostBy (ofSettings settings poster registry) inputs) d t)
    ⟨formed_ofSettings settings poster registry, flight_ofSettings settings poster registry⟩
    (fun hr hd hn ho h => ⟨h.1.opening ho hd hn, by
      rw [chronicle_concat, hr, ← Multiset.coe_add]
      exact h.2.opening ho hd hn h.1⟩)
    (fun _ hm h => ⟨h.1.move hm, h.2.move hm h.1⟩) inputs
  exact hkept.2

end Dispatcher

end SignOn
