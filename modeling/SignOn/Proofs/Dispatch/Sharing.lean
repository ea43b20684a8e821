import SignOn.Proofs.Dispatch.Apart
import SignOn.Proofs.Dispatch.Flight
import SignOn.Proofs.Dispatch.KeptResults
import SignOn.Proofs.Identity.Key

/-! # One execution for each key

The in-flight map holds the keys of the executions under way and each of them once
(`Flight.keys_eq`), so there is one execution for each key at most. Another one is launched only if
there is none and the cache has nothing for the key (`Launches.free`); the result of an earlier one
is then spent (`isSpent_of_missed`). -/

namespace SignOn

variable {κ : Type}

namespace Dispatcher

variable {d d' : Dispatcher κ} {t t' : Task κ}

/-! ### Keys under way -/

/-- The keys of the executions under way: they wait, their controllers are at work, or they were
rejected and the callback that tells so is running. -/
def underWay (d : Dispatcher κ) : Multiset CommandKey :=
  d.jobs.filterMap (·.key) + (d.strands : Multiset (Strand κ)).filterMap fun s => s.ending.key

theorem keyed_add (a b : Multiset Claim) : keyed (a + b) = keyed a + keyed b :=
  Multiset.filterMap_add _ _ _

theorem keyed_claimsOf {key : Option CommandKey} {future : Option Nat}
    (h : key.isSome → future.isSome) :
    (keyed (claimsOf key future : Multiset Claim)).map Prod.fst
      = (key.toList : Multiset CommandKey) := by
  cases key with
  | none => cases future <;> rfl
  | some k =>
    cases future with
    | none => exact absurd (h rfl) (by simp)
    | some n => rfl

theorem filterMap_cons_toList {α β : Type} (f : α → Option β) (a : α) (m : Multiset α) :
    (a ::ₘ m).filterMap f = ((f a).toList : Multiset β) + m.filterMap f := by
  cases h : f a with
  | none => rw [Multiset.filterMap_cons_none _ _ h]; exact (zero_add _).symm
  | some b => rw [Multiset.filterMap_cons_some _ _ _ h]; exact (Multiset.singleton_add _ _).symm

theorem map_keyed_bind {α : Type} {claims : α → List Claim} {key : α → Option CommandKey} :
    ∀ {m : Multiset α}, (∀ a ∈ m, (keyed (claims a : Multiset Claim)).map Prod.fst
        = ((key a).toList : Multiset CommandKey)) →
      (keyed (m.bind fun a => (claims a : Multiset Claim))).map Prod.fst = m.filterMap key := by
  intro m
  induction m using Multiset.induction with
  | empty => intro _; rfl
  | cons a m ih =>
    intro h
    rw [Multiset.cons_bind, keyed_add, Multiset.map_add, h a (Multiset.mem_cons_self _ _),
      ih fun b hb => h b (Multiset.mem_cons_of_mem hb), filterMap_cons_toList]

theorem map_keyed_claims (h : Formed d .done) :
    (keyed d.claims).map Prod.fst = d.underWay := by
  have hjobs : ∀ j ∈ d.jobs, (keyed (j.claims : Multiset Claim)).map Prod.fst
      = (j.key.toList : Multiset CommandKey) := fun j hj => keyed_claimsOf (h.jobs j hj).hasFuture
  have hstrands : ∀ s ∈ (d.strands : Multiset (Strand κ)),
      (keyed (s.ending.claims : Multiset Claim)).map Prod.fst
        = (s.ending.key.toList : Multiset CommandKey) := by
    intro s hs
    have hf := h.strands s hs
    cases he : s.ending with
    | settle key future result => rw [he] at hf; exact keyed_claimsOf hf
    | nothing | freeWorker => rfl
  rw [claims, keyed_add, Multiset.map_add, map_keyed_bind hjobs, map_keyed_bind hstrands, underWay]

/-- **The in-flight map** holds the keys under way, besides those that were lost. -/
theorem Flight.keys_eq {lost : List Claim} (h : Flight lost d .done) (hf : Formed d .done) :
    ((d.inFlight.map Prod.fst : List CommandKey) : Multiset CommandKey)
      = d.underWay + (lost.filterMap Prod.fst : List CommandKey) := by
  have hlost : (keyed (lost : Multiset Claim)).map Prod.fst
      = ((lost.filterMap Prod.fst : List CommandKey) : Multiset CommandKey) := by
    rw [keyed, Multiset.map_filterMap, Multiset.filterMap_coe]
    congr 2
    funext c
    cases c.1 <;> rfl
  rw [← Multiset.map_coe, h.entries, allClaims, keyed_add, keyed_add, Multiset.map_add,
    Multiset.map_add, map_keyed_claims hf, hlost]
  exact congrArg (· + _) (add_zero _)

theorem Flight.underWay_nodup {lost : List Claim} (h : Flight lost d .done) (hf : Formed d .done) :
    d.underWay.Nodup := by
  have hn := Multiset.coe_nodup.mpr h.keys
  rw [h.keys_eq hf] at hn
  exact (Multiset.nodup_add.mp hn).1

/-! ### Launching -/

/-- The job that a step may still place. -/
def placed : Task κ → Multiset (Job κ)
  | .place j => {j}
  | .tell _ _ => 0

theorem jobs_move (hm : Move d t d' t') : d'.jobs + placed t' ≤ d.jobs + placed t := by
  cases hm with
  | queue accepted =>
    rw [jobs_withLane (Lane.waiting_submit accepted), placed, add_singleton_eq_cons]
    exact le_of_eq (add_zero _)
  | reject => exact add_le_add_right (Multiset.zero_le _) _
  | post | call => exact le_refl _
  | free => exact le_of_eq (congrArg (· + 0) (jobs_freeWorker _ _ _ _))
  | settle =>
    rw [settle_eq]
    exact le_refl _

/-- Moves make no jobs but the one that is placed. -/
theorem jobs_perform_le (d : Dispatcher κ) (t : Task κ) :
    (d.perform t).jobs ≤ d.jobs + placed t := by
  have hkept := perform_keeps (I := fun d' t' => d'.jobs + placed t' ≤ d.jobs + placed t)
    (fun hm h => (jobs_move hm).trans h) (le_refl (d.jobs + placed t))
  exact (Multiset.le_add_right _ _).trans hkept

theorem jobs_opening {now : Moment} {i : Input κ} (ho : Opening d now i d' t) (hd : d.Numbered)
    (hn : (d.executions.map fun e => e.job.submission.ticket).Nodup) : d'.jobs ≤ d.jobs :=
  (jobs_of_opening ho hd hn).symm ▸ Multiset.le_add_left _ _

/-- The step launches an execution under a key: it leaves a job that was not there. -/
def Launches (d : Dispatcher κ) (now : Moment) (i : Input κ) (k : CommandKey) : Prop :=
  ∃ j ∈ (d.step now i).jobs, j ∉ d.jobs ∧ j.key = some k

/-- **An execution is launched** only by a shareable command of its key, and only if none is under
way for the key and the cache holds no live result for it. -/
theorem Launches.free {now : Moment} {i : Input κ} {k : CommandKey} (h : d.Launches now i k)
    (hd : d.Numbered) (hn : (d.executions.map fun e => e.job.submission.ticket).Nodup) :
    ∃ c, i = .submitSilent c ∧ c.isShareable = true ∧ c.key = k ∧
      d.inFlight.lookup k = none ∧ (d.results.get k now).1 = none := by
  obtain ⟨j, hj, hnew, hk⟩ := h
  obtain ⟨d', t, ho, he⟩ := step_opening d now i
  rw [he] at hj
  rcases Multiset.mem_add.mp (Multiset.mem_of_le (jobs_perform_le d' t) hj) with hjob | hplaced
  · exact absurd (Multiset.mem_of_le (jobs_opening ho hd hn) hjob) hnew
  · clear he hj
    cases ho with
    | @launched c shareable missed free =>
      rw [placed, Multiset.mem_singleton] at hplaced
      subst hplaced
      obtain rfl : c.key = k := Option.some.inj hk
      exact ⟨c, rfl, shareable, rfl, free, missed⟩
    | alone | forgotten | begun =>
      rw [placed, Multiset.mem_singleton] at hplaced
      subst hplaced
      cases hk
    | _ => exact absurd hplaced (Multiset.notMem_zero _)

/-- **One execution for each key.** The in-flight map holds the keys of the executions under way,
each once (and besides only keys that were lost with a callback that broke off); those are the
executions of the commands handed in to be shared. Another one is launched for a key only if none is
under way and the cache holds no live result, so the result of the last one could not be stored, is
too old or was dropped. Keys tell apart operations and parameters without the correlation id, where
scopes count as sets. Steps for commands that share nothing neither read nor change the in-flight
map and the result cache. -/
theorem one_execution_per_key (settings : Settings) (poster : Poster) (registry : Option Registry)
    (inputs : List (Moment × Input κ)) :
    let start : Dispatcher κ := ofSettings settings poster registry
    let d := start.run inputs
    let keys : Multiset CommandKey := (d.inFlight.map Prod.fst : List CommandKey)
    let shared := chronicle sharedBy start inputs
    (d.underWay.Nodup ∧ ((∀ i ∈ inputs, i.2.IsCalm) → keys = d.underWay) ∧
        keys = d.underWay +
          ((chronicle lostBy start inputs).filterMap Prod.fst : List CommandKey)) ∧
      (∀ j ∈ d.jobs, (j.submission ∈ shared → j.key = some j.submission.command.key) ∧
        (j.submission ∉ shared → j.key = none)) ∧
      (∀ now i k, d.Launches now i k →
        (∃ c, i = .submitSilent c ∧ c.isShareable = true ∧ c.key = k) ∧ k ∉ keys ∧
          (d.results.get k now).1 = none ∧
          ∀ before t i' after x, inputs = before ++ (t, i') :: after →
            x ∈ (start.run before).endedBy t i' → x.execution.job.key = some k →
            (∀ y ∈ chronicle endedBy ((start.run before).step t i') after,
              y.execution.job.key ≠ some k) →
            ((start.run before).step t i').IsSpent after now k x) ∧
      (∀ a b : Command κ,
        a.key = b.key ↔ a.operation = b.operation ∧ a.parameters.Alike b.parameters) ∧
      (∀ xs ys s s', ScopeSet.ofList xs = .ok s → ScopeSet.ofList ys = .ok s' →
        (s = s' ↔ ∀ x, x ∈ xs ↔ x ∈ ys)) ∧
      (∀ now i, d.IsApart i → ∀ inFlight results,
        (d.withShared inFlight results).step now i
          = (d.step now i).withShared inFlight results) ∧
      ∀ s ∈ chronicle apartBy start inputs,
        (∀ outcome, d.IsApart (.finishJob s.ticket outcome)) ∧
          ∀ strand ∈ d.strands, strand.current.submission = s →
            ∀ brokeOff, d.IsApart (.endCallback strand.id brokeOff) := by
  intro start d keys shared
  have hform := formed_reached (κ := κ) settings poster registry inputs
  have hflight := flight_reached (κ := κ) settings poster registry inputs
  have hkeys : keys = d.underWay + _ := hflight.keys_eq hform
  refine ⟨⟨hflight.underWay_nodup hform, fun hcalm => ?_, hkeys⟩, fun j hj => ⟨fun hs => ?_,
    fun hs => ?_⟩, fun now i k hl => ?_, fun a b => Command.key_eq_iff,
    fun xs ys s s' => ScopeSet.ofList_eq_iff,
    fun now i hi inFlight results => step_apart inFlight results d now hi,
    fun s hs => apart_reached settings poster registry inputs hs⟩
  · rw [chronicle_eq_nil fun i hi d => lostBy_of_calm (hcalm i hi)] at hkeys
    exact hkeys.trans (add_zero _)
  · have hkey := (key_isSome_iff settings poster registry inputs hj).mpr hs
    obtain ⟨k, hk⟩ := Option.isSome_iff_exists.mp hkey
    rw [hk, ((hform.jobs j hj).shared k hk).2.2]
  · rw [← Option.not_isSome_iff_eq_none, key_isSome_iff settings poster registry inputs hj]
    exact hs
  · obtain ⟨c, rfl, shareable, rfl, free, missed⟩ := hl.free
      (numbered_reached settings poster registry inputs)
      (executions_nodup_reached settings poster registry inputs)
    refine ⟨⟨c, rfl, shareable, rfl⟩, ?_, missed, fun before t i' after x hsplit hx key last => ?_⟩
    · intro hm
      obtain ⟨e, he, hek⟩ := List.mem_map.mp (Multiset.mem_coe.mp hm)
      exact absurd (List.lookup_eq_none_iff.mp free e he) (by simp [hek])
    · refine isSpent_of_missed hx key last ?_
      have hrun : d = ((start.run before).step t i').run after := by
        change start.run inputs = _
        rw [hsplit, run_append]
        rfl
      rw [← hrun]
      exact missed

end Dispatcher

end SignOn
