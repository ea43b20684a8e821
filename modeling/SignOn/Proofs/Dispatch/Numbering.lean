import SignOn.Proofs.Dispatch.Lane
import SignOn.Proofs.Dispatch.Step

/-! # Numbers

Pools, strands and futures are found by their numbers. In every run the pools of a lane have
distinct numbers, so have the strands, and the executions under way refer to futures that are there
(`Numbered`). -/

namespace SignOn

namespace Dispatcher

variable {κ : Type} {d d' : Dispatcher κ} {t t' : Task κ}

/-- Numbers are given out once, and what they refer to is there. -/
structure Numbered (d : Dispatcher κ) : Prop where
  silent : d.silent.Numbered
  interactive : d.interactive.Numbered
  strands : (d.strands.map (·.id)).Nodup
  strandCount : ∀ s ∈ d.strands, s.id < d.strandCount
  inFlight : ∀ e ∈ d.inFlight, e.2 < d.futures.length

theorem numbered_ofSettings (settings : Settings) (poster : Poster) (registry : Option Registry) :
    (ofSettings settings poster registry : Dispatcher κ).Numbered :=
  ⟨Lane.numbered_new _ _, Lane.numbered_new _ _, by simp [ofSettings], by simp [ofSettings],
    by simp [ofSettings]⟩

theorem Numbered.lane (h : d.Numbered) (kind : LaneKind) : (d.lane kind).Numbered := by
  cases kind
  · exact h.interactive
  · exact h.silent

theorem Numbered.withLane (h : d.Numbered) {kind : LaneKind} {l : Lane (Job κ)}
    (hl : l.Numbered) : (d.withLane kind l).Numbered := by
  cases kind
  · exact { h with interactive := hl }
  · exact { h with silent := hl }

theorem Numbered.announce (h : d.Numbered) (x : Delivery κ) : (d.announce x).Numbered :=
  { h with }

theorem Numbered.openCallback (h : d.Numbered) (x : Delivery κ) (rest : List (Delivery κ))
    (ending : Ending) : (d.openCallback x rest ending).Numbered := by
  refine { h with strands := ?_, strandCount := ?_ }
  · simp only [Dispatcher.openCallback, List.map_cons, List.nodup_cons, List.mem_map, not_exists,
      not_and]
    exact ⟨fun s hs he => by have := h.strandCount s hs; omega, h.strands⟩
  · simp only [Dispatcher.openCallback, List.mem_cons, forall_eq_or_imp]
    exact ⟨by omega, fun s hs => by have := h.strandCount s hs; omega⟩

theorem Numbered.withoutStrand (h : d.Numbered) (p : Strand κ → Bool) :
    { d with strands := d.strands.filter p }.Numbered :=
  { h with
    strands := (List.filter_sublist.map _).nodup h.strands
    strandCount := fun s hs => h.strandCount s (List.mem_filter.mp hs).1 }

theorem Numbered.freeWorker (h : d.Numbered) (kind : LaneKind) (pool ticket : Nat) :
    (d.freeWorker kind pool ticket).Numbered := h.withLane ((h.lane kind).finish _ _)

theorem Numbered.leaveFlight (h : d.Numbered) (key : Option CommandKey) :
    (d.leaveFlight key).Numbered := by
  cases key with
  | none => exact h
  | some k => exact { h with inFlight := fun e he => h.inFlight e (List.mem_filter.mp he).1 }

theorem Numbered.resolve (h : d.Numbered) (future : Option Nat) (result : CommandResult) :
    (d.resolve future result).2.Numbered := by
  cases future with
  | none => exact h
  | some n => exact { h with inFlight := by simpa [Dispatcher.resolve] using h.inFlight }

theorem Numbered.move (hm : Move d t d' t') (h : d.Numbered) : d'.Numbered := by
  cases hm with
  | queue accepted => exact h.withLane ((h.lane _).submit accepted)
  | reject refused => exact h
  | post later => exact { h with }
  | call atOnce => exact (h.announce _).openCallback _ _ _
  | free => exact h.freeWorker _ _ _
  | settle => exact (h.leaveFlight _).resolve _ _

theorem Numbered.enrolled (h : d.Numbered) (c : Command κ) (kind : LaneKind) :
    (d.enrolled c kind).Numbered := { h with }

theorem Numbered.retired (h : d.Numbered) (e : Execution κ) : (d.retired e).Numbered := { h with }

theorem Numbered.withPosted (h : d.Numbered) (posted : List (Delivery κ)) :
    { d with posted := posted }.Numbered := { h with }

theorem Numbered.makeWay (h : d.Numbered) (s : Submission κ) : (d.makeWay s).Numbered := by
  rw [makeWay_eq]
  exact { h with }

theorem mem_inFlight {k : CommandKey} {n : Nat} (h : d.inFlight.lookup k = some n) :
    (k, n) ∈ d.inFlight := by
  obtain ⟨before, after, he, -⟩ := List.lookup_eq_some_iff.mp h
  rw [he]
  simp

theorem Numbered.inFlight_append (h : d.Numbered) (f : Future CommandResult (Submission κ)) :
    ∀ e ∈ d.inFlight, e.2 < (d.futures ++ [f]).length := by
  intro e he
  have := h.inFlight e he
  simp only [List.length_append]
  omega

theorem Numbered.breakOff (h : d.Numbered) (ending : Ending) : (d.breakOff ending).Numbered := by
  cases ending with
  | freeWorker lane pool ticket => exact h.freeWorker _ _ _
  | nothing => exact h
  | settle => exact h

theorem Numbered.keepResult (h : d.Numbered) (key : Option CommandKey) (result : CommandResult)
    (now : Moment) : (d.keepResult key result now).Numbered := by
  rw [keepResult_eq]
  have hf := (h.leaveFlight key).inFlight
  rw [leaveFlight_eq] at hf
  exact { h with inFlight := hf }

theorem Numbered.opening {now : Moment} {i : Input κ} (ho : Opening d now i d' t)
    (h : d.Numbered) : d'.Numbered := by
  cases ho with
  | answered =>
    simp only [consulted_eq, note]
    exact { h with inFlight := h.inFlight_append _ }
  | joined =>
    exact { h with inFlight := fun e he => by rw [List.length_set]; exact h.inFlight e he }
  | joinedLate => exact { h with }
  | launched =>
    refine { h with inFlight := fun e he => ?_ }
    rcases List.mem_append.mp he with he | he
    · exact h.inFlight_append _ e he
    · rw [List.mem_singleton.mp he]; simp
  | alone => exact { h with inFlight := h.inFlight_append _ }
  | forgotten => exact { h with }
  | begun => exact (h.enrolled _ _).makeWay _
  | continuation => exact { h with }
  | stopped => exact { h with silent := h.silent.close }
  | reset => exact { h with silent := h.silent.close }
  | shutDown => exact { h with interactive := h.interactive.close }
  | cleared => exact { h with }
  | closed => exact { h with silent := h.silent.close }
  | reopened => exact { h with silent := h.silent.reopen }
  | waits | idle | unfinished | noStrand | nonePosted => exact h
  | startedSilent taken => exact { h with silent := h.silent.start taken }
  | startedInteractive taken => exact { h with interactive := h.interactive.start taken }
  | finished => exact ((h.retired _).keepResult _ _ _).resolve _ _
  | expired => exact { h with }
  | ended => exact { h.withoutStrand _ with }
  | broke => exact (h.withoutStrand _).breakOff _
  | ran => exact (h.withPosted _).openCallback _ _ _

theorem Numbered.run (h : d.Numbered) (inputs : List (Moment × Input κ)) :
    (d.run inputs).Numbered :=
  run_keeps (I := fun d _ => d.Numbered) (fun ho h => h.opening ho) (fun hm h => h.move hm)
    inputs d h

end Dispatcher

end SignOn
