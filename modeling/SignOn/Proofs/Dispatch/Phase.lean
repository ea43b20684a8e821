import Mathlib.Algebra.Order.Group.Multiset
import Mathlib.Data.Multiset.Count
import SignOn.Dispatch.Basic

/-! # How far a command has come

A command that was handed in waits for its result, is told of it by an announcement, by its callback
and by the flush of what was noted about it, in this order. `Phase` says how far it has come, and
`Phase.Matches` what the journal holds of it then. `Accounted` states for a multiset of phases that
it has one for each command handed in and that all of them match the journal; taking one command a
phase further, with the entry for it, keeps this (`Accounted.advance`), since the entry is nobody
else's. -/

namespace SignOn

variable {κ : Type}

/-- The ticket of the command that an entry is about. -/
def Entry.ticket : Entry → Nat
  | .noted ticket _ => ticket
  | .called ticket _ _ => ticket
  | .flushed ticket _ _ => ticket

/-- Is it a callback? -/
def Entry.isCall : Entry → Bool
  | .called _ _ _ => true
  | .noted _ _ | .flushed _ _ _ => false

/-- The entries about a command. -/
def entriesOf (journal : List Entry) (ticket : Nat) : List Entry :=
  journal.filter fun e => e.ticket = ticket

/-! ### Entries -/

namespace Submission

/-- The start of a command. -/
def startEntry (s : Submission κ) : Entry :=
  .noted s.ticket (.started s.command.apiId s.command.correlationId s.lane)

/-- An entry that may stand between the start of a command and its end: it was answered from the
cache, or a session was cancelled for it. -/
def IsAside (s : Submission κ) (e : Entry) : Prop :=
  e = .noted s.ticket (.cacheHit s.command.apiId s.command.correlationId) ∨
    e = .noted s.ticket (.cancelBroadcast s.command.correlationId)

/-- The entries about a command that has not been told its result. -/
def Begins (s : Submission κ) (entries : List Entry) : Prop :=
  ∃ asides, (∀ e ∈ asides, s.IsAside e) ∧ entries = s.startEntry :: asides

end Submission

namespace Delivery

/-- The end of a command. -/
def endEntry (x : Delivery κ) : Entry :=
  .noted x.submission.ticket
    (.ended x.submission.command.apiId x.submission.command.correlationId x.status.label)

/-- The callback of a command. -/
def callEntry (x : Delivery κ) : Entry :=
  .called x.submission.ticket x.submission.command.correlationId x.status

/-- The flush of what was noted about a command. -/
def flushEntry (x : Delivery κ) : Entry :=
  .flushed x.submission.ticket x.submission.command.correlationId x.status.failure?

end Delivery

/-! ### Phases -/

/-- How far a command has come: it waits for its result, or its end was announced, or its callback
was called too, or what was noted about it was flushed as well. -/
inductive Phase (κ : Type) where
  | waiting (s : Submission κ)
  | announced (x : Delivery κ)
  | called (x : Delivery κ)
  | flushed (x : Delivery κ)

namespace Phase

/-- The command. -/
def submission : Phase κ → Submission κ
  | .waiting s => s
  | .announced x | .called x | .flushed x => x.submission

/-- The ticket of the command. -/
def ticket (g : Phase κ) : Nat := g.submission.ticket

/-- Has the end of the command been announced? -/
def IsTold : Phase κ → Prop
  | .waiting _ => False
  | .announced _ | .called _ | .flushed _ => True

instance : DecidablePred (IsTold (κ := κ)) := fun g => by
  cases g <;> unfold IsTold <;> infer_instance

/-- The entries from the announcement on. -/
def told : Phase κ → List Entry
  | .waiting _ => []
  | .announced x => [x.endEntry]
  | .called x => [x.endEntry, x.callEntry]
  | .flushed x => [x.endEntry, x.callEntry, x.flushEntry]

/-- The entries about a command are those of its phase. -/
def Matches (g : Phase κ) (entries : List Entry) : Prop :=
  ∃ before, g.submission.Begins before ∧ entries = before ++ g.told

theorem matches_start (s : Submission κ) : (waiting s).Matches [s.startEntry] :=
  ⟨[s.startEntry], ⟨[], by simp, rfl⟩, rfl⟩

theorem Matches.aside {s : Submission κ} {entries : List Entry} {e : Entry} (he : s.IsAside e)
    (h : (waiting s).Matches entries) : (waiting s).Matches (entries ++ [e]) := by
  obtain ⟨before, ⟨asides, ha, rfl⟩, rfl⟩ := h
  refine ⟨s.startEntry :: (asides ++ [e]), ⟨asides ++ [e], fun e' he' => ?_, rfl⟩,
    by simp [told, submission]⟩
  rcases List.mem_append.mp he' with he' | he'
  · exact ha e' he'
  · rw [List.mem_singleton.mp he']; exact he

theorem Matches.announce {x : Delivery κ} {entries : List Entry}
    (h : (waiting x.submission).Matches entries) :
    (announced x).Matches (entries ++ [x.endEntry]) := by
  obtain ⟨before, hb, rfl⟩ := h
  exact ⟨before, hb, by simp [told]⟩

theorem Matches.call {x : Delivery κ} {entries : List Entry} (h : (announced x).Matches entries) :
    (called x).Matches (entries ++ [x.callEntry]) := by
  obtain ⟨before, hb, rfl⟩ := h
  exact ⟨before, hb, by simp [told]⟩

theorem Matches.flush {x : Delivery κ} {entries : List Entry} (h : (called x).Matches entries) :
    (flushed x).Matches (entries ++ [x.flushEntry]) := by
  obtain ⟨before, hb, rfl⟩ := h
  exact ⟨before, hb, by simp [told]⟩

theorem Matches.not_called {s : Submission κ} {entries : List Entry}
    (h : (waiting s).Matches entries) (ticket : Nat) (correlationId : String)
    (status : CommandStatus) :
    Entry.called ticket correlationId status ∉ entries := by
  obtain ⟨before, ⟨asides, ha, rfl⟩, rfl⟩ := h
  rw [told, List.append_nil, List.mem_cons, not_or]
  refine ⟨by simp [Submission.startEntry], fun hm => ?_⟩
  rcases ha _ hm with he | he <;> cases he

theorem Matches.calls_le {g : Phase κ} {entries : List Entry} (h : g.Matches entries) :
    (entries.filter Entry.isCall).length ≤ 1 := by
  obtain ⟨before, ⟨asides, ha, rfl⟩, rfl⟩ := h
  have hasides : asides.filter Entry.isCall = [] := by
    refine List.filter_eq_nil_iff.mpr fun e he => ?_
    rcases ha e he with rfl | rfl <;> simp [Entry.isCall]
  rw [List.filter_append, List.filter_cons_of_neg (by simp [Submission.startEntry, Entry.isCall]),
    hasides]
  cases g <;> simp [told, Entry.isCall, Delivery.endEntry, Delivery.callEntry,
    Delivery.flushEntry, List.filter_cons]

end Phase

/-! ### Accounts -/

/-- Each command handed in has one phase, which matches what the journal holds of it. -/
structure Accounted (handed : List (Submission κ)) (phases : Multiset (Phase κ))
    (journal : List Entry) : Prop where
  tickets : handed.map (·.ticket) = List.range handed.length
  complete : phases.map Phase.submission = handed
  matched : ∀ g ∈ phases, g.Matches (entriesOf journal g.ticket)
  known : ∀ e ∈ journal, e.ticket < handed.length

namespace Accounted

variable {handed : List (Submission κ)} {phases : Multiset (Phase κ)} {journal : List Entry}

theorem nil : Accounted ([] : List (Submission κ)) 0 [] :=
  ⟨rfl, rfl, by simp, by simp⟩

theorem nodup (h : Accounted handed phases journal) : (phases.map Phase.ticket).Nodup := by
  have ht : phases.map Phase.ticket = ((handed.map (·.ticket) : List Nat) : Multiset Nat) := by
    rw [← Multiset.map_coe, ← h.complete, Multiset.map_map]
    rfl
  rw [ht, h.tickets]
  exact Multiset.coe_nodup.mpr List.nodup_range

theorem entriesOf_append_of_ne {journal : List Entry} {e : Entry} {ticket : Nat}
    (h : e.ticket ≠ ticket) : entriesOf (journal ++ [e]) ticket = entriesOf journal ticket := by
  simp [entriesOf, List.filter_append, h]

theorem entriesOf_append_self (journal : List Entry) (e : Entry) :
    entriesOf (journal ++ [e]) e.ticket = entriesOf journal e.ticket ++ [e] := by
  simp [entriesOf, List.filter_append]

theorem ticket_lt (h : Accounted handed phases journal) {g : Phase κ} (hg : g ∈ phases) :
    g.ticket < handed.length := by
  have hs : g.submission ∈ handed := by
    rw [← Multiset.mem_coe, ← h.complete]
    exact Multiset.mem_map_of_mem _ hg
  have ht : g.submission.ticket ∈ handed.map (·.ticket) := List.mem_map_of_mem hs
  rw [h.tickets] at ht
  exact List.mem_range.mp ht

/-- Each command handed in has a phase. -/
theorem exists_phase (h : Accounted handed phases journal) {s : Submission κ} (hs : s ∈ handed) :
    ∃ g ∈ phases, g.submission = s := by
  have hmem : s ∈ phases.map Phase.submission := by
    rw [h.complete]
    exact hs
  exact Multiset.mem_map.mp hmem

/-- **One command comes a phase further** by one entry; all others stay where they are. -/
theorem advance {g g' : Phase κ} {e : Entry} (h : Accounted handed (g ::ₘ phases) journal)
    (he : e.ticket = g.ticket) (hs : g'.submission = g.submission)
    (hm : ∀ entries, g.Matches entries → g'.Matches (entries ++ [e])) :
    Accounted handed (g' ::ₘ phases) (journal ++ [e]) := by
  have hnodup := h.nodup
  rw [Multiset.map_cons, Multiset.nodup_cons] at hnodup
  refine ⟨h.tickets, ?_, fun k hk => ?_, fun k hk => ?_⟩
  · rw [← h.complete, Multiset.map_cons, Multiset.map_cons, hs]
  · rcases Multiset.mem_cons.mp hk with rfl | hk
    · have ht : k.ticket = e.ticket := by rw [he]; unfold Phase.ticket; rw [hs]
      rw [ht, entriesOf_append_self, he]
      exact hm _ (h.matched g (Multiset.mem_cons_self _ _))
    · have hne : e.ticket ≠ k.ticket := fun heq =>
        hnodup.1 (Multiset.mem_map.mpr ⟨k, hk, by rw [← heq, he]⟩)
      rw [entriesOf_append_of_ne hne]
      exact h.matched k (Multiset.mem_cons_of_mem hk)
  · rcases List.mem_append.mp hk with hk | hk
    · exact h.known k hk
    · rw [List.mem_singleton.mp hk, he]
      exact h.ticket_lt (Multiset.mem_cons_self _ _)

/-- A command is handed in under the next ticket. -/
theorem enroll (h : Accounted handed phases journal) {s : Submission κ}
    (ht : s.ticket = handed.length) :
    Accounted (handed ++ [s]) (.waiting s ::ₘ phases) (journal ++ [s.startEntry]) := by
  have hstart : s.startEntry.ticket = s.ticket := rfl
  refine ⟨?_, ?_, fun k hk => ?_, fun k hk => ?_⟩
  · simp [h.tickets, ht, List.range_succ]
  · rw [Multiset.map_cons, h.complete, ← Multiset.coe_add, Multiset.coe_singleton, add_comm,
      Multiset.singleton_add]
    rfl
  · rcases Multiset.mem_cons.mp hk with rfl | hk
    · have hnone : entriesOf journal s.ticket = [] := by
        refine List.filter_eq_nil_iff.mpr fun e he => ?_
        have := h.known e he
        simp only [decide_eq_true_eq]
        omega
      change (Phase.waiting s).Matches (entriesOf _ s.startEntry.ticket)
      rw [entriesOf_append_self, hstart, hnone]
      exact Phase.matches_start s
    · have := h.ticket_lt hk
      rw [entriesOf_append_of_ne (by rw [hstart]; omega)]
      exact h.matched k hk
  · rw [List.length_append, List.length_singleton]
    rcases List.mem_append.mp hk with hk | hk
    · have := h.known k hk; omega
    · rw [List.mem_singleton.mp hk, hstart]; omega

theorem aside {s : Submission κ} (h : Accounted handed (.waiting s ::ₘ phases) journal)
    {e : Entry} (he : s.IsAside e) : Accounted handed (.waiting s ::ₘ phases) (journal ++ [e]) :=
  h.advance (by rcases he with rfl | rfl <;> rfl) rfl fun _ hm => hm.aside he

theorem asides {s : Submission κ} : ∀ {asides journal : List Entry}, (∀ e ∈ asides, s.IsAside e) →
    Accounted handed (.waiting s ::ₘ phases) journal →
      Accounted handed (.waiting s ::ₘ phases) (journal ++ asides)
  | [], _, _, h => by simpa using h
  | e :: asides, journal, ha, h => by
    rw [List.append_cons]
    exact Accounted.asides (fun e' he' => ha e' (by simp [he'])) (h.aside (ha e (by simp)))

theorem announce {x : Delivery κ}
    (h : Accounted handed (.waiting x.submission ::ₘ phases) journal) :
    Accounted handed (.announced x ::ₘ phases) (journal ++ [x.endEntry]) :=
  h.advance rfl rfl fun _ hm => hm.announce

theorem call {x : Delivery κ} (h : Accounted handed (.announced x ::ₘ phases) journal) :
    Accounted handed (.called x ::ₘ phases) (journal ++ [x.callEntry]) :=
  h.advance rfl rfl fun _ hm => hm.call

theorem flush {x : Delivery κ} (h : Accounted handed (.called x ::ₘ phases) journal) :
    Accounted handed (.flushed x ::ₘ phases) (journal ++ [x.flushEntry]) :=
  h.advance rfl rfl fun _ hm => hm.flush

/-- No command has its callback called twice. -/
theorem calls_le (h : Accounted handed phases journal) (ticket : Nat) :
    ((entriesOf journal ticket).filter Entry.isCall).length ≤ 1 := by
  rcases hentries : entriesOf journal ticket with _ | ⟨e, entries⟩
  · simp
  · have he : e ∈ entriesOf journal ticket := by simp [hentries]
    obtain ⟨hmem, ht⟩ := List.mem_filter.mp he
    have ht : e.ticket = ticket := by simpa using ht
    have hlt : ticket ∈ handed.map (·.ticket) := by
      rw [h.tickets, List.mem_range, ← ht]
      exact h.known e hmem
    obtain ⟨s, hs, rfl⟩ := List.mem_map.mp hlt
    obtain ⟨g, hg, rfl⟩ := h.exists_phase hs
    rw [← hentries]
    exact (h.matched g hg).calls_le

end Accounted

end SignOn
