import Mathlib.Algebra.Order.Group.Multiset
import Mathlib.Data.List.Induction
import Mathlib.Data.Multiset.Bind
import SignOn.Dispatch.Future

/-! # A future that several parties share

Any number of parties call one future. What a call does under the lock is one step; whoever has to
run listeners runs them after it, one step for each, and a listener may call the same future while
it runs. So a party has a stack of calls that have not come back (`Frame`). `Shared` keeps the
future, the stacks and a journal of what happened, in which listeners go by the order in which they
were registered.

* `Kept`: what every step keeps. As long as there is no value nothing but registrations and reads
  without a value has happened (`Waiting`). After that the listeners that ran and those that
  somebody is about to run are all that were registered, each of them once, and the call that took
  the value is in its loop or has come back (`Resolved`).
* `resolves_once`: what follows for a whole run. -/

namespace SignOn

namespace Future

variable {α : Type}

/-! ### Parties -/

/-- A call that has not come back: the call that took the value, with the listeners it has yet to
run, the call of a listener that came too late to wait, or a listener. -/
inductive Frame (α : Type) where
  | notifying (value : α) (rest : List Nat)
  | answering (listener : Nat) (value : α)
  | listening (listener : Nat)

/-- What is noted: a listener was registered, a value was taken, a value was not taken, the call
that took the value came back, a listener was run, somebody was told whether there is a value or
which one. -/
inductive Note (α : Type) where
  | registered (listener : Nat)
  | taken (value : α)
  | ignored
  | returned
  | ran (listener : Nat) (value : α)
  | saw (isDone : Bool)
  | got (value : Option α)

/-- The future, the calls of every party that have not come back, the innermost first, the number of
listeners registered, and the journal. -/
structure Shared (α : Type) where
  future : Future α Nat
  parties : List (List (Frame α))
  count : Nat
  journal : List (Note α)

/-- What a party does: it calls the future, or it goes on with what it is in. -/
inductive Act (α : Type) where
  | set (value : α)
  | whenComplete
  | isDone
  | tryGet
  | wait
  | goOn

namespace Shared

/-- A future without a value, and parties that have not called it. -/
def idle (parties : Nat) : Shared α := ⟨.pending, .replicate parties [], 0, []⟩

/-- Somebody is told something. -/
def note (x : Shared α) (n : Note α) : Shared α := { x with journal := x.journal ++ [n] }

/-- A party has other calls that have not come back. -/
def leave (x : Shared α) (party : Nat) (stack : List (Frame α)) : Shared α :=
  { x with parties := x.parties.set party stack }

/-- A party calls the future. A wait is over only when there is a value. -/
def call (x : Shared α) (party : Nat) (stack : List (Frame α)) : Act α → Shared α
  | .set value =>
    match x.future.set value with
    | (false, _, future) => { x with future }.note .ignored
    | (true, listeners, future) =>
      ({ x with future }.leave party (.notifying value listeners :: stack)).note (.taken value)
  | .whenComplete =>
    match x.future.whenComplete x.count with
    | (none, future) => { x with future, count := x.count + 1 }.note (.registered x.count)
    | (some value, future) =>
      ({ x with future, count := x.count + 1 }.leave party (.answering x.count value :: stack)).note
        (.registered x.count)
  | .isDone => x.note (.saw x.future.isDone)
  | .tryGet => x.note (.got x.future.value)
  | .wait => if x.future.isDone then x.note (.got x.future.value) else x
  | .goOn => x

/-- A party goes on: it runs the next listener, comes back from a call, or comes to the end of a
listener. -/
def goOn (x : Shared α) (party : Nat) : List (Frame α) → Shared α
  | [] => x
  | .notifying value (n :: rest) :: below =>
    (x.leave party (.listening n :: .notifying value rest :: below)).note (.ran n value)
  | .notifying _ [] :: below => (x.leave party below).note .returned
  | .answering n value :: below => (x.leave party (.listening n :: below)).note (.ran n value)
  | .listening _ :: below => x.leave party below

/-- The future in use after a party has done something. Only who is in no call, or in a listener,
can call. -/
def step (x : Shared α) (event : Nat × Act α) : Shared α :=
  match x.parties[event.1]?, event.2 with
  | none, _ => x
  | some stack, .goOn => x.goOn event.1 stack
  | some [], act => x.call event.1 [] act
  | some (.listening n :: below), act => x.call event.1 (.listening n :: below) act
  | some _, _ => x

/-- The future in use after a row of events. -/
def run (x : Shared α) (events : List (Nat × Act α)) : Shared α := events.foldl step x

theorem run_append (x : Shared α) (xs ys : List (Nat × Act α)) :
    x.run (xs ++ ys) = (x.run xs).run ys :=
  List.foldl_append

/-- The calls that have not come back. -/
def frames (x : Shared α) : Multiset (Frame α) := x.parties.flatten

end Shared

/-! ### The journal -/

/-- The listener that a note says was registered. -/
def Note.registered? : Note α → Option Nat
  | .registered n => some n
  | _ => none

/-- The listener that a note says was run. -/
def Note.ran? : Note α → Option Nat
  | .ran n _ => some n
  | _ => none

/-- The listeners registered, in that order. -/
def registered (journal : List (Note α)) : List Nat := journal.filterMap Note.registered?

/-- The listeners that were run, in that order. -/
def ran (journal : List (Note α)) : List Nat := journal.filterMap Note.ran?

/-- What can be noted as long as there is no value. -/
def Note.IsEarly : Note α → Prop
  | .registered _ => True
  | .saw isDone => isDone = false
  | .got value => value = none
  | _ => False

/-- What can be noted once the value was taken. -/
def Note.IsLate (v : α) : Note α → Prop
  | .taken _ => False
  | .saw isDone => isDone = true
  | .got value => value = some v
  | .ran _ value => value = v
  | _ => True

/-- Does a note say that the call that took the value came back? -/
def Note.isReturned : Note α → Bool
  | .returned => true
  | _ => false

variable {journal before after : List (Note α)} {v : α} {n : Nat}

theorem registered_concat (m : Note α) :
    registered (journal ++ [m]) = registered journal ++ m.registered?.toList := by
  cases h : m.registered? <;> simp [registered, h]

theorem ran_concat (m : Note α) : ran (journal ++ [m]) = ran journal ++ m.ran?.toList := by
  cases h : m.ran? <;> simp [ran, h]

theorem ran_concat_of_none {m : Note α} (h : m.ran? = none) :
    ran (journal ++ [m]) = ran journal := by
  rw [ran_concat, h, Option.toList_none, List.append_nil]

theorem ran_concat_ran (n : Nat) (v : α) : ran (journal ++ [.ran n v]) = ran journal ++ [n] :=
  ran_concat _

theorem ran_of_isEarly (h : ∀ n ∈ journal, n.IsEarly) : ran journal = [] := by
  refine List.filterMap_eq_nil_iff.mpr fun n hn => ?_
  have := h n hn
  cases n <;> simp_all [Note.IsEarly, Note.ran?]

/-! ### What somebody is about to run -/

/-- The listeners that a call will run. -/
def Frame.owed : Frame α → List Nat
  | .notifying _ rest => rest
  | .answering n _ => [n]
  | .listening _ => []

/-- The listeners that the call that took the value has yet to run. -/
def Frame.rest? : Frame α → Option (List Nat)
  | .notifying _ rest => some rest
  | _ => none

/-- A stack of calls with the value `v` in which nobody is about to run a listener that came too
late to wait. -/
inductive Settled (v : α) : List (Frame α) → Prop
  | nil : Settled v []
  | notifying (rest : List Nat) {below : List (Frame α)} :
    Settled v below → Settled v (.notifying v rest :: below)
  | listening (n : Nat) {below : List (Frame α)} :
      Settled v below → Settled v (.listening n :: below)

/-- A stack of calls with the value `v`: a listener that came too late, and is none of the early
ones, is run before its party does anything else. -/
inductive Stacked (early : List Nat) (v : α) : List (Frame α) → Prop
  | settled {stack : List (Frame α)} : Settled v stack → Stacked early v stack
  | answering (n : Nat) {below : List (Frame α)} :
    n ∉ early → Settled v below → Stacked early v (.answering n v :: below)

theorem Settled.answering_notMem {stack : List (Frame α)} (h : Settled v stack) (w : α) :
    .answering n w ∉ stack := by
  induction h with
  | nil => simp
  | notifying rest _ ih => simpa using ih
  | listening m _ ih => simpa using ih

theorem Stacked.eq_cons_of_mem {early : List Nat} {stack : List (Frame α)}
    (h : Stacked early v stack) {w : α} (hn : .answering n w ∈ stack) :
    ∃ below, stack = .answering n v :: below := by
  cases h with
  | settled h => exact absurd hn (h.answering_notMem w)
  | answering m _ hbelow =>
    rcases List.mem_cons.mp hn with heq | hn
    · cases heq
      exact ⟨_, rfl⟩
    · exact absurd hn (hbelow.answering_notMem w)

namespace Shared

variable {x : Shared α} {party : Nat} {stack below : List (Frame α)}

/-- The listeners that somebody is about to run. -/
def owed (x : Shared α) : Multiset Nat := x.frames.bind fun f => f.owed

/-- What the call that took the value has yet to run, if it has not come back. -/
def rests (x : Shared α) : Multiset (List Nat) := x.frames.filterMap Frame.rest?

/-- **The stack of a party** is one part of all calls, and the others stay when it changes. -/
theorem frames_leave (h : x.parties[party]? = some stack) :
    ∃ others : Multiset (Frame α), x.frames = stack + others ∧
      ∀ stack', (x.leave party stack').frames = stack' + others := by
  obtain ⟨hlt, rfl⟩ := List.getElem?_eq_some_iff.mp h
  have hparts : ∀ stack', ((x.parties.set party stack').flatten : Multiset (Frame α)) =
      stack' + ((x.parties.take party).flatten ++
        (x.parties.drop (party + 1)).flatten : List (Frame α)) := by
    intro stack'
    rw [List.set_eq_take_append_cons_drop, if_pos hlt, List.flatten_append, List.flatten_cons,
      ← Multiset.coe_add, ← Multiset.coe_add, ← Multiset.coe_add, add_left_comm]
  refine ⟨_, ?_, hparts⟩
  rw [frames, ← hparts, List.set_getElem_self]

theorem owed_leave (h : x.parties[party]? = some stack) :
    ∃ (owed : Multiset Nat) (rests : Multiset (List Nat)),
    x.owed = (stack.flatMap Frame.owed : List Nat) + owed ∧
    x.rests = (stack.filterMap Frame.rest? : List (List Nat)) + rests ∧ ∀ stack',
      (x.leave party stack').owed = (stack'.flatMap Frame.owed : List Nat) + owed ∧
      (x.leave party stack').rests = (stack'.filterMap Frame.rest? : List (List Nat)) + rests := by
  obtain ⟨others, hx, hleave⟩ := frames_leave h
  refine ⟨others.bind fun f => f.owed, others.filterMap Frame.rest?, ?_, ?_, fun stack' => ⟨?_, ?_⟩⟩
  · rw [Shared.owed, hx, Multiset.add_bind, Multiset.coe_bind]
  · rw [Shared.rests, hx, Multiset.filterMap_add, Multiset.filterMap_coe]
  · rw [Shared.owed, hleave, Multiset.add_bind, Multiset.coe_bind]
  · rw [Shared.rests, hleave, Multiset.filterMap_add, Multiset.filterMap_coe]

theorem parties_leave {P : List (Frame α) → Prop} (h : ∀ stack ∈ x.parties, P stack)
    (hstack : P stack) :
    ∀ stack' ∈ (x.leave party stack).parties, P stack' := fun stack' hmem =>
  (List.mem_or_eq_of_mem_set hmem).elim (h stack') fun heq => heq ▸ hstack

/-! ### What every step keeps -/

/-- What is the case in a future that has no value. -/
structure Waiting (x : Shared α) : Prop where
  value : x.future.value = none
  listeners : x.future.listeners = List.range x.count
  free : ∀ stack ∈ x.parties, stack = []
  early : ∀ n ∈ x.journal, n.IsEarly

/-- How far the call that took the value has got with the early listeners: it has run them in their
order up to those it has yet to run, or it has run all of them and come back. -/
def Loop (before after : List (Note α)) (rests : Multiset (List Nat)) : Prop :=
  (∃ rest, rests = {rest} ∧ (ran after).filter (· ∈ registered before) ++ rest = registered before ∧
    after.countP Note.isReturned = 0) ∨
  rests = 0 ∧ (ran after).filter (· ∈ registered before) = registered before ∧
    after.countP Note.isReturned = 1

/-- What is the case in a future that has a value, with the journal split where the value was
taken. -/
structure Resolved (x : Shared α) (before : List (Note α)) (v : α) (after : List (Note α)) :
    Prop where
  journal : x.journal = before ++ .taken v :: after
  value : x.future.value = some v
  early : ∀ n ∈ before, n.IsEarly
  late : ∀ n ∈ after, n.IsLate v
  stacked : ∀ stack ∈ x.parties, Stacked (registered before) v stack
  shared : (ran after : Multiset Nat) + x.owed = (List.range x.count : List Nat)
  loop : Loop before after x.rests

/-- What is the case in a future in use. -/
structure Kept (x : Shared α) : Prop where
  numbered : registered x.journal = List.range x.count
  course : x.Waiting ∨ ∃ before v after, x.Resolved before v after

theorem kept_idle (parties : Nat) : (idle parties : Shared α).Kept where
  numbered := rfl
  course := .inl ⟨rfl, rfl, fun _ h => List.eq_of_mem_replicate h, by simp [idle]⟩

/-- Nothing but a note is added, and none about a listener. -/
theorem numbered_note (h : registered x.journal = List.range x.count) {n : Note α}
    (hn : n.registered? = none) : registered (x.note n).journal = List.range x.count := by
  rw [note, registered_concat, hn, h, Option.toList_none, List.append_nil]

theorem numbered_registered (h : registered journal = List.range n) :
    registered (journal ++ [Note.registered n]) = List.range (n + 1) := by
  rw [registered_concat, h, List.range_succ]
  rfl

theorem Waiting.note (h : x.Waiting) {n : Note α} (hn : n.IsEarly) : (x.note n).Waiting where
  value := h.value
  listeners := h.listeners
  free := h.free
  early := by
    intro m hm
    rcases List.mem_append.mp hm with hm | hm
    · exact h.early m hm
    · exact List.mem_singleton.mp hm ▸ hn

/-- A listener is registered early: it waits for the value. -/
theorem Waiting.register (h : x.Waiting) :
    ({ x with
      future := { value := none, listeners := x.future.listeners ++ [x.count] }
      count := x.count + 1 }.note (.registered x.count)).Waiting where
  value := rfl
  listeners := by
    change x.future.listeners ++ [x.count] = List.range (x.count + 1)
    rw [h.listeners, List.range_succ]
  free := h.free
  early := by
    intro m hm
    rcases List.mem_append.mp hm with hm | hm
    · exact h.early m hm
    · rw [List.mem_singleton.mp hm]
      trivial

/-- **The value is taken** by the first call that sets it, with all listeners there are. -/
theorem Waiting.taken (h : x.Waiting) (hn : registered x.journal = List.range x.count) (v : α)
    (hp : x.parties[party]? = some []) :
    (({ x with future := ⟨some v, []⟩ }.leave party [.notifying v x.future.listeners]).note
      (.taken v)).Resolved x.journal v [] := by
  have hnone : x.frames = 0 := by
    rw [frames, List.flatten_eq_nil_iff.mpr h.free]
    rfl
  have hp' : { x with future := ⟨some v, []⟩ }.parties[party]? = some [] := hp
  obtain ⟨owed, rests, howed, hrests, hleave⟩ := owed_leave hp'
  obtain rfl : owed = 0 := by
    change x.frames.bind _ = _ at howed
    rw [hnone] at howed
    simpa using howed.symm
  obtain rfl : rests = 0 := by
    change x.frames.filterMap _ = _ at hrests
    rw [hnone] at hrests
    simpa using hrests.symm
  obtain ⟨howed', hrests'⟩ := hleave [.notifying v x.future.listeners]
  refine ⟨rfl, rfl, h.early, by simp, ?_, ?_, .inl ⟨x.future.listeners, hrests', ?_, rfl⟩⟩
  · refine parties_leave (fun stack hstack => ?_) (.settled (.notifying _ .nil))
    rw [h.free stack hstack]
    exact .settled .nil
  · refine Eq.trans ?_ (howed'.trans ?_)
    · exact Multiset.zero_add _
    · simp [Frame.owed, h.listeners, Shared.note, leave]
  · rw [h.listeners, hn]
    rfl

theorem Loop.note {rests : Multiset (List Nat)} (h : Loop before after rests) {n : Note α}
    (hran : n.ran? = none) (hback : n.isReturned = false) : Loop before (after ++ [n]) rests := by
  simpa [Loop, ran_concat_of_none hran, hback] using h

/-- An early listener is the next one of the call that took the value. -/
theorem Loop.ran_early {n : Nat} {rest : List Nat} {rests : Multiset (List Nat)}
    (h : Loop before after ((n :: rest) ::ₘ rests)) :
    Loop before (after ++ [.ran n v]) (rest ::ₘ rests) := by
  obtain ⟨rest', hrests, hran, hback⟩ | ⟨hrests, -⟩ := h
  · obtain ⟨rfl, rfl⟩ := (Multiset.singleton_eq_cons_iff _).mp hrests.symm
    have hn : n ∈ registered before := hran ▸ by simp
    refine .inl ⟨rest, rfl, ?_, by simpa [Note.isReturned] using hback⟩
    rw [ran_concat_ran, List.filter_append, List.filter_singleton, List.append_assoc]
    simpa [hn] using hran
  · exact absurd hrests Multiset.cons_ne_zero

/-- A listener that came too late is none of those that are run in turn. -/
theorem Loop.ran_late {n : Nat} {rests : Multiset (List Nat)} (h : Loop before after rests)
    (hn : n ∉ registered before) : Loop before (after ++ [.ran n v]) rests := by
  simpa [Loop, ran_concat_ran, Note.isReturned, hn] using h

/-- The call that took the value comes back when it has run all early listeners. -/
theorem Loop.returned {rests : Multiset (List Nat)} (h : Loop before after ([] ::ₘ rests)) :
    Loop before (after ++ [.returned]) rests := by
  obtain ⟨rest', hrests, hran, hback⟩ | ⟨hrests, -⟩ := h
  · obtain ⟨rfl, rfl⟩ := (Multiset.singleton_eq_cons_iff _).mp hrests.symm
    exact .inr ⟨rfl, by rw [ran_concat_of_none rfl]; simpa using hran,
      by simp [Note.isReturned, hback]⟩
  · exact absurd hrests Multiset.cons_ne_zero

theorem coe_rests_notifying (v : α) (rest : List Nat) (below : List (Frame α))
    (rests : Multiset (List Nat)) :
    ((.notifying v rest :: below).filterMap Frame.rest? : Multiset (List Nat)) + rests =
      rest ::ₘ ((below.filterMap Frame.rest? : Multiset (List Nat)) + rests) := by
  rw [← Multiset.cons_add, Multiset.cons_coe]
  rfl

section Resolved

variable (h : x.Resolved before v after)
include h

/-- A note about no listener. -/
theorem Resolved.note {n : Note α} (hlate : n.IsLate v) (hran : n.ran? = none)
    (hback : n.isReturned = false) :
    (x.note n).Resolved before v (after ++ [n]) where
  journal := by rw [Shared.note, h.journal, List.append_assoc, List.cons_append]
  value := h.value
  early := h.early
  late := by
    intro m hm
    rcases List.mem_append.mp hm with hm | hm
    · exact h.late m hm
    · exact List.mem_singleton.mp hm ▸ hlate
  stacked := h.stacked
  shared := by
    rw [ran_concat_of_none hran]
    exact h.shared
  loop := h.loop.note hran hback

/-- The calls of one party change, and something is noted. -/
theorem Resolved.change (hp : x.parties[party]? = some stack) (stack' : List (Frame α))
    (count : Nat) (notes : List (Note α)) (hstack : Stacked (registered before) v stack')
    (hlate : ∀ n ∈ notes, n.IsLate v)
    (hshared : ∀ owed : Multiset Nat,
      (ran after : Multiset Nat) + ((stack.flatMap Frame.owed : List Nat) + owed) =
        (List.range x.count : List Nat) →
      (ran (after ++ notes) : Multiset Nat) + ((stack'.flatMap Frame.owed : List Nat) + owed) =
        (List.range count : List Nat))
    (hloop : ∀ rests : Multiset (List Nat),
      Loop before after ((stack.filterMap Frame.rest? : List (List Nat)) + rests) →
      Loop before (after ++ notes) ((stack'.filterMap Frame.rest? : List (List Nat)) + rests)) :
    { x.leave party stack' with count, journal := x.journal ++ notes }.Resolved before v
      (after ++ notes) := by
  obtain ⟨owed, rests, howed, hrests, hleave⟩ := owed_leave hp
  refine ⟨?_, h.value, h.early, ?_, parties_leave h.stacked hstack, ?_, ?_⟩
  · rw [h.journal, List.append_assoc, List.cons_append]
  · intro n hn
    exact (List.mem_append.mp hn).elim (h.late n) (hlate n)
  · refine (congrArg _ (hleave stack').1).trans (hshared owed ?_)
    rw [← howed]
    exact h.shared
  · refine (congrArg (Loop before _) (hleave stack').2).mpr (hloop rests ?_)
    rw [← hrests]
    exact h.loop

/-- A listener is registered too late: its call is about to run it. -/
theorem Resolved.registered_late (hn : registered x.journal = List.range x.count)
    (hp : x.parties[party]? = some stack) (hstack : Settled v stack) :
    (({ x with count := x.count + 1 }.leave party (.answering x.count v :: stack)).note
      (.registered x.count)).Resolved before v (after ++ [Note.registered x.count]) := by
  have hfresh : x.count ∉ registered before := fun hmem => by
    have hle : x.count ∈ registered x.journal := by
      rw [h.journal, registered, List.filterMap_append]
      exact List.mem_append_left _ hmem
    rw [hn, List.mem_range] at hle
    exact Nat.lt_irrefl _ hle
  refine h.change hp _ (x.count + 1) [.registered x.count] (.answering _ hfresh hstack)
    (by simp [Note.IsLate]) (fun owed hshared => ?_) fun rests hloop => hloop.note rfl rfl
  rw [ran_concat_of_none rfl, List.range_succ, ← Multiset.coe_add, ← hshared,
    List.flatMap_cons, Frame.owed, ← Multiset.coe_add]
  ac_rfl

/-- The call that took the value runs the next early listener. -/
theorem Resolved.ran_early {n : Nat} {rest : List Nat}
    (hp : x.parties[party]? = some (.notifying v (n :: rest) :: below)) (hbelow : Settled v below) :
    ((x.leave party (.listening n :: .notifying v rest :: below)).note (.ran n v)).Resolved before v
      (after ++ [.ran n v]) := by
  refine h.change hp _ x.count [.ran n v] (.settled (.listening n (.notifying rest hbelow)))
    (by simp [Note.IsLate]) (fun owed hshared => ?_) fun rests hloop => ?_
  · rw [ran_concat_ran, ← hshared]
    simp only [List.flatMap_cons, Frame.owed, List.nil_append, ← Multiset.coe_add, List.cons_append,
      ← Multiset.cons_coe, ← Multiset.singleton_add, Multiset.coe_nil, add_zero]
    ac_rfl
  · rw [coe_rests_notifying] at hloop
    exact (congrArg (Loop before _) (coe_rests_notifying v rest below rests)).mpr hloop.ran_early

/-- The call that took the value comes back. -/
theorem Resolved.returned (hp : x.parties[party]? = some (.notifying v [] :: below))
    (hbelow : Settled v below) :
    ((x.leave party below).note .returned).Resolved before v (after ++ [.returned]) := by
  refine h.change hp _ x.count [.returned] (.settled hbelow) (by simp [Note.IsLate])
    (fun owed hshared => ?_) fun rests hloop => ?_
  · rw [ran_concat_of_none rfl, ← hshared]
    rfl
  · rw [coe_rests_notifying] at hloop
    exact hloop.returned

/-- A listener that came too late is run by its call. -/
theorem Resolved.ran_late {n : Nat} (hp : x.parties[party]? = some (.answering n v :: below))
    (hn : n ∉ registered before) (hbelow : Settled v below) :
    ((x.leave party (.listening n :: below)).note (.ran n v)).Resolved before v
      (after ++ [.ran n v]) := by
  refine h.change hp _ x.count [.ran n v] (.settled (.listening n hbelow)) (by simp [Note.IsLate])
    (fun owed hshared => ?_) fun rests hloop => hloop.ran_late hn
  rw [ran_concat_ran, ← hshared]
  simp only [List.flatMap_cons, Frame.owed, List.nil_append, ← Multiset.coe_add]
  ac_rfl

/-- A listener comes to its end. -/
theorem Resolved.ended {n : Nat} (hp : x.parties[party]? = some (.listening n :: below))
    (hbelow : Settled v below) :
    (x.leave party below).Resolved before v after := by
  have hended := h.change hp below x.count [] (.settled hbelow) (by simp)
    (fun owed hshared => by rw [List.append_nil]; exact hshared)
    fun rests hloop => by rw [List.append_nil]; exact hloop
  rw [List.append_nil] at hended
  simpa [leave] using hended

/-- **A party goes on**, once there is a value. -/
theorem Resolved.goOn (hn : registered x.journal = List.range x.count)
    (hp : x.parties[party]? = some stack) :
    (x.goOn party stack).Kept := by
  cases h.stacked _ (List.mem_of_getElem? hp) with
  | answering n hlate hbelow =>
    exact ⟨numbered_note hn rfl, .inr ⟨before, v, _, h.ran_late hp hlate hbelow⟩⟩
  | settled hs =>
    cases hs with
    | nil => exact ⟨hn, .inr ⟨before, v, after, h⟩⟩
    | listening n hbelow => exact ⟨hn, .inr ⟨before, v, after, h.ended hp hbelow⟩⟩
    | notifying rest hbelow =>
      cases rest with
      | nil => exact ⟨numbered_note hn rfl, .inr ⟨before, v, _, h.returned hp hbelow⟩⟩
      | cons n rest => exact ⟨numbered_note hn rfl, .inr ⟨before, v, _, h.ran_early hp hbelow⟩⟩

/-- **A party calls the future**, once there is a value. -/
theorem Resolved.call (hn : registered x.journal = List.range x.count)
    (hp : x.parties[party]? = some stack) (hstack : Settled v stack) (act : Act α) :
    (x.call party stack act).Kept := by
  cases act with
  | set w =>
    simp only [Shared.call, Future.set, h.value]
    exact ⟨numbered_note hn rfl, .inr ⟨before, v, _, h.note trivial rfl rfl⟩⟩
  | whenComplete =>
    simp only [Shared.call, Future.whenComplete, h.value]
    exact ⟨numbered_registered hn, .inr ⟨before, v, _, h.registered_late hn hp hstack⟩⟩
  | isDone =>
    have hlate : Note.IsLate v (.saw x.future.isDone) := by
      simp [Note.IsLate, Future.isDone, h.value]
    exact ⟨numbered_note hn rfl, .inr ⟨before, v, _, h.note hlate rfl rfl⟩⟩
  | tryGet => exact ⟨numbered_note hn rfl, .inr ⟨before, v, _, h.note h.value rfl rfl⟩⟩
  | wait =>
    simp only [Shared.call, Future.isDone, h.value, Option.isSome_some, if_true]
    exact ⟨numbered_note hn rfl, .inr ⟨before, v, _, h.note rfl rfl rfl⟩⟩
  | goOn => exact ⟨hn, .inr ⟨before, v, after, h⟩⟩

end Resolved

/-- **A party calls the future** as long as there is no value. -/
theorem Waiting.call (h : x.Waiting) (hn : registered x.journal = List.range x.count)
    (hp : x.parties[party]? = some []) (act : Act α) : (x.call party [] act).Kept := by
  cases act with
  | set v =>
    simp only [Shared.call, Future.set, h.value]
    exact ⟨numbered_note hn rfl, .inr ⟨x.journal, v, [], h.taken hn v hp⟩⟩
  | whenComplete =>
    simp only [Shared.call, Future.whenComplete, h.value]
    exact ⟨numbered_registered hn, .inl h.register⟩
  | isDone =>
    exact ⟨numbered_note hn rfl, .inl (h.note (by simp [Note.IsEarly, Future.isDone, h.value]))⟩
  | tryGet => exact ⟨numbered_note hn rfl, .inl (h.note h.value)⟩
  | wait =>
    simp only [Shared.call, Future.isDone, h.value, Option.isSome_none]
    exact ⟨hn, .inl h⟩
  | goOn => exact ⟨hn, .inl h⟩

/-- What a step can be: nothing, a party that goes on, or a call of a party that is in no call or in
a listener. -/
theorem step_cases (x : Shared α) (event : Nat × Act α) : x.step event = x ∨
    ∃ stack, x.parties[event.1]? = some stack ∧ (x.step event = x.goOn event.1 stack ∨
      (stack = [] ∨ ∃ n below, stack = .listening n :: below) ∧
        x.step event = x.call event.1 stack event.2) := by
  unfold Shared.step
  split
  · exact .inl rfl
  · exact .inr ⟨_, ‹_›, .inl rfl⟩
  · exact .inr ⟨_, ‹_›, .inr ⟨.inl rfl, rfl⟩⟩
  · exact .inr ⟨_, ‹_›, .inr ⟨.inr ⟨_, _, rfl⟩, rfl⟩⟩
  · exact .inl rfl

/-- **What every step keeps.** -/
theorem Kept.step (h : x.Kept) (event : Nat × Act α) : (x.step event).Kept := by
  rcases step_cases x event with heq | ⟨stack, hp, hstep⟩
  · rw [heq]
    exact h
  · rcases h.course with hw | ⟨before, v, after, hr⟩
    · obtain rfl := hw.free stack (List.mem_of_getElem? hp)
      rcases hstep with heq | ⟨-, heq⟩
      · rw [heq]
        exact h
      · rw [heq]
        exact hw.call h.numbered hp event.2
    · rcases hstep with heq | ⟨hfree, heq⟩
      · rw [heq]
        exact hr.goOn h.numbered hp
      · rw [heq]
        refine hr.call h.numbered hp ?_ event.2
        rcases hfree with rfl | ⟨n, below, rfl⟩
        · exact .nil
        · cases hr.stacked _ (List.mem_of_getElem? hp) with
          | settled hs => exact hs

theorem kept_reached (parties : Nat) (events : List (Nat × Act α)) :
    ((idle parties).run events).Kept := by
  induction events using List.reverseRecOn with
  | nil => exact kept_idle parties
  | append_singleton events event ih => exact run_append _ events [event] ▸ ih.step event

theorem value_step (h : x.future.value = some v) (event : Nat × Act α) :
    (x.step event).future.value = some v := by
  rcases step_cases x event with heq | ⟨stack, -, heq | ⟨-, heq⟩⟩
  · rw [heq, h]
  · rw [heq]
    unfold Shared.goOn
    split <;> exact h
  · rw [heq]
    cases event.2 with
    | set w => simp [Shared.call, Future.set, h, Shared.note]
    | whenComplete => simp [Shared.call, Future.whenComplete, h, Shared.note, leave]
    | isDone | tryGet | goOn => exact h
    | wait =>
      simp only [Shared.call]
      split <;> exact h

/-- The value never changes. -/
theorem value_run (h : x.future.value = some v) (events : List (Nat × Act α)) :
    (x.run events).future.value = some v := by
  induction events using List.reverseRecOn with
  | nil => exact h
  | append_singleton events event ih =>
    rw [run_append]
    exact value_step ih event

/-! ### Nobody is stuck -/

/-- How often a call can go on. -/
def weight : Frame α → Nat
  | .notifying _ rest => 2 * rest.length + 1
  | .answering _ _ => 2
  | .listening _ => 1

/-- A party that is in a call can go on, and that happens only so often. No listener is registered
by it. -/
theorem weight_goOn (hp : x.parties[party]? = some stack) (hne : stack ≠ []) :
    ((x.goOn party stack).frames.map weight).sum < (x.frames.map weight).sum ∧
      registered (x.goOn party stack).journal = registered x.journal := by
  obtain ⟨others, hx, hleave⟩ := frames_leave hp
  have hsum : ∀ stack', (stack'.map weight).sum < (stack.map weight).sum →
      (((x.leave party stack').frames.map weight).sum) < (x.frames.map weight).sum := by
    intro stack' hlt
    rw [hx, hleave, Multiset.map_add, Multiset.map_add, Multiset.sum_add, Multiset.sum_add,
      Multiset.map_coe, Multiset.map_coe, Multiset.sum_coe, Multiset.sum_coe]
    exact Nat.add_lt_add_right hlt _
  have hnone :
      ∀ n : Note α, n.registered? = none → registered (x.journal ++ [n]) = registered x.journal :=
    fun n hn => by rw [registered_concat, hn, Option.toList_none, List.append_nil]
  obtain ⟨f, below, rfl⟩ := List.exists_cons_of_ne_nil hne
  cases f with
  | notifying v rest =>
    cases rest with
    | nil => exact ⟨hsum below (by simp [weight]), hnone .returned rfl⟩
    | cons n rest =>
      refine ⟨hsum (.listening n :: .notifying v rest :: below) ?_, hnone (.ran n v) rfl⟩
      simp only [List.map_cons, List.sum_cons, weight, List.length_cons]
      omega
  | answering n v => exact ⟨hsum (.listening n :: below) (by simp [weight]), hnone (.ran n v) rfl⟩
  | listening n => exact ⟨hsum below (by simp [weight]), rfl⟩

/-- **Nobody is stuck**: if nobody calls any more all calls come back, whoever goes on first. -/
theorem exists_settled (x : Shared α) : ∃ parties : List Nat,
    let y := x.run (parties.map (·, .goOn))
    (∀ stack ∈ y.parties, stack = []) ∧ registered y.journal = registered x.journal := by
  induction hw : (x.frames.map weight).sum using Nat.strong_induction_on generalizing x with
  | _ w ih =>
    by_cases hfree : ∀ stack ∈ x.parties, stack = []
    · exact ⟨[], hfree, rfl⟩
    · push Not at hfree
      obtain ⟨stack, hmem, hne⟩ := hfree
      obtain ⟨party, hp⟩ := List.mem_iff_getElem?.mp hmem
      obtain ⟨hlt, hreg⟩ := weight_goOn hp hne
      have hstep : x.step (party, .goOn) = x.goOn party stack := by rw [Shared.step, hp]
      obtain ⟨parties, hall, hreg'⟩ := ih _ (hw ▸ hlt) (x.goOn party stack) rfl
      rw [← hstep] at hall hreg' hreg
      exact ⟨party :: parties, hall, hreg'.trans hreg⟩

/-! ### In every run -/

/-- Once there is a value, nobody is in a call after all calls have come back, and every listener
was run once. -/
theorem Kept.perm_of_free (h : x.Kept) (hfree : ∀ stack ∈ x.parties, stack = []) {v : α}
    (hv : x.future.value = some v) : (ran x.journal).Perm (registered x.journal) := by
  rcases h.course with hw | ⟨before, w, after, hr⟩
  · rw [hw.value] at hv
    cases hv
  · have hnone : x.owed = 0 := by
      rw [owed, frames, List.flatten_eq_nil_iff.mpr hfree]
      rfl
    have hran : ran x.journal = ran after := by
      rw [hr.journal, ran, List.filterMap_append, ← ran, ran_of_isEarly hr.early]
      rfl
    have hshared := hr.shared
    rw [hnone, add_zero, ← h.numbered, ← hran] at hshared
    exact Multiset.coe_eq_coe.mp hshared

section Resolved

variable (h : x.Resolved before v after)
include h

/-- No listener is run twice, and none that was not registered. -/
theorem Resolved.ran_le : (ran after : Multiset Nat) ≤ (List.range x.count : List Nat) :=
  h.shared ▸ Multiset.le_add_right _ _

/-- The early listeners that ran are the first ones. -/
theorem Resolved.filter_ran_prefix :
    (ran after).filter (· ∈ registered before) <+: registered before := by
  obtain ⟨rest, -, hran, -⟩ | ⟨-, hran, -⟩ := h.loop
  · exact ⟨rest, hran⟩
  · rw [hran]

theorem Resolved.countP_isReturned_le : after.countP Note.isReturned ≤ 1 := by
  obtain ⟨-, -, -, hback⟩ | ⟨-, -, hback⟩ := h.loop
  · exact hback ▸ Nat.zero_le 1
  · exact hback.le

/-- Who has to run a listener after the call that took the value came back is the call of a listener
that came too late. -/
theorem Resolved.exists_answering (hrests : x.rests = 0) (hn : n ∈ x.owed) :
    ∃ (party : Nat) (below : List (Frame α)),
      x.parties[party]? = some (.answering n v :: below) := by
  obtain ⟨f, hf, howed⟩ := Multiset.mem_bind.mp hn
  cases f with
  | notifying w rest =>
    have hmem : rest ∈ x.rests := (Multiset.mem_filterMap _ _).mpr ⟨_, hf, rfl⟩
    rw [hrests] at hmem
    exact absurd hmem (Multiset.notMem_zero rest)
  | answering m w =>
    obtain rfl := List.mem_singleton.mp howed
    obtain ⟨stack, hstack, hmem⟩ := List.mem_flatten.mp hf
    obtain ⟨below, rfl⟩ := (h.stacked stack hstack).eq_cons_of_mem hmem
    obtain ⟨party, hp⟩ := List.mem_iff_getElem?.mp hstack
    exact ⟨party, below, hp⟩
  | listening m => cases howed

/-- After the call that took the value came back all early listeners have run, and the others have
run or are about to run. -/
theorem Resolved.of_returned (hback : .returned ∈ after) :
    (ran after).filter (· ∈ registered before) = registered before ∧
      ∀ n < x.count, n ∈ ran after ∨
        ∃ (party : Nat) (below : List (Frame α)),
          x.parties[party]? = some (.answering n v :: below) := by
  obtain ⟨-, -, -, hnone⟩ | ⟨hrests, hran, -⟩ := h.loop
  · exact absurd (List.countP_eq_zero.mp hnone _ hback) (by simp [Note.isReturned])
  · refine ⟨hran, fun n hn => ?_⟩
    have hmem : n ∈ (ran after : Multiset Nat) + x.owed := h.shared ▸ List.mem_range.mpr hn
    exact (Multiset.mem_add.mp hmem).imp_right (h.exists_answering hrests)

end Resolved

/-- **A future that parties share is resolved once, and every listener is run once**, whatever they
call in which order, and from inside which listeners. Either there is no value, and nobody has been
told of one, or one call has taken the value. Since then every other call that set a value was
ignored, everybody who looked was told this value, and it never changes. The listeners that ran had
this value, and none ran twice. Those that were registered before run in the order in which they
were registered, and all of them before the call that took the value comes back, which it does once.
After that every listener has run, up to those that came too late to wait and that their own call is
about to run. And whenever nobody calls any more all calls come back, and then every listener has
run. -/
theorem resolves_once (parties : Nat) (events : List (Nat × Act α)) :
    let x := (idle parties).run events
    ((x.future.value = none ∧ ∀ n ∈ x.journal, n.IsEarly) ∨
      ∃ before v after, x.journal = before ++ .taken v :: after ∧
        (∀ n ∈ before, n.IsEarly) ∧ (∀ n ∈ after, n.IsLate v) ∧
        (∀ later, (x.run later).future.value = some v) ∧
        (ran after).Nodup ∧ ran after ⊆ registered x.journal ∧
        (ran after).filter (· ∈ registered before) <+: registered before ∧
        after.countP Note.isReturned ≤ 1 ∧
        (.returned ∈ after → (ran after).filter (· ∈ registered before) = registered before ∧
          ∀ n ∈ registered x.journal, n ∈ ran after ∨
            ∃ (party : Nat) (below : List (Frame α)),
              x.parties[party]? = some (.answering n v :: below))) ∧
    ∃ order : List Nat,
      let y := x.run (order.map (·, .goOn))
      (∀ stack ∈ y.parties, stack = []) ∧ registered y.journal = registered x.journal ∧
        ∀ v, y.future.value = some v → (ran y.journal).Perm (registered x.journal) := by
  intro x
  have h : x.Kept := kept_reached parties events
  refine ⟨?_, ?_⟩
  · rcases h.course with hw | ⟨before, v, after, hr⟩
    · exact .inl ⟨hw.value, hw.early⟩
    · rw [h.numbered]
      refine .inr ⟨before, v, after, hr.journal, hr.early, hr.late, value_run hr.value,
        Multiset.coe_nodup.mp
          (Multiset.nodup_of_le hr.ran_le (Multiset.coe_nodup.mpr List.nodup_range)),
        fun n hn => Multiset.mem_of_le hr.ran_le hn, hr.filter_ran_prefix, hr.countP_isReturned_le,
        fun hback => ?_⟩
      obtain ⟨hran, hall⟩ := hr.of_returned hback
      exact ⟨hran, fun n hn => hall n (List.mem_range.mp hn)⟩
  · obtain ⟨order, hfree, hreg⟩ := exists_settled x
    have hy : (x.run (order.map (·, .goOn))).Kept := by
      change (((idle parties).run events).run _).Kept
      rw [← run_append]
      exact kept_reached parties _
    exact ⟨order, hfree, hreg, fun v hv => hreg ▸ hy.perm_of_free hfree hv⟩

/-- A listener that listens again and sets the future again, before the listener after it is run. -/
example :
    ((idle 2).run [(0, .whenComplete), (0, .whenComplete), (1, .set 'a'), (1, .goOn),
      (1, .whenComplete), (0, .wait), (1, .goOn), (1, .goOn), (1, .set 'b'), (1, .goOn),
      (1, .goOn), (1, .goOn), (1, .goOn)]).journal =
    [.registered 0, .registered 1, .taken 'a', .ran 0 'a', .registered 2, .got (some 'a'),
      .ran 2 'a', .ignored, .ran 1 'a', .returned] := rfl

end Shared

end Future

end SignOn
