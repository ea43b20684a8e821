import Mathlib.Algebra.Order.Group.Multiset
import Mathlib.Data.Multiset.Bind
import SignOn.Dispatch.Lane

/-! # The jobs of a lane

What a lane holds over all its pools, as two multisets: the jobs that wait and the jobs in work, the
latter with the number of their pool. A job handed in joins the first, a job taken by a worker moves
from the first to the second, and a worker that is done removes one from the second
(`waiting_submit`, `waiting_start`, `inWork_start`, `inWork_finish`). Pools have distinct numbers,
so a change to the pool of a number is a change to one pool (`pools_changePool`). -/

namespace SignOn

namespace Lane

variable {α : Type}

/-- The jobs that wait. -/
def waiting (l : Lane α) : Multiset α := (l.pools : Multiset (Pool α)).bind fun p => p.queue

/-- The jobs in work, each with the number of its pool. -/
def inWork (l : Lane α) : Multiset (Nat × α) :=
  (l.pools : Multiset (Pool α)).bind fun p => p.running.map (p.number, ·)

/-- No job waits and none is in work. -/
def IsWorkedOff (l : Lane α) : Prop := ∀ p ∈ l.pools, p.queue = [] ∧ p.running = []

theorem IsWorkedOff.waiting_eq {l : Lane α} (h : l.IsWorkedOff) : l.waiting = 0 := by
  refine Multiset.eq_zero_iff_forall_notMem.mpr fun j hj => ?_
  obtain ⟨p, hp, hq⟩ := Multiset.mem_bind.mp hj
  rw [(h p hp).1] at hq
  exact Multiset.notMem_zero j hq

theorem IsWorkedOff.inWork_eq {l : Lane α} (h : l.IsWorkedOff) : l.inWork = 0 := by
  refine Multiset.eq_zero_iff_forall_notMem.mpr fun w hw => ?_
  obtain ⟨p, hp, hr⟩ := Multiset.mem_bind.mp hw
  rw [(h p hp).2] at hr
  exact Multiset.notMem_zero w hr

/-- The pools have distinct numbers, none of which is given out again, and a lane that takes jobs
has a pool for them. -/
structure Numbered (l : Lane α) : Prop where
  distinct : (l.pools.map (·.number)).Nodup
  formed : ∀ p ∈ l.pools, p.number < l.formed
  isOpen : l.accepting = true → l.pools ≠ []

/-! ### Numbers -/

theorem numbered_new (kind : LaneKind) (workers : Nat) : (new kind workers : Lane α).Numbered :=
  ⟨by simp [new], by simp [new], by simp [new]⟩

theorem map_number_changePool {l : Lane α} {n : Nat} {f : Pool α → Pool α}
    (hf : ∀ p, (f p).number = p.number) :
    (l.changePool n f).pools.map (·.number) = l.pools.map (·.number) := by
  simp only [changePool, List.map_map]
  refine List.map_congr_left fun p _ => ?_
  simp only [Function.comp]
  split
  · exact hf p
  · rfl

theorem Numbered.changePool {l : Lane α} (h : l.Numbered) {n : Nat} {f : Pool α → Pool α}
    (hf : ∀ p, (f p).number = p.number) : (l.changePool n f).Numbered := by
  refine ⟨by rw [map_number_changePool hf]; exact h.distinct, fun p hp => ?_, fun ho => ?_⟩
  · have hn : p.number ∈ l.pools.map (·.number) := by
      rw [← map_number_changePool hf]; exact List.mem_map_of_mem hp
    obtain ⟨q, hq, hqn⟩ := List.mem_map.mp hn
    rw [← hqn]; exact h.formed q hq
  · have := h.isOpen ho
    simpa [Lane.changePool] using this

theorem Numbered.submit {l l' : Lane α} {j : α} (h : l.Numbered) (hs : l.submit? j = some l') :
    l'.Numbered := by
  obtain ⟨hd, hf, ho⟩ := h
  unfold submit? at hs
  split at hs
  · rename_i p ps ha hp
    cases hs
    rw [hp] at hd hf
    exact ⟨by simpa using hd, by simpa using hf, by simp⟩
  · cases hs

theorem Numbered.close {l : Lane α} (h : l.Numbered) : l.close.Numbered :=
  ⟨h.distinct, h.formed, by simp [Lane.close]⟩

theorem Numbered.reopen {l : Lane α} (h : l.Numbered) : l.reopen.Numbered := by
  refine ⟨?_, ?_, by simp [Lane.reopen]⟩
  · simp only [Lane.reopen, List.map_cons, List.nodup_cons, List.mem_map, not_exists, not_and]
    exact ⟨fun p hp hn => by have := h.formed p hp; omega, h.distinct⟩
  · simp only [Lane.reopen, List.mem_cons, forall_eq_or_imp]
    exact ⟨by omega, fun p hp => by have := h.formed p hp; omega⟩

theorem submit?_eq_none_iff {l : Lane α} (h : l.Numbered) (j : α) :
    l.submit? j = none ↔ l.accepting = false := by
  have ho := h.isOpen
  unfold submit?
  rcases ha : l.accepting with _ | _ <;> rcases hp : l.pools with _ | ⟨p, ps⟩ <;> simp_all

/-! ### One pool -/

theorem number_of_pool? {l : Lane α} {n : Nat} {p : Pool α} (h : l.pool? n = some p) :
    p.number = n := by
  simpa using List.find?_some h

theorem map_change_of_fresh {n : Nat} {f : Pool α → Pool α} :
    ∀ {ps : List (Pool α)}, n ∉ ps.map (·.number) →
      ps.map (fun p => if p.number = n then f p else p) = ps
  | [], _ => rfl
  | p :: ps, h => by
    simp only [List.map_cons, List.mem_cons, not_or] at h ⊢
    rw [if_neg fun e => h.1 e.symm, map_change_of_fresh h.2]

/-- **The pool of a number** is one pool, and a change to it leaves the others as they are. -/
theorem pools_changePool {l : Lane α} (h : l.Numbered) {n : Nat} {p : Pool α}
    (hp : l.pool? n = some p) :
    ∃ others : Multiset (Pool α), (l.pools : Multiset (Pool α)) = p ::ₘ others ∧
      ∀ f, ((l.changePool n f).pools : Multiset (Pool α)) = f p ::ₘ others := by
  obtain ⟨hn, before, after, he, hb⟩ := List.find?_eq_some_iff_append.mp hp
  have hn : p.number = n := by simpa using hn
  have hd := h.distinct
  rw [he, List.map_append, List.map_cons, hn, List.nodup_append] at hd
  have hbefore : n ∉ before.map (·.number) := fun hm => hd.2.2 n hm n (by simp) rfl
  have hafter : n ∉ after.map (·.number) := (List.nodup_cons.mp hd.2.1).1
  refine ⟨(before ++ after : List (Pool α)), ?_, fun f => ?_⟩
  · rw [he]
    exact Multiset.coe_eq_coe.mpr List.perm_middle
  · have : (l.changePool n f).pools = before ++ f p :: after := by
      simp only [changePool, he, List.map_append, List.map_cons, if_pos hn,
        map_change_of_fresh hbefore, map_change_of_fresh hafter]
    rw [this]
    exact Multiset.coe_eq_coe.mpr List.perm_middle

/-! ### Handing in, taking, being done -/

theorem waiting_submit {l l' : Lane α} {j : α} (hs : l.submit? j = some l') :
    l'.waiting = j ::ₘ l.waiting := by
  unfold submit? at hs
  split at hs
  · rename_i p ps _ hp
    cases hs
    simp only [waiting, hp, ← Multiset.cons_coe, Multiset.cons_bind]
    simp only [← Multiset.coe_add, ← Multiset.singleton_add, Multiset.coe_singleton]
    ac_rfl
  · cases hs

theorem inWork_submit {l l' : Lane α} {j : α} (hs : l.submit? j = some l') :
    l'.inWork = l.inWork := by
  unfold submit? at hs
  split at hs
  · rename_i p ps _ hp
    cases hs
    simp only [inWork, hp, ← Multiset.cons_coe, Multiset.cons_bind]
  · cases hs

/-- What a worker needs to take a job: the job is the first in its pool, and not all workers of the
pool are busy. -/
theorem start?_eq_some {l l' : Lane α} {n : Nat} {j : α} (hs : l.start? n = some (j, l')) :
    ∃ rest running, l.pool? n = some ⟨n, j :: rest, running⟩ ∧ running.length < l.poolSize ∧
      l' = l.changePool n fun p => { p with queue := rest, running := running ++ [j] } := by
  unfold start? at hs
  split at hs
  · rename_i m j' rest running hp
    split at hs
    · cases hs
      have hm : m = n := number_of_pool? hp
      subst hm
      exact ⟨rest, running, hp, ‹_›, rfl⟩
    · cases hs
  · cases hs

/-- Where a job waits, a worker of its pool can take one, or all its workers are busy. -/
theorem start_of_waiting {l : Lane α} (h : l.Numbered) {p : Pool α} (hp : p ∈ l.pools)
    (hwaits : p.queue ≠ []) : (l.start? p.number).isSome ∨ l.poolSize ≤ p.running.length := by
  have hfound : l.pool? p.number = some p := by
    have hsome : (l.pool? p.number).isSome := List.find?_isSome.mpr ⟨p, hp, decide_eq_true rfl⟩
    obtain ⟨q, hq⟩ := Option.isSome_iff_exists.mp hsome
    rw [hq, List.inj_on_of_nodup_map h.distinct (List.mem_of_find?_eq_some hq) hp
      (number_of_pool? hq)]
  rcases Nat.lt_or_ge p.running.length l.poolSize with hfree | hbusy
  · obtain ⟨number, _ | ⟨j, rest⟩, running⟩ := p
    · exact absurd rfl hwaits
    · refine .inl ?_
      rw [start?, hfound]
      simp only
      rw [if_pos hfree]
      rfl
  · exact .inr hbusy

theorem Numbered.start {l l' : Lane α} {n : Nat} {j : α} (h : l.Numbered)
    (hs : l.start? n = some (j, l')) : l'.Numbered := by
  obtain ⟨rest, running, -, -, rfl⟩ := start?_eq_some hs
  exact h.changePool fun _ => rfl

theorem waiting_start {l l' : Lane α} {n : Nat} {j : α} (h : l.Numbered)
    (hs : l.start? n = some (j, l')) : l.waiting = j ::ₘ l'.waiting := by
  obtain ⟨rest, running, hp, -, rfl⟩ := start?_eq_some hs
  obtain ⟨others, he, hf⟩ := pools_changePool h hp
  rw [waiting, waiting, he, hf]
  simp only [Multiset.cons_bind, ← Multiset.cons_coe, Multiset.cons_add]

theorem inWork_start {l l' : Lane α} {n : Nat} {j : α} (h : l.Numbered)
    (hs : l.start? n = some (j, l')) : l'.inWork = (n, j) ::ₘ l.inWork := by
  obtain ⟨rest, running, hp, -, rfl⟩ := start?_eq_some hs
  obtain ⟨others, he, hf⟩ := pools_changePool h hp
  rw [inWork, inWork, he, hf]
  simp only [Multiset.cons_bind, List.map_append, List.map_cons, List.map_nil]
  simp only [← Multiset.coe_add, ← Multiset.singleton_add, Multiset.coe_singleton]
  ac_rfl

theorem Numbered.finish {l : Lane α} (h : l.Numbered) (n : Nat) (isDone : α → Bool) :
    (l.finish n isDone).Numbered := h.changePool fun _ => rfl

theorem waiting_changePool {l : Lane α} {n : Nat} {f : Pool α → Pool α}
    (hf : ∀ p, (f p).queue = p.queue) : (l.changePool n f).waiting = l.waiting := by
  simp only [waiting, changePool, Multiset.coe_bind, List.flatMap_map]
  congr 2
  funext p
  split
  · exact hf p
  · rfl

theorem waiting_finish (l : Lane α) (n : Nat) (isDone : α → Bool) :
    (l.finish n isDone).waiting = l.waiting := waiting_changePool fun _ => rfl

theorem eq_cons_eraseP {isDone : α → Bool} {xs : List α} {x : α} (hx : x ∈ xs)
    (hd : isDone x = true) :
    ∃ y, isDone y = true ∧ (xs : Multiset α) = y ::ₘ (xs.eraseP isDone : Multiset α) := by
  obtain ⟨y, before, after, -, hy, he, hr⟩ := List.exists_of_eraseP hx hd
  refine ⟨y, hy, ?_⟩
  rw [hr, he]
  exact Multiset.coe_eq_coe.mpr List.perm_middle

/-- **A worker that is done** frees itself and nobody else. -/
theorem inWork_finish {l : Lane α} (h : l.Numbered) {n : Nat} (isDone : α → Bool) {j : α}
    (hj : (n, j) ∈ l.inWork) (hd : isDone j = true) :
    ∃ j', isDone j' = true ∧ l.inWork = (n, j') ::ₘ (l.finish n isDone).inWork := by
  simp only [inWork, Multiset.coe_bind, Multiset.mem_coe, List.mem_flatMap, List.mem_map,
    Prod.mk.injEq] at hj
  obtain ⟨p, hp, _, hr, hn, rfl⟩ := hj
  have hfind : l.pool? n = some p := by
    have hsome : (l.pool? n).isSome := List.find?_isSome.mpr ⟨p, hp, by simpa using hn⟩
    obtain ⟨q, hq⟩ := Option.isSome_iff_exists.mp hsome
    have hqp : q = p := List.inj_on_of_nodup_map h.distinct (List.mem_of_find?_eq_some hq) hp
      ((number_of_pool? hq).trans hn.symm)
    rw [hq, hqp]
  obtain ⟨others, he, hf⟩ := pools_changePool h hfind
  obtain ⟨y, hy, hxs⟩ := eq_cons_eraseP hr hd
  refine ⟨y, hy, ?_⟩
  rw [inWork, inWork, finish, he, hf]
  simp only [Multiset.cons_bind, ← Multiset.map_coe, hxs, Multiset.map_cons, hn, Multiset.cons_add]

/-! ### Stopping and starting anew -/

@[simp] theorem waiting_reopen (l : Lane α) : l.reopen.waiting = l.waiting := by
  simp [waiting, reopen, ← Multiset.cons_coe]

@[simp] theorem inWork_reopen (l : Lane α) : l.reopen.inWork = l.inWork := by
  simp [inWork, reopen, ← Multiset.cons_coe]

end Lane

end SignOn
