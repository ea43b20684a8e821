import Mathlib.Data.List.Nodup
import SignOn.Session.Registry

/-! # Sessions of a registry

Sessions have distinct numbers below the next one to be given out, and the number in the slot is
that of a session (`Registry.Sound`); every operation keeps this. A signal reaches the session it is
meant for and no other (`session?_resolve_self`, `session?_resolve_of_ne`), and none that has been
resolved (`resolve_of_resolved`). Whose session a number names never changes (`Registry.Owns`). -/

namespace SignOn

namespace Registry

variable {r : Registry} {id id' : Nat} {s : Session}

/-- Numbers are given out once, and the one in the slot is that of a session. -/
structure Sound (r : Registry) : Prop where
  distinct : (r.sessions.map (·.id)).Nodup
  below : ∀ s ∈ r.sessions, s.id < r.nextId
  held : ∀ id, r.active = some id → ∃ s, r.session? id = some s

/-- The session of a number is for the command with a correlation id. -/
def Owns (r : Registry) (id : Nat) (correlationId : String) : Prop :=
  ∃ s, r.session? id = some s ∧ s.correlationId = correlationId

/-! ### Signals -/

theorem id_of_session? (h : r.session? id = some s) : s.id = id := by
  simpa using List.find?_some h

theorem id_resolve (s : Session) (signal : Signal) : (s.resolve signal).2.id = s.id := by
  unfold Session.resolve
  split <;> rfl

theorem correlationId_resolve (s : Session) (signal : Signal) :
    (s.resolve signal).2.correlationId = s.correlationId := by
  unfold Session.resolve
  split <;> rfl

theorem timeout_resolve (s : Session) (signal : Signal) :
    (s.resolve signal).2.timeout = s.timeout := by
  unfold Session.resolve
  split <;> rfl

theorem isResolved_resolve (s : Session) (signal : Signal) :
    (s.resolve signal).2.isResolved = true := by
  unfold Session.resolve
  split
  · assumption
  · rfl

/-- Looking for a session, after a change that keeps its number. -/
theorem find?_map_of_id {f : Session → Session} (hf : ∀ s, (f s).id = s.id) (id : Nat) :
    ∀ sessions : List Session, (sessions.map f).find? (fun s => s.id = id)
      = (sessions.find? fun s => s.id = id).map f
  | [] => rfl
  | s :: sessions => by
    simp only [List.map_cons, List.find?_cons, hf]
    split
    · rfl
    · exact find?_map_of_id hf id sessions

theorem session?_resolve (r : Registry) (id id' : Nat) (signal : Signal) :
    (r.resolve id signal).2.session? id' =
      (r.session? id').map fun s => if s.id = id then (s.resolve signal).2 else s := by
  refine find?_map_of_id (fun s => ?_) id' r.sessions
  split
  · exact id_resolve s signal
  · rfl

theorem session?_resolve_self (h : r.session? id = some s) (signal : Signal) :
    (r.resolve id signal).2.session? id = some (s.resolve signal).2 := by
  rw [session?_resolve, h, Option.map_some, if_pos (id_of_session? h)]

theorem session?_resolve_of_ne (h : id' ≠ id) (signal : Signal) :
    (r.resolve id signal).2.session? id' = r.session? id' := by
  rw [session?_resolve]
  rcases hs : r.session? id' with _ | s
  · rfl
  · rw [Option.map_some, if_neg (by rw [id_of_session? hs]; exact h)]

theorem resolve_eq_true_iff (signal : Signal) : (r.resolve id signal).1 = true ↔
    ∃ s, r.session? id = some s ∧ s.isResolved = false := by
  unfold resolve
  rcases hs : r.session? id with _ | s
  · simp
  · rcases hr : s.isResolved with _ | _ <;> simp [Session.resolve, hr]

theorem eq_of_mem_of_id (h : (r.sessions.map (·.id)).Nodup) (hs : r.session? id = some s)
    {s' : Session} (hm : s' ∈ r.sessions) (he : s'.id = id) : s' = s :=
  List.inj_on_of_nodup_map h hm (List.mem_of_find?_eq_some hs) (he.trans (id_of_session? hs).symm)

/-- A session that has been resolved hears no further signal. -/
theorem resolve_of_resolved (h : r.Sound) (hs : r.session? id = some s) (hr : s.isResolved = true)
    (signal : Signal) : (r.resolve id signal).2 = r := by
  have hid : r.sessions.map (fun s => if s.id = id then (s.resolve signal).2 else s) =
      r.sessions := by
    refine (List.map_congr_left fun s' hm => ?_).trans (List.map_id _)
    split
    · rename_i he
      rw [eq_of_mem_of_id h.distinct hs hm he, Session.resolve, if_pos hr]
      rfl
    · rfl
  unfold resolve
  simp only [hid]

/-! ### What every operation keeps -/

theorem sound_new (timeout : Option Duration) : (new timeout).Sound :=
  ⟨by simp [new], by simp [new], by simp [new]⟩

theorem Sound.resolve (h : r.Sound) (id : Nat) (signal : Signal) :
    (r.resolve id signal).2.Sound := by
  have hids : ∀ s : Session, (if s.id = id then (s.resolve signal).2 else s).id = s.id := by
    intro s
    split
    · exact id_resolve s signal
    · rfl
  refine ⟨?_, fun s hm => ?_, fun id' ha => ?_⟩
  · simp only [Registry.resolve, List.map_map, Function.comp_def, hids]
    exact h.distinct
  · obtain ⟨s', hs', rfl⟩ := List.mem_map.mp hm
    rw [hids]
    exact h.below s' hs'
  · obtain ⟨s, hs⟩ := h.held id' ha
    exact ⟨_, by rw [session?_resolve, hs, Option.map_some]⟩

theorem Owns.resolve {correlationId : String} (h : r.Owns id correlationId) (id' : Nat)
    (signal : Signal) : (r.resolve id' signal).2.Owns id correlationId := by
  obtain ⟨s, hs, rfl⟩ := h
  refine ⟨_, by rw [session?_resolve, hs, Option.map_some], ?_⟩
  split
  · exact correlationId_resolve s signal
  · rfl

theorem cancelActive_eq (r : Registry) :
    r.cancelActive.1 = r.active.isSome ∧ r.cancelActive.2.active = r.active := by
  unfold cancelActive
  split <;> rename_i h <;> simp [h, Registry.resolve]

theorem Sound.cancelActive (h : r.Sound) : r.cancelActive.2.Sound := by
  unfold Registry.cancelActive
  split
  · exact h.resolve _ _
  · exact h

theorem Owns.cancelActive {correlationId : String} (h : r.Owns id correlationId) :
    r.cancelActive.2.Owns id correlationId := by
  unfold Registry.cancelActive
  split
  · exact h.resolve _ _
  · exact h

theorem deliver_active (r : Registry) (k : Continuation) : (r.deliver k).2.active = r.active := by
  unfold Registry.deliver
  split
  · rfl
  · rfl

theorem Sound.deliver (h : r.Sound) (k : Continuation) : (r.deliver k).2.Sound := by
  unfold Registry.deliver
  split
  · exact h.resolve _ _
  · exact h

theorem Owns.deliver {correlationId : String} (h : r.Owns id correlationId) (k : Continuation) :
    (r.deliver k).2.Owns id correlationId := by
  unfold Registry.deliver
  split
  · exact h.resolve _ _
  · exact h

theorem session?_grant_self (r : Registry) (correlationId : String) :
    (r.grant correlationId).2.session? r.nextId
      = some (.opened r.nextId correlationId r.timeout) := by
  simp [grant, session?, Session.opened]

theorem session?_grant_of_lt (correlationId : String) (h : id < r.nextId) :
    (r.grant correlationId).2.session? id = r.session? id := by
  have hne : r.nextId ≠ id := by omega
  simp [grant, session?, Session.opened, hne]

theorem Sound.grant (h : r.Sound) (correlationId : String) : (r.grant correlationId).2.Sound := by
  refine ⟨?_, fun s hm => ?_, fun id ha => ?_⟩
  · simp only [Registry.grant, List.map_cons, List.nodup_cons, List.mem_map, not_exists, not_and]
    refine ⟨fun s hm he => ?_, h.distinct⟩
    have hlt := h.below s hm
    rw [he] at hlt
    exact Nat.lt_irrefl _ hlt
  · rcases List.mem_cons.mp hm with rfl | hm
    · exact Nat.lt_succ_self _
    · exact Nat.lt_succ_of_lt (h.below s hm)
  · have hid : r.nextId = id := Option.some.inj ha
    exact ⟨_, by rw [← hid]; exact session?_grant_self r correlationId⟩

theorem owns_grant (r : Registry) (correlationId : String) :
    (r.grant correlationId).2.Owns (r.grant correlationId).1 correlationId :=
  ⟨_, session?_grant_self r correlationId, rfl⟩

theorem Owns.lt (h : r.Sound) {correlationId : String} (ho : r.Owns id correlationId) :
    id < r.nextId := by
  obtain ⟨s, hs, -⟩ := ho
  rw [← id_of_session? hs]
  exact h.below s (List.mem_of_find?_eq_some hs)

theorem Owns.grant (h : r.Sound) {correlationId : String} (ho : r.Owns id correlationId)
    (other : String) : (r.grant other).2.Owns id correlationId := by
  have hlt := ho.lt h
  obtain ⟨s, hs, he⟩ := ho
  exact ⟨s, by rw [session?_grant_of_lt other hlt]; exact hs, he⟩

theorem release_sessions (r : Registry) (id : Nat) : (r.release id).sessions = r.sessions := by
  unfold release
  split <;> rfl

theorem session?_release (r : Registry) (id id' : Nat) :
    (r.release id).session? id' = r.session? id' := by
  rw [session?, session?, release_sessions]

theorem Sound.release (h : r.Sound) (id : Nat) : (r.release id).Sound := by
  unfold Registry.release
  split
  · exact ⟨h.distinct, h.below, fun _ ha => by cases ha⟩
  · exact h

theorem release_active_of_eq (h : r.active = some id) : (r.release id).active = none := by
  simp [release, h]

/-! ### Who holds the slot -/

/-- **A continuation is taken** just if a session holds the slot that nobody has resolved. -/
theorem deliver_eq_true_iff (k : Continuation) : (r.deliver k).1 = true ↔
    ∃ id s, r.active = some id ∧ r.session? id = some s ∧ s.isResolved = false := by
  unfold Registry.deliver
  rcases ha : r.active with _ | id
  · simp
  · simp only [resolve_eq_true_iff, Option.some.injEq]
    exact ⟨fun ⟨s, hs, hr⟩ => ⟨id, s, rfl, hs, hr⟩, fun ⟨_, s, he, hs, hr⟩ => ⟨s, he ▸ hs, hr⟩⟩

/-- A continuation that is not taken changes nothing. -/
theorem deliver_of_false (h : r.Sound) {k : Continuation} (hk : (r.deliver k).1 = false) :
    (r.deliver k).2 = r := by
  rcases ha : r.active with _ | id
  · simp [Registry.deliver, ha]
  · obtain ⟨s, hs⟩ := h.held id ha
    simp only [Registry.deliver, ha] at hk ⊢
    refine resolve_of_resolved h hs ?_ _
    by_contra hr
    have htaken := (resolve_eq_true_iff (.completed k)).mpr ⟨s, hs, by simpa using hr⟩
    rw [htaken] at hk
    cases hk

end Registry

end SignOn
