import Mathlib.Data.List.Forall2
import SignOn.Proofs.Identity.Key

/-! # Acquisitions that came to nothing, reported or raised

A controller tells of an acquisition that came to nothing in one of two ways: it reports the
acquisition, or it raises the failure that the acquisition stands for. Nobody can tell which it was.

* `Work.Rel`: two pieces of work do the same and end with related values.
* `Command.toStatus_rel`: where the results of controllers are related so that related ones let the
  next controller try alike, commands with related controllers do the same and end alike.
* `judge_raises`, `classify_raises`: what is raised and what is reported are related so.
* `status_of_raises`: the command does the same, calls the same controllers in the same order, and
  ends with the same status. -/

namespace SignOn

/-! ### Work that does the same -/

/-- Two pieces of work do the same, wait for the same, and end with related values. -/
inductive Work.Rel {σ α β : Type} (R : α → β → Prop) : Work σ α → Work σ β → Prop
  | ended {a b} (h : R a b) : Work.Rel R (.ended a) (.ended b)
  | broken (payload) : Work.Rel R (.broken payload) (.broken payload)
  | put (s) {w w'} (h : Work.Rel R w w') : Work.Rel R (.put s w) (.put s w')
  | wait (alarm) (ready : σ → Bool) {next next'}
    (h : ∀ s (hs : ready s = true), Work.Rel R (next s hs) (next' s hs)) :
    Work.Rel R (.wait alarm ready next) (.wait alarm ready next')

namespace Work.Rel

variable {σ α β γ δ : Type} {R : α → β → Prop} {S : γ → δ → Prop}

theorem refl {R : α → α → Prop} (h : ∀ a, R a a) (w : Work σ α) : Work.Rel R w w := by
  induction w with
  | ended a => exact .ended (h a)
  | broken payload => exact .broken payload
  | put s _ ih => exact .put s ih
  | wait alarm ready _ ih => exact .wait alarm ready ih

/-- Related values let the work go on alike. -/
theorem bind {w : Work σ α} {w' : Work σ β} (h : Work.Rel R w w') {k : α → Work σ γ}
    {k' : β → Work σ δ} (hk : ∀ a b, R a b → Work.Rel S (k a) (k' b)) :
    Work.Rel S (w >>= k) (w' >>= k') := by
  induction h with
  | ended h => exact hk _ _ h
  | broken payload => exact .broken payload
  | put s _ ih => exact .put s ih
  | wait alarm ready _ ih => exact .wait alarm ready ih

theorem map {w : Work σ α} {w' : Work σ β} (h : Work.Rel R w w') {f : α → γ} {g : β → δ}
    (hfg : ∀ a b, R a b → S (f a) (g b)) : Work.Rel S (f <$> w) (g <$> w') := by
  rw [map_eq_pure_bind, map_eq_pure_bind]
  exact h.bind fun a b hab => .ended (hfg a b hab)

/-- Two pieces of work that do the same and end with the same are the same. -/
theorem eq {w w' : Work σ α} (h : Work.Rel Eq w w') : w = w' := by
  induction h with
  | ended h => exact congrArg Work.ended h
  | broken payload => rfl
  | put s _ ih => exact congrArg (Work.put s) ih
  | wait alarm ready _ ih => exact congrArg (Work.wait alarm ready) (funext fun s => funext (ih s))

end Work.Rel

/-! ### One attempt -/

/-- The second result is the first one, but may raise what the first one reports. -/
inductive Raises : Except Failure Acquisition → Except Failure Acquisition → Prop
  | same (r) : Raises r r
  | raised (a) (failed : a.succeeded = false) : Raises (.ok a) (.error (.ofAcquisition a))

/-- Both ways mean the same at the end of a command. -/
theorem classify_raises {r r' : Except Failure Acquisition} (h : Raises r r')
    (correlationId : String) :
    classify (r.map .acquisition) correlationId = classify (r'.map .acquisition) correlationId := by
  cases h with
  | same => rfl
  | raised a failed =>
    have hnone : a.issued? = none := by simp [Acquisition.issued?, failed]
    simp [classify, Except.map, hnone]

/-- A verdict as the result of the command; none if the next controller is to try. -/
def Verdict.final? {α : Type} : Verdict α → Option (Except Failure α)
  | .success a => some (.ok a)
  | .fatal f => some (.error f)
  | .retry _ => none

/-- Both ways let the next controller try, or neither does. -/
theorem judge_raises {r r' : Except Failure Acquisition} (h : Raises r r') (isLast : Bool) :
    Option.Rel Raises (judge r isLast).final? (judge r' isLast).final? := by
  cases h with
  | same =>
    cases (judge r isLast).final? with
    | none => exact .none
    | some r => exact .some (.same r)
  | raised a failed =>
    have hretry : retryable? a = Retryable.ofFailure? (.ofAcquisition a) := by
      simp [retryable?, failed]
    simp only [judge, hretry]
    cases Retryable.ofFailure? (.ofAcquisition a) with
    | none => exact .some (.raised a failed)
    | some kind =>
      cases isLast with
      | false => exact .none
      | true => exact .some (.raised a failed)

/-! ### All controllers -/

/-- Results of controllers are related so that a result is related to itself, and of two related
ones both let the next controller try, or neither does. -/
structure JudgedAlike (Q : Except Failure Acquisition → Except Failure Acquisition → Prop) :
    Prop where
  refl : ∀ r, Q r r
  judged : ∀ r r' isLast, Q r r' → Option.Rel Q (judge r isLast).final? (judge r' isLast).final?

namespace Command

variable {σ κ κ' : Type}

theorem tryInOrder_cons {α : Type} [MayRetry α] (run : κ → Flow σ α) (k : κ) (rest : List κ) :
    (tryInOrder run (k :: rest)).run = (run k).run >>= fun r =>
      (judge r rest.isEmpty).final?.elim (tryInOrder run rest).run pure := by
  rw [tryInOrder]
  refine congrArg ((run k).run >>= ·) (funext fun r => ?_)
  cases judge r rest.isEmpty <;> rfl

/-- **Controllers with related results are tried alike.** -/
theorem tryInOrder_rel {Q : Except Failure Acquisition → Except Failure Acquisition → Prop}
    (alike : JudgedAlike Q) {run : κ → Flow σ Acquisition} {run' : κ' → Flow σ Acquisition}
    {ks : List κ} {ks' : List κ'}
    (h : List.Forall₂ (fun k k' => Work.Rel Q (run k).run (run' k').run) ks ks') :
    Work.Rel Q (tryInOrder run ks).run (tryInOrder run' ks').run := by
  induction h with
  | nil => exact .ended (alike.refl _)
  | @cons k k' rest rest' hk hrest ih =>
    have hempty : rest'.isEmpty = rest.isEmpty := by cases hrest <;> rfl
    rw [tryInOrder_cons, tryInOrder_cons, hempty]
    refine hk.bind fun r r' hr => ?_
    have hfinal := alike.judged r r' rest.isEmpty hr
    generalize (judge r rest.isEmpty).final? = v, (judge r' rest.isEmpty).final? = v' at hfinal ⊢
    cases hfinal with
    | none => exact ih
    | some hr => exact .ended hr

end Command

/-! ### Commands -/

/-- The work after a note was taken. -/
def Flow.noting {σ α : Type} (note : StateM σ Unit) (w : Flow σ α) : Flow σ α :=
  ExceptT.mk (Work.act note >>= fun _ => w.run)

namespace Controller

variable {σ : Type} {Q : Except Failure Acquisition → Except Failure Acquisition → Prop}
  {k k' : Controller σ}

/-- The second controller acquires tokens like the first, but for related results. -/
structure Rel (Q : Except Failure Acquisition → Except Failure Acquisition → Prop)
    (k k' : Controller σ) : Prop where
  interactive : ∀ p session,
    Work.Rel Q (k.acquireInteractive p session).run (k'.acquireInteractive p session).run
  silent : ∀ p, Work.Rel Q (k.acquireSilent p).run (k'.acquireSilent p).run

/-- The second controller acquires tokens like the first, but may raise what the first one
reports. -/
structure Raises (k k' : Controller σ) : Prop where
  interactive : ∀ p session, Work.Rel SignOn.Raises (k.acquireInteractive p session).run
    (k'.acquireInteractive p session).run
  silent : ∀ p, Work.Rel SignOn.Raises (k.acquireSilent p).run (k'.acquireSilent p).run

/-- The controller with a note taken of each call. -/
def noting (note : StateM σ Unit) (k : Controller σ) : Controller σ where
  name := k.name
  acquireInteractive p session := (k.acquireInteractive p session).noting note
  acquireSilent p := (k.acquireSilent p).noting note
  accounts p := (k.accounts p).noting note
  removeAccount p := (k.removeAccount p).noting note
  deviceMode p := (k.deviceMode p).noting note
  currentAccount p := (k.currentAccount p).noting note
  removeCurrentAccount p := (k.removeCurrentAccount p).noting note

theorem raises_iff : k.Raises k' ↔ k.Rel SignOn.Raises k' :=
  ⟨fun h => ⟨h.interactive, h.silent⟩, fun h => ⟨h.interactive, h.silent⟩⟩

theorem Rel.noting (h : k.Rel Q k') (note : StateM σ Unit) :
    (k.noting note).Rel Q (k'.noting note) := by
  have hnoting : ∀ {w w' : Flow σ Acquisition}, Work.Rel Q w.run w'.run →
      Work.Rel Q (w.noting note).run (w'.noting note).run := by
    intro w w' hw
    refine Work.Rel.bind (Work.Rel.refl (R := Eq) (fun _ => rfl) (Work.act note)) ?_
    intro _ _ _
    exact hw
  exact ⟨fun p session => hnoting (h.interactive p session), fun p => hnoting (h.silent p)⟩

end Controller

namespace Command

variable {σ : Type} {Q : Except Failure Acquisition → Except Failure Acquisition → Prop}
  {S : CommandStatus → CommandStatus → Prop} {c c' : Command (Controller σ)}

/-- The command as work that ends with its status under a correlation id. -/
def toStatus (c : Command (Controller σ)) (session : Option (SessionHandle σ))
    (correlationId : String) : Work σ CommandStatus :=
  (classify · correlationId) <$> (c.execute session).run

/-- The second command asks for the same token, of controllers with related results. -/
structure Rel (Q : Except Failure Acquisition → Except Failure Acquisition → Prop)
    (c c' : Command (Controller σ)) : Prop where
  operation : c'.operation = c.operation
  isToken : c.operation = .acquireInteractive ∨ c.operation = .acquireSilent
  parameters : c'.parameters = c.parameters
  controllers : List.Forall₂ (Controller.Rel Q) c.controllers c'.controllers

/-- The second command asks for the same token and has the controllers of the first, but some of
these may raise what they reported. -/
structure Raises (c c' : Command (Controller σ)) : Prop where
  operation : c'.operation = c.operation
  isToken : c.operation = .acquireInteractive ∨ c.operation = .acquireSilent
  parameters : c'.parameters = c.parameters
  controllers : List.Forall₂ Controller.Raises c.controllers c'.controllers

/-- The command with a note taken whenever a controller is called, by its number. -/
def noting (note : Nat → StateM σ Unit) (c : Command (Controller σ)) : Command (Controller σ) :=
  { c with
    controllers := c.controllers.mapIdx fun i k => k.noting (note i)
    hasController := by simpa using c.hasController }

theorem raises_iff : c.Raises c' ↔ c.Rel SignOn.Raises c' := by
  constructor
  · intro h
    exact ⟨h.operation, h.isToken, h.parameters,
      h.controllers.imp fun _ _ => Controller.raises_iff.mp⟩
  · intro h
    exact ⟨h.operation, h.isToken, h.parameters,
      h.controllers.imp fun _ _ => Controller.raises_iff.mpr⟩

theorem Rel.noting (h : c.Rel Q c') (note : Nat → StateM σ Unit) :
    (c.noting note).Rel Q (c'.noting note) where
  operation := h.operation
  isToken := h.isToken
  parameters := h.parameters
  controllers := by
    rw [List.forall₂_iff_get]
    have hlength := h.controllers.length_eq
    refine ⟨by simpa [Command.noting] using hlength, ?_⟩
    intro i hi hi'
    simp only [Command.noting, List.get_eq_getElem, List.getElem_mapIdx]
    exact ((List.forall₂_iff_get.mp h.controllers).2 i _ _).noting (note i)

theorem Raises.noting (h : c.Raises c') (note : Nat → StateM σ Unit) :
    (c.noting note).Raises (c'.noting note) :=
  raises_iff.mpr ((raises_iff.mp h).noting note)

/-- **Commands with related controllers do the same and end alike**, where related results end a
command alike. -/
theorem toStatus_rel (alike : JudgedAlike Q) {correlationId : String}
    (refl : ∀ status, S status status) (classified : ∀ r r', Q r r' →
      S (classify (r.map .acquisition) correlationId)
        (classify (r'.map .acquisition) correlationId))
    (h : c.Rel Q c') (session : Option (SessionHandle σ)) :
    Work.Rel S (c.toStatus session correlationId) (c'.toStatus session correlationId) := by
  have hclassify : ∀ {w w' : Flow σ Acquisition}, Work.Rel Q w.run w'.run →
      Work.Rel S ((classify · correlationId) <$> (CommandValue.acquisition <$> w).run)
        ((classify · correlationId) <$> (CommandValue.acquisition <$> w').run) := by
    intro w w' hw
    rw [ExceptT.run_map, ExceptT.run_map, Functor.map_map, Functor.map_map]
    exact hw.map classified
  unfold toStatus execute
  rw [h.operation, h.parameters]
  rcases h.isToken with ho | ho
  · simp only [ho]
    cases session with
    | none => exact Work.Rel.refl refl _
    | some session =>
      exact hclassify (tryInOrder_rel alike (h.controllers.imp fun k k' hk => hk.interactive _ _))
  · simp only [ho]
    exact hclassify (tryInOrder_rel alike (h.controllers.imp fun k k' hk => hk.silent _))

theorem toStatus_raises (h : c.Raises c') (session : Option (SessionHandle σ))
    (correlationId : String) :
    c.toStatus session correlationId = c'.toStatus session correlationId := by
  have alike : JudgedAlike SignOn.Raises := ⟨.same, fun _ _ isLast hr => judge_raises hr isLast⟩
  exact (toStatus_rel alike (fun _ => rfl) (fun _ _ hr => classify_raises hr correlationId)
    (raises_iff.mp h) session).eq

/-- **Nobody can tell a failed acquisition that is reported from one that is raised.** Whichever of
the controllers of a command raise what they reported, the command does the same and ends with the
same status; and it calls the same controllers in the same order, as whatever is noted at these
calls shows. -/
theorem status_of_raises (h : c.Raises c') (session : Option (SessionHandle σ))
    (correlationId : String) (note : Nat → StateM σ Unit) :
    c.toStatus session correlationId = c'.toStatus session correlationId ∧
      (c.noting note).toStatus session correlationId =
        (c'.noting note).toStatus session correlationId :=
  ⟨toStatus_raises h session correlationId, toStatus_raises (h.noting note) session correlationId⟩

/-- A controller all of whose acquisitions end alike, and that can do nothing else. -/
def answering (r : Except Failure Acquisition) : Controller σ where
  name := "answering"
  acquireInteractive _ _ := ExceptT.mk (pure r)
  acquireSilent _ := ExceptT.mk (pure r)
  accounts _ := throw (unsupported "answering" "get_accounts")
  removeAccount _ := throw (unsupported "answering" "remove_account")

/-- The grant is no longer good. -/
def outdated : Acquisition := .ofToken ⟨none, some (.plain Code.invalidGrant), none⟩

/-- The person said no. -/
def declined : Acquisition := .ofAuthorization (.failure .userCancel none)

/-- A silent command with two controllers. -/
def ofTwo (first second : Except Failure Acquisition) : Command (Controller (List Nat)) where
  operation := .acquireSilent
  parameters := Sample.parameters "two"
  controllers := [answering first, answering second]
  apiId := "silent"
  correlationId := "two"
  hasController := by simp
  isCorrelated := rfl

/-- Keeps the number of the controller that is called. -/
def keepNumber (i : Nat) : StateM (List Nat) Unit := fun called => ((), called ++ [i])

theorem status_of_raises_ofTwo :
    let reporting := ofTwo (.ok outdated) (.ok declined)
    let raising := ofTwo (.error (.ofAcquisition outdated)) (.error (.ofAcquisition declined))
    (reporting.Raises raising ∧ reporting.toStatus none "two" = raising.toStatus none "two") ∧
      (reporting.noting keepNumber).toStatus none "two" =
        (raising.noting keepNumber).toStatus none "two" ∧
      ((raising.noting keepNumber).toStatus none "two").advance [] =
        (.ended (.ok .cancelled), [0, 1]) := by
  intro reporting raising
  have hanswering : ∀ a : Acquisition, a.succeeded = false →
      (answering (.ok a) : Controller (List Nat)).Raises (answering (.error (.ofAcquisition a))) :=
    fun a failed => ⟨fun _ _ => .ended (.raised a failed), fun _ => .ended (.raised a failed)⟩
  have hraises : reporting.Raises raising :=
    { operation := rfl
      isToken := .inr rfl
      parameters := rfl
      controllers := .cons (hanswering outdated rfl) (.cons (hanswering declined rfl) .nil) }
  obtain ⟨hstatus, hnoting⟩ := status_of_raises hraises none "two" keepNumber
  exact ⟨⟨hraises, hstatus⟩, hnoting, rfl⟩

end Command

end SignOn
