import SignOn.Proofs.Command.Raised
import SignOn.Proofs.Work.Standing

/-! # Controllers in their order

A command calls its controllers one after another until one of them has the last word. What each of
the seven operations asks of a controller is one piece of work (`Operation.ask?`), so there is one
way of trying for all of them (`execute_eq`).

An attempt passes the command on if it tells of a failure that another controller may not have,
whether the failure is raised or an acquisition stands for it (`PassesOn`). The attempts before the
last word all do (`Attempts`), and the command stands where the last word is spoken
(`stands_tryInOrder_iff`). -/

namespace SignOn

open Work (Standing)

variable {σ κ α β : Type} {R : σ → σ → Prop} {s s' : σ}

/-! ### What controllers are asked -/

/-- Of the values of commands only an acquisition may tell of a failure. -/
instance : MayRetry CommandValue where
  retryable?
    | .acquisition a => retryable? a
    | .output _ => none

/-- What an operation asks of a controller. With the person it can be asked in a session only. -/
def Operation.ask? (o : Operation) (p : Parameters) (session : Option (SessionHandle σ)) :
    Option (Controller σ → Flow σ CommandValue) :=
  match o with
  | .acquireInteractive =>
    session.map fun session k => CommandValue.acquisition <$> k.acquireInteractive p session
  | .acquireSilent => some fun k => CommandValue.acquisition <$> k.acquireSilent p
  | .getAccounts => some fun k => (fun as => .output (.accounts as)) <$> k.accounts p
  | .removeAccount => some fun k => (fun b => .output (.removed b)) <$> k.removeAccount p
  | .getDeviceMode => some fun k => (fun b => .output (.sharedDevice b)) <$> k.deviceMode p
  | .getCurrentAccount => some fun k => (fun as => .output (.accounts as)) <$> k.currentAccount p
  | .removeCurrentAccount =>
    some fun k => (fun b => .output (.removed b)) <$> k.removeCurrentAccount p

theorem Operation.ask?_eq_none_iff {o : Operation} {p : Parameters}
    {session : Option (SessionHandle σ)} :
    o.ask? p session = none ↔ o = .acquireInteractive ∧ session = none := by
  cases o <;> simp [Operation.ask?]

/-- The failure that an attempt tells of: the one that was raised, or the one that an acquisition
stands for which did not succeed. -/
def told? : Except Failure CommandValue → Option Failure
  | .error f => some f
  | .ok (.acquisition a) => if a.succeeded then none else some (.ofAcquisition a)
  | .ok (.output _) => none

/-- The attempt tells of a failure that another controller may not have: the grant is no longer
good, or the account or its tokens are not there. -/
def PassesOn (r : Except Failure CommandValue) : Prop :=
  ∃ f, told? r = some f ∧
    (f.code = Code.invalidGrant ∨ f.code = Code.noAccountFound ∨ f.code = Code.noTokensFound)

theorem Retryable.isSome_ofFailure?_iff {f : Failure} : (Retryable.ofFailure? f).isSome = true ↔
    f.code = Code.invalidGrant ∨ f.code = Code.noAccountFound ∨ f.code = Code.noTokensFound := by
  rw [Retryable.ofFailure?, List.find?_isSome]
  simp only [List.mem_cons, List.not_mem_nil, or_false, exists_eq_or_imp, exists_eq_left,
    decide_eq_true_eq, @eq_comm _ f.code]
  rfl

/-- A verdict goes by the failure that the attempt tells of. -/
theorem judge_final? (r : Except Failure CommandValue) (isLast : Bool) :
    (judge r isLast).final? =
      if (told? r).any (fun f => (Retryable.ofFailure? f).isSome) && !isLast then
        none else some r := by
  rcases r with f | a | o
  · cases hf : Retryable.ofFailure? f <;> cases isLast <;> simp [judge, told?, Verdict.final?, hf]
  · cases hs : a.succeeded with
    | true => cases isLast <;> simp [judge, told?, Verdict.final?, retryable?, hs]
    | false =>
      cases hf : Retryable.ofFailure? (.ofAcquisition a) <;> cases isLast <;>
        simp [judge, told?, Verdict.final?, retryable?, hs, hf]
  · cases isLast <;> rfl

theorem passesOn_iff {r : Except Failure CommandValue} :
    PassesOn r ↔ (told? r).any (fun f => (Retryable.ofFailure? f).isSome) = true := by
  rw [PassesOn, Option.any_eq_true]
  exact exists_congr fun f => and_congr_right fun _ => Retryable.isSome_ofFailure?_iff.symm

theorem judge_final?_of_passesOn {r : Except Failure CommandValue} (h : PassesOn r) :
    (judge r false).final? = none := by
  rw [judge_final?, passesOn_iff.mp h]
  rfl

theorem judge_final?_of_not_passesOn {r : Except Failure CommandValue} {isLast : Bool}
    (h : PassesOn r → isLast = true) : (judge r isLast).final? = some r := by
  rw [judge_final?, if_neg]
  rw [Bool.and_eq_true, ← passesOn_iff]
  rintro ⟨hp, hlast⟩
  rw [h hp] at hlast
  cases hlast

/-! ### Trying -/

/-- Controllers that were called one after another, each of them once, and their results: the first
call began in the first surroundings, and each later one where the call before it had ended. -/
inductive Attempts (R : σ → σ → Prop) (ask : κ → Flow σ α) :
    List κ → σ → List (Except Failure α) → σ → Prop
  | none {s : σ} : Attempts R ask [] s [] s
  | called {k : κ} {ks : List κ} {s : σ} {r : Except Failure α} {s₁ : σ}
      {rs : List (Except Failure α)} {s' : σ} (ended : (ask k).run.Stands R s (.done r) s₁)
      (later : Attempts R ask ks s₁ rs s') :
    Attempts R ask (k :: ks) s (r :: rs) s'

/-- Where controllers stand that are tried in their order: where the one stands to which all those
before it passed on, each of them after one call. If that one has ended its call as well, it does
not pass on itself, or nobody is left after it. -/
def LastWord (R : σ → σ → Prop) (ask : κ → Flow σ CommandValue) (ks : List κ) (s : σ)
    (x : Standing (Except Failure CommandValue)) (s' : σ) : Prop :=
  ∃ before k after results s₁, ks = before ++ k :: after ∧ Attempts R ask before s results s₁ ∧
    (∀ r ∈ results, PassesOn r) ∧ (ask k).run.Stands R s₁ x s' ∧
    ∀ r, x = .done r → PassesOn r → after = []

namespace Command

theorem map_tryInOrder [MayRetry α] [MayRetry β] (f : α → β)
    (h : ∀ a, retryable? (f a) = retryable? a) (run : κ → Flow σ α) (ks : List κ) :
    f <$> tryInOrder run ks = tryInOrder (fun k => f <$> run k) ks := by
  refine ExceptT.ext ?_
  induction ks with
  | nil => rfl
  | cons k rest ih =>
    rw [ExceptT.run_map, tryInOrder_cons, tryInOrder_cons, ExceptT.run_map, map_bind, bind_map_left]
    refine congrArg ((run k).run >>= ·) (funext fun r => ?_)
    have hfinal : (judge (Except.map f r) rest.isEmpty).final? =
        (judge r rest.isEmpty).final?.map (Except.map f) := by
      rcases r with e | a
      · cases hr : Retryable.ofFailure? e <;> cases rest.isEmpty <;>
          simp [judge, Except.map, hr, Verdict.final?]
      · cases hr : retryable? a <;> cases rest.isEmpty <;>
          simp [judge, Except.map, h, hr, Verdict.final?]
    change Except.map f <$> _ = _
    rw [hfinal]
    cases (judge r rest.isEmpty).final? with
    | none => exact (ExceptT.run_map _ _).symm.trans ih
    | some r' => rfl

/-- **One way of trying for all operations.** -/
theorem execute_eq (c : Command (Controller σ)) (session : Option (SessionHandle σ)) :
    c.execute session = match c.operation.ask? c.parameters session with
      | none => throw noSession
      | some ask => tryInOrder ask c.controllers := by
  unfold execute
  cases c.operation with
  | acquireInteractive =>
    cases session with
    | none => rfl
    | some session => exact map_tryInOrder CommandValue.acquisition (fun _ => rfl) _ _
  | acquireSilent => exact map_tryInOrder CommandValue.acquisition (fun _ => rfl) _ _
  | getAccounts | getCurrentAccount =>
    exact map_tryInOrder (fun as => CommandValue.output (.accounts as)) (fun _ => rfl) _ _
  | removeAccount | removeCurrentAccount =>
    exact map_tryInOrder (fun b => CommandValue.output (.removed b)) (fun _ => rfl) _ _
  | getDeviceMode =>
    exact map_tryInOrder (fun b => CommandValue.output (.sharedDevice b)) (fun _ => rfl) _ _

/-- **Some controller has the last word**, if there is one. The induction is on the controllers. -/
theorem stands_tryInOrder_iff {ask : κ → Flow σ CommandValue} {ks : List κ}
    (some_controller : ks ≠ []) {x : Standing (Except Failure CommandValue)} :
    (tryInOrder ask ks).run.Stands R s x s' ↔ LastWord R ask ks s x s' := by
  induction ks generalizing s with
  | nil => exact absurd rfl some_controller
  | cons k rest ih =>
    rw [tryInOrder_cons, Work.stands_bind_iff]
    constructor
    · rintro (⟨r, s₁, hcall, hlater⟩ | ⟨y, hy, hx⟩)
      · by_cases hpass : PassesOn r ∧ rest ≠ []
        · have hempty : rest.isEmpty = false := by simpa using hpass.2
          rw [hempty, judge_final?_of_passesOn hpass.1] at hlater
          obtain ⟨before, k', after, results, s₂, rfl, hattempts, hresults, hk', hlast⟩ :=
            (ih hpass.2).mp hlater
          exact ⟨k :: before, k', after, r :: results, s₂, rfl, .called hcall hattempts,
            List.forall_mem_cons.mpr ⟨hpass.1, hresults⟩, hk', hlast⟩
        · have hlast : PassesOn r → rest = [] := fun h => not_ne_iff.mp fun hne => hpass ⟨h, hne⟩
          rw [judge_final?_of_not_passesOn fun h => List.isEmpty_iff.mpr (hlast h)] at hlater
          obtain ⟨rfl, rfl⟩ := Work.stands_ended_iff.mp hlater
          refine ⟨[], k, rest, [], s, rfl, .none, by simp, hcall, ?_⟩
          rintro _ ⟨⟩
          exact hlast
      -- the first call has not come to an end, so it is where the command stands
      · rcases y with (payload | r) | alarm
        · cases hx
          exact ⟨[], k, rest, [], s, rfl, .none, by simp, hy, fun _ h => nomatch h⟩
        · cases hx
        · cases hx
          exact ⟨[], k, rest, [], s, rfl, .none, by simp, hy, fun _ h => nomatch h⟩
    · rintro ⟨before, k', after, results, s₁, hks, hattempts, hresults, hk', hlast⟩
      cases hattempts with
      | none =>
        obtain ⟨rfl, rfl⟩ := List.cons.inj hks
        rcases x with (payload | r) | alarm
        · exact .inr ⟨_, hk', rfl⟩
        · refine .inl ⟨r, s', hk', ?_⟩
          rw [judge_final?_of_not_passesOn fun h => List.isEmpty_iff.mpr (hlast r rfl h)]
          exact Work.stands_ended_iff.mpr ⟨rfl, rfl⟩
        · exact .inr ⟨_, hk', rfl⟩
      | @called _ before _ r s₂ results _ hcall hattempts =>
        rw [List.cons_append] at hks
        obtain ⟨rfl, rfl⟩ := List.cons.inj hks
        obtain ⟨hr, hresults⟩ := List.forall_mem_cons.mp hresults
        refine .inl ⟨r, s₂, hcall, ?_⟩
        have hne : before ++ k' :: after ≠ [] := by simp
        have hempty : (before ++ k' :: after).isEmpty = false := by simp
        rw [hempty, judge_final?_of_passesOn hr]
        exact (ih hne).mpr ⟨before, k', after, results, s₁, rfl, hattempts, hresults, hk', hlast⟩

theorem stands_execute_iff {c : Command (Controller σ)} {session : Option (SessionHandle σ)}
    {x : Standing (Except Failure CommandValue)} : (c.execute session).run.Stands R s x s' ↔
      match c.operation.ask? c.parameters session with
      | none => x = .done (.error noSession) ∧ s' = s
      | some ask => LastWord R ask c.controllers s x s' := by
  rw [execute_eq]
  cases c.operation.ask? c.parameters session with
  | none => exact Work.stands_ended_iff
  | some ask => exact stands_tryInOrder_iff c.hasController

theorem nobodyLeft_ne_noSession : nobodyLeft ≠ noSession := fun h =>
  absurd (congrArg Failure.code h) (by decide)

/-- **Controllers are called in their order, each of them once, until one has the last word.** What
that one says is what the command says, and nobody after it is called. A command that needs a
session and has none calls nobody. Since a command has a controller, the failure that nobody is left
is told only if a controller told it. -/
theorem execute_in_order (c : Command (Controller σ)) (session : Option (SessionHandle σ))
    (R : σ → σ → Prop) (s : σ) (x : Standing (Except Failure CommandValue)) (s' : σ) :
    ((c.execute session).run.Stands R s x s' ↔ match c.operation.ask? c.parameters session with
      | none => x = .done (.error noSession) ∧ s' = s
      | some ask => LastWord R ask c.controllers s x s') ∧
    (c.operation.ask? c.parameters session = none ↔ c.operation = .acquireInteractive ∧
      session = none) ∧
    ((c.execute session).run.Stands R s (.done (.error nobodyLeft)) s' → ∃ ask k s₁,
      c.operation.ask? c.parameters session = some ask ∧ k ∈ c.controllers ∧
        (ask k).run.Stands R s₁ (.done (.error nobodyLeft)) s') := by
  refine ⟨stands_execute_iff, Operation.ask?_eq_none_iff, fun h => ?_⟩
  rw [stands_execute_iff] at h
  cases hask : c.operation.ask? c.parameters session with
  | none =>
    rw [hask] at h
    have he : Except.error nobodyLeft = Except.error noSession :=
      Except.ok.inj (Standing.ended.inj h.1)
    exact absurd (Except.error.inj he) nobodyLeft_ne_noSession
  | some ask =>
    rw [hask] at h
    obtain ⟨before, k, after, _, s₁, hks, -, -, hk, -⟩ := h
    exact ⟨ask, k, s₁, rfl, by rw [hks]; simp, hk⟩

/-- A silent command with three controllers. -/
def ofThree (first second third : Except Failure Acquisition) : Command (Controller (List Nat)) :=
  { ofTwo first second with
    controllers := [answering first, answering second, answering third]
    hasController := by simp }

/-- The first controller passes on, the second one has the last word, and the third is not
called. -/
theorem execute_in_order_ofThree : PassesOn (.ok (.acquisition outdated)) ∧
    (((ofThree (.ok outdated) (.ok declined) (.ok outdated)).noting keepNumber).execute
      none).run.Stands
      Eq [] (.done (.ok (.acquisition declined))) [0, 1] := by
  have hpasses : PassesOn (.ok (.acquisition outdated)) := ⟨_, rfl, .inl rfl⟩
  have hdeclined : ¬ PassesOn (.ok (.acquisition declined)) := by
    rintro ⟨f, hf, hcode⟩
    cases hf
    revert hcode
    decide
  refine ⟨hpasses, (execute_in_order _ none Eq [] _ [0, 1]).1.mpr ?_⟩
  refine ⟨[_], _, [_], [.ok (.acquisition outdated)], [0], rfl, .called ?_ .none, ?_, ?_, ?_⟩
  · exact (Work.stands_of_ended rfl).mpr ⟨rfl, rfl⟩
  · exact List.forall_mem_singleton.mpr hpasses
  · exact (Work.stands_of_ended rfl).mpr ⟨rfl, rfl⟩
  · rintro _ ⟨⟩ h
    exact absurd h hdeclined

end Command

end SignOn
