import SignOn.Dispatch.Run
import SignOn.Proofs.Local.InTurns

/-! # What commands tell of stored accounts

A command that a local controller carries out tries it as often as it is listed, and its result is
that of one attempt. So what an operation reports of the accounts that are stored, the command
tells: it shows no account that was missing all along (`Command.while_tells`), it tells of no
removal of one that was there all along (`Command.while_removes`), and only an acquisition may bring
a missing one back (`Command.upholds`). -/

namespace SignOn

namespace Operation

/-- Does the operation hand out tokens or list accounts, without the person? -/
def tells : Operation → Bool
  | .acquireSilent | .getAccounts | .getCurrentAccount => true
  | .acquireInteractive | .removeAccount | .getDeviceMode | .removeCurrentAccount => false

/-- Does the operation remove an account? -/
def removes : Operation → Bool
  | .removeAccount | .removeCurrentAccount => true
  | .acquireInteractive | .acquireSilent | .getAccounts | .getDeviceMode | .getCurrentAccount =>
    false

/-- Does the operation acquire a token? -/
def acquires : Operation → Bool
  | .acquireInteractive | .acquireSilent => true
  | .getAccounts | .removeAccount | .getDeviceMode | .getCurrentAccount | .removeCurrentAccount =>
    false

end Operation

/-! ### Results that show an account -/

/-- The value is no token of the account, and no list that has it. -/
def CommandValue.Spares (home : HomeAccountId) : CommandValue → Prop
  | .acquisition a => a.Spares home
  | .output (.token issued) => issued.account.homeAccountId ≠ home
  | .output (.accounts as) => ∀ a ∈ as, a.homeAccountId ≠ home
  | .output (.removed _) | .output (.sharedDevice _) => True

namespace CommandStatus

/-- The command is completed with a token of the account, or with a list that has it. -/
inductive Shows (home : HomeAccountId) : CommandStatus → Prop
  | token {issued} (own : issued.account.homeAccountId = home) :
      Shows home (.completed (.token issued))
  | listed {as a} (mem : a ∈ as) (own : a.homeAccountId = home) :
      Shows home (.completed (.accounts as))

variable {home : HomeAccountId} {status : CommandStatus}

theorem shows_attributedTo {correlationId : String} :
    (status.attributedTo correlationId).Shows home ↔ status.Shows home := by
  match status with
  | .completed (.token issued) =>
    constructor <;> rintro ⟨own⟩ <;> exact .token own
  | .completed (.accounts _) | .completed (.removed _) | .completed (.sharedDevice _) | .cancelled
  | .failed _ => rfl

end CommandStatus

section Classify

variable {home : HomeAccountId} {outcome : Outcome} {correlationId : String}

/-- What is shown was given by the controllers. -/
theorem exists_of_shows (h : (statusOf outcome correlationId).Shows home) :
    ∃ v, outcome = .ok (.ok v) ∧ ¬ v.Spares home := by
  rcases outcome with payload | f | ⟨a⟩ | output
  · cases h
  · change (classify (.error f) correlationId).Shows home at h
    unfold classify at h
    dsimp only at h
    split at h <;> cases h
  · refine ⟨_, rfl, fun spares => ?_⟩
    change (classify (.ok (.acquisition a)) correlationId).Shows home at h
    unfold classify at h
    dsimp only at h
    cases hissued : a.issued? with
    | some issued =>
      rw [hissued] at h
      obtain ⟨own⟩ := h
      exact spares issued (Option.ite_none_right_eq_some.mp hissued).2 own
    | none =>
      rw [hissued] at h
      dsimp only at h
      split at h <;> cases h
  · refine ⟨_, rfl, fun spares => ?_⟩
    cases (h : (CommandStatus.completed output).Shows home) with
    | token own => exact spares own
    | listed mem own => exact spares _ mem own

/-- A removal that is told of was reported by the controllers. -/
theorem exists_of_removed {removed : Bool}
    (h : statusOf outcome correlationId = .completed (.removed removed)) :
    ∃ v, outcome = .ok (.ok v) := by
  rcases outcome with payload | f | v
  · cases h
  · change classify (.error f) correlationId = _ at h
    unfold classify at h
    dsimp only at h
    split at h <;> cases h
  · exact ⟨v, rfl⟩

end Classify

/-! ### Commands -/

namespace Command

section Attempts

variable {σ κ α : Type} [MayRetry α] {A : σ → Prop} {P : α → Prop} {attempt : κ → Flow σ α}
  {ks : List κ}

theorem eq_of_judge {r : Except Failure α} {isLast : Bool} {a : α}
    (h : judge r isLast = .success a) :
    r = .ok a := by
  unfold judge at h
  split at h
  · split at h
    · cases h
    · cases h
      rfl
  · split at h <;> cases h

/-- The result is that of an attempt. -/
theorem while_tryInOrder (h : ∀ k ∈ ks, Flow.While A P (attempt k)) :
    Flow.While A P (tryInOrder attempt ks) := by
  induction ks with
  | nil => exact Flow.while_throw nobodyLeft
  | cons k rest ih =>
    have hlater := ih fun k hk => h k (.tail _ hk)
    refine Work.While.bind (h k (.head _)) fun r hr => ?_
    cases hj : judge r rest.isEmpty with
    | success a => exact Flow.while_pure (hr a (eq_of_judge hj))
    | fatal f => exact Flow.while_throw f
    | retry kind => exact hlater

/-- What holds of every attempt, of work that has ended, and of work in two parts if it holds of
both, holds of the attempts in order. -/
theorem tryInOrder_keeps {Q : Work σ (Except Failure α) → Prop} (ended : ∀ r, Q (.ended r))
    (bind : ∀ {w k}, Q w → (∀ r, Q (k r)) → Q (w >>= k)) (h : ∀ k ∈ ks, Q (attempt k).run) :
    Q (tryInOrder attempt ks).run := by
  induction ks with
  | nil => exact ended _
  | cons k rest ih =>
    have hlater := ih fun k hk => h k (.tail _ hk)
    refine bind (h k (.head _)) fun r => ?_
    cases judge r rest.isEmpty with
    | success a => exact ended _
    | fatal f => exact ended _
    | retry kind => exact hlater

theorem upholds_tryInOrder (h : ∀ k ∈ ks, (attempt k).run.Upholds A) :
    (tryInOrder attempt ks).run.Upholds A :=
  tryInOrder_keeps (fun _ => trivial) Work.Upholds.bind h

end Attempts

variable {σ : Type} {cmd : Command (Controller σ)} {c : LocalController σ}
  {store : Place σ TokenStore} {key : StoreKey}

/-- **No account is shown that was missing all along.** -/
theorem while_tells (keeps : c.KeepsIn store) (plays : ∀ k ∈ cmd.controllers, c.Plays k)
    (tells : cmd.operation.tells = true) (client : cmd.parameters.clientId = key.clientId)
    (session : Option (SessionHandle σ)) :
    Flow.While (store.Lacks key) (CommandValue.Spares key.homeAccountId) (cmd.execute session) := by
  have hsilent :
      ∀ k, c.Plays k → Flow.While (store.Lacks key) (Acquisition.Spares key.homeAccountId)
        (k.acquireSilent cmd.parameters) := by
    rintro k (_ | _)
    · exact LocalController.while_acquireSilent keeps client
    · exact LocalController.while_acquireSilentInTurns keeps client
  have haccounts := LocalController.while_accounts keeps client
  unfold execute
  dsimp only
  cases ho : cmd.operation with
  | acquireSilent =>
    exact (while_tryInOrder fun k hk => hsilent k (plays k hk)).map fun _ h => h
  | getAccounts =>
    refine (while_tryInOrder fun k hk => ?_).map fun _ h => h
    obtain _ | _ := plays k hk <;> exact haccounts
  | getCurrentAccount =>
    refine (while_tryInOrder fun k hk => ?_).map fun _ h => h
    obtain _ | _ := plays k hk <;> exact haccounts
  | _ =>
    rw [ho] at tells
    cases tells

/-- **No removal is told of while the account is there.** -/
theorem while_removes (keeps : c.KeepsIn store) (plays : ∀ k ∈ cmd.controllers, c.Plays k)
    (removes : cmd.operation.removes = true) {account : Account}
    (asked : cmd.parameters.account = some account) (session : Option (SessionHandle σ)) :
    Flow.While (fun s => ¬ store.Lacks ⟨cmd.parameters.clientId, account.homeAccountId⟩ s)
      (fun _ => False) (cmd.execute session) := by
  have hremove := LocalController.while_removeAccount keeps asked
  unfold execute
  dsimp only
  cases ho : cmd.operation with
  | removeAccount =>
    refine (while_tryInOrder fun k hk => ?_).map fun _ h => h
    obtain _ | _ := plays k hk <;> exact hremove
  | removeCurrentAccount =>
    refine (while_tryInOrder fun k hk => ?_).map fun _ h => h
    obtain _ | _ := plays k hk <;> exact hremove
  | _ =>
    rw [ho] at removes
    cases removes

/-- **Only an acquisition stores an account.** -/
theorem upholds (keeps : c.KeepsIn store) (plays : ∀ k ∈ cmd.controllers, c.Plays k)
    (other : cmd.operation.acquires = false) (session : Option (SessionHandle σ)) :
    (cmd.execute session).run.Upholds (store.Lacks key) := by
  have haccounts (p : Parameters) : (Flow.act (c.accounts p)).run.Upholds (store.Lacks key) :=
    LocalController.upholds_accounts keeps
  have hremove (p : Parameters) : (Flow.act (c.removeAccount p)).run.Upholds (store.Lacks key) :=
    LocalController.upholds_removeAccount keeps
  unfold execute
  dsimp only
  cases ho : cmd.operation with
  | acquireInteractive | acquireSilent =>
    rw [ho] at other
    cases other
  | getAccounts | getCurrentAccount =>
    refine Flow.upholds_map (upholds_tryInOrder fun k hk => ?_)
    obtain _ | _ := plays k hk <;> exact haccounts _
  | removeAccount | removeCurrentAccount =>
    refine Flow.upholds_map (upholds_tryInOrder fun k hk => ?_)
    obtain _ | _ := plays k hk <;> exact hremove _
  | getDeviceMode =>
    refine Flow.upholds_map (upholds_tryInOrder fun k hk => ?_)
    obtain _ | _ := plays k hk <;> trivial

end Command

end SignOn
