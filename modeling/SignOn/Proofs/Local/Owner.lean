import SignOn.Proofs.Local.Scripted

/-! # Whose token it is

A token that is acquired without the person is of the account that was asked for, as long as it
comes from the store. If the server is asked, it is the server that says whose token it gives, and
the token is handed out and filed as of that account, be it the one that was asked for or not. -/

namespace SignOn

/-- The account that the server says its tokens are of. -/
def Acquisition.named? (a : Acquisition) : Option Account :=
  (a.token.bind (·.response)).bind (·.account)

namespace LocalController

variable {σ : Type} {c : LocalController σ} {store : Place σ TokenStore} {p : Parameters}
  {account : Account} {now : Moment} {a : Acquisition} {s s' : σ}

/-- Who the tokens of a refresh are filed for: the server's word, and else the account of the
record. -/
theorem home_of_filing {record : Credentials} {token : Secret} {result : TokenResult} {r : Receipt}
    (filing : (Redemption.ofStored p record token now).Filing c p s result r s')
    (same : record.account.homeAccountId = account.homeAccountId) :
    r.account.homeAccountId = (r.response.account.getD account).homeAccountId := by
  have howner : (r.response.account <|> some record.account) = some r.account := filing.owner
  cases hr : r.response.account with
  | none =>
    rw [hr] at howner
    rw [← show record.account = r.account from Option.some.inj howner]
    exact same
  | some named =>
    rw [hr] at howner
    rw [← show named = r.account from Option.some.inj howner]
    rfl

/-- **Whose token is handed out**: the server's word, and else the account that was asked for. Only
the record of that account is written, and none if the server was not asked. -/
theorem owner_of_silent (keeps : c.KeepsIn store) (asked : p.account = some account)
    (ran : (c.acquireSilentAt p now).run s = (.ok a, s')) (succeeded : a.succeeded = true) :
    ∃ issued, a.issued = some issued ∧
      issued.account.homeAccountId = (a.named?.getD account).homeAccountId ∧
      (∀ key, key ≠ ⟨p.clientId, issued.account.homeAccountId⟩ →
        (store.get s').find? key = (store.get s).find? key) ∧
      (a.token = none → store.Untouched s s') := by
  have hcourse := silentCourse keeps.vault p now s
  rw [ran] at hcourse
  cases hcourse with
  | @served account' record issued asked' found _ projected =>
    obtain rfl : account = account' := Option.some.inj (asked.symm.trans asked')
    have hrecord : record.account.homeAccountId = account.homeAccountId :=
      TokenStore.homeAccountId_of_find? found
    have hissued : issued.account = record.account := by
      obtain ⟨token, -, rfl⟩ := Option.map_eq_some_iff.mp projected
      rfl
    have huntouched : store.Untouched s (c.consulted p record now s) := keeps.consulted record now
    refine ⟨issued, rfl, ?_, fun key _ => ?_, fun _ => huntouched⟩
    · rw [hissued]
      exact hrecord
    · rw [huntouched]
  | @refreshed account' record secret _ asked' found withheld held course =>
    obtain rfl : account = account' := Option.some.inj (asked.symm.trans asked')
    obtain ⟨result, r, s₁, filing, rfl, rfl⟩ := course.filing succeeded
    have hs₁ : store.get s₁ = store.get s :=
      (keeps.consulted record now).trans (keeps.answer filing.answer)
    have hnamed : (⟨none, some result, some (r.issued p (store.get s₁))⟩ : Acquisition).named? =
        r.response.account := by
      rw [Acquisition.named?, Option.bind_some, TokenResult.response_of_response? filing.came]
      rfl
    refine ⟨_, rfl, ?_, fun key hne => ?_, fun h => nomatch h⟩
    · rw [Redemption.ofStored, hnamed]
      exact home_of_filing filing (TokenStore.homeAccountId_of_find? found)
    · rw [store.get_set, hs₁]
      exact Receipt.find?_file_of_ne hne

end LocalController

namespace Rehearsal.OneApp

/-- Another account. -/
def neighbour : Account := .bare ⟨"other.utid", by decide⟩ "login.example"

/-- What comes of a refresh if the server names that account. -/
def crossed : Except Failure Acquisition × Stage :=
  (app.acquireSilentAt parameters Sample.returned).run
    (stage [given "at-1" "rt-1" (some neighbour)])

/-- The token is handed out as one of the account that the server names, and the record of the
account that was asked for is as it was. -/
theorem owner_of_silent_crossed : ∃ a issued, crossed.1 = .ok a ∧ a.issued = some issued ∧
    issued.account.homeAccountId = neighbour.homeAccountId ∧
    (store.get crossed.2).find? key = some ended := by
  have asked : parameters.account = some user := rfl
  have ran : (app.acquireSilentAt parameters Sample.returned).run
      (stage [given "at-1" "rt-1" (some neighbour)]) = (_, crossed.2) := rfl
  obtain ⟨issued, hissued, howner, hothers, -⟩ :=
    LocalController.owner_of_silent keepsIn_app asked ran rfl
  refine ⟨_, issued, rfl, hissued, howner, (hothers key fun he => ?_).trans rfl⟩
  have hhome : user.homeAccountId = neighbour.homeAccountId :=
    (congrArg StoreKey.homeAccountId he).trans howner
  exact absurd hhome (by decide)

/-- A token for one account was asked for, and succeeded is a token of another, of which a record is
written that was not there before. -/
theorem token_of_another : ∃ a, crossed.1 = .ok a ∧ a.succeeded = true ∧
    parameters.account.map (·.homeAccountId) = some user.homeAccountId ∧
    a.issued.map (·.account.homeAccountId) ≠ some user.homeAccountId ∧
    (store.get (stage [given "at-1" "rt-1" (some neighbour)])).find?
      ⟨Sample.client, neighbour.homeAccountId⟩ = none ∧
    (store.get crossed.2).find? ⟨Sample.client, neighbour.homeAccountId⟩ ≠ none := by
  refine ⟨_, rfl, rfl, rfl, by decide, rfl, by decide⟩

end Rehearsal.OneApp

end SignOn
