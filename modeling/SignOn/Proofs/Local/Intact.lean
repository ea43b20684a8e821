import SignOn.Proofs.Local.Scripted

/-! # Acquisitions that fail leave the store as it is

What an acquisition of a local controller does to the store goes by what is reported of it
(`Intact`). Most of its ways to fail come before anything is stored; a token that the server gave
but that belongs to nobody, or has no end to come, is not stored either; and after a token was
stored nothing fails. So the one change that a failure makes is that a refresh token is forgotten
that the server refused. -/

namespace SignOn

/-! ### What is left of the store -/

/-- What became of the store, by what was reported of an acquisition, with the place of the refresh
token that was at stake. -/
structure Intact (p : Parameters) (stake? : Option StoreKey) (reported : Except Failure Acquisition)
    (before after : TokenStore) : Prop where
  /-- A failure leaves the store as it was, unless the refresh token at stake was refused. -/
  failed : (∀ a, reported = .ok a → a.succeeded = false) →
    (∀ a, reported = .ok a → stake?.isSome → a.tokenErrorCode ≠ some Code.invalidGrant) →
      after = before
  /-- If it was, the record of that place loses its refresh token and nothing else, and the others
  stay. -/
  refused : ∀ a key, reported = .ok a → stake? = some key →
    a.tokenErrorCode = some Code.invalidGrant →
    a.succeeded = false ∧
    after.find? key = (before.find? key).map (fun record => { record with refreshToken := none }) ∧
    ∀ other, other ≠ key → after.find? other = before.find? other
  /-- A token of the server is stored with the account that it is reported for, and nowhere else. -/
  granted : ∀ a issued, reported = .ok a → a.succeeded = true → a.token.isSome →
    a.issued = some issued →
    ∀ other, other ≠ ⟨p.clientId, issued.account.homeAccountId⟩ →
      after.find? other = before.find? other
  /-- Nothing is stored of a token that was stored already. -/
  served : ∀ a, reported = .ok a → a.succeeded = true → a.token = none → after = before

namespace Intact

variable {p : Parameters} {stake? : Option StoreKey} {before : TokenStore}

theorem error (f : Failure) : Intact p stake? (.error f) before before where
  failed _ _ := rfl
  refused _ _ h := nomatch h
  granted _ _ h := nomatch h
  served _ h := nomatch h

/-- Nothing was stored, and no refresh token was at stake or it may be good still. -/
theorem kept {a : Acquisition} (h : stake?.isSome → a.tokenErrorCode ≠ some Code.invalidGrant) :
    Intact p stake? (.ok a) before before where
  failed _ _ := rfl
  refused b key hb hkey hcode := by
    cases hb
    exact absurd hcode (h (by rw [hkey]; rfl))
  granted _ _ _ _ _ _ _ _ := rfl
  served _ _ _ _ := rfl

/-- No token was asked for. -/
theorem tokenless {a : Acquisition} (h : a.token = none) : Intact p stake? (.ok a) before before :=
  kept fun _ hcode => by
    rw [Acquisition.tokenErrorCode, h] at hcode
    cases hcode

/-- The refresh token at stake was turned down for good. -/
theorem forgotten {a : Acquisition} {key : StoreKey} (hfailed : a.succeeded = false)
    (h : a.tokenErrorCode = some Code.invalidGrant) :
    Intact p (some key) (.ok a) before (before.dropCredential key .refreshToken) where
  failed _ hcode := absurd h (hcode a rfl rfl)
  refused b _ hb hkey _ := by
    cases hb
    cases hkey
    exact ⟨hfailed, before.find?_dropCredential_self key .refreshToken,
      fun _ hne => TokenStore.find?_dropCredential_of_ne hne⟩
  granted b _ hb hsucceeded := by
    cases hb
    rw [hfailed] at hsucceeded
    cases hsucceeded
  served b hb hsucceeded := by
    cases hb
    rw [hfailed] at hsucceeded
    cases hsucceeded

/-- A token came and was filed. -/
theorem filed {a : Acquisition} {r : Receipt} (hsucceeded : a.succeeded = true)
    (htoken : a.token.isSome) (hissued : a.issued = some (r.issued p before)) :
    Intact p stake? (.ok a) before (r.file p before) where
  failed h := by
    have hfailed := h a rfl
    rw [hsucceeded] at hfailed
    cases hfailed
  refused b key hb _ hcode := by
    cases hb
    rw [Acquisition.tokenErrorCode_of_succeeded hsucceeded] at hcode
    cases hcode
  granted b issued hb _ _ hb' := by
    cases hb
    obtain rfl : r.issued p before = issued := Option.some.inj (hissued.symm.trans hb')
    exact fun _ hne => Receipt.find?_file_of_ne hne
  served b hb _ hnone := by
    cases hb
    rw [hnone] at htoken
    cases htoken

end Intact

section

variable {σ : Type} {c : LocalController σ} {store : Place σ TokenStore} {p : Parameters}
  {reported : Except Failure Acquisition} {s s' : σ}

/-- A grant that is redeemed changes the store as is reported of it. -/
theorem Redemption.Course.intact {x : Redemption} (keeps : c.KeepsIn store)
    (h : x.Course c store p s (reported, s'))
    (authorized : x.authorization.all AuthorizationResult.isSuccess = true) :
    Intact p x.stake? reported (store.get s) (store.get s') := by
  cases h with
  | unanswered answer =>
    rw [keeps.answer answer]
    exact .error _
  | unowned answer _ _ =>
    rw [keeps.answer answer]
    exact .error _
  | undated answer _ _ =>
    rw [keeps.answer answer]
    exact .error _
  | refused answer empty =>
    rw [Redemption.afterRefusal]
    cases hstake : x.stake? with
    | none =>
      rw [keeps.answer answer]
      exact .kept fun h => by cases h
    | some key =>
      dsimp only
      split
      · rename_i hrefused
        rw [store.get_set, keeps.answer answer]
        exact .forgotten (by simp [Acquisition.succeeded]) (TokenResult.any_error_iff.mp hrefused)
      · rename_i hrefused
        rw [keeps.answer answer]
        exact .kept fun _ hinvalid => hrefused (TokenResult.any_error_iff.mpr hinvalid)
  | filed filing =>
    rw [store.get_set, keeps.answer filing.answer]
    exact .filed (filing.succeeded authorized _) rfl rfl

theorem LocalController.SilentCourse.intact {now : Moment} (keeps : c.KeepsIn store)
    (h : c.SilentCourse store p now s (reported, s')) :
    Intact p (p.account.map fun account => ⟨p.clientId, account.homeAccountId⟩) reported
      (store.get s) (store.get s') := by
  cases h with
  | absent missing => exact .error _
  | served asked found serves projected =>
    rw [keeps.consulted]
    exact .tokenless rfl
  | exhausted asked found withheld bare =>
    rw [keeps.consulted]
    exact .error _
  | @refreshed account record token _ asked found withheld held course =>
    have hkey : p.account.map (fun account => (⟨p.clientId, account.homeAccountId⟩ : StoreKey)) =
        (Redemption.ofStored p record token now).stake? := by
      rw [asked, Redemption.ofStored, TokenStore.homeAccountId_of_find? found]
      rfl
    rw [hkey, ← show store.get (c.consulted p record now s) = store.get s
      from keeps.consulted record now]
    exact course.intact keeps rfl

theorem LocalController.ConcludingCourse.intact (keeps : c.KeepsIn store)
    (h : c.ConcludingCourse store p s (reported, s')) :
    Intact p none reported (store.get s) (store.get s') := by
  cases h with
  | failed => exact .error _
  | declined => exact .tokenless rfl
  | redeemed agreed course =>
    exact course.intact keeps (AuthorizationResult.isSuccess_of_grant? agreed)

theorem LocalController.code_expiryOf {response : TokenResponse} {now : Moment} {f : Failure}
    (h : LocalController.expiryOf response now = .error f) :
    f.code = Code.invalidTokenLifetime := by
  unfold LocalController.expiryOf at h
  split at h
  · split at h <;> cases h
    rfl
  · cases h
    rfl

/-- What was stored is read back. -/
theorem LocalController.save_finds (vault : c.vault = .ofStore store) (response : TokenResponse)
    (account : Account) (now : Moment) (s : σ) :
    ((c.save p response account now).run s).1 ≠ .error LocalController.lostTokens := by
  rw [LocalController.save_run vault]
  cases he : LocalController.expiryOf response now with
  | ok expiresOn => exact fun h => nomatch h
  | error f =>
    intro h
    have hcode := LocalController.code_expiryOf he
    rw [show f = LocalController.lostTokens from Except.error.inj h] at hcode
    exact absurd hcode (by decide)

end

namespace LocalController

variable {σ : Type} {c : LocalController σ} {store : Place σ TokenStore}

/-- **An acquisition that fails leaves the store as it is**, but for a refresh token that the server
refused; one that succeeds writes only the record of the account it is reported for; and what is
stored is always read back. With the person, others leave the store alone while a page is shown. -/
theorem failures_leave_store (keeps : c.KeepsIn store) (p : Parameters) :
    (∀ now s, Intact p (p.account.map fun account => ⟨p.clientId, account.homeAccountId⟩)
      ((c.acquireSilentAt p now).run s).1 (store.get s)
      (store.get ((c.acquireSilentAt p now).run s).2)) ∧
    (∀ session : SessionHandle σ, session.Obeys store.Untouched → ∀ s reported s',
      Work.Reaches store.Untouched (c.acquireInteractive p session).run s
        (.ended (.ok reported)) s' →
      Intact p none reported (store.get s) (store.get s')) ∧
    ∀ response account now s, ((c.save p response account now).run s).1 ≠ .error lostTokens := by
  refine ⟨fun now s => (silentCourse keeps.vault p now s).intact keeps, ?_,
    fun response account now s => save_finds keeps.vault response account now s⟩
  intro session hsession s reported s' hreaches
  have hwork := unconcluded_acquireInteractive (keeps.authorize p session hsession)
  obtain ⟨s₁, hs₁, hcourse⟩ :=
    hwork.reaches keeps.vault (fun _ => Place.Untouched.rfl) Place.Untouched.trans hreaches
  have hintact := hcourse.intact keeps
  rwa [show store.get s₁ = store.get s from hs₁] at hintact

end LocalController

namespace Rehearsal.OneApp

/-- Without the person the refresh token is refused and forgotten; with the person the code is
refused, and the store is as it was. -/
theorem failures_leave_store_refused :
    (store.get ((app.acquireSilentAt parameters Sample.returned).run (stage [refused])).2).find?
      key =
      some { ended with refreshToken := none } ∧
    store.get ((app.acquireInteractive parameters (Stage.stepSession session)).run.advance
      (paged [refused])).2 = store.get (paged [refused]) := by
  obtain ⟨silent, interactive, -⟩ := LocalController.failures_leave_store keepsIn_app parameters
  constructor
  · exact ((silent Sample.returned (stage [refused])).refused
      (.ofToken refused) key rfl rfl rfl).2.1
  · have aside : (Stage.stepSession session).Obeys store.Untouched :=
      fun signal s => (LocalRole.passes_resolveStepSession signal s).1
    have hreaches := Work.Reaches.here (R := store.Untouched)
      (app.acquireInteractive parameters (Stage.stepSession session)).run (paged [refused])
    refine (interactive _ aside _ (.ok ⟨some (.success ⟨⟨"code-1"⟩, some pageState,
      some pageVerifier⟩), some refused, none⟩) _ hreaches).failed ?_ ?_
    · rintro a ⟨⟩
      rfl
    · intro a _ hstake
      cases hstake

end Rehearsal.OneApp

end SignOn
