import SignOn.Local.Controller
import SignOn.Proofs.Store.Records
import SignOn.Proofs.Work.Obeys

/-! # How an acquisition of a local controller may go

A local controller that keeps its tokens in a store. Each of its acquisitions is told by its course:
what was found in the store, what the server answered, what is reported and what is left in the
store.

* `Receipt`: an answer of the server as it is filed, for an account and until a moment. Filing does
  not fail (`save_run`), and what is handed out is what the store kept.
* `Redemption.Course`: a grant is redeemed, be it a refresh token (`course_refresh`) or a code
  (`course_redeem`).
* `SilentCourse`: an acquisition without the person (`silentCourse`). -/

namespace SignOn

namespace Place

variable {σ τ : Type} {place : Place σ τ} {s s' s'' : σ}

/-- The place is left as it is. -/
def Untouched (place : Place σ τ) (s s' : σ) : Prop := place.get s' = place.get s

theorem Untouched.rfl : place.Untouched s s := Eq.refl _

theorem Untouched.trans (h : place.Untouched s s') (h' : place.Untouched s' s'') :
    place.Untouched s s'' :=
  Eq.trans h' h

end Place

/-! ### Actions one after another -/

namespace Action

variable {σ α β : Type} {action : Action σ α} {s s' : σ}

theorem run_bind_of_ok {a : α} (h : action.run s = (.ok a, s')) (k : α → Action σ β) :
    (action >>= k).run s = (k a).run s' := by
  rw [ExceptT.run_bind]
  simp only [bind, StateT.bind, h]

theorem run_bind_of_error {f : Failure} (h : action.run s = (.error f, s')) (k : α → Action σ β) :
    (action >>= k).run s = (.error f, s') := by
  rw [ExceptT.run_bind]
  simp only [bind, StateT.bind, h]
  rfl

end Action

/-! ### Success -/

namespace TokenResult

variable {result : TokenResult} {response : TokenResponse}

theorem isSuccess_of_response? (h : result.response? = some response) : result.isSuccess = true :=
  (Option.ite_none_right_eq_some.mp h).1

theorem response_of_response? (h : result.response? = some response) :
    result.response = some response :=
  (Option.ite_none_right_eq_some.mp h).2

theorem any_error_iff {code : String} :
    (result.error.any fun e => e.error = code) = true ↔ result.error.map (·.error) = some code := by
  cases result.error <;> simp

end TokenResult

/-- An acquisition that succeeded has no error of a token request to tell of. -/
theorem Acquisition.tokenErrorCode_of_succeeded {a : Acquisition} (h : a.succeeded = true) :
    a.tokenErrorCode = none := by
  rw [succeeded, Bool.and_eq_true] at h
  rw [tokenErrorCode]
  cases ht : a.token with
  | none => rfl
  | some result =>
    have hs : result.isSuccess = true := by
      rw [ht] at h
      exact h.2
    rw [TokenResult.isSuccess, Bool.and_eq_true, Option.isNone_iff_eq_none] at hs
    simp [hs.2]

theorem AuthorizationResult.isSuccess_of_grant? {authorization : AuthorizationResult}
    {grant : AuthorizationGrant} (h : authorization.grant? = some grant) :
    authorization.isSuccess = true :=
  (Option.ite_none_right_eq_some.mp h).1

/-! ### Receipts -/

/-- An answer of the server as it is filed: for which account, when, and until when. -/
structure Receipt where
  response : TokenResponse
  account : Account
  moment : Moment
  expiresOn : Moment

namespace Receipt

/-- The credentials that are filed. -/
def credentials (x : Receipt) (p : Parameters) : Credentials :=
  LocalController.credentialsOf p x.response x.account x.moment x.expiresOn

/-- Where they are filed. -/
def key (x : Receipt) (p : Parameters) : StoreKey := ⟨p.clientId, x.account.homeAccountId⟩

/-- The store after filing. -/
def file (x : Receipt) (p : Parameters) (before : TokenStore) : TokenStore :=
  before.save p.clientId (x.credentials p)

/-- The record after filing: an older token is kept of the families that the answer does not
have. -/
def record (x : Receipt) (p : Parameters) (before : TokenStore) : Credentials where
  account := x.account
  accessToken :=
    some ⟨x.response.accessToken, x.response.scopes.getD p.scopes, x.moment, x.expiresOn⟩
  refreshToken := x.response.refreshToken <|> before.refreshTokenOf (x.key p)
  idToken := x.response.idToken <|> before.idTokenOf (x.key p)

/-- What is handed out of it. -/
def issued (x : Receipt) (p : Parameters) (before : TokenStore) : IssuedToken where
  accessToken := x.response.accessToken
  expiresOn := x.expiresOn
  scopes := x.response.scopes.getD p.scopes
  account := x.account
  tenantId := x.account.realm
  idToken := x.response.idToken <|> before.idTokenOf (x.key p)
  servedFromCache := false
  correlationId := none

variable {x : Receipt} {p : Parameters} {before : TokenStore}

theorem savedRecord_eq (x : Receipt) (p : Parameters) (before : TokenStore) :
    before.savedRecord p.clientId (x.credentials p) = x.record p before := by
  have hkey : TokenStore.keyOf p.clientId (x.credentials p) = x.key p := rfl
  rw [TokenStore.savedRecord, hkey, record, TokenStore.refreshTokenOf, TokenStore.idTokenOf]
  cases before.find? (x.key p) with
  | none => simp [TokenStore.merged, credentials, LocalController.credentialsOf]
  | some old =>
    simp [TokenStore.merged, Credentials.renewed, credentials, LocalController.credentialsOf]

theorem find?_file_self : (x.file p before).find? (x.key p) = some (x.record p before) := by
  rw [← savedRecord_eq]
  exact TokenStore.find?_save_self _ _ _

theorem find?_file_of_ne {other : StoreKey} (h : other ≠ x.key p) :
    (x.file p before).find? other = before.find? other :=
  TokenStore.find?_save_of_ne h

theorem refreshTokenOf_file (x : Receipt) (p : Parameters) (before : TokenStore) (key : StoreKey) :
    (x.file p before).refreshTokenOf key =
      ((if x.key p = key then x.response.refreshToken else none) <|>
        before.refreshTokenOf key) := by
  split
  · rename_i he
    rw [← he, TokenStore.refreshTokenOf, find?_file_self]
    rfl
  · rename_i hne
    rw [TokenStore.refreshTokenOf, find?_file_of_ne fun he => hne he.symm]
    simp [TokenStore.refreshTokenOf]

end Receipt

namespace LocalController

variable {σ : Type} {c : LocalController σ} {store : Place σ TokenStore} {p : Parameters}
  {record : Credentials} {now : Moment} {s : σ}

theorem ask_save (vault : c.vault = .ofStore store) (x : Receipt) :
    (Vault.ask (c.vault.save p.clientId (x.credentials p))).run s =
      (.ok [x.record p (store.get s)], store.set (x.file p (store.get s)) s) := by
  rw [vault, ← x.savedRecord_eq]
  rfl

/-- Filing fails only for the lifetime of the token, and then files nothing. -/
theorem save_run (vault : c.vault = .ofStore store) (response : TokenResponse) (account : Account) :
    (c.save p response account now).run s = match expiryOf response now with
      | .error f => (.error f, s)
      | .ok expiresOn =>
        let x : Receipt := ⟨response, account, now, expiresOn⟩
        (.ok (x.issued p (store.get s)), store.set (x.file p (store.get s)) s) := by
  unfold save
  cases he : expiryOf response now with
  | error f => exact Action.run_bind_of_error rfl _
  | ok expiresOn =>
    let x : Receipt := ⟨response, account, now, expiresOn⟩
    have hown :
        [x.record p (store.get s)].find?
          (fun r => r.account.homeAccountId = account.homeAccountId) =
          some (x.record p (store.get s)) :=
      List.find?_cons_of_pos (decide_eq_true rfl)
    refine (Action.run_bind_of_ok rfl _).trans
      ((Action.run_bind_of_ok (ask_save vault x) _).trans ?_)
    rw [hown]
    rfl

end LocalController

/-! ### Grants -/

/-- A grant that is to be redeemed: what is reported beside it, whose the token is unless the server
says so, the moment at which it is filed unless that is read off the clock, and where the refresh
token is kept that is at stake. -/
structure Redemption where
  grant : TokenGrant
  authorization : Option AuthorizationResult
  owner? : Option Account
  moment? : Option Moment
  stake? : Option StoreKey

namespace Redemption

/-- The refresh token of stored credentials. -/
def ofStored (p : Parameters) (record : Credentials) (token : Secret) (now : Moment) : Redemption :=
  ⟨.refreshToken token, none, some record.account, some now,
    some ⟨p.clientId, record.account.homeAccountId⟩⟩

/-- The code that came back from a page. -/
def ofPage (p : Parameters) (authorization : AuthorizationResult) (grant : AuthorizationGrant) :
    Redemption :=
  ⟨.authorizationCode grant.code grant.codeVerifier, some authorization, p.account, none, none⟩

variable {σ : Type}

/-- The request for it. -/
def request (x : Redemption) (c : LocalController σ) (p : Parameters) : TokenRequest :=
  c.strategy.tokenRequest p x.grant

/-- The answer to the request, and the surroundings after it. -/
def answer (x : Redemption) (c : LocalController σ) (p : Parameters) (s : σ) :
    Except Failure TokenResult × σ :=
  (c.strategy.requestToken (x.request c p)).run s

/-- The refresh token at stake is taken out of the store, if the server does not take it any
more. -/
def afterRefusal (x : Redemption) (store : Place σ TokenStore) (result : TokenResult) (s : σ) : σ :=
  match x.stake? with
  | none => s
  | some key =>
    if result.error.any fun e => e.error = Code.invalidGrant then
      store.set ((store.get s).dropCredential key .refreshToken) s
    else s

/-- The answer to the request is a token, and what is filed of it. -/
structure Filing (x : Redemption) (c : LocalController σ) (p : Parameters) (s : σ)
    (result : TokenResult) (r : Receipt) (s' : σ) : Prop where
  answer : x.answer c p s = (.ok result, s')
  came : result.response? = some r.response
  owner : (r.response.account <|> x.owner?) = some r.account
  moment : r.moment = x.moment?.getD (c.clock s').now
  dated : LocalController.expiryOf r.response r.moment = .ok r.expiresOn

/-- How the redemption may go: the request fails; the server gives no token; it gives one that
belongs to nobody or has no end to come; or the answer is filed. -/
inductive Course (x : Redemption) (c : LocalController σ) (store : Place σ TokenStore)
    (p : Parameters) (s : σ) : Except Failure Acquisition × σ → Prop
  | unanswered {f s'} (answer : x.answer c p s = (.error f, s')) :
      Course x c store p s (.error f, s')
  | refused {result s'} (answer : x.answer c p s = (.ok result, s'))
      (empty : result.response? = none) :
    Course x c store p s (.ok ⟨x.authorization, some result, none⟩, x.afterRefusal store result s')
  | unowned {result response s'} (answer : x.answer c p s = (.ok result, s'))
    (came : result.response? = some response) (nobody : (response.account <|> x.owner?) = none) :
    Course x c store p s (.error LocalController.unknownAccount, s')
  | undated {result response f s'} (answer : x.answer c p s = (.ok result, s'))
    (came : result.response? = some response)
    (late : LocalController.expiryOf response (x.moment?.getD (c.clock s').now) = .error f) :
    Course x c store p s (.error f, s')
  | filed {result r s'} (filing : x.Filing c p s result r s') :
    Course x c store p s (.ok ⟨x.authorization, some result, some (r.issued p (store.get s'))⟩,
      store.set (r.file p (store.get s')) s')

theorem Filing.succeeded {x : Redemption} {c : LocalController σ} {p : Parameters} {s s' : σ}
    {result : TokenResult} {r : Receipt} (h : x.Filing c p s result r s')
    (authorized : x.authorization.all AuthorizationResult.isSuccess = true) (before : TokenStore) :
    (⟨x.authorization, some result, some (r.issued p before)⟩ : Acquisition).succeeded = true := by
  simp [Acquisition.succeeded, authorized, TokenResult.isSuccess_of_response? h.came]

/-- What succeeded was filed. -/
theorem Course.filing {x : Redemption} {c : LocalController σ} {store : Place σ TokenStore}
    {p : Parameters} {s s' : σ} {a : Acquisition} (h : x.Course c store p s (.ok a, s'))
    (succeeded : a.succeeded = true) :
    ∃ result r s₁, x.Filing c p s result r s₁ ∧
      a = ⟨x.authorization, some result, some (r.issued p (store.get s₁))⟩ ∧
      s' = store.set (r.file p (store.get s₁)) s₁ := by
  cases h with
  | refused _ _ => cases succeeded
  | filed filing => exact ⟨_, _, _, filing, rfl, rfl⟩

end Redemption

namespace LocalController

variable {σ : Type} {c : LocalController σ} {store : Place σ TokenStore} {p : Parameters}
  {record : Credentials} {now : Moment} {s : σ}

theorem ask_removeCredential (vault : c.vault = .ofStore store) (key : StoreKey)
    (kind : CredentialKind) :
    (Vault.ask (c.vault.removeCredential key kind)).run s =
      (.ok ((store.get s).hasCredential key kind),
        store.set ((store.get s).dropCredential key kind) s) := by
  rw [vault]
  rfl

/-- An answer that belongs to somebody is filed, or has no end to come. -/
theorem course_save (vault : c.vault = .ofStore store) {x : Redemption} {result : TokenResult}
    {response : TokenResponse} {account : Account} {s' : σ}
    (answer : x.answer c p s = (.ok result, s')) (came : result.response? = some response)
    (owner : (response.account <|> x.owner?) = some account)
    (moment : now = x.moment?.getD (c.clock s').now) :
    x.Course c store p s ((do
      let issued ← c.save p response account now
      return ⟨x.authorization, some result, some issued⟩ : Action σ Acquisition).run s') := by
  have hsave : (c.save p response account now).run s' = _ := save_run vault response account
  cases hd : expiryOf response now with
  | error f =>
    rw [hd] at hsave
    rw [Action.run_bind_of_error hsave]
    exact .undated answer came (moment ▸ hd)
  | ok expiresOn =>
    rw [hd] at hsave
    rw [Action.run_bind_of_ok hsave]
    exact .filed (r := ⟨response, account, now, expiresOn⟩) ⟨answer, came, owner, moment, hd⟩

theorem course_refresh (vault : c.vault = .ofStore store) (token : Secret) :
    (Redemption.ofStored p record token now).Course c store p s
      ((c.refresh p record token now).run s) := by
  let x := Redemption.ofStored p record token now
  rcases ha : x.answer c p s with ⟨f | result, s'⟩
  · have hrun : (c.refresh p record token now).run s = (.error f, s') :=
      Action.run_bind_of_error ha _
    rw [hrun]
    exact .unanswered ha
  cases hr : result.response? with
  | none =>
    have hrun : (c.refresh p record token now).run s =
        (.ok (.ofToken result), x.afterRefusal store result s') := by
      refine (Action.run_bind_of_ok ha _).trans ?_
      rw [hr]
      change (if result.error.any (fun e => e.error = Code.invalidGrant) then _ else _ :
        Action σ _).run s' = _
      unfold Redemption.afterRefusal
      dsimp only [x, Redemption.ofStored]
      split
      · exact Action.run_bind_of_ok (ask_removeCredential vault _ _) _
      · rfl
    rw [hrun]
    exact .refused ha hr
  | some response =>
    have hrun : (c.refresh p record token now).run s = _ := Action.run_bind_of_ok ha _
    rw [hrun, hr]
    refine course_save vault ha hr ?_ rfl
    cases response.account <;> simp [Redemption.ofStored]

theorem course_redeem (vault : c.vault = .ofStore store) (authorization : AuthorizationResult)
    (grant : AuthorizationGrant) :
    (Redemption.ofPage p authorization grant).Course c store p s
      ((c.redeem p authorization grant).run s) := by
  let x := Redemption.ofPage p authorization grant
  rcases ha : x.answer c p s with ⟨f | result, s'⟩
  · have hrun : (c.redeem p authorization grant).run s = (.error f, s') :=
      Action.run_bind_of_error ha _
    rw [hrun]
    exact .unanswered ha
  have hrun : (c.redeem p authorization grant).run s = _ := Action.run_bind_of_ok ha _
  rw [hrun]
  cases hr : result.response? with
  | none => exact .refused ha hr
  | some response =>
    dsimp only
    cases ho : (response.account <|> p.account) with
    | none => exact .unowned ha hr ho
    | some account =>
      exact course_save vault ha hr ho rfl

/-! ### Without the person -/

/-- The stored credentials are handed out: the access token lasts and covers what is asked for, and
the strategy accepts them. -/
def serves (c : LocalController σ) (p : Parameters) (record : Credentials) (now : Moment) (s : σ) :
    Bool :=
  record.accessToken.any fun token => c.isUsable p token now && (c.strategy.accepts p record s).1

theorem ofCredentials?_of_serves (h : c.serves p record now s = true) :
    ∃ issued, IssuedToken.ofCredentials? record true = some issued := by
  rw [serves] at h
  cases ht : record.accessToken with
  | none => simp [ht] at h
  | some token => exact ⟨_, by rw [IssuedToken.ofCredentials?, ht]; rfl⟩

/-- The surroundings after the strategy was asked about the stored credentials, if it was asked. -/
def consulted (c : LocalController σ) (p : Parameters) (record : Credentials) (now : Moment)
    (s : σ) : σ :=
  match record.accessToken with
  | none => s
  | some token => if c.isUsable p token now then (c.strategy.accepts p record s).2 else s

theorem consulted_allowed {R : σ → σ → Prop} (refl : R s s)
    (accepts : R s (c.strategy.accepts p record s).2) : R s (c.consulted p record now s) := by
  rw [consulted]
  cases record.accessToken with
  | none => exact refl
  | some token =>
    dsimp only
    split
    · exact accepts
    · exact refl

theorem stored_run : (c.stored p record now).run s =
    (.ok (if c.serves p record now s then IssuedToken.ofCredentials? record true else none),
      c.consulted p record now s) := by
  unfold stored consulted serves
  cases ht : record.accessToken with
  | none => rfl
  | some token =>
    by_cases usable : c.isUsable p token now = true
    · simp only [usable, if_true, Option.any_some, Bool.true_and]
      rcases ha : c.strategy.accepts p record s with ⟨accepted, s'⟩
      cases accepted <;> simp [ExceptT.run, ExceptT.mk, bind, StateT.bind, ha] <;> rfl
    · simp [usable]
      rfl

/-- How an acquisition without the person may go: the account is not stored; a stored token is
handed out; there is no refresh token either; or the refresh token is redeemed. -/
inductive SilentCourse (c : LocalController σ) (store : Place σ TokenStore) (p : Parameters)
    (now : Moment) (s : σ) : Except Failure Acquisition × σ → Prop
  | absent (missing : ∀ account, p.account = some account →
      (store.get s).find? ⟨p.clientId, account.homeAccountId⟩ = none) :
    SilentCourse c store p now s (.error noAccount, s)
  | served {account record issued} (asked : p.account = some account)
    (found : (store.get s).find? ⟨p.clientId, account.homeAccountId⟩ = some record)
    (serves : c.serves p record now s = true)
    (projected : IssuedToken.ofCredentials? record true = some issued) :
    SilentCourse c store p now s (.ok (.ofIssued issued), c.consulted p record now s)
  | exhausted {account record} (asked : p.account = some account)
    (found : (store.get s).find? ⟨p.clientId, account.homeAccountId⟩ = some record)
    (withheld : c.serves p record now s = false) (bare : record.refreshToken = none) :
    SilentCourse c store p now s (.error noRefreshToken, c.consulted p record now s)
  | refreshed {account record token out} (asked : p.account = some account)
    (found : (store.get s).find? ⟨p.clientId, account.homeAccountId⟩ = some record)
    (withheld : c.serves p record now s = false) (held : record.refreshToken = some token)
    (course : (Redemption.ofStored p record token now).Course c store p
      (c.consulted p record now s) out) :
    SilentCourse c store p now s out

theorem ask_load (vault : c.vault = .ofStore store) (p : Parameters) (account : Account) (s : σ) :
    (Vault.ask (c.vault.load p.clientId account)).run s =
      (.ok ((store.get s).load p.clientId account.homeAccountId), s) := by
  rw [vault]
  rfl

/-- **Every acquisition without the person takes its course.** -/
theorem silentCourse (vault : c.vault = .ofStore store) (p : Parameters) (now : Moment) (s : σ) :
    c.SilentCourse store p now s ((c.acquireSilentAt p now).run s) := by
  unfold acquireSilentAt
  cases asked : p.account with
  | none => exact .absent (by simp [asked])
  | some account =>
    dsimp only
    rw [Action.run_bind_of_ok (ask_load vault p account s)]
    cases found : (store.get s).find? ⟨p.clientId, account.homeAccountId⟩ with
    | none =>
      rw [TokenStore.load_of_find?_none found]
      refine .absent fun other hother => ?_
      obtain rfl : account = other := Option.some.inj (asked.symm.trans hother)
      exact found
    | some record =>
      rw [TokenStore.load_of_find? found]
      dsimp only
      rw [Action.run_bind_of_ok stored_run]
      cases hserves : c.serves p record now s with
      | true =>
        obtain ⟨issued, hissued⟩ := ofCredentials?_of_serves hserves
        rw [if_pos rfl, hissued]
        exact .served asked found hserves hissued
      | false =>
        cases held : record.refreshToken with
        | none => exact .exhausted asked found hserves held
        | some token => exact .refreshed asked found hserves held (course_refresh vault token)

end LocalController

end SignOn
