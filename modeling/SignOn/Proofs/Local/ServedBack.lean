import SignOn.Proofs.Local.Scripted

/-! # What was stored is handed out again

A token that the server gave is handed out again, without another word to the server, as long as it
lasts and covers what is asked for. Two acquisitions are looked at, perhaps with other parameters
and at other times: the first one files the answer of the server (`Obtains.filed`), and the second
one finds it and hands it out (`run_of_serves`). -/

namespace SignOn

namespace LocalController

variable {σ : Type} {c : LocalController σ} {store : Place σ TokenStore} {p : Parameters}

/-! ### Filing -/

/-- An acquisition succeeded with an answer of the server: whose the tokens are, at what moment,
what was stored before, and the surroundings afterwards. Unless the server names an account, the
tokens are of the account that was stored for the one asked for; with the person, of the one asked
for. With the person the acquisition may have waited any number of times, whatever others did
meanwhile; what was stored before is then what was stored when it went on for the last time. -/
inductive Obtains (c : LocalController σ) (store : Place σ TokenStore) (p : Parameters)
    (response : TokenResponse) : Option Account → Moment → TokenStore → σ → Prop
  | silent {now s a result s'} (ran : (c.acquireSilentAt p now).run s = (.ok a, s'))
    (succeeded : a.succeeded = true) (token : a.token = some result)
    (answer : result.response = some response) :
    Obtains c store p response (response.account <|> p.account.bind fun account =>
      (store.get s).byHome ⟨p.clientId, account.homeAccountId⟩) now (store.get s) s'
  | interactive {session rest s a result s'} (aside : session.Obeys store.Untouched)
    (waited : (c.acquireInteractive p session).run.Remains rest)
    (ran : rest.advance s = (.ended (.ok (.ok a)), s')) (succeeded : a.succeeded = true)
    (token : a.token = some result) (answer : result.response = some response) :
    Obtains c store p response (response.account <|> p.account) (c.clock s').now (store.get s) s'

theorem add?_of_expiryOf {response : TokenResponse} {now expiresOn : Moment}
    (h : expiryOf response now = .ok expiresOn) : now.add? response.expiresIn = some expiresOn := by
  unfold expiryOf at h
  split at h
  · split at h
    · rename_i he
      cases h
      exact he
    · cases h
  · cases h

/-- What a grant brought is filed and found. -/
theorem found_of_course (keeps : c.KeepsIn store)
    (clock : ∀ t s, c.clock (store.set t s) = c.clock s) {x : Redemption} {s s' : σ}
    {a : Acquisition} {result : TokenResult} {response : TokenResponse}
    (course : x.Course c store p s (.ok a, s')) (succeeded : a.succeeded = true)
    (token : a.token = some result) (answer : result.response = some response) :
    ∃ r : Receipt, r.response = response ∧ r.moment = x.moment?.getD (c.clock s').now ∧
      (response.account <|> x.owner?) = some r.account ∧
      r.moment.add? response.expiresIn = some r.expiresOn ∧
      (store.get s').find? (r.key p) = some (r.record p (store.get s)) := by
  obtain ⟨result', r, s₁, filing, rfl, rfl⟩ := course.filing succeeded
  obtain rfl : result' = result := Option.some.inj token
  obtain rfl : r.response = response :=
    Option.some.inj ((TokenResult.response_of_response? filing.came).symm.trans answer)
  refine ⟨r, rfl, ?_, filing.owner, add?_of_expiryOf filing.dated, ?_⟩
  · rw [clock]
    exact filing.moment
  · rw [store.get_set, show store.get s₁ = store.get s from keeps.answer filing.answer]
    exact Receipt.find?_file_self

/-- **What was obtained is filed**: for the account that it belongs to, and until it ends. -/
theorem Obtains.filed (keeps : c.KeepsIn store) (clock : ∀ t s, c.clock (store.set t s) = c.clock s)
    {response : TokenResponse} {owner? : Option Account} {moment : Moment} {before : TokenStore}
    {after : σ} (h : c.Obtains store p response owner? moment before after) :
    ∃ r : Receipt, r.response = response ∧ r.moment = moment ∧ owner? = some r.account ∧
      moment.add? response.expiresIn = some r.expiresOn ∧
      (store.get after).find? (r.key p) = some (r.record p before) := by
  cases h with
  | @silent _ s a result _ ran succeeded token answer =>
    have hcourse := silentCourse keeps.vault p moment s
    rw [ran] at hcourse
    cases hcourse with
    | served _ _ _ _ => cases token
    | @refreshed account record secret _ asked found withheld held course =>
      obtain ⟨r, hr, rfl, howner, hends, hfound⟩ :=
        found_of_course keeps clock course succeeded token answer
      refine ⟨r, hr, rfl, ?_, hends, ?_⟩
      · rw [asked, Option.bind_some, TokenStore.byHome, found]
        exact howner
      · rwa [show store.get (c.consulted p record r.moment s) = store.get s
          from keeps.consulted _ _] at hfound
  | @interactive session rest s a result _ aside waited ran succeeded token answer =>
    have hleft :=
      (unconcluded_acquireInteractive (keeps.authorize p session aside)).remains keeps.vault
        (fun _ => Place.Untouched.rfl) Place.Untouched.trans waited
    have hgo := hleft.go keeps.vault (fun _ => Place.Untouched.rfl) Place.Untouched.trans s
    rw [ran] at hgo
    cases hgo with
    | @concludes s₁ _ _ allowed course =>
      cases course with
      | declined => cases token
      | redeemed agreed course =>
        obtain ⟨r, hr, hmoment, howner, hends, hfound⟩ :=
          found_of_course keeps clock course succeeded token answer
        rw [show store.get s₁ = store.get s from allowed] at hfound
        rw [show r.moment = (c.clock after).now from hmoment] at hends
        exact ⟨r, hr, hmoment, howner, hends, hfound⟩

/-! ### Finding -/

/-- Stored credentials that may be handed out are handed out. -/
theorem run_of_serves (vault : c.vault = .ofStore store) {s : σ} {account : Account}
    {record : Credentials} {issued : IssuedToken} {now : Moment} (asked : p.account = some account)
    (found : (store.get s).find? ⟨p.clientId, account.homeAccountId⟩ = some record)
    (serves : c.serves p record now s = true)
    (projected : IssuedToken.ofCredentials? record true = some issued) :
    (c.acquireSilentAt p now).run s = (.ok (.ofIssued issued), c.consulted p record now s) := by
  have hcourse := silentCourse vault p now s
  generalize (c.acquireSilentAt p now).run s = out at hcourse ⊢
  cases hcourse with
  | absent missing =>
    rw [missing account asked] at found
    cases found
  | @served account' record' issued' asked' found' _ projected' =>
    obtain rfl : account = account' := Option.some.inj (asked.symm.trans asked')
    obtain rfl : record = record' := Option.some.inj (found.symm.trans found')
    obtain rfl : issued = issued' := Option.some.inj (projected.symm.trans projected')
    rfl
  | @exhausted account' record' asked' found' withheld _ =>
    obtain rfl : account = account' := Option.some.inj (asked.symm.trans asked')
    obtain rfl : record = record' := Option.some.inj (found.symm.trans found')
    rw [serves] at withheld
    cases withheld
  | @refreshed account' record' _ _ asked' found' withheld _ _ =>
    obtain rfl : account = account' := Option.some.inj (asked.symm.trans asked')
    obtain rfl : record = record' := Option.some.inj (found.symm.trans found')
    rw [serves] at withheld
    cases withheld

/-- A stored token that lasts and covers what is asked for may be handed out. -/
theorem serves_of_lasts {record : Credentials} {token : AccessToken} {now limit : Moment} {s : σ}
    (holds : record.accessToken = some token) (unforced : p.forceRefresh = false)
    (covered : token.scopes.covers p.scopes = true)
    (buffered : now.add? c.expiryBuffer = some limit)
    (lasts : limit.instant < token.expiresOn.instant)
    (accepted : (c.strategy.accepts p record s).1 = true) :
    c.serves p record now s = true := by
  have hlasts : token.isExpiredAt now c.expiryBuffer = false := by
    rw [AccessToken.isExpiredAt, buffered]
    simpa using lasts
  simp [serves, holds, isUsable, unforced, covered, hlasts, accepted]

/-- What was filed is asked for again, in time and with nothing more than was granted. -/
structure AsksAgain (c : LocalController σ) (store : Place σ TokenStore) (p : Parameters)
    (r : Receipt) (after : σ) (again : Parameters) (now : Moment) (s : σ) : Prop where
  client : again.clientId = p.clientId
  target : ∃ account, again.account = some account ∧ account.homeAccountId = r.account.homeAccountId
  unforced : again.forceRefresh = false
  covered : (r.response.scopes.getD p.scopes).covers again.scopes = true
  lasts : ∃ limit, now.add? c.expiryBuffer = some limit ∧ limit.instant < r.expiresOn.instant
  /-- The record is the one that the acquisition left. -/
  unwritten : (store.get s).find? (r.key p) = (store.get after).find? (r.key p)
  accepted : ∀ record, (store.get s).find? (r.key p) = some record →
    (c.strategy.accepts again record s).1 = true

/-- The controller with another server. -/
def askingAt (c : LocalController σ) (server : TokenRequest → Action σ TokenResult) :
    LocalController σ :=
  { c with strategy := { c.strategy with requestToken := server } }

/-- **A token that was stored is handed out again.** Whatever the server would have to say, it is
not asked. -/
theorem served_back (keeps : c.KeepsIn store) (clock : ∀ t s, c.clock (store.set t s) = c.clock s)
    {response : TokenResponse} {owner? : Option Account} {moment : Moment} {before : TokenStore}
    {after : σ} (obtained : c.Obtains store p response owner? moment before after) :
    ∃ r : Receipt, r.response = response ∧ r.moment = moment ∧ owner? = some r.account ∧
      moment.add? response.expiresIn = some r.expiresOn ∧
      ∀ again now s, c.AsksAgain store p r after again now s → ∃ s', store.Untouched s s' ∧
        ∀ server, ((c.askingAt server).acquireSilentAt again now).run s = (.ok (.ofIssued
          { accessToken := response.accessToken
            expiresOn := r.expiresOn
            scopes := response.scopes.getD p.scopes
            account := r.account
            tenantId := r.account.realm
            idToken := response.idToken <|> before.idTokenOf ⟨p.clientId, r.account.homeAccountId⟩
            servedFromCache := true
            correlationId := none }), s') := by
  obtain ⟨r, rfl, hmoment, howner, hends, hfiled⟩ := obtained.filed keeps clock
  refine ⟨r, rfl, hmoment, howner, hends, fun again now s asks => ?_⟩
  obtain ⟨account, asked, home⟩ := asks.target
  obtain ⟨limit, buffered, lasts⟩ := asks.lasts
  have hkey : (⟨again.clientId, account.homeAccountId⟩ : StoreKey) = r.key p := by
    rw [asks.client, home]
    rfl
  have found : (store.get s).find? (r.key p) = some (r.record p before) :=
    asks.unwritten.trans hfiled
  have serves : c.serves again (r.record p before) now s = true :=
    serves_of_lasts rfl asks.unforced asks.covered buffered lasts (asks.accepted _ found)
  refine ⟨c.consulted again (r.record p before) now s, keeps.consulted _ _, fun server => ?_⟩
  exact run_of_serves (c := c.askingAt server) keeps.vault asked (hkey ▸ found) serves rfl

end LocalController

namespace Rehearsal.OneApp

/-- The stage after an acquisition that ended with a new token. -/
def refreshed : Stage :=
  ((app.acquireSilentAt parameters Sample.returned).run (stage [given "at-1" "rt-1" none])).2

/-- A second later the new token is handed out again, and the server is not asked. -/
theorem served_back_refreshed : ∃ ending s', Sample.returned.add? (.ofSeconds 3600) = some ending ∧
    ∀ server,
      ((app.askingAt server).acquireSilentAt parameters Sample.returnedLater).run refreshed =
      (.ok (.ofIssued ⟨⟨"at-1"⟩, ending, .empty, user, none, none, true, none⟩), s') := by
  have ran :
      (app.acquireSilentAt parameters Sample.returned).run (stage [given "at-1" "rt-1" none]) =
        (.ok _, refreshed) := rfl
  obtain ⟨⟨_, account, _, ending⟩, rfl, rfl, howner, hends, hagain⟩ := LocalController.served_back
    keepsIn_app (fun _ _ => rfl) (.silent ran rfl rfl rfl)
  obtain rfl : user = account := Option.some.inj howner
  let limit : Moment := ⟨303000000000, 0, by decide⟩
  have hlasts : limit.instant < ending.instant := by
    have hending : Sample.returned.add? (.ofSeconds 3600) = some ⟨3602000000000, 0, by decide⟩ := by
      decide
    obtain rfl : ending = _ := Option.some.inj (hends.symm.trans hending)
    decide
  obtain ⟨s', -, hs'⟩ := hagain parameters Sample.returnedLater refreshed
    { client := rfl
      target := ⟨_, rfl, rfl⟩
      unforced := rfl
      covered := rfl
      lasts := ⟨limit, by decide, hlasts⟩
      unwritten := rfl
      accepted := fun _ _ => rfl }
  exact ⟨ending, s', hends, hs'⟩

end Rehearsal.OneApp

end SignOn
