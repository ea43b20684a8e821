import SignOn.Proofs.Command.Ending
import SignOn.Proofs.Identity.ScopeSet
import SignOn.Proofs.Local.Scripted
import SignOn.Proofs.Local.ServedBack

/-! # Acquisitions without the person

Which of four things a local controller does without the person is decided by what is stored for the
account and by what is asked for. A stored access token is handed out if it suits (`Suits`), and a
token that suits is one for which the tests of the controller hold (`serves_iff`). If there is none,
the stored refresh token is redeemed by one request (`Redemption.Course.noted`), and if there is no
refresh token either, nothing is done. -/

namespace SignOn

/-- The projection of a stored access token of some credentials. -/
def IssuedToken.ofStored (record : Credentials) (token : AccessToken) : IssuedToken where
  accessToken := token.secret
  expiresOn := token.expiresOn
  scopes := token.scopes
  account := record.account
  tenantId := record.account.realm
  idToken := record.idToken
  servedFromCache := true
  correlationId := none

/-- The setting sees what the controller keeps and asks for: its tokens are in the store, and its
requests are the usual ones and are noted. -/
structure LocalSetting.Sees {σ : Type} (w : LocalSetting σ) (c : LocalController σ) : Prop where
  vault : c.vault = .ofStore w.store
  usual : c.strategy.tokenRequest = .redeeming
  noted : ∀ request s, w.requests (c.strategy.requestToken request s).2 = w.requests s ++ [request]

/-- That the strategy looks at stored credentials is neither stored nor noted. -/
structure LocalSetting.SeesSilent {σ : Type} (w : LocalSetting σ) (c : LocalController σ) : Prop
    extends w.Sees c where
  accepts : ∀ p record s, w.Passes s (c.strategy.accepts p record s).2

theorem LocalSetting.Shares.seesSilent {σ : Type} {w : LocalSetting σ} {c : LocalController σ}
    (h : w.Shares c) : w.SeesSilent c where
  vault := h.vault
  usual := h.usual
  noted := h.noted
  accepts := h.accepts

/-- A grant is asked for once, whatever the answer is and whatever is stored after it. -/
theorem Redemption.Course.noted {σ : Type} {w : LocalSetting σ} {c : LocalController σ}
    {x : Redemption} {p : Parameters} {s s' : σ} {reported : Except Failure Acquisition}
    (sees : w.Sees c) (h : x.Course c w.store p s (reported, s')) :
    w.requests s' = w.requests s ++ [.redeeming p x.grant] := by
  have asked : ∀ {result s₁}, x.answer c p s = (result, s₁) →
      w.requests s₁ = w.requests s ++ [.redeeming p x.grant] := by
    intro result s₁ answer
    have hs : (c.strategy.requestToken (x.request c p) s).2 = s₁ := congrArg Prod.snd answer
    have hrequest : x.request c p = .redeeming p x.grant := by rw [request, sees.usual]
    rw [← hs, ← hrequest]
    exact sees.noted _ s
  cases h with
  | unanswered answer | unowned answer _ _ | undated answer _ _ => exact asked answer
  | @refused result s₁ answer _ =>
    refine Eq.trans ?_ (asked answer)
    rw [afterRefusal]
    cases x.stake? with
    | none => rfl
    | some key =>
      dsimp only
      split
      · exact w.requests_set _ _
      · rfl
  | filed filing => exact (w.requests_set _ _).trans (asked filing.answer)

namespace LocalController

variable {σ : Type} {w : LocalSetting σ} {c : LocalController σ} {p : Parameters}
  {record : Credentials} {now : Moment} {s : σ} {token : AccessToken}

/-- The stored access token is what is asked for: no new one is wanted, it lasts longer than the
buffer from now on, each scope that counts is among its own, and the strategy takes the
credentials. -/
structure Suits (c : LocalController σ) (p : Parameters) (record : Credentials)
    (now : Moment) (s : σ) (token : AccessToken) : Prop where
  unforced : p.forceRefresh = false
  stored : record.accessToken = some token
  lasts : ∃ limit, now.add? c.expiryBuffer = some limit ∧ limit.instant < token.expiresOn.instant
  covered : ∀ scope ∈ p.scopes.scopes, scope ∉ ScopeSet.reserved → scope ∈ token.scopes.scopes
  accepted : (c.strategy.accepts p record s).1 = true

theorem isUsable_iff : c.isUsable p token now = true ↔ p.forceRefresh = false ∧
    (∃ limit, now.add? c.expiryBuffer = some limit ∧ limit.instant < token.expiresOn.instant) ∧
      ∀ scope ∈ p.scopes.scopes, scope ∉ ScopeSet.reserved → scope ∈ token.scopes.scopes := by
  have hlasts : token.isExpiredAt now c.expiryBuffer = false ↔
      ∃ limit, now.add? c.expiryBuffer = some limit ∧ limit.instant < token.expiresOn.instant := by
    rw [AccessToken.isExpiredAt]
    cases now.add? c.expiryBuffer <;> simp
  rw [isUsable, Bool.and_eq_true, Bool.and_eq_true, Bool.not_eq_true', Bool.not_eq_true', hlasts,
    ScopeSet.covers_iff, and_assoc]

/-- The tests of the controller hold where a stored token suits. -/
theorem serves_iff : c.serves p record now s = true ↔ ∃ token, c.Suits p record now s token := by
  simp only [serves, Option.any_eq_true, Bool.and_eq_true, isUsable_iff]
  constructor
  · rintro ⟨token, stored, ⟨unforced, lasts, covered⟩, accepted⟩
    exact ⟨token, unforced, stored, lasts, covered, accepted⟩
  · rintro ⟨token, unforced, stored, lasts, covered, accepted⟩
    exact ⟨token, stored, ⟨unforced, lasts, covered⟩, accepted⟩

/-- **What an acquisition without the person does is decided by what is stored and what is asked
for.** For an account that is not stored, or if none is asked for, it fails at once. Otherwise the
stored access token is handed out, and nothing is asked for or stored, exactly if it suits. If none
suits, the stored refresh token is redeemed by one request; without a refresh token there is no
request. -/
theorem acquireSilentAt_decides (sees : w.SeesSilent c) (p : Parameters) (now : Moment) (s : σ) :
    let out := (c.acquireSilentAt p now).run s
    match p.account.bind fun account =>
      (w.store.get s).find? ⟨p.clientId, account.homeAccountId⟩ with
    | none => out = (.error noAccount, s)
    | some record =>
      (∀ token, c.Suits p record now s token ↔ record.accessToken = some token ∧
        out.1 = .ok (.ofIssued (.ofStored record token)) ∧ w.Passes s out.2) ∧
      ((∀ token, ¬ c.Suits p record now s token) → match record.refreshToken with
        | none => out.1 = .error noRefreshToken ∧ w.Passes s out.2
        | some refreshToken =>
          w.requests out.2 = w.requests s ++ [.redeeming p (.refreshToken refreshToken)]) := by
  intro out
  have hcourse : c.SilentCourse w.store p now s out := silentCourse sees.vault p now s
  have consulted : ∀ record, w.Passes s (c.consulted p record now s) := fun record =>
    consulted_allowed .rfl (sees.accepts p record s)
  have unsuited : ∀ {record}, c.serves p record now s = false →
      ∀ token, ¬ c.Suits p record now s token := fun withheld token suits =>
    absurd (serves_iff.mpr ⟨token, suits⟩) (by simp [withheld])
  generalize out = out at hcourse ⊢
  cases hcourse with
  | absent missing =>
    cases asked : p.account with
    | none => rfl
    | some account => simp [missing account asked]
  | @served account record issued asked found serves projected =>
    simp only [asked, Option.bind_some, found]
    obtain ⟨kept, hkept⟩ := serves_iff.mp serves
    refine ⟨fun token => ⟨fun suits => ⟨suits.stored, ?_, consulted record⟩, ?_⟩, fun none => ?_⟩
    · rw [IssuedToken.ofCredentials?, suits.stored] at projected
      obtain rfl := Option.some.inj projected
      rfl
    · rintro ⟨stored, -, -⟩
      obtain rfl : kept = token := Option.some.inj (hkept.stored.symm.trans stored)
      exact hkept
    · exact absurd hkept (none kept)
  | @exhausted account record asked found withheld bare =>
    simp only [asked, Option.bind_some, found, bare, true_and]
    refine ⟨fun token => ⟨fun suits => absurd suits (unsuited withheld token), ?_⟩, fun _ => ?_⟩
    · rintro ⟨-, told, -⟩
      cases told
    · exact consulted record
  | @refreshed account record refreshToken out asked found withheld held course =>
    simp only [asked, Option.bind_some, found, held]
    obtain ⟨reported, s'⟩ := out
    refine ⟨fun token => ⟨fun suits => absurd suits (unsuited withheld token), ?_⟩, fun _ => ?_⟩
    · rintro ⟨-, rfl, -⟩
      cases course
    · rw [course.noted sees.toSees, (consulted record).2]
      rfl

end LocalController

namespace Rehearsal.OneApp

/-- Tokens of which the access token is still good. -/
def fresh : Credentials :=
  { ended with accessToken := some ⟨⟨"at-0"⟩, .empty, Sample.opened, Sample.issued.expiresOn⟩ }

/-- The stage on which they are stored. -/
def freshStage : Stage := (Role.localApp (role [] fresh)).prepare "app" default

/-- The access token that has ended is not handed out, and the refresh token is redeemed once. If
the access token lasts it is handed out. -/
theorem acquireSilentAt_decides_ended :
    (LocalRole.settingOf "app").requests
      ((app.acquireSilentAt parameters Sample.begun).run (stage [refused])).2 =
        [.redeeming parameters (.refreshToken ⟨"rt-0"⟩)] ∧
    ∃ s', (app.acquireSilentAt parameters Sample.begun).run freshStage =
      (.ok (.ofIssued ⟨⟨"at-0"⟩, Sample.issued.expiresOn, .empty, user, none, none, true, none⟩),
        s') := by
  let limit : Moment := ⟨301000000000, 0, by decide⟩
  have buffered : Sample.begun.add? app.expiryBuffer = some limit := by decide
  constructor
  · have decided :=
      LocalController.acquireSilentAt_decides shares_app.seesSilent parameters Sample.begun
        (stage [refused])
    refine decided.2 ?_
    rintro token ⟨-, stored, ⟨limit', buffered', lasts⟩, -, -⟩
    obtain rfl := Option.some.inj stored
    obtain rfl : limit = limit' := Option.some.inj (buffered.symm.trans buffered')
    exact absurd lasts (by decide)
  · have decided :=
      LocalController.acquireSilentAt_decides shares_app.seesSilent parameters
        Sample.begun freshStage
    have suits : app.Suits parameters fresh Sample.begun freshStage
        ⟨⟨"at-0"⟩, .empty, Sample.opened, Sample.issued.expiresOn⟩ :=
      { unforced := rfl
        stored := rfl
        lasts := ⟨limit, buffered, by decide⟩
        covered := fun scope hscope => absurd hscope List.not_mem_nil
        accepted := rfl }
    exact ⟨_, Prod.ext ((decided.1 _).mp suits).2.1 rfl⟩

end Rehearsal.OneApp

end SignOn
