import SignOn.Proofs.Local.Page

/-! # Local controllers over time

Local controllers that share a store, and what they do with it one after another: acquisitions
without the person at any moment, removals of accounts, and acquisitions with the person, any number
of which may be waiting while the others go on. An operation that ends is an event, and events are
told by what they do to the refresh tokens that are kept, and by the requests that they make
(`Step.tells`). -/

namespace SignOn

/-! ### Events -/

/-- The refresh token that came with tokens that were filed at a place. -/
def Acquisition.brought? (a : Acquisition) (clientId : ClientId) (key : StoreKey) : Option Secret :=
  a.issued?.bind fun issued =>
    if ⟨clientId, issued.account.homeAccountId⟩ = key then
      (a.token.bind (·.response)).bind (·.refreshToken)
    else none

/-- What an operation is for. -/
inductive LocalOperation where
  | silent
  | interactive
  | removal
  deriving DecidableEq

/-- An operation that has ended: the requests for tokens that it made, and what it acquired, if it
did. -/
structure LocalEvent where
  operation : LocalOperation
  parameters : Parameters
  sent : List TokenRequest
  acquired : Option Acquisition

namespace LocalEvent

/-- Where the tokens of the account are kept that it is for. -/
def target? (e : LocalEvent) : Option StoreKey :=
  e.parameters.account.map fun account => ⟨e.parameters.clientId, account.homeAccountId⟩

/-- The refresh token that a response of the server supplied for a place. -/
def brought? (e : LocalEvent) (key : StoreKey) : Option Secret :=
  e.acquired.bind fun a => a.brought? e.parameters.clientId key

/-- After it there is no refresh token at the place: the account was removed, or the server refused
the refresh token for good. -/
def ends (e : LocalEvent) (key : StoreKey) : Bool :=
  e.target? = some key && match e.operation with
    | .silent => e.acquired.any fun a => a.tokenErrorCode = some Code.invalidGrant
    | .interactive => false
    | .removal => true

/-- The refresh token at the place afterwards, given the one before. -/
def leaves (e : LocalEvent) (key : StoreKey) (kept : Option Secret) : Option Secret :=
  if e.ends key then none else e.brought? key <|> kept

/-- It redeems the refresh token for the place. -/
def Redeems (e : LocalEvent) (key : StoreKey) (token : Secret) : Prop :=
  e.target? = some key ∧ ∃ request ∈ e.sent, request.grant = .refreshToken token

end LocalEvent

/-! ### Controllers that share a store -/

/-- Surroundings with a store, in which the requests for tokens are noted. -/
structure LocalSetting (σ : Type) where
  store : Place σ TokenStore
  requests : σ → List TokenRequest
  requests_set : ∀ t s, requests (store.set t s) = requests s

/-- What is left of an acquisition with the person, and for what it is. -/
abbrev Ongoing (σ : Type) := Parameters × Work σ (Except Failure Acquisition)

namespace LocalSetting

variable {σ : Type} {w : LocalSetting σ} {c : LocalController σ} {p : Parameters} {s s' s'' : σ}
  {reported : Except Failure Acquisition}

/-- Nothing is stored, and no token is asked for. -/
def Passes (w : LocalSetting σ) (s s' : σ) : Prop :=
  w.store.get s' = w.store.get s ∧ w.requests s' = w.requests s

theorem Passes.rfl : w.Passes s s := ⟨Eq.refl _, Eq.refl _⟩

theorem Passes.trans (h : w.Passes s s') (h' : w.Passes s' s'') : w.Passes s s'' :=
  ⟨h'.1.trans h.1, h'.2.trans h.2⟩

/-- The controller keeps its tokens in the store and asks for tokens in the usual way. Its strategy
notes each request, and does not touch the store; what shows a page and waits for it does neither,
if the session does not. -/
structure Shares (w : LocalSetting σ) (c : LocalController σ) : Prop where
  vault : c.vault = .ofStore w.store
  usual : c.strategy.tokenRequest = .redeeming
  accepts : ∀ p record s, w.Passes s (c.strategy.accepts p record s).2
  untouched : ∀ request s, w.store.Untouched s (c.strategy.requestToken request s).2
  noted : ∀ request s, w.requests (c.strategy.requestToken request s).2 = w.requests s ++ [request]
  authorize : ∀ p session, session.Obeys w.Passes →
    ∀ s, (c.strategy.authorize p c.screen session).run.Obeys w.Passes s

/-- The requests that were noted since. -/
def sent (w : LocalSetting σ) (s s' : σ) : List TokenRequest :=
  (w.requests s').drop (w.requests s).length

/-- One step: others do something else; an acquisition without the person, or a removal; or an
acquisition with the person begins, goes on, or ends. -/
inductive Step (w : LocalSetting σ) :
    List (Ongoing σ) × σ → Option LocalEvent → List (Ongoing σ) × σ → Prop
  | others {ongoing s s'} (passed : w.Passes s s') : Step w (ongoing, s) none (ongoing, s')
  | silent {c p now ongoing s reported s'} (shares : w.Shares c)
    (ran : (c.acquireSilentAt p now).run s = (reported, s')) :
    Step w (ongoing, s) (some ⟨.silent, p, w.sent s s', reported.toOption⟩) (ongoing, s')
  | removal {c p ongoing s reported s'} (shares : w.Shares c)
    (ran : (c.removeAccount p).run s = (reported, s')) :
    Step w (ongoing, s) (some ⟨.removal, p, w.sent s s', none⟩) (ongoing, s')
  | begins {c p session ongoing s} (shares : w.Shares c) (aside : session.Obeys w.Passes) :
    Step w (ongoing, s) none ((p, (c.acquireInteractive p session).run) :: ongoing, s)
  | goesOn {before p work alarm rest after s s'}
      (ran : work.advance s = (.waiting alarm rest, s')) :
    Step w (before ++ (p, work) :: after, s) none (before ++ (p, rest) :: after, s')
  | ends {before p work result after s s'} (ran : work.advance s = (.ended result, s')) :
    Step w (before ++ (p, work) :: after, s)
      (some ⟨.interactive, p, w.sent s s', result.toOption.bind Except.toOption⟩)
      (before ++ after, s')

/-- Any number of steps, with the events among them. -/
inductive Runs (w : LocalSetting σ) :
    List (Ongoing σ) × σ → List LocalEvent → List (Ongoing σ) × σ → Prop
  | stop {x} : Runs w x [] x
  | quiet {x y z events} (step : w.Step x none y) (later : Runs w y events z) : Runs w x events z
  | event {x y z e events} (step : w.Step x (some e) y) (later : Runs w y events z) :
    Runs w x (e :: events) z

/-! ### What an event does -/

/-- What is true of an event, by the surroundings before and after. -/
structure Tells (w : LocalSetting σ) (e : LocalEvent) (s s' : σ) : Prop where
  noted : w.requests s' = w.requests s ++ e.sent
  kept : ∀ key,
    (w.store.get s').refreshTokenOf key = e.leaves key ((w.store.get s).refreshTokenOf key)
  /-- A refresh token that is redeemed is the one that was kept for the account. -/
  redeemed : ∀ request ∈ e.sent, ∀ token, request.grant = .refreshToken token → ∃ key,
    e.target? = some key ∧ request.clientId = key.clientId ∧
      (w.store.get s).refreshTokenOf key = some token

theorem sent_of_noted {requests : List TokenRequest}
    (h : w.requests s' = w.requests s ++ requests) :
    w.sent s s' = requests := by
  rw [sent, h, List.drop_left]

theorem leaves_of_tokenless {e : LocalEvent} (key : StoreKey) (kept : Option Secret)
    (h : ∀ a, e.acquired = some a → a.token = none) (hremoval : e.operation ≠ .removal) :
    e.leaves key kept = kept := by
  rcases e with ⟨operation, p, requests, _ | a⟩
  · cases operation <;> simp_all [LocalEvent.leaves, LocalEvent.ends, LocalEvent.brought?]
  · have htoken := h a rfl
    have hcode : a.tokenErrorCode = none := by
      rw [Acquisition.tokenErrorCode, htoken]
      rfl
    have hbrought : a.brought? p.clientId key = none := by
      rw [Acquisition.brought?, htoken]
      cases a.issued? <;> simp
    cases operation <;> simp_all [LocalEvent.leaves, LocalEvent.ends, LocalEvent.brought?]

/-- An operation that asked for no token. -/
theorem tells_of_passes {operation : LocalOperation} {acquired : Option Acquisition}
    (h : w.Passes s s') (tokenless : ∀ a, acquired = some a → a.token = none)
    (hremoval : operation ≠ .removal) :
    w.Tells ⟨operation, p, w.sent s s', acquired⟩ s s' := by
  have hsent : w.sent s s' = [] := sent_of_noted (h.2.trans (List.append_nil _).symm)
  rw [hsent]
  refine ⟨h.2.trans (List.append_nil _).symm, fun key => ?_, fun _ hr => nomatch hr⟩
  rw [h.1, leaves_of_tokenless key _ tokenless hremoval]

theorem Shares.consulted (h : w.Shares c) (record : Credentials) (now : Moment) :
    w.Passes s (c.consulted p record now s) :=
  LocalController.consulted_allowed .rfl (h.accepts p record s)

/-- A grant that is redeemed is asked for once. -/
theorem Shares.answer (h : w.Shares c) {x : Redemption} {result : Except Failure TokenResult}
    (answer : x.answer c p s = (result, s')) :
    w.store.Untouched s s' ∧ w.requests s' = w.requests s ++ [x.request c p] := by
  have hs : (c.strategy.requestToken (x.request c p) s).2 = s' := congrArg Prod.snd answer
  exact ⟨hs ▸ h.untouched (x.request c p) s, hs ▸ h.noted (x.request c p) s⟩

theorem brought?_filed {x : Redemption} {result : TokenResult} {r : Receipt}
    (filing : x.Filing c p s result r s')
    (authorized : x.authorization.all AuthorizationResult.isSuccess = true) (before : TokenStore)
    (key : StoreKey) :
    (⟨x.authorization, some result, some (r.issued p before)⟩ : Acquisition).brought?
        p.clientId key =
      if r.key p = key then r.response.refreshToken else none := by
  rw [Acquisition.brought?, Acquisition.issued?, if_pos (filing.succeeded authorized before),
    Option.bind_some, Option.bind_some, TokenResult.response_of_response? filing.came]
  rfl

/-- What a grant that is redeemed does to the refresh tokens, and that it is asked for once. -/
theorem Shares.course (shares : w.Shares c) {x : Redemption}
    (h : x.Course c w.store p s (reported, s'))
    (authorized : x.authorization.all AuthorizationResult.isSuccess = true) :
    w.requests s' = w.requests s ++ [x.request c p] ∧ ∀ key,
      (w.store.get s').refreshTokenOf key =
        if x.stake? = some key ∧
            reported.toOption.any (fun a => a.tokenErrorCode = some Code.invalidGrant) = true then
          none
        else (reported.toOption.bind fun a => a.brought? p.clientId key) <|>
          (w.store.get s).refreshTokenOf key := by
  cases h with
  | unanswered answer | unowned answer _ _ | undated answer _ _ =>
    obtain ⟨hstore, hrequests⟩ := shares.answer answer
    refine ⟨hrequests, fun key => ?_⟩
    rw [hstore]
    simp [Except.toOption]
  | @refused result s₁ answer empty =>
    obtain ⟨hstore, hrequests⟩ := shares.answer answer
    have hbrought : ∀ key,
        (⟨x.authorization, some result, none⟩ : Acquisition).brought? p.clientId key = none :=
      fun key => by simp [Acquisition.brought?, Acquisition.issued?]
    have hcode : decide ((⟨x.authorization, some result, none⟩ : Acquisition).tokenErrorCode =
        some Code.invalidGrant) = result.error.any fun e => e.error = Code.invalidGrant := by
      rw [Bool.eq_iff_iff, TokenResult.any_error_iff, decide_eq_true_iff]
      rfl
    -- nothing is supplied, and the error decides whether the token at stake stays
    simp only [Except.toOption, Option.any_some, Option.bind_some, hbrought, hcode]
    rw [Redemption.afterRefusal]
    cases hstake : x.stake? with
    | none =>
      refine ⟨hrequests, fun key => ?_⟩
      rw [hstore]
      simp
    | some stake =>
      dsimp only
      split
      · rename_i hrefused
        refine ⟨(w.requests_set _ _).trans hrequests, fun key => ?_⟩
        rw [w.store.get_set, hstore, TokenStore.refreshTokenOf_dropCredential]
        by_cases hkey : stake = key
        · simp [hkey, hrefused]
        · simp [hkey, Ne.symm hkey]
      · rename_i hrefused
        refine ⟨hrequests, fun key => ?_⟩
        rw [hstore]
        simp [hrefused]
  | @filed result r s₁ filing =>
    obtain ⟨hstore, hrequests⟩ := shares.answer filing.answer
    refine ⟨(w.requests_set _ _).trans hrequests, fun key => ?_⟩
    have hcode :=
      Acquisition.tokenErrorCode_of_succeeded (filing.succeeded authorized (w.store.get s₁))
    have hbrought := brought?_filed filing authorized (w.store.get s₁) key
    have hkept : (w.store.get s₁).refreshTokenOf key = (w.store.get s).refreshTokenOf key := by
      rw [hstore]
    rw [w.store.get_set, Receipt.refreshTokenOf_file, hkept]
    simp [Except.toOption, hcode, hbrought]

/-- An operation that redeemed a grant. -/
theorem tells_of_course {operation : LocalOperation} {x : Redemption} {s₁ : σ} (shares : w.Shares c)
    (passed : w.Passes s s₁) (h : x.Course c w.store p s₁ (reported, s'))
    (authorized : x.authorization.all AuthorizationResult.isSuccess = true)
    (hends : ∀ key requests,
      (⟨operation, p, requests, reported.toOption⟩ : LocalEvent).ends key = true ↔
      x.stake? = some key ∧
      reported.toOption.any (fun a => a.tokenErrorCode = some Code.invalidGrant) = true)
    (held : ∀ token, x.grant = .refreshToken token → ∃ account, p.account = some account ∧
      (w.store.get s).refreshTokenOf ⟨p.clientId, account.homeAccountId⟩ = some token) :
    w.Tells ⟨operation, p, w.sent s s', reported.toOption⟩ s s' := by
  obtain ⟨hrequests, hkept⟩ := shares.course h authorized
  rw [passed.2] at hrequests
  rw [sent_of_noted hrequests]
  refine ⟨hrequests, fun key => ?_, fun request hrequest token hgrant => ?_⟩
  · rw [hkept, passed.1, LocalEvent.leaves]
    simp only [hends, LocalEvent.brought?]
  · obtain rfl := List.mem_singleton.mp hrequest
    rw [Redemption.request, shares.usual] at hgrant ⊢
    obtain ⟨account, hasked, htoken⟩ := held token hgrant
    exact ⟨_, congrArg _ hasked, rfl, htoken⟩

theorem tells_silent {now : Moment} (shares : w.Shares c)
    (ran : (c.acquireSilentAt p now).run s = (reported, s')) :
    w.Tells ⟨.silent, p, w.sent s s', reported.toOption⟩ s s' := by
  have hcourse := LocalController.silentCourse shares.vault p now s
  rw [ran] at hcourse
  cases hcourse with
  | absent _ => exact tells_of_passes .rfl (fun _ h => nomatch h) nofun
  | served _ _ _ _ =>
    refine tells_of_passes (shares.consulted _ now) ?_ nofun
    rintro a ⟨⟩
    rfl
  | exhausted _ _ _ _ => exact tells_of_passes (shares.consulted _ now) (fun _ h => nomatch h) nofun
  | @refreshed account record token _ asked found withheld held course =>
    have hstake : (Redemption.ofStored p record token now).stake? =
        some ⟨p.clientId, account.homeAccountId⟩ := by
      rw [Redemption.ofStored, TokenStore.homeAccountId_of_find? found]
    refine tells_of_course shares (shares.consulted record now) course rfl
      (fun key requests => ?_) ?_
    · rw [hstake, LocalEvent.ends, LocalEvent.target?]
      simp [asked]
    · rintro _ ⟨⟩
      refine ⟨account, asked, ?_⟩
      rw [TokenStore.refreshTokenOf, found]
      exact held

theorem tells_interactive {s₁ : σ} (shares : w.Shares c) (passed : w.Passes s s₁)
    (h : c.ConcludingCourse w.store p s₁ (reported, s')) :
    w.Tells ⟨.interactive, p, w.sent s s', reported.toOption⟩ s s' := by
  cases h with
  | failed => exact tells_of_passes passed (fun _ h => nomatch h) nofun
  | declined =>
    refine tells_of_passes passed ?_ nofun
    rintro a ⟨⟩
    rfl
  | redeemed agreed course =>
    refine tells_of_course shares passed course (AuthorizationResult.isSuccess_of_grant? agreed)
      (fun key requests => ?_) nofun
    simp [LocalEvent.ends, Redemption.ofPage]

theorem tells_removal {removed : Except Failure Bool} (shares : w.Shares c)
    (ran : (c.removeAccount p).run s = (removed, s')) :
    w.Tells ⟨.removal, p, w.sent s s', none⟩ s s' := by
  rw [LocalController.removeAccount] at ran
  cases hasked : p.account with
  | none =>
    rw [hasked] at ran
    obtain rfl : s = s' := congrArg Prod.snd ran
    rw [sent_of_noted (List.append_nil _).symm]
    refine ⟨(List.append_nil _).symm, fun key => ?_, fun _ hr => nomatch hr⟩
    simp [LocalEvent.leaves, LocalEvent.ends, LocalEvent.target?, LocalEvent.brought?, hasked]
  | some account =>
    rw [hasked, shares.vault] at ran
    let key : StoreKey := ⟨p.clientId, account.homeAccountId⟩
    obtain rfl : w.store.set ((w.store.get s).remove key) s = s' := congrArg Prod.snd ran
    have hrequests :
        w.requests (w.store.set ((w.store.get s).remove key) s) = w.requests s ++ [] := by
      rw [w.requests_set, List.append_nil]
    rw [sent_of_noted hrequests]
    refine ⟨hrequests, fun other => ?_, fun _ hr => nomatch hr⟩
    rw [w.store.get_set, TokenStore.refreshTokenOf_remove]
    simp [LocalEvent.leaves, LocalEvent.ends, LocalEvent.target?, LocalEvent.brought?, hasked,
      key, eq_comm]

/-- What is left of any acquisition with the person. -/
def Sound (w : LocalSetting σ) (ongoing : List (Ongoing σ)) : Prop :=
  ∀ o ∈ ongoing, ∃ c, w.Shares c ∧ c.Unconcluded w.Passes o.1 o.2

/-- **Every step.** -/
theorem Step.tells {x y : List (Ongoing σ) × σ} {e? : Option LocalEvent} (h : w.Step x e? y)
    (sound : w.Sound x.1) : w.Sound y.1 ∧ match e? with
      | none => w.Passes x.2 y.2
      | some e => w.Tells e x.2 y.2 := by
  cases h with
  | others passed => exact ⟨sound, passed⟩
  | silent shares ran => exact ⟨sound, tells_silent shares ran⟩
  | removal shares ran => exact ⟨sound, tells_removal shares ran⟩
  | @begins c p session ongoing s shares aside =>
    refine ⟨?_, .rfl⟩
    rintro o (_ | ⟨_, ho⟩)
    · exact ⟨c, shares,
        LocalController.unconcluded_acquireInteractive (shares.authorize p session aside)⟩
    · exact sound o ho
  | @goesOn before p work alarm rest after s s' ran =>
    obtain ⟨c, shares, hwork⟩ := sound (p, work) (by simp)
    have hgo := hwork.go shares.vault (fun _ => .rfl) Passes.trans s
    rw [ran] at hgo
    cases hgo with
    | waits allowed left =>
      refine ⟨fun o ho => ?_, allowed⟩
      rcases List.mem_append.mp ho with ho | ho
      · exact sound o (List.mem_append_left _ ho)
      rcases List.mem_cons.mp ho with rfl | ho
      · exact ⟨c, shares, left⟩
      · exact sound o (by simp [ho])
  | @ends before p work result after s s' ran =>
    obtain ⟨c, shares, hwork⟩ := sound (p, work) (by simp)
    refine ⟨fun o ho => sound o ?_, ?_⟩
    · rcases List.mem_append.mp ho with ho | ho <;> simp [ho]
    have hgo := hwork.go shares.vault (fun _ => .rfl) Passes.trans s
    rw [ran] at hgo
    cases hgo with
    | breaks allowed => exact tells_of_passes allowed (fun _ h => nomatch h) nofun
    | concludes allowed course => exact tells_interactive shares allowed course

end LocalSetting

end SignOn
