import SignOn.Proofs.Identity.Key
import SignOn.Proofs.Local.History
import SignOn.Proofs.Time.Moment
import SignOn.Rehearsal.Cast

/-! # A scripted local controller

The scripted parts of a local controller answer by their script and note what they were asked. None
of them touches the store, so a controller of a rehearsal keeps its tokens in its store
(`keepsIn_play`) unless the store is made to fail, and it asks for tokens in the usual way
(`shares_play`). `OneApp` is one such controller with the tokens of one account, which can be
followed by hand. -/

namespace SignOn

namespace Rehearsal

open Stage

namespace LocalRole

variable {owner : String} {s : Stage}

/-- The store of a controller, and the requests that it noted. -/
def settingOf (owner : String) : LocalSetting Stage where
  store := storeOf owner
  requests s := ((propsOf owner).get s).requests
  requests_set t s := by
    change ((propsOf owner).get ((propsOf owner).set _ s)).requests = _
    rw [Place.get_set]

/-- A note that a controller makes of something else. -/
theorem passes_set {props : Props} (hstore : props.store = ((propsOf owner).get s).store)
    (hrequests : props.requests = ((propsOf owner).get s).requests) :
    (settingOf owner).Passes s ((propsOf owner).set props s) := by
  change ((propsOf owner).get ((propsOf owner).set props s)).store = _ ∧
    ((propsOf owner).get ((propsOf owner).set props s)).requests = _
  rw [Place.get_set]
  exact ⟨hstore, hrequests⟩

theorem nextToken_notes (request : TokenRequest) (s : Stage) :
    (storeOf owner).Untouched s (nextToken owner request s).2 ∧
      (settingOf owner).requests (nextToken owner request s).2 =
        (settingOf owner).requests s ++ [request] := by
  have noted : ∀ props : Props, (storeOf owner).Untouched s ((propsOf owner).set props s) ∧
      (settingOf owner).requests ((propsOf owner).set props s) =
        (settingOf owner).requests s ++ [request] ↔
      props.store = ((propsOf owner).get s).store ∧
        props.requests = ((propsOf owner).get s).requests ++ [request] := by
    intro props
    change ((propsOf owner).get ((propsOf owner).set props s)).store = _ ∧
      ((propsOf owner).get ((propsOf owner).set props s)).requests = _ ↔ _
    rw [Place.get_set]
    rfl
  unfold nextToken
  dsimp only
  split <;> exact (noted _).mpr ⟨rfl, rfl⟩

theorem passes_resolveStepSession (signal : Signal) (s : Stage) :
    (settingOf owner).Passes s (resolveStepSession signal s).2 := by
  unfold resolveStepSession
  cases s.session <;> exact .rfl

theorem obeys_stepSession (session : Session) :
    (stepSession session).Obeys (settingOf owner).Passes :=
  passes_resolveStepSession

theorem passes_resolveCurrent (signal : Signal) (s : Stage) :
    (settingOf owner).Passes s (resolveCurrent signal s).2 := by
  unfold resolveCurrent
  cases s.session with
  | some session => exact passes_resolveStepSession signal s
  | none =>
    dsimp only
    cases s.dispatcher.registry.active <;> exact .rfl

theorem passes_present (script : ScreenScript) (launch : Launch) (s : Stage) :
    (settingOf owner).Passes s ((script.screen owner).present launch s).2 := by
  have noted : ∀ s', (settingOf owner).Passes s' (noteLaunch owner launch s').2 :=
    fun _ => passes_set rfl rfl
  cases script with
  | ignore => exact noted s
  | respond continuation => exact (passes_resolveCurrent _ s).trans (noted _)
  | cancel => exact (passes_resolveCurrent _ s).trans (noted _)
  | fail failure => exact .rfl

theorem passes_requestPage (role : LocalRole) (p : Parameters) (s : Stage) :
    (settingOf owner).Passes s ((role.strategy owner).requestPage p s).2 := by
  unfold strategy
  cases role.pageFailure <;> exact .rfl

/-- What a scripted controller does to get a page answered obeys any rule that notes and the session
obey. -/
theorem obeys_authorize_play {R : Stage → Stage → Prop} {role : LocalRole} {p : Parameters}
    {session : SessionHandle Stage} (passes : ∀ s s', (settingOf owner).Passes s s' → R s s')
    (aside : session.Obeys R) (s : Stage) :
    ((role.play owner).strategy.authorize p (role.play owner).screen session).run.Obeys R s := by
  exact obeys_authorizeWith (fun _ => passes _ _ .rfl)
    (fun s => passes _ _ (passes_requestPage role p s))
    (fun launch s => passes _ _ (passes_present role.screen launch s)) aside s

theorem vault_play {role : LocalRole} (faultless : role.faults = {}) :
    (role.play owner).vault = .ofStore (storeOf owner) := by
  change role.vault owner = _
  rw [LocalRole.vault, faultless]
  rfl

/-- **A scripted local controller keeps its tokens in its store.** -/
theorem keepsIn_play (role : LocalRole) (faultless : role.faults = {}) :
    (role.play owner).KeepsIn (storeOf owner) where
  vault := vault_play faultless
  accepts _ _ _ := rfl
  requestToken request s := (nextToken_notes request s).1
  authorize _ _ aside s := obeys_authorize_play (fun _ _ h => h.1) aside s

theorem shares_play (role : LocalRole) (faultless : role.faults = {}) :
    (settingOf owner).Shares (role.play owner) where
  vault := vault_play faultless
  usual := rfl
  accepts _ _ _ := .rfl
  untouched request s := (nextToken_notes request s).1
  noted request s := (nextToken_notes request s).2
  authorize _ _ aside s := obeys_authorize_play (fun _ _ h => h) aside s

end LocalRole

/-! ### One account -/

namespace OneApp

/-- The account. -/
def user : Account := .bare ⟨"uid.utid", by decide⟩ "login.example"

/-- A request for a token of it. -/
def parameters : Parameters := { Sample.parameters "a" with account := some user }

/-- Where its tokens are kept. -/
def key : StoreKey := ⟨Sample.client, user.homeAccountId⟩

/-- Tokens of which only the refresh token is any good now. -/
def ended : Credentials where
  account := user
  accessToken := some ⟨⟨"at-0"⟩, .empty, Sample.opened, Sample.begun⟩
  refreshToken := some ⟨"rt-0"⟩
  idToken := none

/-- The controller, the answers of the server, and what is stored for the account. -/
def role (answers : List TokenResult) (stored : Credentials) : LocalRole where
  tokens := answers
  rejectCached := false
  pageFailure := none
  seed := [(Sample.client, stored)]
  faults := {}
  expiryBuffer := none
  screen := .respond ⟨Continuation.browserFlow, Continuation.completed,
    ⟨[("code", .string "code-1"), ("state", .string pageState)]⟩⟩

/-- The controller. -/
def app : LocalController Stage := (role [] ended).play "app"

/-- Its store. -/
def store : Place Stage TokenStore := storeOf "app"

/-- The stage on which the server will answer so. -/
def stage (answers : List TokenResult) : Stage :=
  (Role.localApp (role answers ended)).prepare "app" default

theorem keepsIn_app : app.KeepsIn store := LocalRole.keepsIn_play _ rfl

theorem shares_app : (LocalRole.settingOf "app").Shares app := LocalRole.shares_play _ rfl

/-- The session of its page. -/
def session : Session := .standalone "a" none

/-- The stage on which the session is open as well. -/
def paged (answers : List TokenResult) : Stage := { stage answers with session := some session }

/-- The server does not take a grant any more. -/
def refused : TokenResult := ⟨none, some (.plain Code.invalidGrant), none⟩

/-- The server gives tokens for an hour, to an account if it names one. -/
def given (token refresh : String) (account : Option Account) : TokenResult where
  response := some ⟨⟨token⟩, some ⟨refresh⟩, none, .ofSeconds 3600, none, account⟩
  error := none
  telemetry := none

end OneApp

end Rehearsal

end SignOn
