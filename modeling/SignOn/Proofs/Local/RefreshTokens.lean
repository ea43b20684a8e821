import SignOn.Proofs.Local.Scripted

/-! # Refresh tokens that are no good any more

Whatever happens in the course of time, a refresh token that is redeemed for an account is the one
that was stored for it last (`Runs.tells`). So one that was refused, replaced, or removed with its
account is not redeemed again unless the server supplied it again in between. -/

namespace SignOn

namespace LocalEvent

/-- The refresh token that is kept at a place after some events, given the one before: what was
supplied last, unless it was ended since. -/
def keptAfter (events : List LocalEvent) (key : StoreKey) (kept : Option Secret) : Option Secret :=
  events.foldl (fun kept e => e.leaves key kept) kept

/-- The refresh token is no good for the place any more: the server refused the one that was
redeemed, or supplied another one, or the account was removed. -/
def Buries (e : LocalEvent) (key : StoreKey) (token : Secret) : Prop :=
  e.ends key = true ∨ ∃ other, e.brought? key = some other ∧ other ≠ token

variable {e : LocalEvent} {key : StoreKey} {token : Secret} {kept : Option Secret}

theorem brought?_of_leaves (h : e.leaves key kept = some token) :
    e.brought? key = some token ∨ kept = some token := by
  rw [leaves] at h
  split at h
  · cases h
  · cases hb : e.brought? key with
    | none =>
      rw [hb] at h
      exact .inr h
    | some other =>
      rw [hb] at h
      exact .inl h

theorem Buries.leaves_ne (h : e.Buries key token) : e.leaves key kept ≠ some token := by
  rw [leaves]
  rcases h with hends | ⟨other, hbrought, hne⟩
  · rw [if_pos hends]
    simp
  · split
    · simp
    · rw [hbrought]
      exact fun he => hne (Option.some.inj he)

/-- A token that is kept now and was not kept before was supplied. -/
theorem brought?_of_keptAfter {events : List LocalEvent}
    (h : keptAfter events key kept = some token) (hne : kept ≠ some token) :
    ∃ e ∈ events, e.brought? key = some token := by
  induction events generalizing kept with
  | nil => exact absurd h hne
  | cons e events ih =>
    by_cases hleaves : e.leaves key kept = some token
    · exact ⟨e, .head _, (brought?_of_leaves hleaves).resolve_right hne⟩
    · obtain ⟨x, hx, hbrought⟩ := ih h hleaves
      exact ⟨x, .tail _ hx, hbrought⟩

end LocalEvent

namespace LocalSetting

open LocalEvent

variable {σ : Type} {w : LocalSetting σ} {x y : List (Ongoing σ) × σ} {events : List LocalEvent}

/-- **Every run**: each request is one of an event, the refresh tokens are those that the events
leave, and each of them that is redeemed is the one that was kept for the account. -/
theorem Runs.tells (h : w.Runs x events y) (sound : w.Sound x.1) :
    w.requests y.2 = w.requests x.2 ++ events.flatMap (·.sent) ∧
    (∀ key, (w.store.get y.2).refreshTokenOf key =
      keptAfter events key ((w.store.get x.2).refreshTokenOf key)) ∧
    ∀ before e after, events = before ++ e :: after → ∀ request ∈ e.sent, ∀ token,
      request.grant = .refreshToken token → ∃ key, e.target? = some key ∧
        request.clientId = key.clientId ∧
        keptAfter before key ((w.store.get x.2).refreshTokenOf key) = some token := by
  induction h with
  | stop => exact ⟨by simp, fun _ => rfl, fun before e after he => by simp at he⟩
  | quiet step _ ih =>
    obtain ⟨hsound, hstore, hrequests⟩ := step.tells sound
    have hlater := ih hsound
    rwa [hstore, hrequests] at hlater
  | @event x y z e events step _ ih =>
    obtain ⟨hsound, hnoted, hkept, hredeemed⟩ := step.tells sound
    obtain ⟨hrequests, hlast, hlater⟩ := ih hsound
    refine ⟨?_, fun key => ?_, fun before e' after he request hrequest token hgrant => ?_⟩
    · rw [hrequests, hnoted, List.flatMap_cons, List.append_assoc]
    · rw [hlast, hkept]
      rfl
    -- the first event is told by the step, the later ones from the surroundings that it leaves
    · cases before with
      | nil =>
        cases he
        exact hredeemed request hrequest token hgrant
      | cons first before =>
        cases he
        obtain ⟨key, htarget, hclient, hheld⟩ :=
          hlater before e' after rfl request hrequest token hgrant
        refine ⟨key, htarget, hclient, ?_⟩
        rw [hkept] at hheld
        exact hheld

/-- **Dead refresh tokens stay dead.** In any run, a refresh token that is redeemed is the one that
was stored last for the client and the account. Once the server refused it, a response that was
stored replaced it, or the account was removed, it is not redeemed again for that client and
account, unless another response supplied it in between. -/
theorem refresh_tokens_stay_dead {s s' : σ} {ongoing : List (Ongoing σ)}
    (h : w.Runs ([], s) events (ongoing, s')) :
    w.requests s' = w.requests s ++ events.flatMap (·.sent) ∧
    (∀ key, (w.store.get s').refreshTokenOf key =
      keptAfter events key ((w.store.get s).refreshTokenOf key)) ∧
    (∀ before e after, events = before ++ e :: after → ∀ request ∈ e.sent, ∀ token,
      request.grant = .refreshToken token → ∃ key, e.target? = some key ∧
        request.clientId = key.clientId ∧
        keptAfter before key ((w.store.get s).refreshTokenOf key) = some token) ∧
    ∀ before first between second after key token,
      events = before ++ first :: between ++ second :: after → first.Buries key token →
      second.Redeems key token → ∃ e ∈ between, e.brought? key = some token := by
  have sound : w.Sound [] := fun _ ho => nomatch ho
  obtain ⟨hrequests, hkept, hredeemed⟩ := h.tells sound
  refine ⟨hrequests, hkept, hredeemed, ?_⟩
  rintro before first between second after key token he hburied ⟨htarget, request, hrequest, hgrant⟩
  obtain ⟨key', htarget', -, hheld⟩ :=
    hredeemed (before ++ first :: between) second after he request hrequest token hgrant
  obtain rfl : key = key' := Option.some.inj (htarget.symm.trans htarget')
  -- right after `first` the token is not kept, and right before `second` it is
  rw [keptAfter, List.foldl_append, List.foldl_cons] at hheld
  exact brought?_of_keptAfter hheld hburied.leaves_ne

end LocalSetting

namespace Rehearsal.OneApp

/-- The server refuses the refresh token, then takes a code, and then the refresh token that came
with it. -/
def answers : List TokenResult := [refused, given "at-1" "rt-1" none, given "at-2" "rt-2" none]

/-- The stage after the refusal. -/
def turnedDown : Stage := ((app.acquireSilentAt parameters Sample.returned).run (paged answers)).2

/-- The acquisition with the person. -/
def signIn : Work Stage (Except Failure Acquisition) :=
  (app.acquireInteractive parameters (Stage.stepSession session)).run

/-- The stage after it. -/
def signedIn : Stage := (signIn.advance turnedDown).2

/-- A request that is not content with what is stored. -/
def insisting : Parameters := { parameters with forceRefresh := true }

/-- The stage after another refresh. -/
def renewed : Stage := ((app.acquireSilentAt insisting Sample.returnedLater).run signedIn).2

theorem runs_answers : ∃ refusal page refresh,
    (LocalRole.settingOf "app").Runs ([], paged answers) [refusal, page, refresh] ([], renewed) ∧
    refusal.Buries key ⟨"rt-1"⟩ ∧ refresh.Redeems key ⟨"rt-1"⟩ := by
  have refusal : (app.acquireSilentAt parameters Sample.returned).run (paged answers) =
      (_, turnedDown) := rfl
  have page : signIn.advance turnedDown = (.ended _, signedIn) := rfl
  have refresh : (app.acquireSilentAt insisting Sample.returnedLater).run signedIn = (_, renewed) :=
    rfl
  refine ⟨_, _, _, .event (.silent shares_app refusal)
    (.quiet (.begins shares_app (LocalRole.obeys_stepSession session))
      (.event (@LocalSetting.Step.ends _ _ [] parameters signIn _ [] _ _ page)
        (.event (.silent shares_app refresh) .stop))), ?_, ?_⟩
  · exact .inl rfl
  · exact ⟨rfl, _, .head _, rfl⟩

/-- After the refusal a refresh token is redeemed again, since the sign-on in between supplied
it. -/
theorem refresh_tokens_stay_dead_answers : ∃ refusal page refresh : LocalEvent,
    refusal.Buries key ⟨"rt-1"⟩ ∧ refresh.Redeems key ⟨"rt-1"⟩ ∧ page.brought? key = some ⟨"rt-1"⟩ ∧
    LocalEvent.keptAfter [refusal, page, refresh] key (some ⟨"rt-0"⟩) = some ⟨"rt-2"⟩ := by
  obtain ⟨refusal, page, refresh, hruns, hburied, hredeems⟩ := runs_answers
  obtain ⟨-, hkept, -, hdead⟩ := LocalSetting.refresh_tokens_stay_dead hruns
  obtain ⟨e, he, hbrought⟩ := hdead [] refusal [page] refresh [] key _ rfl hburied hredeems
  obtain rfl := List.mem_singleton.mp he
  exact ⟨refusal, e, refresh, hburied, hredeems, hbrought, (hkept key).symm⟩

end Rehearsal.OneApp

end SignOn
