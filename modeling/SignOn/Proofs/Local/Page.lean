import SignOn.Proofs.Local.Course

/-! # Acquisitions with the person

An acquisition with the person waits while a page is shown, and others go on meanwhile. What is left
of it at any of its waits is the strategy's part, followed by `conclude`, which does not wait. So a
go of it either leaves it waiting, or breaks off, or ends in a `ConcludingCourse`: `Unconcluded.go`
says so once and for all.

The strategy's part, and the session, are of the application. `KeepsIn` says what is relied on of
them where the tokens are looked at. -/

namespace SignOn

namespace LocalController

variable {σ : Type} {c : LocalController σ} {store : Place σ TokenStore} {p : Parameters} {s : σ}
  {R : σ → σ → Prop}

/-! ### After the page -/

/-- What is done once the page came back. -/
def conclude (c : LocalController σ) (p : Parameters) :
    Except Failure AuthorizationResult → Work σ (Except Failure Acquisition)
  | .error f => .ended (.error f)
  | .ok authorization =>
    match authorization.grant? with
    | none => .ended (.ok (.ofAuthorization authorization))
    | some grant => Work.act (c.redeem p authorization grant).run

theorem acquireInteractive_run (c : LocalController σ) (p : Parameters)
    (session : SessionHandle σ) :
    (c.acquireInteractive p session).run =
      (c.strategy.authorize p c.screen session).run >>= c.conclude p := by
  rw [acquireInteractive, ExceptT.run_bind]
  congr 1
  funext came
  rcases came with f | authorization
  · rfl
  dsimp only
  rw [conclude]
  cases authorization.grant? <;> rfl

/-- How an acquisition with the person may go once the page came back: the strategy fails; the
person did not agree; or the code is redeemed. -/
inductive ConcludingCourse (c : LocalController σ) (store : Place σ TokenStore)
    (p : Parameters) (s : σ) :
    Except Failure Acquisition × σ → Prop
  | failed {f} : ConcludingCourse c store p s (.error f, s)
  | declined {authorization} :
      ConcludingCourse c store p s (.ok (.ofAuthorization authorization), s)
  | redeemed {authorization grant out} (agreed : authorization.grant? = some grant)
    (course : (Redemption.ofPage p authorization grant).Course c store p s out) :
    ConcludingCourse c store p s out

theorem advance_conclude (vault : c.vault = .ofStore store) (p : Parameters)
    (came : Except Failure AuthorizationResult) (s : σ) :
    ∃ out : Except Failure Acquisition × σ,
      (c.conclude p came).advance s = (.ended (.ok out.1), out.2) ∧
      c.ConcludingCourse store p s out := by
  rcases came with f | authorization
  · exact ⟨_, rfl, .failed⟩
  rw [conclude]
  cases agreed : authorization.grant? with
  | none => exact ⟨_, rfl, .declined⟩
  | some grant =>
    exact ⟨_, Work.advance_act _ s, .redeemed agreed (course_redeem vault authorization grant)⟩

/-! ### From go to go -/

/-- What may be left of an acquisition: a part that obeys the rule, and then what is done once the
page came back. -/
def Unconcluded (c : LocalController σ) (R : σ → σ → Prop) (p : Parameters)
    (w : Work σ (Except Failure Acquisition)) : Prop :=
  ∃ rest, w = rest >>= c.conclude p ∧ ∀ s, rest.Obeys R s

/-- How a go may end: the work waits again, it broke off, or it took a course from where the page
came back. -/
inductive Go (c : LocalController σ) (store : Place σ TokenStore) (R : σ → σ → Prop)
    (p : Parameters) (s : σ) : Work.Progress σ (Except Failure Acquisition) × σ → Prop
  | waits {alarm rest s'} (allowed : R s s') (left : c.Unconcluded R p rest) :
    Go c store R p s (.waiting alarm rest, s')
  | breaks {payload s'} (allowed : R s s') : Go c store R p s (.ended (.error payload), s')
  | concludes {s₁ out s'} (allowed : R s s₁) (course : c.ConcludingCourse store p s₁ (out, s')) :
    Go c store R p s (.ended (.ok out), s')

theorem unconcluded_acquireInteractive {session : SessionHandle σ}
    (authorize : ∀ s, (c.strategy.authorize p c.screen session).run.Obeys R s) :
    c.Unconcluded R p (c.acquireInteractive p session).run :=
  ⟨_, c.acquireInteractive_run p session, authorize⟩

section Preorder

variable (vault : c.vault = .ofStore store) (refl : ∀ s, R s s)
  (trans : ∀ {s s' s''}, R s s' → R s' s'' → R s s'') {w rest : Work σ (Except Failure Acquisition)}

include vault refl trans

/-- **Every go of an acquisition with the person.** -/
theorem Unconcluded.go (h : c.Unconcluded R p w) (s : σ) : c.Go store R p s (w.advance s) := by
  obtain ⟨rest, rfl, hobeys⟩ := h
  obtain ⟨hallowed, hleft⟩ := (hobeys s).advance refl trans
  rw [Work.advance_bind]
  rcases hp : rest.advance s with ⟨(payload | came) | ⟨alarm, rest'⟩, s₁⟩
  all_goals rw [hp] at hallowed hleft
  · exact .breaks hallowed
  · obtain ⟨out, hout, hcourse⟩ := advance_conclude vault p came s₁
    change c.Go store R p s ((c.conclude p came).advance s₁)
    rw [hout]
    exact .concludes hallowed hcourse
  -- the page has not come back yet, so `conclude` is still to come after what is left
  · exact .waits hallowed ⟨rest', rfl, hleft alarm rest' rfl⟩

/-- However often it goes on, and whatever others do meanwhile, the same can be said of what is
left. -/
theorem Unconcluded.remains (h : c.Unconcluded R p w) (hr : w.Remains rest) :
    c.Unconcluded R p rest := by
  induction hr with
  | whole => exact h
  | @later w s alarm next s' _ waiting _ ih =>
    have hgo := h.go vault refl (fun h₁ h₂ => trans h₁ h₂) s
    rw [waiting] at hgo
    cases hgo with
    | waits _ left => exact ih left

/-- If others keep to the rule while it waits, an acquisition that ends with a result took a course
from a state that the rule allows. -/
theorem Unconcluded.reaches (h : c.Unconcluded R p w) {s s' : σ} {out : Except Failure Acquisition}
    (hr : Work.Reaches R w s (.ended (.ok out)) s') :
    ∃ s₁, R s s₁ ∧ c.ConcludingCourse store p s₁ (out, s') := by
  -- by induction on the goes, of which only the last one ends with a result
  generalize hprogress : Work.Progress.ended (.ok out) = progress at hr
  induction hr with
  | here w s =>
    have hgo := h.go vault refl (fun h₁ h₂ => trans h₁ h₂) s
    rcases hp : w.advance s with ⟨progress, s'⟩
    rw [hp] at hgo hprogress
    obtain rfl : Work.Progress.ended (.ok out) = progress := hprogress
    cases hgo with
    | concludes allowed course => exact ⟨_, allowed, course⟩
  | @on w s _ _ _ _ _ _ waiting passed _ ih =>
    have hgo := h.go vault refl (fun h₁ h₂ => trans h₁ h₂) s
    rw [waiting] at hgo
    cases hgo with
    | waits allowed left =>
      obtain ⟨s₁, hs₁, hcourse⟩ := ih left hprogress
      exact ⟨s₁, trans (trans allowed passed) hs₁, hcourse⟩

end Preorder

end LocalController

/-! ### The parts of the application -/

namespace Work

variable {σ α β : Type} {R : σ → σ → Prop}

/-- Work that may fail, and goes on if it does not. -/
theorem Obeys.andThen {flow : Flow σ α} {k : α → Flow σ β} {s : σ} (h : flow.run.Obeys R s)
    (hk : ∀ a s', (k a).run.Obeys R s') : (flow >>= k).run.Obeys R s := by
  rw [ExceptT.run_bind]
  refine h.bind fun result s' => ?_
  rcases result with f | a
  · trivial
  · exact hk a s'

end Work

/-- The usual way to authorize obeys what the request of the page, its presentation and the session
obey. -/
theorem obeys_authorizeWith {σ : Type} {R : σ → σ → Prop}
    {requestPage : Action σ AuthorizationRequest} {screen : Screen σ} {session : SessionHandle σ}
    {outcome : AuthorizationRequest → Continuation → AuthorizationResult} (refl : ∀ s, R s s)
    (request : ∀ s, R s (requestPage s).2) (present : ∀ launch s, R s (screen.present launch s).2)
    (resolve : session.Obeys R) (s : σ) :
    (authorizeWith requestPage screen session outcome).run.Obeys R s := by
  rw [authorizeWith]
  refine Work.Obeys.andThen (Work.obeys_act request s) fun page s₁ => ?_
  refine Work.Obeys.andThen (Work.obeys_act (present _) s₁) fun _ s₂ => ?_
  refine Work.Obeys.andThen (resolve.wait refl s₂) fun signal s₃ => ?_
  cases signal <;> trivial

/-- The controller keeps its tokens in the store, and nothing else of it touches the store: neither
the strategy nor, if the session does not, what shows the page and waits for it. -/
structure LocalController.KeepsIn {σ : Type} (c : LocalController σ) (store : Place σ TokenStore) :
    Prop where
  vault : c.vault = .ofStore store
  accepts : ∀ p record s, store.Untouched s (c.strategy.accepts p record s).2
  requestToken : ∀ request s, store.Untouched s (c.strategy.requestToken request s).2
  authorize : ∀ p session, session.Obeys store.Untouched →
    ∀ s, (c.strategy.authorize p c.screen session).run.Obeys store.Untouched s

namespace LocalController.KeepsIn

variable {σ : Type} {c : LocalController σ} {store : Place σ TokenStore} {p : Parameters} {s s' : σ}

theorem answer (h : c.KeepsIn store) {x : Redemption} {result : Except Failure TokenResult}
    (answer : x.answer c p s = (result, s')) : store.Untouched s s' := by
  have hs := h.requestToken (x.request c p) s
  rwa [show (c.strategy.requestToken (x.request c p) s).2 = s' from congrArg Prod.snd answer] at hs

theorem consulted (h : c.KeepsIn store) (record : Credentials) (now : Moment) :
    store.Untouched s (c.consulted p record now s) :=
  LocalController.consulted_allowed .rfl (h.accepts p record s)

end LocalController.KeepsIn

end SignOn
