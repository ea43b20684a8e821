import SignOn.Proofs.Identity.Key
import SignOn.Proofs.Json.Record
import SignOn.Proofs.Time.Moment
import SignOn.Broker.Reply

/-! # What is written is read back

A type is `Lossless` if what is written of a value is read as the value and is never null; the
second makes the type fit for a field that may be missing. Texts and moments are lossless, and so
are the texts that keep a rule, of which it is told what they are read from
(`Identifier.decode_eq_ok_iff`, `ScopeSet.decode_eq_ok_iff`, `Authority.decode_eq_ok_iff`), and the
records made of them. A URL is read back if its own text is read as it, which is asked of the URLs
that parameters hold (`Parameters.UrlsReparse`); with that, parameters are read back too
(`Parameters.readsBack`). -/

namespace SignOn

open Json

namespace Json

variable {α : Type}

/-- What is written of the value is read as the value. -/
def ReadsBack [Wire α] (a : α) : Prop := Wire.decode (Wire.encode a) = .ok a

/-- Every value is read back, and none is written as null. -/
class Lossless (α : Type) [Wire α] : Prop where
  readsBack : ∀ a : α, ReadsBack a
  notNull : ∀ a : α, Wire.encode a ≠ .null

instance : Lossless String := ⟨fun _ => rfl, fun _ => nofun⟩
instance : Lossless Bool := ⟨fun _ => rfl, fun _ => nofun⟩

theorem string_eq_ok_iff {v : Value} {s : String} : Decoder.string v = .ok s ↔ v = .string s := by
  cases v with
  | string t => exact ⟨fun h => Except.ok.inj h ▸ rfl, fun h => Value.string.inj h ▸ rfl⟩
  | _ => exact ⟨fun h => (nomatch h), fun h => (nomatch h)⟩

/-- A text that keeps its rule is read, and nothing else is. -/
theorem checked_eq_ok_iff {ε : Type} {parse : String → Except ε α} {message : ε → String}
    {v : Value} {a : α} :
    Decoder.checked parse message v = .ok a ↔ ∃ s, v = .string s ∧ parse s = .ok a := by
  rw [Decoder.checked, bind_eq_ok_iff]
  refine exists_congr fun s => and_congr string_eq_ok_iff ?_
  cases parse s with
  | ok b => exact ⟨fun h => by cases h; rfl, fun h => by cases h; rfl⟩
  | error e => exact ⟨fun h => (nomatch h), fun h => (nomatch h)⟩

theorem items_encode [Wire α] {as : List α} (h : ∀ a ∈ as, ReadsBack a) (taken : Nat) :
    Decoder.items Wire.decode taken (as.map Wire.encode) = .ok as := by
  induction as generalizing taken with
  | nil => rfl
  | cons a as ih =>
    obtain ⟨ha, has⟩ := List.forall_mem_cons.mp h
    exact bind_eq_ok_iff.mpr ⟨a, below_eq_ok_iff.mpr ha,
      bind_eq_ok_iff.mpr ⟨as, ih has (taken + 1), rfl⟩⟩

instance [Wire α] [Lossless α] : Lossless (List α) where
  readsBack _ := items_encode (fun a _ => Lossless.readsBack a) 0
  notNull _ := nofun

theorem option_of_ne_null {decode : Decoder α} {v : Value} (hv : v ≠ .null) :
    Decoder.option decode v = (decode v).map some := by
  cases v with
  | null => exact absurd rfl hv
  | _ => rfl

theorem readsBack_option [Wire α] [Lossless α] (o : Option α) : ReadsBack o := by
  cases o with
  | none => rfl
  | some a =>
    change Decoder.option Wire.decode (Wire.encode a) = _
    rw [option_of_ne_null (Lossless.notNull a), Lossless.readsBack a]
    rfl

end Json

/-! ### Texts that keep a rule -/

instance : Lossless Moment := ⟨Moment.decode_encode, fun _ => nofun⟩
instance : Lossless Secret := ⟨fun _ => rfl, fun _ => nofun⟩

namespace Identifier

variable {kind : IdentifierKind}

theorem decode_eq_ok_iff {v : Value} {id : Identifier kind} :
    (Wire.decode v : Except Fault (Identifier kind)) = .ok id ↔ v = .string id.text := by
  refine checked_eq_ok_iff.trans ⟨?_, fun h => ⟨id.text, h, parse_eq_ok_iff.mpr rfl⟩⟩
  rintro ⟨text, rfl, hparse⟩
  rw [parse_eq_ok_iff.mp hparse]

instance : Lossless (Identifier kind) := ⟨fun _ => decode_eq_ok_iff.mpr rfl, fun _ => nofun⟩

end Identifier

namespace ScopeSet

/-- The scopes of a set make the set. -/
theorem ofList_scopes (set : ScopeSet) : ofList set.scopes = .ok set := by
  obtain ⟨other, hother⟩ := exists_ofList set.wellFormed
  rw [hother, eq_iff.mpr (mem_of_ofList hother)]

theorem decode_eq_ok_iff {v : Value} {set : ScopeSet} :
    (Wire.decode v : Except Fault ScopeSet) = .ok set ↔
      ∃ texts, (Wire.decode v : Except Fault (List String)) = .ok texts ∧
        ofList texts = .ok set := by
  refine bind_eq_ok_iff.trans (exists_congr fun texts => and_congr_right fun _ => ?_)
  cases ofList texts with
  | error problem => exact ⟨fun h => (nomatch h), fun h => (nomatch h)⟩
  | ok set' => exact ⟨fun h => by cases h; rfl, fun h => by cases h; rfl⟩

instance : Lossless ScopeSet where
  readsBack set :=
    decode_eq_ok_iff.mpr ⟨set.scopes, Lossless.readsBack set.scopes, set.ofList_scopes⟩
  notNull _ := nofun

end ScopeSet

/-! ### Records -/

open Form (finds_field)

instance : Lossless Account where
  readsBack a := Form.Finds.decode_ofMembers
    (((((((finds_field rfl (Lossless.readsBack a.homeAccountId)).map Account.mk).seq
      (finds_field rfl (readsBack_option a.localAccountId))).seq
      (finds_field rfl (Lossless.readsBack a.environment))).seq
      (finds_field rfl (readsBack_option a.realm))).seq
      (finds_field rfl (readsBack_option a.username))).seq
      (finds_field rfl (readsBack_option a.name)))
    (by simp) _
  notNull _ := nofun

instance : Lossless IssuedToken where
  readsBack t := Form.Finds.decode_ofMembers
    (((((((((finds_field rfl (Lossless.readsBack t.accessToken)).map IssuedToken.mk).seq
      (finds_field rfl (Lossless.readsBack t.expiresOn))).seq
      (finds_field rfl (Lossless.readsBack t.scopes))).seq
      (finds_field rfl (Lossless.readsBack t.account))).seq
      (finds_field rfl (readsBack_option t.tenantId))).seq
      (finds_field rfl (readsBack_option t.idToken))).seq
      (finds_field rfl (Lossless.readsBack t.servedFromCache))).seq
      (finds_field rfl (readsBack_option t.correlationId)))
    (by simp) _
  notNull _ := nofun

instance : Lossless TokenReply where
  readsBack r := Form.Finds.decode_ofMembers
    ((finds_field rfl (Lossless.readsBack r.issued)).map TokenReply.mk) (by simp) _
  notNull _ := nofun

instance : Lossless AccountsReply where
  readsBack r := Form.Finds.decode_ofMembers
    ((finds_field rfl (Lossless.readsBack r.accounts)).map AccountsReply.mk) (by simp) _
  notNull _ := nofun

instance : Lossless RemovedReply where
  readsBack r := Form.Finds.decode_ofMembers
    ((finds_field rfl (Lossless.readsBack r.removed)).map RemovedReply.mk) (by simp) _
  notNull _ := nofun

instance : Lossless DeviceModeReply where
  readsBack r := Form.Finds.decode_ofMembers
    ((finds_field rfl (Lossless.readsBack r.shared)).map DeviceModeReply.mk) (by simp) _
  notNull _ := nofun

/-! ### URLs -/

namespace Url

theorem decode_eq_ok_iff {v : Value} {url : Url} :
    (Wire.decode v : Except Fault Url) = .ok url ↔ ∃ text, v = .string text ∧
      Url.parse text = .ok url := by
  cases v with
  | string text =>
    simp only [Wire.decode]
    cases hparse : Url.parse text <;> simp [hparse]
  | _ => exact ⟨fun h => (nomatch h), fun ⟨_, h, _⟩ => (nomatch h)⟩

/-- The text of the URL is read as the URL. -/
def Reparses (u : Url) : Prop := Url.parse u.text = .ok u

theorem reparses_iff {u : Url} : u.Reparses ↔ (Url.parse u.text).toOption = some u := by
  rw [Reparses]
  cases Url.parse u.text with
  | ok v => simp [Except.toOption]
  | error p => simp [Except.toOption]

instance (u : Url) : Decidable u.Reparses := decidable_of_iff _ reparses_iff.symm

theorem Reparses.readsBack {u : Url} (h : u.Reparses) : ReadsBack u :=
  decode_eq_ok_iff.mpr ⟨u.text, rfl, h⟩

end Url

namespace Authority

theorem ofUrl_eq_ok_iff {url : Url} {a : Authority} : ofUrl url = .ok a ↔ a.url = url := by
  constructor
  · intro h
    unfold ofUrl at h
    split at h
    · split at h
      · cases h; rfl
      · cases h
    · cases h
  · rintro rfl
    rw [ofUrl, dif_pos a.secure, dif_pos a.tenanted]

theorem decode_eq_ok_iff {v : Value} {a : Authority} :
    (Wire.decode v : Except Fault Authority) = .ok a ↔ ∃ text, v = .string text ∧
      Url.parse text = .ok a.url := by
  rw [← Url.decode_eq_ok_iff]
  refine bind_eq_ok_iff.trans ⟨?_, fun h => ⟨a.url, h, by rw [ofUrl_eq_ok_iff.mpr rfl]⟩⟩
  rintro ⟨url, hurl, h⟩
  cases ha : ofUrl url with
  | error problem => rw [ha] at h; cases h
  | ok a' =>
    rw [ha] at h
    cases h
    rwa [ofUrl_eq_ok_iff.mp ha]

theorem readsBack {a : Authority} (h : a.url.Reparses) : ReadsBack a :=
  decode_eq_ok_iff.mpr ⟨a.url.text, rfl, h⟩

end Authority

/-- The URL of the binding, if it has one, is read back. -/
def TokenBinding.UrlReparses : TokenBinding → Prop
  | .bearer => True
  | .proof _ url _ => url.Reparses

namespace TokenBinding

/-- A binding to a request is read from the members beside its tag. -/
theorem decode_pop {ms : List (String × Value)} (h : ms.lookup "scheme" = some (.string "pop")) :
    (Wire.decode (.object ms) : Except Fault TokenBinding) =
      aside (proofForm.readMembers (ms.filter fun m => m.1 ≠ "scheme")) := by
  simp only [Wire.decode, h]
  rfl

theorem readsBack {b : TokenBinding} (h : b.UrlReparses) : ReadsBack b := by
  cases b with
  | bearer => rfl
  | proof httpMethod url nonce =>
    let members : List (String × Value) :=
      [("scheme", .string "pop"), ("http_method", Wire.encode httpMethod),
        ("url", Wire.encode url), ("nonce", Wire.encode nonce)]
    let ms := Value.orderMembers members
    have hlook : ∀ name, ms.lookup name = members.lookup name :=
      lookup_orderMembers (by simp [members])
    -- the fields are read from what the tag leaves
    have hrest : ∀ name, name ≠ "scheme" →
        (ms.filter fun m => m.1 ≠ "scheme").lookup name = members.lookup name :=
      fun name hname => (lookup_filter_ne hname ms).trans (hlook name)
    have hfinds : proofForm.Finds (fun name => (ms.filter fun m => m.1 ≠ "scheme").lookup name)
        (.proof httpMethod url nonce) :=
      ((((finds_field ((hrest "http_method" (by decide)).trans rfl)
          (readsBack_option httpMethod)).map TokenBinding.proof).seq
        (finds_field ((hrest "url" (by decide)).trans rfl) (Url.Reparses.readsBack h))).seq
        (finds_field ((hrest "nonce" (by decide)).trans rfl) (readsBack_option nonce)))
    have hread :
        proofForm.readMembers (ms.filter fun m => m.1 ≠ "scheme") =
          .ok (.proof httpMethod url nonce) :=
      hfinds.byName.readMembers_eq_ok
        ((nodup_of_ordered (ordered_orderMembers members)).sublist (List.filter_sublist.map _))
        (hfinds.reads _ _ fun _ => rfl)
    exact (decode_pop (hlook "scheme")).trans (by rw [hread]; rfl)

end TokenBinding

/-- The URLs among the parameters are read back. -/
structure Parameters.UrlsReparse (p : Parameters) : Prop where
  authority : p.authority.url.Reparses
  binding : p.binding.UrlReparses

theorem Parameters.readsBack {p : Parameters} (h : p.UrlsReparse) : ReadsBack p :=
  Form.Finds.decode_ofMembers
    (((((((((((finds_field rfl (Lossless.readsBack p.clientId)).map Parameters.mk).seq
      (finds_field rfl (Lossless.readsBack p.redirectUri))).seq
      (finds_field rfl (Lossless.readsBack p.scopes))).seq
      (finds_field rfl (Authority.readsBack h.authority))).seq
      (finds_field rfl (readsBack_option p.account))).seq
      (finds_field rfl (TokenBinding.readsBack h.binding))).seq
      (finds_field rfl (readsBack_option p.correlationId))).seq
      (finds_field rfl (Lossless.readsBack p.forceRefresh))).seq
      (finds_field rfl (readsBack_option p.claims))).seq
      (finds_field rfl (readsBack_option p.requiredProtocol)))
    (by simp) _

end SignOn
