import SignOn.Identity.Account

/-! # The token store

Credentials by client and home account, at most one record for each pair, in ascending order of the
pairs. A record is filed under the home account that its own account has. Both rules are part of the
type: the order gives every listing its order, and the filing says whose tokens a look-up finds. -/

namespace SignOn

open Json

/-- Whose credentials: the client they were issued to and the account they are for. -/
structure StoreKey where
  clientId : ClientId
  homeAccountId : HomeAccountId
  deriving DecidableEq

namespace StoreKey

/-- The order of the records: by client, then by account. -/
def before (a b : StoreKey) : Bool :=
  a.clientId.text < b.clientId.text ||
    (a.clientId.text = b.clientId.text && a.homeAccountId.text < b.homeAccountId.text)

/-- The written fields. -/
def form : Form StoreKey := StoreKey.mk <$> .required "client_id" <*> .required "home_account_id"

instance : Wire StoreKey where
  encode k := .ofMembers
    [("client_id", Wire.encode k.clientId), ("home_account_id", Wire.encode k.homeAccountId)]
  decode := form.decode "CacheKey"

theorem ext_text {a b : StoreKey} (hc : a.clientId.text = b.clientId.text)
    (hh : a.homeAccountId.text = b.homeAccountId.text) : a = b := by
  obtain ⟨⟨c, _⟩, ⟨h, _⟩⟩ := a
  obtain ⟨⟨d, _⟩, ⟨i, _⟩⟩ := b
  simp_all

theorem before_trans {a b c : StoreKey} (hab : a.before b = true) (hbc : b.before c = true) :
    a.before c = true := by
  simp only [before, Bool.or_eq_true, decide_eq_true_eq, Bool.and_eq_true] at *
  rcases hab with hab | ⟨eab, hab⟩ <;> rcases hbc with hbc | ⟨ebc, hbc⟩
  · exact .inl (String.lt_trans hab hbc)
  · exact .inl (ebc ▸ hab)
  · exact .inl (eab ▸ hbc)
  · exact .inr ⟨eab.trans ebc, String.lt_trans hab hbc⟩

theorem before_of_not_before {a b : StoreKey} (h : a.before b = false) (hne : a ≠ b) :
    b.before a = true := by
  simp only [before, Bool.or_eq_false_iff, decide_eq_false_iff_not, Bool.and_eq_false_iff,
    Bool.or_eq_true, decide_eq_true_eq, Bool.and_eq_true] at *
  by_cases ec : a.clientId.text = b.clientId.text
  · rcases h.2 with h2 | h2
    · exact absurd ec h2
    · refine .inr ⟨ec.symm, Std.lt_of_le_of_ne (String.not_lt.mp h2) fun e => ?_⟩
      exact hne (ext_text ec e.symm)
  · exact .inl (Std.lt_of_le_of_ne (String.not_lt.mp h.1) fun e => ec e.symm)

theorem not_before_self (a : StoreKey) : a.before a = false := by
  have hc := decide_eq_false (String.lt_irrefl a.clientId.text)
  have hh := decide_eq_false (String.lt_irrefl a.homeAccountId.text)
  simp only [before, hc, hh, Bool.and_false, Bool.or_false]

end StoreKey

/-- The records of a store. -/
structure TokenStore where
  entries : List (StoreKey × Credentials)
  ordered : entries.Pairwise fun a b => a.1.before b.1 = true
  filed : ∀ e ∈ entries, e.2.account.homeAccountId = e.1.homeAccountId

namespace TokenStore

instance : DecidableEq TokenStore := fun a b =>
  if h : a.entries = b.entries then isTrue (by cases a; cases b; simp_all)
  else isFalse fun e => h (by rw [e])

/-- The store with no record. -/
def empty : TokenStore := ⟨[], List.Pairwise.nil, by simp⟩

instance : Inhabited TokenStore := ⟨empty⟩

/-- How many records there are. -/
def size (s : TokenStore) : Nat := s.entries.length

/-- The record of a pair. -/
def find? (s : TokenStore) (key : StoreKey) : Option Credentials := s.entries.lookup key

/-! ### Changing -/

/-- The entries with the record of a pair set. -/
def setEntry (key : StoreKey) (record : Credentials) :
    List (StoreKey × Credentials) → List (StoreKey × Credentials)
  | [] => [(key, record)]
  | e :: es =>
    if key.before e.1 then (key, record) :: e :: es
    else if key = e.1 then (key, record) :: es
    else e :: setEntry key record es

theorem mem_setEntry {key : StoreKey} {record : Credentials} {es : List (StoreKey × Credentials)}
    {x : StoreKey × Credentials} (h : x ∈ setEntry key record es) :
    x = (key, record) ∨ x ∈ es := by
  induction es with
  | nil => simpa [setEntry] using h
  | cons e es ih =>
    simp only [setEntry] at h
    split at h
    · simpa using h
    · split at h
      · rcases List.mem_cons.mp h with h | h
        · exact .inl h
        · exact .inr (List.mem_cons_of_mem _ h)
      · rcases List.mem_cons.mp h with h | h
        · exact .inr (by simp [h])
        · rcases ih h with h | h
          · exact .inl h
          · exact .inr (List.mem_cons_of_mem _ h)

theorem ordered_setEntry {key : StoreKey} {record : Credentials}
    {es : List (StoreKey × Credentials)}
    (h : es.Pairwise fun a b => a.1.before b.1 = true) :
    (setEntry key record es).Pairwise fun a b => a.1.before b.1 = true := by
  induction es with
  | nil => simp [setEntry]
  | cons e es ih =>
    have he := List.pairwise_cons.mp h
    simp only [setEntry]
    split
    · rename_i hb
      refine List.pairwise_cons.mpr ⟨fun x hx => ?_, h⟩
      rcases List.mem_cons.mp hx with rfl | hx
      · exact hb
      · exact StoreKey.before_trans hb (he.1 x hx)
    · split
      · rename_i hk
        refine List.pairwise_cons.mpr ⟨fun x hx => ?_, he.2⟩
        exact hk ▸ he.1 x hx
      · rename_i hb hk
        refine List.pairwise_cons.mpr ⟨fun x hx => ?_, ih he.2⟩
        rcases mem_setEntry hx with rfl | hx
        · exact StoreKey.before_of_not_before (by simpa using hb) hk
        · exact he.1 x hx

/-- The record that saving leaves for a pair: what is new, and what was there of the families that
the new record does not have. -/
def merged (old : Option Credentials) (new : Credentials) : Credentials :=
  match old with
  | none => new
  | some old => old.renewed new

theorem account_merged (old : Option Credentials) (new : Credentials) :
    (merged old new).account = new.account := by
  cases old <;> rfl

/-- Where a record of a client belongs. -/
def keyOf (clientId : ClientId) (record : Credentials) : StoreKey :=
  ⟨clientId, record.account.homeAccountId⟩

/-- The record that saving leaves. -/
def savedRecord (s : TokenStore) (clientId : ClientId) (record : Credentials) : Credentials :=
  merged (s.find? (keyOf clientId record)) record

/-- The store after a record of a client was saved. -/
def save (s : TokenStore) (clientId : ClientId) (record : Credentials) : TokenStore where
  entries := setEntry (keyOf clientId record) (s.savedRecord clientId record) s.entries
  ordered := ordered_setEntry s.ordered
  filed e he := by
    rcases mem_setEntry he with rfl | he
    · simp [savedRecord, account_merged, keyOf]
    · exact s.filed e he

/-- The store without the record of a pair. -/
def remove (s : TokenStore) (key : StoreKey) : TokenStore where
  entries := s.entries.filter fun e => e.1 ≠ key
  ordered := s.ordered.filter _
  filed e he := s.filed e (List.mem_filter.mp he).1

/-- A record without the credentials of a family, if it is the one of the pair. -/
def dropFrom (key : StoreKey) (kind : CredentialKind) (e : StoreKey × Credentials) :
    StoreKey × Credentials :=
  if e.1 = key then (e.1, e.2.drop kind) else e

theorem fst_dropFrom (key : StoreKey) (kind : CredentialKind) (e : StoreKey × Credentials) :
    (dropFrom key kind e).1 = e.1 := by
  unfold dropFrom
  split <;> rfl

theorem account_dropFrom (key : StoreKey) (kind : CredentialKind) (e : StoreKey × Credentials) :
    (dropFrom key kind e).2.account = e.2.account := by
  unfold dropFrom
  split
  · cases kind <;> rfl
  · rfl

/-- The store with one family of credentials of a pair left out. -/
def dropCredential (s : TokenStore) (key : StoreKey) (kind : CredentialKind) : TokenStore where
  entries := s.entries.map (dropFrom key kind)
  ordered := by
    rw [List.pairwise_map]
    simpa only [fst_dropFrom] using s.ordered
  filed e he := by
    obtain ⟨d, hd, rfl⟩ := List.mem_map.mp he
    rw [account_dropFrom, fst_dropFrom]
    exact s.filed d hd

/-! ### Asking -/

/-- The records of an account, none or one. -/
def load (s : TokenStore) (clientId : ClientId) (homeAccountId : HomeAccountId) :
    List Credentials :=
  (s.find? ⟨clientId, homeAccountId⟩).toList

/-- Is there a credential of a family for the pair? -/
def hasCredential (s : TokenStore) (key : StoreKey) (kind : CredentialKind) : Bool :=
  ((s.find? key).map fun c => c.has kind).getD false

/-- The accounts of a client, in ascending order. -/
def accounts (s : TokenStore) (clientId : ClientId) : List Account :=
  (s.entries.filter fun e => e.1.clientId = clientId).map fun e => e.2.account

/-- The account of a pair. -/
def byHome (s : TokenStore) (key : StoreKey) : Option Account := (s.find? key).map (·.account)

/-- An account of a client by the name it has in its tenant. -/
def byLocal (s : TokenStore) (clientId : ClientId) (localAccountId : LocalAccountId) :
    Option Account :=
  (s.accounts clientId).find? fun a => a.localAccountId = some localAccountId

end TokenStore

end SignOn
