import Mathlib.Data.List.Induction
import SignOn.Proofs.Store.Records

/-! # What a store holds, told from its history

A store is asked and changed by calls, in any order and for any clients and accounts. What it holds
for a pair after a history of calls can be told from the history alone: it is what was saved for the
pair since it was last removed.

* `sinceLast`: the part of a history that counts.
* `Reflects`: the account is that of the latest of these saves, and each family of credentials is
  the one of the latest save that brought it since it was last taken away. A call for the pair keeps
  this (`Reflects.save`, `Reflects.removeAccount`, `Reflects.removeCredential`), and a call for
  another pair touches neither side (`find?_perform_of_apart`, `Reflects.apart`), so it is so after
  every history (`reflects_run`).
* `told_by_history`: what every question is answered after a history. -/

namespace SignOn

/-! ### The part of a history that counts -/

section Since

variable {α : Type} {p : α → Bool} {l : List α} {a : α}

/-- What follows the last item of which `p` is true, and everything if there is no such item. -/
def sinceLast (p : α → Bool) (l : List α) : List α := (l.reverse.takeWhile fun a => !p a).reverse

theorem sinceLast_concat_of_stop (h : p a = true) : sinceLast p (l ++ [a]) = [] := by
  simp [sinceLast, h]

theorem sinceLast_concat_of_pass (h : p a = false) :
    sinceLast p (l ++ [a]) = sinceLast p l ++ [a] := by
  simp [sinceLast, h]

end Since

/-! ### Calls -/

/-- What is asked of a store. -/
inductive StoreCall where
  | save (clientId : ClientId) (record : Credentials)
  | load (clientId : ClientId) (account : Account)
  | removeAccount (key : StoreKey)
  | removeCredential (key : StoreKey) (kind : CredentialKind)
  | byHome (key : StoreKey)
  | byLocal (clientId : ClientId) (localAccountId : LocalAccountId)
  | accounts (clientId : ClientId)

/-- What a store answers. -/
inductive StoreAnswer where
  | records (found : List Credentials)
  | removed (removed : Bool)
  | account (found : Option Account)
  | accounts (listed : List Account)
  deriving DecidableEq

/-- What a credential of a family is. -/
def CredentialKind.Content : CredentialKind → Type
  | .accessToken => AccessToken
  | .refreshToken => Secret
  | .idToken => Secret

/-- The credential of a family. -/
def Credentials.content (c : Credentials) : (kind : CredentialKind) → Option kind.Content
  | .accessToken => c.accessToken
  | .refreshToken => c.refreshToken
  | .idToken => c.idToken

namespace TokenStore

/-- The answer to a call, and the store after it. -/
def perform (s : TokenStore) : StoreCall → StoreAnswer × TokenStore
  | .save clientId record => (.records [s.savedRecord clientId record], s.save clientId record)
  | .load clientId account => (.records (s.load clientId account.homeAccountId), s)
  | .removeAccount key => (.removed (s.find? key).isSome, s.remove key)
  | .removeCredential key kind => (.removed (s.hasCredential key kind), s.dropCredential key kind)
  | .byHome key => (.account (s.byHome key), s)
  | .byLocal clientId localAccountId => (.account (s.byLocal clientId localAccountId), s)
  | .accounts clientId => (.accounts (s.accounts clientId), s)

/-- The store after calls. -/
def run (s : TokenStore) (calls : List StoreCall) : TokenStore :=
  calls.foldl (fun s call => (s.perform call).2) s

/-- The account of a client with a name in its tenant that is met first, the records being met in
the given order. -/
def localIn (order : List (StoreKey × Credentials)) (clientId : ClientId)
    (localAccountId : LocalAccountId) : Option Account :=
  ((order.filter fun e => e.1.clientId = clientId).map fun e => e.2.account).find?
    fun a => a.localAccountId = some localAccountId

end TokenStore

namespace StoreCall

variable {call : StoreCall} {calls : List StoreCall} {key : StoreKey} {kind : CredentialKind}

/-- The pair whose record a call may change. -/
def key? : StoreCall → Option StoreKey
  | .save clientId record => some (TokenStore.keyOf clientId record)
  | .removeAccount key => some key
  | .removeCredential key _ => some key
  | _ => none

/-- The record that a call saves for a pair. -/
def savedFor? (key : StoreKey) : StoreCall → Option Credentials
  | .save clientId record => if TokenStore.keyOf clientId record = key then some record else none
  | _ => none

/-- Does the call take the account of a pair out? -/
def removes (key : StoreKey) : StoreCall → Bool
  | .removeAccount other => other = key
  | _ => false

/-- Does the call take the credentials of a family of a pair away, alone or with the account? -/
def takes (key : StoreKey) (kind : CredentialKind) : StoreCall → Bool
  | .removeAccount other => other = key
  | .removeCredential other family => other = key && family = kind
  | _ => false

/-- The records saved for a pair since its account was last removed. -/
def savedSince (calls : List StoreCall) (key : StoreKey) : List Credentials :=
  (sinceLast (removes key) calls).filterMap (savedFor? key)

/-- The credentials of a family that were saved for a pair since they were last taken away. -/
def broughtSince (calls : List StoreCall) (key : StoreKey) (kind : CredentialKind) :
    List kind.Content :=
  (sinceLast (takes key kind) calls).filterMap fun call =>
    (call.savedFor? key).bind fun record => record.content kind

/-- The account of a pair as it was last saved, unless it was removed since. -/
def live? (calls : List StoreCall) (key : StoreKey) : Option Account :=
  (savedSince calls key).getLast?.map (·.account)

theorem savedSince_concat (h : call.removes key = false) :
    savedSince (calls ++ [call]) key = savedSince calls key ++ (call.savedFor? key).toList := by
  rw [savedSince, sinceLast_concat_of_pass h, List.filterMap_append]
  cases hsaved : call.savedFor? key <;> simp [savedSince, hsaved]

theorem broughtSince_concat (h : call.takes key kind = false) :
    broughtSince (calls ++ [call]) key kind =
      broughtSince calls key kind ++
        ((call.savedFor? key).bind fun record => record.content kind).toList := by
  rw [broughtSince, sinceLast_concat_of_pass h, List.filterMap_append]
  cases hbrought : (call.savedFor? key).bind fun record => record.content kind <;>
    simp [broughtSince, hbrought]

theorem savedSince_removed (h : call.removes key = true) :
    savedSince (calls ++ [call]) key = [] := by
  rw [savedSince, sinceLast_concat_of_stop h, List.filterMap_nil]

theorem broughtSince_taken (h : call.takes key kind = true) :
    broughtSince (calls ++ [call]) key kind = [] := by
  rw [broughtSince, sinceLast_concat_of_stop h, List.filterMap_nil]

/-- A call for another pair neither saves for a pair nor removes of it. -/
theorem apart_of_key? (h : call.key? ≠ some key) :
    call.savedFor? key = none ∧ call.removes key = false ∧ ∀ kind, call.takes key kind = false := by
  cases call with
  | save clientId record =>
    have hne : TokenStore.keyOf clientId record ≠ key := fun he => h (congrArg some he)
    exact ⟨if_neg hne, rfl, fun _ => rfl⟩
  | removeAccount other =>
    have hne : other ≠ key := fun he => h (congrArg some he)
    exact ⟨rfl, decide_eq_false hne, fun _ => decide_eq_false hne⟩
  | removeCredential other family =>
    have hne : other ≠ key := fun he => h (congrArg some he)
    exact ⟨rfl, rfl, fun _ => by simp [takes, hne]⟩
  | load | byHome | byLocal | accounts => exact ⟨rfl, rfl, fun _ => rfl⟩

end StoreCall

namespace TokenStore

open StoreCall

variable {s : TokenStore} {call : StoreCall} {calls : List StoreCall} {key : StoreKey}
  {kind : CredentialKind} {record : Credentials} {found : Option Credentials}

/-! ### One call -/

/-- A call for another pair leaves the record of a pair alone. -/
theorem find?_perform_of_apart (h : call.key? ≠ some key) :
    (s.perform call).2.find? key = s.find? key := by
  cases call with
  | save clientId record => exact find?_save_of_ne fun he => h (congrArg some he.symm)
  | removeAccount other => exact find?_remove_of_ne fun he => h (congrArg some he.symm)
  | removeCredential other family =>
    exact find?_dropCredential_of_ne fun he => h (congrArg some he.symm)
  | load | byHome | byLocal | accounts => rfl

theorem content_merged (old : Option Credentials) (new : Credentials) (kind : CredentialKind) :
    (merged old new).content kind = (new.content kind <|> old.bind fun c => c.content kind) := by
  cases old with
  | none => cases kind <;> simp [merged]
  | some old => cases kind <;> rfl

theorem content_drop_self (c : Credentials) (kind : CredentialKind) :
    (c.drop kind).content kind = none := by
  cases kind <;> rfl

theorem content_drop_of_ne {other : CredentialKind} (h : other ≠ kind) (c : Credentials) :
    (c.drop kind).content other = c.content other := by
  cases kind <;> cases other <;> first | rfl | exact absurd rfl h

theorem account_drop (c : Credentials) (kind : CredentialKind) :
    (c.drop kind).account = c.account := by
  cases kind <;> rfl

theorem has_eq_isSome (c : Credentials) (kind : CredentialKind) :
    c.has kind = (c.content kind).isSome := by
  cases kind <;> rfl

theorem drop_of_lacks {c : Credentials} (h : c.content kind = none) : c.drop kind = c := by
  cases c
  cases kind <;> cases h <;> rfl

theorem hasCredential_eq (s : TokenStore) (key : StoreKey) (kind : CredentialKind) :
    s.hasCredential key kind = ((s.find? key).bind fun c => c.content kind).isSome := by
  rw [hasCredential]
  cases s.find? key with
  | none => rfl
  | some c => exact has_eq_isSome c kind

theorem eq_of_entries {s t : TokenStore} (h : s.entries = t.entries) : s = t := by
  cases s
  cases t
  cases h
  rfl

/-- The removal of an account changes the store just if it tells that it removed one. -/
theorem remove_eq_iff : s.remove key = s ↔ (s.find? key).isSome = false := by
  constructor
  · intro heq
    rw [← heq, find?_remove_self]
    rfl
  · intro hnone
    rw [Option.isSome_eq_false_iff, Option.isNone_iff_eq_none, find?, List.lookup_eq_none_iff]
      at hnone
    refine eq_of_entries (List.filter_eq_self.mpr fun e he => decide_eq_true fun heq => ?_)
    exact bne_iff_ne.mp (hnone e he) heq.symm

/-- The removal of a credential changes the store just if it tells that it removed one. -/
theorem dropCredential_eq_iff :
    s.dropCredential key kind = s ↔ s.hasCredential key kind = false := by
  rw [hasCredential_eq, Option.isSome_eq_false_iff, Option.isNone_iff_eq_none]
  constructor
  · intro heq
    rw [← heq, find?_dropCredential_self]
    cases s.find? key with
    | none => rfl
    | some c => exact content_drop_self c kind
  · intro hlacks
    refine eq_of_entries ((List.map_congr_left fun e he => ?_).trans (List.map_id _))
    rw [dropFrom, id]
    split
    · rename_i hkey
      have hfound : s.find? key = some e.2 := find?_eq_some_iff.mpr (hkey ▸ he)
      rw [hfound, Option.bind_some] at hlacks
      rw [drop_of_lacks hlacks]
    · rfl

/-! ### A history -/

/-- What is found for a pair is what its history tells. -/
structure Reflects (calls : List StoreCall) (key : StoreKey) (found : Option Credentials) :
    Prop where
  account : found.map (·.account) = live? calls key
  content : ∀ kind, (found.bind fun c => c.content kind) = (broughtSince calls key kind).getLast?

theorem reflects_nil (key : StoreKey) : Reflects [] key none := ⟨rfl, fun _ => rfl⟩

theorem Reflects.apart (h : Reflects calls key found) (hkey : call.key? ≠ some key) :
    Reflects (calls ++ [call]) key found := by
  obtain ⟨hsaved, hremoves, htakes⟩ := apart_of_key? hkey
  refine ⟨?_, fun kind => ?_⟩
  · rw [live?, savedSince_concat hremoves, hsaved, Option.toList_none, List.append_nil]
    exact h.account
  · rw [broughtSince_concat (htakes kind), hsaved, Option.bind_none, Option.toList_none,
      List.append_nil]
    exact h.content kind

theorem Reflects.save {clientId : ClientId} (h : Reflects calls (keyOf clientId record) found) :
    Reflects (calls ++ [.save clientId record]) (keyOf clientId record)
      (some (merged found record)) := by
  have hsaved : savedFor? (keyOf clientId record) (.save clientId record) = some record :=
    if_pos rfl
  refine ⟨?_, fun kind => ?_⟩
  · rw [live?, savedSince_concat rfl, hsaved, Option.toList_some, List.getLast?_concat]
    exact congrArg some (account_merged found record)
  · rw [broughtSince_concat rfl, hsaved, Option.bind_some, Option.bind_some, content_merged]
    cases record.content kind with
    | none => simpa using h.content kind
    | some credential => simp

theorem Reflects.removeAccount (calls : List StoreCall) (key : StoreKey) :
    Reflects (calls ++ [.removeAccount key]) key none := by
  refine ⟨?_, fun kind => ?_⟩
  · rw [live?, savedSince_removed (by simp [removes])]
    rfl
  · rw [broughtSince_taken (by simp [takes])]
    rfl

theorem Reflects.removeCredential (h : Reflects calls key found) (kind : CredentialKind) :
    Reflects (calls ++ [.removeCredential key kind]) key (found.map fun c => c.drop kind) := by
  have hsaved : savedFor? key (.removeCredential key kind) = none := rfl
  refine ⟨?_, fun other => ?_⟩
  · rw [live?, savedSince_concat rfl, hsaved, Option.toList_none, List.append_nil]
    refine Eq.trans ?_ h.account
    cases found with
    | none => rfl
    | some c => exact congrArg some (account_drop c kind)
  · by_cases hother : other = kind
    · subst hother
      rw [broughtSince_taken (by simp [takes])]
      cases found with
      | none => rfl
      | some c => exact content_drop_self c other
    · have htakes : takes key other (.removeCredential key kind) = false := by
        simp [takes, Ne.symm hother]
      rw [broughtSince_concat htakes, hsaved, Option.bind_none, Option.toList_none, List.append_nil]
      refine Eq.trans ?_ (h.content other)
      cases found with
      | none => rfl
      | some c => exact content_drop_of_ne hother c

/-- One more call keeps what is found in line with the history. -/
theorem Reflects.perform (h : Reflects calls key (s.find? key)) (call : StoreCall) :
    Reflects (calls ++ [call]) key ((s.perform call).2.find? key) := by
  by_cases hkey : call.key? = some key
  · cases call with
    | save clientId record =>
      cases hkey
      exact (find?_save_self s clientId record).symm ▸ h.save
    | removeAccount other =>
      cases hkey
      exact (find?_remove_self s key).symm ▸ Reflects.removeAccount calls key
    | removeCredential other kind =>
      cases hkey
      exact (find?_dropCredential_self s key kind).symm ▸ h.removeCredential kind
    | load | byHome | byLocal | accounts => cases hkey
  · rw [find?_perform_of_apart hkey]
    exact h.apart hkey

theorem run_concat (s : TokenStore) (calls : List StoreCall) (call : StoreCall) :
    s.run (calls ++ [call]) = ((s.run calls).perform call).2 := by
  rw [run, List.foldl_append]
  rfl

/-- **What a store holds for a pair is what its history tells.** -/
theorem reflects_run (calls : List StoreCall) (key : StoreKey) :
    Reflects calls key ((empty.run calls).find? key) := by
  induction calls using List.reverseRecOn with
  | nil => exact reflects_nil key
  | append_singleton calls call ih =>
    rw [run_concat]
    exact ih.perform call

/-! ### What is told -/

theorem byLocal_eq_localIn (s : TokenStore) (clientId : ClientId)
    (localAccountId : LocalAccountId) :
    s.byLocal clientId localAccountId = localIn s.entries clientId localAccountId := rfl

/-- The accounts of a client are listed in the order of their names, each of them once. -/
theorem accounts_ascending (s : TokenStore) (clientId : ClientId) :
    (s.accounts clientId).Pairwise fun a b => a.homeAccountId.text < b.homeAccountId.text := by
  rw [accounts, List.pairwise_map]
  have hordered := (s.ordered.filter fun e => decide (e.1.clientId = clientId))
  refine hordered.imp_of_mem fun {a b} ha hb hbefore => ?_
  obtain ⟨hmemA, hclientA⟩ := List.mem_filter.mp ha
  obtain ⟨hmemB, hclientB⟩ := List.mem_filter.mp hb
  have hclient : a.1.clientId = b.1.clientId :=
    (of_decide_eq_true hclientA).trans (of_decide_eq_true hclientB).symm
  rw [StoreKey.before, hclient, decide_eq_false (String.lt_irrefl _)] at hbefore
  rw [s.filed a hmemA, s.filed b hmemB]
  simpa using hbefore

theorem mem_of_localIn {order : List (StoreKey × Credentials)} {clientId : ClientId}
    {localAccountId : LocalAccountId} {a : Account} (perm : order.Perm s.entries)
    (h : localIn order clientId localAccountId = some a) :
    a ∈ s.accounts clientId ∧ a.localAccountId = some localAccountId := by
  rw [localIn] at h
  refine ⟨?_, by simpa using List.find?_some h⟩
  exact ((perm.filter _).map _).mem_iff.mp (List.mem_of_find?_eq_some h)

theorem localIn_isSome_iff {order : List (StoreKey × Credentials)} {clientId : ClientId}
    {localAccountId : LocalAccountId} (perm : order.Perm s.entries) :
    (localIn order clientId localAccountId).isSome = true ↔
      ∃ a ∈ s.accounts clientId, a.localAccountId = some localAccountId := by
  constructor
  · intro hsome
    obtain ⟨a, ha⟩ := Option.isSome_iff_exists.mp hsome
    exact ⟨a, mem_of_localIn perm ha⟩
  · rintro ⟨a, hmem, hlocal⟩
    rw [localIn, List.find?_isSome]
    exact ⟨a, ((perm.filter _).map _).mem_iff.mpr hmem, decide_eq_true hlocal⟩

theorem mem_accounts_run {clientId : ClientId} {a : Account} :
    a ∈ (empty.run calls).accounts clientId ↔ live? calls ⟨clientId, a.homeAccountId⟩ = some a := by
  rw [mem_accounts_iff, ← (reflects_run calls _).account, Option.map_eq_some_iff]

/-- **The history of a store tells what it answers.** After any calls,

* loading an account finds nothing if there was no save for it since its last removal, and else one
  record: with the account of the last save, and of each family the credential of the last save that
  brought one since it was last taken away;
* a call for another client or another account changes nothing of that;
* a removal, of an account or of a credential, says that something was removed just if the store is
  another one after it;
* the accounts of a client are the live ones, each of them once, in ascending order;
* a look-up by name gives the live account, and a look-up by the name in the tenant a live account
  of that name just if there is one, in whatever order the records are met. -/
theorem told_by_history (calls : List StoreCall) :
    let s := empty.run calls
    (∀ clientId home,
      (savedSince calls ⟨clientId, home⟩ = [] → s.load clientId home = []) ∧
      ∀ last, (savedSince calls ⟨clientId, home⟩).getLast? = some last →
        ∃ record, s.load clientId home = [record] ∧ record.account = last.account ∧
          ∀ kind, record.content kind = (broughtSince calls ⟨clientId, home⟩ kind).getLast?) ∧
    (∀ call clientId home, call.key? ≠ some ⟨clientId, home⟩ →
      (s.perform call).2.load clientId home = s.load clientId home) ∧
    (∀ key, (s.perform (.removeAccount key)).1 = .removed true ↔
      (s.perform (.removeAccount key)).2 ≠ s) ∧
    (∀ key kind, (s.perform (.removeCredential key kind)).1 = .removed true ↔
      (s.perform (.removeCredential key kind)).2 ≠ s) ∧
    (∀ clientId,
      ((s.accounts clientId).Pairwise fun a b => a.homeAccountId.text < b.homeAccountId.text) ∧
      ∀ a, a ∈ s.accounts clientId ↔ live? calls ⟨clientId, a.homeAccountId⟩ = some a) ∧
    (∀ key, s.byHome key = live? calls key) ∧
    ∀ clientId localAccountId order, order.Perm s.entries →
      ((localIn order clientId localAccountId).isSome = true ↔
        ∃ a, live? calls ⟨clientId, a.homeAccountId⟩ = some a ∧
          a.localAccountId = some localAccountId) ∧
      ∀ a, localIn order clientId localAccountId = some a →
        live? calls ⟨clientId, a.homeAccountId⟩ = some a ∧
        a.localAccountId = some localAccountId := by
  intro s
  refine ⟨fun clientId home => ?_, fun call clientId home hkey => ?_, fun key => ?_,
    fun key kind => ?_,
    fun clientId => ⟨s.accounts_ascending clientId, fun a => mem_accounts_run⟩,
    fun key => (reflects_run calls key).account, fun clientId localAccountId order perm => ⟨?_, ?_⟩⟩
  · have h := reflects_run calls ⟨clientId, home⟩
    refine ⟨fun hnone => ?_, fun last hlast => ?_⟩
    · have haccount := h.account
      rw [live?, hnone, List.getLast?_nil, Option.map_none, Option.map_eq_none_iff] at haccount
      exact load_of_find?_none haccount
    · have haccount := h.account
      rw [live?, hlast, Option.map_some, Option.map_eq_some_iff] at haccount
      obtain ⟨record, hfound, heq⟩ := haccount
      refine ⟨record, load_of_find? hfound, heq, fun kind => ?_⟩
      rw [← h.content kind, hfound, Option.bind_some]
  · rw [load, load, find?_perform_of_apart hkey]
  · rw [Ne, perform, remove_eq_iff, Bool.not_eq_false, StoreAnswer.removed.injEq]
  · rw [Ne, perform, dropCredential_eq_iff, Bool.not_eq_false, StoreAnswer.removed.injEq]
  · simp only [localIn_isSome_iff perm, s, mem_accounts_run]
  · intro a ha
    obtain ⟨hmem, hlocal⟩ := mem_of_localIn perm ha
    exact ⟨mem_accounts_run.mp hmem, hlocal⟩

end TokenStore

end SignOn
