import SignOn.Json.Form

/-! # Ways to a broker and what it can be asked

A broker is an installed application that keeps the accounts of a device. It is reached over one of
three transports and answers eight calls. Both have a written name and a label; labels stand in
messages and in counters. -/

namespace SignOn

open Json

/-- A way to reach the broker. -/
inductive TransportKind where
  | contentProvider
  | boundService
  | accountManager
  deriving DecidableEq, Repr, Inhabited

namespace TransportKind

/-- The label in messages and counters. -/
def label : TransportKind → String
  | .contentProvider => "content_provider"
  | .boundService => "bound_service"
  | .accountManager => "account_manager"

/-- The written names. -/
def names : List (String × TransportKind) :=
  [("ContentProvider", .contentProvider), ("BoundService", .boundService),
    ("AccountManager", .accountManager)]

instance : Wire TransportKind := ⟨fun k => .string (nameIn names k), Decoder.named names⟩

end TransportKind

/-- What a broker can be asked. -/
inductive BrokerApi where
  | hello
  | interactiveLaunch
  | acquireTokenSilent
  | getAccounts
  | removeAccount
  | getDeviceMode
  | getCurrentAccount
  | signOutCurrentAccount
  deriving DecidableEq, Repr, Inhabited

namespace BrokerApi

/-- The label in messages and counters. -/
def label : BrokerApi → String
  | .hello => "hello"
  | .interactiveLaunch => "get_intent_for_interactive_request"
  | .acquireTokenSilent => "acquire_token_silent"
  | .getAccounts => "get_accounts"
  | .removeAccount => "remove_account"
  | .getDeviceMode => "get_device_mode"
  | .getCurrentAccount => "get_current_account_in_shared_device"
  | .signOutCurrentAccount => "sign_out_from_shared_device"

/-- The written names. -/
def names : List (String × BrokerApi) :=
  [("Hello", .hello), ("GetIntentForInteractiveRequest", .interactiveLaunch),
    ("AcquireTokenSilent", .acquireTokenSilent), ("GetAccounts", .getAccounts),
    ("RemoveAccount", .removeAccount), ("GetDeviceMode", .getDeviceMode),
    ("GetCurrentAccountInSharedDevice", .getCurrentAccount),
    ("SignOutFromSharedDevice", .signOutCurrentAccount)]

instance : Wire BrokerApi := ⟨fun k => .string (nameIn names k), Decoder.named names⟩

end BrokerApi

end SignOn
