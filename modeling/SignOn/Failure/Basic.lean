import SignOn.Broker.Kind
import SignOn.Failure.Code

/-! # Failures

Everything that can go wrong on the way to a token is one of five failures: the client failed, the
server refused, the server wants to see the person, the person gave up, or the device must be
registered first. Each has a code, a message, and what the server told about itself.

A failure of a transport is none of them: the next transport is tried, and what failed is kept with
the failure that is reported in the end. -/

namespace SignOn

open Json

/-! ### What the server tells -/

/-- What a server tells about how it dealt with a request. -/
structure ServerTelemetry where
  speRing : Option String
  refreshTokenAge : Option String
  errorCode : Option String
  subErrorCode : Option String
  deriving DecidableEq, Repr, Inhabited

namespace ServerTelemetry

/-- Nothing told. -/
def none : ServerTelemetry := ⟨.none, .none, .none, .none⟩

/-- Is nothing told? -/
def isEmpty (t : ServerTelemetry) : Bool := t = none

/-- What is told in `new`, and elsewhere what was told in `old`. -/
def updated (old new : ServerTelemetry) : ServerTelemetry where
  speRing := new.speRing <|> old.speRing
  refreshTokenAge := new.refreshTokenAge <|> old.refreshTokenAge
  errorCode := new.errorCode <|> old.errorCode
  subErrorCode := new.subErrorCode <|> old.subErrorCode

/-- The written fields. -/
def form : Form ServerTelemetry :=
  ServerTelemetry.mk <$> .optional "spe_ring" <*> .optional "refresh_token_age"
    <*> .optional "server_error_code" <*> .optional "server_sub_error_code"

instance : Wire ServerTelemetry where
  encode t := .ofMembers
    [("spe_ring", Wire.encode t.speRing), ("refresh_token_age", Wire.encode t.refreshTokenAge),
      ("server_error_code", Wire.encode t.errorCode),
      ("server_sub_error_code", Wire.encode t.subErrorCode)]
  decode := form.decode "ServerTelemetry"

end ServerTelemetry

/-! ### Failures of a transport -/

/-- Where a transport broke. -/
inductive ReachFailure where
  | connection
  | unsupportedHere
  | unsupportedThere
  deriving DecidableEq, Repr, Inhabited

namespace ReachFailure

/-- The label in messages. -/
def label : ReachFailure → String
  | .connection => "connection_error"
  | .unsupportedHere => "operation_not_supported_on_client_side"
  | .unsupportedThere => "operation_not_supported_on_server_side"

/-- The written names. -/
def names : List (String × ReachFailure) :=
  [("ConnectionError", .connection), ("OperationNotSupportedOnClientSide", .unsupportedHere),
    ("OperationNotSupportedOnServerSide", .unsupportedThere)]

instance : Wire ReachFailure := ⟨fun k => .string (nameIn names k), Decoder.named names⟩

end ReachFailure

/-- A transport did not reach the broker. -/
structure TransportFailure where
  category : ReachFailure
  transport : TransportKind
  message : String
  source : Option String
  deriving DecidableEq, Repr, Inhabited

/-- The failure in words. -/
def TransportFailure.text (f : TransportFailure) : String :=
  f.transport.label ++ " could not reach the broker (" ++ f.category.label ++ "): " ++ f.message

/-! ### Failures of the store -/

/-- The token store failed. -/
inductive StoreFailure where
  | serialization (message : String)
  | backend (message : String)
  deriving DecidableEq, Repr, Inhabited

namespace StoreFailure

/-- The failure in words. -/
def text : StoreFailure → String
  | .serialization message => "Serialization error: " ++ message ++ "."
  | .backend message => "Backend failure: " ++ message ++ "."

/-- The content of a written failure. -/
def messageForm : Form String := .required "message"

instance : Wire StoreFailure where
  encode
    | .serialization message =>
      .object [("Serialization", .object [("message", .string message)])]
    | .backend message => .object [("Backend", .object [("message", .string message)])]
  decode := Decoder.variant ["Serialization", "Backend"] fun name inner => do
    let message ← Decoder.variantRecord name messageForm inner
    if name = "Serialization" then .ok (.serialization message) else .ok (.backend message)

end StoreFailure

/-! ### Causes -/

/-- What lies behind a failure of the client. -/
inductive Origin where
  | note (text : String)
  | io (text : String)
  | waitTimedOut
  | store (failure : StoreFailure)
  | transport (failure : TransportFailure)
  | unreadable (cause : Json.Cause)
  | unwritable (reason : String)
  deriving DecidableEq, Repr, Inhabited

namespace Origin

/-- The message of a wait that took too long. -/
def waitMessage : String := "Timed out waiting for the result."

/-- The causes in words, the outermost first. -/
def texts : Origin → List String
  | .note text => [text]
  | .io text => [text]
  | .waitTimedOut => [waitMessage]
  | .store failure => [failure.text]
  | .transport failure => failure.text :: failure.source.toList
  | .unreadable cause => [cause.message]
  | .unwritable reason => [reason]

end Origin

/-! ### The five failures -/

/-- The client failed. -/
structure ClientFailure where
  code : String
  message : String
  source : Option Origin
  suppressed : List TransportFailure
  telemetry : ServerTelemetry
  deriving DecidableEq, Repr, Inhabited

/-- A failure of the client of which only code and message are known. -/
def ClientFailure.plain (code message : String) : ClientFailure :=
  ⟨code, message, none, [], .none⟩

/-- A failure of the client with a cause. -/
def ClientFailure.because (code message : String) (source : Origin) : ClientFailure :=
  ⟨code, message, some source, [], .none⟩

/-- The server refused. -/
structure ServiceFailure where
  code : String
  message : String
  httpStatus : Option UInt16
  subError : Option String
  telemetry : ServerTelemetry
  deriving DecidableEq, Repr, Inhabited

/-- A refusal of which only code and message are known. -/
def ServiceFailure.plain (code message : String) : ServiceFailure :=
  ⟨code, message, none, none, .none⟩

/-- What went wrong. -/
inductive Failure where
  | client (failure : ClientFailure)
  | service (failure : ServiceFailure)
  | personRequired (failure : ServiceFailure)
  | cancelled (message : String)
  | deviceRegistration (failure : ServiceFailure) (username : Option String)
  deriving DecidableEq, Repr, Inhabited

/-- The kinds of failures, without what they carry. -/
inductive FailureKind where
  | client
  | service
  | personRequired
  | cancelled
  | deviceRegistration
  deriving DecidableEq, Repr, Inhabited

namespace FailureKind

/-- The label in records and counters. -/
def label : FailureKind → String
  | .client => "client"
  | .service => "service"
  | .personRequired => "ui_required"
  | .cancelled => "user_cancel"
  | .deviceRegistration => "device_registration_required"

/-- The written names. -/
def names : List (String × FailureKind) :=
  [("Client", .client), ("Service", .service), ("UiRequired", .personRequired),
    ("UserCancel", .cancelled), ("DeviceRegistrationRequired", .deviceRegistration)]

instance : Wire FailureKind := ⟨fun k => .string (nameIn names k), Decoder.named names⟩

end FailureKind

namespace Failure

/-- A failure of the client of which only code and message are known. -/
def plain (code message : String) : Failure := .client (.plain code message)

/-- A failure of the client with a cause. -/
def because (code message : String) (source : Origin) : Failure :=
  .client (.because code message source)

/-- The kind of a failure. -/
def kind : Failure → FailureKind
  | .client _ => .client
  | .service _ => .service
  | .personRequired _ => .personRequired
  | .cancelled _ => .cancelled
  | .deviceRegistration _ _ => .deviceRegistration

/-- The refusal of the server inside a failure. -/
def service? : Failure → Option ServiceFailure
  | .service f => some f
  | .personRequired f => some f
  | .deviceRegistration f _ => some f
  | .client _ => none
  | .cancelled _ => none

/-- The code. -/
def code : Failure → String
  | .client f => f.code
  | .service f => f.code
  | .personRequired f => f.code
  | .cancelled _ => Code.userCancelled
  | .deviceRegistration f _ => f.code

/-- The message. -/
def message : Failure → String
  | .client f => f.message
  | .service f => f.message
  | .personRequired f => f.message
  | .cancelled message => message
  | .deviceRegistration f _ => f.message

/-- The second code a server may give. -/
def subError (f : Failure) : Option String := f.service?.bind (·.subError)

/-- What the server told. -/
def telemetry? : Failure → Option ServerTelemetry
  | .client f => some f.telemetry
  | .service f => some f.telemetry
  | .personRequired f => some f.telemetry
  | .cancelled _ => none
  | .deviceRegistration f _ => some f.telemetry

/-- The failure with more of what the server told; what is told again is replaced. -/
def withTelemetry (f : Failure) (told : ServerTelemetry) : Failure :=
  match f with
  | .client f => .client { f with telemetry := f.telemetry.updated told }
  | .service f => .service { f with telemetry := f.telemetry.updated told }
  | .personRequired f => .personRequired { f with telemetry := f.telemetry.updated told }
  | .cancelled message => .cancelled message
  | .deviceRegistration f username =>
    .deviceRegistration { f with telemetry := f.telemetry.updated told } username

/-- Did the person give up? -/
def isCancelled : Failure → Bool
  | .cancelled _ => true
  | _ => false

/-- May a cache hand the failure out later? -/
def isCacheable (f : Failure) : Bool := !Code.passing.contains f.code

/-- The failure in words. -/
def text : Failure → String
  | .client f => f.code ++ ": " ++ f.message
  | .service f => f.code ++ ": " ++ f.message
  | .personRequired f => "Interaction required: " ++ (f.code ++ ": " ++ f.message)
  | .cancelled message => "User cancelled the flow: " ++ message ++ "."
  | .deviceRegistration f _ => "Device registration required: " ++ (f.code ++ ": " ++ f.message)

/-- The causes in words, the outermost first. -/
def sourceTexts : Failure → List String
  | .client f => (f.source.map Origin.texts).getD []
  | _ => []

/-- The failure of a command whose token store failed. -/
def ofStore (f : StoreFailure) : Failure := because Code.storageError f.text (.store f)

end Failure

end SignOn
