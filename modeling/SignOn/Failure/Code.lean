/-! # Codes of failures

The stable texts by which callers tell failures apart. A code may also come from a server, so codes
are texts and the known ones have names. -/

namespace SignOn.Code

/-- Nothing better is known. -/
def unknownError : String := "unknown_error"
/-- A local file or socket failed. -/
def ioError : String := "io_error"
/-- A wait took too long. -/
def timedOut : String := "timed_out"
/-- The work was broken off. -/
def interruptedOperation : String := "interrupted_operation"
/-- No transport reached the broker. -/
def brokerBindServiceFailed : String := "broker_bind_service_failed"
/-- An answer of the broker could not be read. -/
def invalidBrokerBundle : String := "invalid_broker_bundle"
/-- The broker and the client have no protocol version in common. -/
def unsupportedBrokerVersion : String := "unsupported_broker_version"
/-- The account is not stored. -/
def noAccountFound : String := "no_account_found"
/-- The account has no token to use. -/
def noTokensFound : String := "no_tokens_found"
/-- The server no longer takes the token that was to be redeemed. -/
def invalidGrant : String := "invalid_grant"
/-- The server wants to see the person. -/
def interactionRequired : String := "interaction_required"
/-- The person gave up. -/
def userCancelled : String := "user_cancelled"
/-- A newer request took the place of this one. -/
def cancelledBySdk : String := "auth_cancelled_by_sdk"
/-- The device must be registered first. -/
def deviceRegistrationNeeded : String := "device_registration_needed"
/-- The authorization failed and said nothing. -/
def nullErrorResponse : String := "authorization_result_null_error_response"
/-- There is no network. -/
def deviceNetworkNotAvailable : String := "device_network_not_available"
/-- The lane takes no more commands. -/
def executorShutdown : String := "executor_shutdown"
/-- The controller cannot do this. -/
def unsupportedOperation : String := "unsupported_operation"
/-- There is no session to wait in. -/
def missingInteractiveSession : String := "missing_interactive_session"
/-- The token store failed. -/
def storageError : String := "storage_error"
/-- A token would end before it begins, or never. -/
def invalidTokenLifetime : String := "invalid_token_lifetime"
/-- The state of an authorization is not the one that was sent. -/
def stateMismatch : String := "state_mismatch"

/-- The codes of passing local failures, which no cache may hand out later. -/
def passing : List String :=
  [deviceNetworkNotAvailable, interruptedOperation, invalidBrokerBundle, ioError]

/-- The codes that are a failure of the client even where a broker reports them. -/
def ofClient : List String :=
  [unknownError, ioError, timedOut, interruptedOperation, brokerBindServiceFailed,
    invalidBrokerBundle, unsupportedBrokerVersion, noAccountFound, noTokensFound, cancelledBySdk,
    nullErrorResponse, deviceNetworkNotAvailable, executorShutdown, unsupportedOperation,
    missingInteractiveSession, storageError, invalidTokenLifetime]

/-- Does the code say that the person must be asked? -/
def asksForPerson (code : String) : Bool := code = invalidGrant || code = interactionRequired

end SignOn.Code
