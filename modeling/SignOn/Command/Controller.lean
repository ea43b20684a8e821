import SignOn.Identity.Parameters
import SignOn.Outcome.Acquisition
import SignOn.Session.Basic

/-! # Controllers

A controller can do what commands ask for, in its own way. Three of the operations are not for every
controller; one that says nothing about them refuses. -/

namespace SignOn

/-- The failure of a controller that cannot do something. -/
def unsupported (controller operation : String) : Failure :=
  .plain Code.unsupportedOperation
    ("The " ++ controller ++ " controller does not support " ++ operation ++ ".")

/-- What a controller can do, each operation as work over the surroundings. -/
structure Controller (σ : Type) where
  name : String
  acquireInteractive : Parameters → SessionHandle σ → Flow σ Acquisition
  acquireSilent : Parameters → Flow σ Acquisition
  accounts : Parameters → Flow σ (List Account)
  removeAccount : Parameters → Flow σ Bool
  deviceMode : Parameters → Flow σ Bool := fun _ => throw (unsupported name "get_device_mode")
  currentAccount : Parameters → Flow σ (List Account) :=
    fun _ => throw (unsupported name "get_current_account")
  removeCurrentAccount : Parameters → Flow σ Bool :=
    fun _ => throw (unsupported name "remove_current_account")

end SignOn
