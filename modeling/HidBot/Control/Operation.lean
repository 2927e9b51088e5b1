/-!
# The operation claim

`hid_control_executor::Controller` admits one control operation at a time. The
claim is one atomic word that holds the kind of the operation.
-/

namespace HidBot

inductive ControlOperation where
  | none
  | usbAttach
  | usbDetach
  | routeChange
  | bleEnable
  | bleDisable
  | bondAdministration
  | profileSelection
  deriving DecidableEq, Repr

namespace ControlOperation

/-- `claim_operation`: the exchange of the claim word from free. -/
def claim (operation active : ControlOperation) : Bool × ControlOperation :=
  if active = .none then (true, operation) else (false, active)

/-- `release_operation`: the exchange back to free, if this operation holds the claim. -/
def release (operation active : ControlOperation) : ControlOperation :=
  if active = operation then .none else active

end ControlOperation

end HidBot
