import HidBot.Pairing.Runs

/-!
# Safety of the passkey

A passkey is injected once, for the pairing that it answers, and it does not stay
in the mailbox. A disable request that finds the queue full faults the lifecycle
and leaves the pairing of the old connection answerable, so this needs the steps
that would do so to be kept apart from a live pairing.
-/

namespace HidBot.BlePairing

open Interleaving BleLifecycle

variable {state : State}

end HidBot.BlePairing
