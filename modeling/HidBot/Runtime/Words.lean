import HidBot.Interleaving.Triple
import HidBot.Route.Machine
import HidBot.Usb.Lifecycle

/-!
# Runtime words

The words of `hid_runtime::StateMachine`. An atomic word is loaded and stored in
single accesses, and a compare-exchange loop is one access on the value it
decided from. A section under a metadata lock is one access, and so are the
plain fields of a mailbox slot, which only the task that holds the slot touches.
-/

namespace HidBot.Runtime

open Interleaving

abbrev AuthorityEpoch := UInt32
abbrev ProfileActivationEpoch := UInt32
abbrev UsbGeneration := UsbLifecycle.Generation
abbrev RouteGeneration := Route.Generation
abbrev SofHeartbeat := UInt32
abbrev HidTicketId := UInt64
abbrev ReportOriginOwnerId := UInt64
abbrev ReleaseAllId := UInt64

/-- `HidTransport`: the transports are the routes that can be committed. -/
abbrev HidTransport := Route.Transport

/-! ### Reports -/

inductive Interface where
  | keyboard
  | mouse
  deriving DecidableEq, Repr

inductive ReportKind where
  | unsafeKeyboard
  | unsafeMouse
  | safetyKeyboard
  | safetyMouse
  deriving DecidableEq, Repr

def Interface.unsafeKind : Interface → ReportKind
  | .keyboard => .unsafeKeyboard
  | .mouse => .unsafeMouse

def Interface.safetyKind : Interface → ReportKind
  | .keyboard => .safetyKeyboard
  | .mouse => .safetyMouse

def ReportKind.isSafety : ReportKind → Bool
  | .safetyKeyboard | .safetyMouse => true
  | .unsafeKeyboard | .unsafeMouse => false

structure KeyboardState where
  modifiers : UInt8 := 0
  keycodes : Vector UInt8 6 := .replicate 6 0
  deriving DecidableEq, Repr

structure MouseState where
  buttons : UInt8 := 0
  deriving DecidableEq, Repr

/-- The bits of a button byte that the report carries. -/
def buttonMask : UInt8 := 0x1f

/-- What the caller of `begin_keyboard_report` or `begin_mouse_report` asks for;
the axes are the bytes of the signed deltas. -/
inductive ReportRequest where
  | keyboard (modifiers : UInt8) (keycodes : Vector UInt8 6)
  | mouse (buttons x y vertical horizontal : UInt8)
  deriving DecidableEq, Repr

def ReportRequest.interface : ReportRequest → Interface
  | .keyboard .. => .keyboard
  | .mouse .. => .mouse

/-- The report bytes of a request. -/
def ReportRequest.report : ReportRequest → List UInt8
  | .keyboard modifiers keycodes => modifiers :: 0 :: keycodes.toList
  | .mouse buttons x y vertical horizontal => [buttons &&& buttonMask, x, y, vertical, horizontal]

/-- The all-up report of `queue_safety`. -/
def Interface.allUp : Interface → List UInt8
  | .keyboard => List.replicate 8 0
  | .mouse => List.replicate 5 0

/-- Byte `index` of a report buffer. -/
def byteAt (report : List UInt8) (index : Nat) : UInt8 := report.getD index 0

def KeyboardState.ofReport (report : List UInt8) : KeyboardState where
  modifiers := byteAt report 0
  keycodes := Vector.ofFn fun key => byteAt report (key + 2)

def MouseState.ofReport (report : List UInt8) : MouseState where
  buttons := byteAt report 0 &&& buttonMask

def KeyboardState.held (keyboard : KeyboardState) : Bool :=
  keyboard.modifiers != 0 || keyboard.keycodes != .replicate 6 0

def MouseState.held (mouse : MouseState) : Bool := mouse.buttons != 0

def unsafeReportHoldsState (kind : ReportKind) (report : List UInt8) : Bool :=
  match kind with
  | .unsafeKeyboard =>
      report.length < 8 || byteAt report 0 != 0 ||
        [2, 3, 4, 5, 6, 7].any fun index => byteAt report index != 0
  | .unsafeMouse => report.length < 5 || byteAt report 0 &&& buttonMask != 0
  | .safetyKeyboard | .safetyMouse => false

/-! ### Capabilities -/

abbrev ReportMask := UInt8

inductive ReportRole where
  | keyboardInput
  | mouseInput
  | ledOutput
  deriving DecidableEq, Repr

def Interface.role : Interface → ReportRole
  | .keyboard => .keyboardInput
  | .mouse => .mouseInput

def ReportRole.bit : ReportRole → ReportMask
  | .keyboardInput => 1
  | .mouseInput => 2
  | .ledOutput => 4

/-- `kInputRoles`. -/
def inputRoles : ReportMask := 3

/-- `kKnownRoles`. -/
def knownRoles : ReportMask := 7

def isSubset (subset superset : ReportMask) : Bool := subset &&& superset == subset

def hasRole (roles : ReportMask) (role : ReportRole) : Bool := roles &&& role.bit != 0

structure ReportHandles where
  keyboardInput : UInt16 := 0
  mouseInput : UInt16 := 0
  ledOutput : UInt16 := 0
  deriving DecidableEq, Repr

def ReportHandles.get (handles : ReportHandles) : ReportRole → UInt16
  | .keyboardInput => handles.keyboardInput
  | .mouseInput => handles.mouseInput
  | .ledOutput => handles.ledOutput

/-- Every present role has a nonzero handle of its own, an absent one has none. -/
def validHandles (presentRoles : ReportMask) (handles : ReportHandles) : Bool :=
  isSubset presentRoles knownRoles &&
    [.keyboardInput, .mouseInput, .ledOutput].all
      (fun role => hasRole presentRoles role == (handles.get role != 0)) &&
    [(.keyboardInput, .mouseInput), (.keyboardInput, .ledOutput), (.mouseInput, .ledOutput)].all
      fun (prior, role) => !hasRole presentRoles role || handles.get prior != handles.get role

def inputRouteDefinitionValid (presentRoles requiredSubscriptions : ReportMask)
    (handles : ReportHandles) : Bool :=
  presentRoles != 0 && isSubset presentRoles inputRoles &&
    isSubset requiredSubscriptions presentRoles && validHandles presentRoles handles

/-! ### Work identities -/

/-- `kNoBleConnection`. -/
def noBleConnection : UInt16 := 0xffff

structure HidWorkToken where
  authorityEpoch : AuthorityEpoch := 0
  routeGeneration : RouteGeneration := 0
  transportGeneration : UInt32 := 0
  profileActivationEpoch : ProfileActivationEpoch := 0
  ticketId : HidTicketId := 0
  releaseEpoch : UInt32 := 0
  sequenceGeneration : UInt32 := 0
  originatingLocalOwnerId : ReportOriginOwnerId := 0
  connectionHandle : UInt16 := noBleConnection
  characteristicHandle : UInt16 := 0
  transport : HidTransport := .usb
  reportKind : ReportKind := .unsafeKeyboard
  deriving DecidableEq, Repr

structure SequenceAuthority where
  generation : UInt32 := 0
  authorityEpoch : AuthorityEpoch := 0
  releaseEpoch : UInt32 := 0
  profileActivationEpoch : ProfileActivationEpoch := 0
  activeRoles : ReportMask := 0
  transport : HidTransport := .usb
  routeGeneration : RouteGeneration := 0
  deriving DecidableEq, Repr

structure BleRouteActivation where
  expectedAuthorityEpoch : AuthorityEpoch := 0
  expectedRouteGeneration : RouteGeneration := 0
  bleGeneration : UInt32 := 0
  connectionHandle : UInt16 := noBleConnection
  profileActivationEpoch : ProfileActivationEpoch := 0
  presentRoles : ReportMask := 0
  requiredInputSubscriptions : ReportMask := 0
  reportHandles : ReportHandles := {}
  deriving DecidableEq, Repr

structure BleRouteAuthoritySnapshot where
  authorityEpoch : AuthorityEpoch := 0
  routeGeneration : RouteGeneration := 0
  bleGeneration : UInt32 := 0
  connectionHandle : UInt16 := noBleConnection
  profileActivationEpoch : ProfileActivationEpoch := 0
  presentRoles : ReportMask := 0
  requiredInputSubscriptions : ReportMask := 0
  reportHandles : ReportHandles := {}
  active : Bool := false
  releasing : Bool := false
  releaseEpoch : UInt32 := 0
  coherent : Bool := true
  deriving DecidableEq, Repr

/-! ### Tickets, mailboxes and the release transaction -/

inductive TicketState where
  | free
  | writing
  | writingCanceled
  | published
  | claimed
  | submitted
  | notReady
  | canceled
  deriving DecidableEq, Repr

inductive TicketOutcome where
  | none
  | submitted
  | notReady
  | busy
  | safetyPending
  | authorityLost
  deriving DecidableEq, Repr

/-- `KeyboardReportTicket` and `MouseReportTicket`; the report kind of the token
is the one of the interface. -/
structure ReportTicket where
  state : TicketState := .free
  token : HidWorkToken := {}
  bleActionPending : Bool := false
  outcome : TicketOutcome := .none
  report : List UInt8 := []
  deriving DecidableEq, Repr

inductive SlotState where
  | empty
  | writing
  | ready
  | executing
  | canceled
  deriving DecidableEq, Repr

/-- A mailbox report with its identity; `release` is the transaction that owns it. -/
structure MailboxReport where
  token : HidWorkToken := {}
  release : ReleaseAllId := 0
  report : List UInt8 := []
  deriving DecidableEq, Repr

structure InterfaceState where
  slotState : SlotState := .empty
  slot : MailboxReport := {}
  inFlight : Bool := false
  inFlightReport : MailboxReport := {}
  safetyRequired : Bool := false
  hostStateUncertain : Bool := false
  logicalStateHeld : Bool := false
  /-- The last confirmed keyboard report, behind its sequence lock. -/
  confirmedKeyboard : List UInt8 := List.replicate 8 0
  confirmedMouseButtons : UInt8 := 0
  keyboard : KeyboardState := {}
  mouse : MouseState := {}
  deriving DecidableEq, Repr

inductive ReleaseAllInterfaceState where
  | unresolved
  | alreadyUp
  | submitted
  | pending
  | canceled
  deriving DecidableEq, Repr

inductive ReleaseAllTransactionState where
  | inactive
  | admitting
  | open
  | successCommitting
  | succeeded
  | failed
  | canceled
  | timedOut
  | finalizedSuccess
  | finalizedFailure
  deriving DecidableEq, Repr

/-- `release_transaction_active`. -/
def ReleaseAllTransactionState.active : ReleaseAllTransactionState → Bool
  | .admitting | .open | .successCommitting | .succeeded | .failed => true
  | .inactive | .canceled | .timedOut | .finalizedSuccess | .finalizedFailure => false

structure ReleaseAllTicket where
  id : ReleaseAllId := 0
  transportGeneration : UInt32 := 0
  authorityEpoch : AuthorityEpoch := 0
  routeGeneration : RouteGeneration := 0
  transport : HidTransport := .usb
  releaseEpoch : UInt32 := 0
  profileActivationEpoch : ProfileActivationEpoch := 0
  connectionHandle : UInt16 := noBleConnection
  presentRoles : ReportMask := 0
  requiredInputSubscriptions : ReportMask := 0
  reportHandles : ReportHandles := {}
  keyboard : ReleaseAllInterfaceState := .unresolved
  mouse : ReleaseAllInterfaceState := .unresolved
  state : ReleaseAllTransactionState := .inactive
  bleContinuityLost : Bool := false
  deriving DecidableEq, Repr

/-! ### Words -/

structure StatusSnapshot where
  mounted : Bool := false
  suspended : Bool := false
  keyboardReady : Bool := false
  mouseReady : Bool := false
  deriving DecidableEq, Repr

def StatusSnapshot.ready (status : StatusSnapshot) : Interface → Bool
  | .keyboard => status.keyboardReady
  | .mouse => status.mouseReady

inductive BleSubmitResult where
  | stackAccepted
  | notReady
  | stale
  | resourceFailure
  | stackRejected
  deriving DecidableEq, Repr

/-- The work that a submitted report belongs to. -/
inductive Origin where
  | ticket
  | mailbox (release : ReleaseAllId)
  deriving DecidableEq, Repr

/-- One call of `submit`. -/
structure Submission where
  origin : Origin
  interface : Interface
  token : HidWorkToken
  report : List UInt8
  accepted : Bool
  deriving DecidableEq, Repr

/-- What a run remembers for the statements about it, latest first. -/
inductive Event where
  /-- A ticket was written for a request. -/
  | opened (ticket : HidTicketId) (request : ReportRequest)
  /-- An executor claimed a published ticket. -/
  | claimed (ticket : HidTicketId)
  | submitted (submission : Submission)
  /-- A ticket became terminal. -/
  | settled (ticket : HidTicketId) (outcome : TicketOutcome)
  | freed (ticket : HidTicketId)
  deriving DecidableEq, Repr

structure Record where
  /-- What the transports answer to the successive submissions. -/
  answers : Nat → BleSubmitResult := fun _ => .stackAccepted
  submissions : Nat := 0
  /-- The task that holds the claim on the ticket of an interface. -/
  claimer : Interface → Option Nat := fun _ => none
  events : List Event := []

structure Words where
  usbLifecycle : UsbLifecycle.Words := {}
  route : Route.Words := {}
  nextTicketId : UInt32 := 1
  nextPublicTicketId : HidTicketId := 1
  authorityEpoch : AuthorityEpoch := 0
  releaseEpoch : UInt32 := 0
  releaseRequestGeneration : UsbGeneration := 0
  releaseRequestAuthorityEpoch : AuthorityEpoch := 0
  releaseRequestEpoch : UInt32 := 0
  statusBits : StatusSnapshot := {}
  sofHeartbeat : SofHeartbeat := 0
  releaseRequested : Bool := false
  sequenceGeneration : UInt32 := 0
  nextSequenceGeneration : UInt32 := 1
  nextProfileActivationEpoch : ProfileActivationEpoch := 1
  unavailableReleaseReconcilerActive : Bool := false
  sleepQuiescenceGate : UInt32 := 0
  bleRouteSequence : UInt32 := 0
  bleRoute : BleRouteAuthoritySnapshot := {}
  interfaces : Interface → InterfaceState := fun _ => {}
  releaseTicket : ReleaseAllTicket := {}
  nextReleaseId : ReleaseAllId := 1
  tickets : Interface → ReportTicket := fun _ => {}
  /-- Not a word of the code. -/
  record : Record := {}

end HidBot.Runtime
