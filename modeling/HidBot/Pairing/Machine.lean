import HidBot.Ble.Lifecycle

/-!
# The pairing state machine

`ble_pairing::StateMachine`. Its mutations belong to the executor, so each of
them is one step here; another task may find a snapshot torn, which is then the
default one.
-/

namespace HidBot.BlePairing

open BleLifecycle

abbrev PairingId := UInt32

def inputTimeoutMs : Nat := 25000

inductive LiveState where
  | idle
  | securing
  | waitingInput
  deriving DecidableEq, Repr

inductive LastResult where
  | none
  | succeeded
  | smpFailed
  | timeout
  | peerDisconnected
  | storeFull
  | storage
  | queueOverflow
  | repeatPairing
  | securityPolicy
  deriving DecidableEq, Repr

inductive PasskeyActionResult where
  | started
  | duplicate
  | stale
  | unsupported
  | idExhausted
  deriving DecidableEq, Repr

inductive RespondResult where
  | accepted
  | notPending
  | staleGeneration
  | staleConnection
  | stalePairingId
  | invalidSecret
  | injectionFailed
  deriving DecidableEq, Repr

structure Snapshot where
  liveState : LiveState := .idle
  lastResult : LastResult := .none
  generation : Generation := 0
  connectionHandle : ConnectionHandle := noConnection
  pairingId : PairingId := 0
  pairingActive : Bool := false
  inputConsumed : Bool := false
  idExhausted : Bool := false
  deriving DecidableEq, Repr

structure StateMachine extends Snapshot where
  nextPairingId : PairingId := 1
  deriving DecidableEq, Repr

namespace StateMachine

variable (machine : StateMachine)

/-- `publish` with no pairing: the exhaustion of the identifiers is kept. -/
def publishInactive (liveState : LiveState) (lastResult : LastResult) (generation : Generation)
    (handle : ConnectionHandle) : StateMachine :=
  { machine with
    liveState, lastResult, generation, connectionHandle := handle
    pairingId := 0, pairingActive := false, inputConsumed := false }

/-- The pairing is of this connection. -/
def isCurrent (generation : Generation) (handle : ConnectionHandle) : Bool :=
  machine.generation == generation && machine.connectionHandle == handle

def beginConnection (generation : Generation) (handle : ConnectionHandle) : StateMachine :=
  machine.publishInactive .securing machine.lastResult generation handle

def beginPasskeyInput (generation : Generation) (handle : ConnectionHandle) :
    PasskeyActionResult × StateMachine :=
  if machine.isCurrent generation handle = false ∨ machine.liveState = .idle then
    (.stale, machine)
  else if machine.liveState = .waitingInput ∧ machine.pairingId ≠ 0 then
    (.duplicate, machine)
  else if machine.idExhausted ∨ machine.nextPairingId = 0 then
    (.idExhausted, { machine.publishInactive .idle .securityPolicy generation handle with
      idExhausted := true })
  else
    let id := machine.nextPairingId
    (.started, { machine with
      nextPairingId := if id = 0xffffffff then 0 else id + 1
      liveState := .waitingInput, lastResult := .none, generation, connectionHandle := handle
      pairingId := id, pairingActive := true, inputConsumed := false
      idExhausted := id == 0xffffffff })

def rejectUnsupportedAction (generation : Generation) (handle : ConnectionHandle) :
    PasskeyActionResult × StateMachine :=
  if machine.isCurrent generation handle = false then (.stale, machine)
  else (.unsupported, machine.publishInactive .idle .securityPolicy generation handle)

/-- The input that this response answers is pending. -/
def validateResponse (generation : Generation) (handle : ConnectionHandle) (id : PairingId) :
    RespondResult :=
  if machine.generation ≠ generation then .staleGeneration
  else if machine.connectionHandle ≠ handle then .staleConnection
  else if machine.liveState ≠ .waitingInput ∨ machine.pairingActive = false ∨
      machine.inputConsumed = true ∨ machine.pairingId = 0 then .notPending
  else if machine.pairingId = id then .accepted else .stalePairingId

def consumeResponse (generation : Generation) (handle : ConnectionHandle) (id : PairingId) :
    StateMachine :=
  if machine.validateResponse generation handle id ≠ .accepted then machine
  else { machine with
    liveState := .securing, generation, connectionHandle := handle
    pairingId := 0, pairingActive := true, inputConsumed := true }

def timeout (generation : Generation) (handle : ConnectionHandle) (id : PairingId) :
    Bool × StateMachine :=
  if machine.validateResponse generation handle id ≠ .accepted then (false, machine)
  else (true, machine.publishInactive .idle .timeout generation handle)

def complete (generation : Generation) (handle : ConnectionHandle) (result : LastResult) :
    StateMachine :=
  if machine.isCurrent generation handle = false then machine
  else machine.publishInactive .idle result generation handle

def failClosed (generation : Generation) (handle : ConnectionHandle) (result : LastResult) :
    StateMachine :=
  machine.publishInactive .idle result generation handle

def disconnect (generation : Generation) (handle : ConnectionHandle) : StateMachine :=
  if machine.isCurrent generation handle = false then machine
  else machine.publishInactive .idle
    (if machine.pairingActive then .peerDisconnected else machine.lastResult) generation
    noConnection

def disable : StateMachine :=
  machine.publishInactive .idle .none machine.generation noConnection

def reset : StateMachine :=
  machine.publishInactive .idle .none machine.generation noConnection

/-! ### What the operations keep -/

/-- Nothing begins: the pairing is left alone, or it is over. -/
structure KeptOrIdle (machine after : StateMachine) : Prop where
  nextPairingId : after.nextPairingId = machine.nextPairingId
  pairing : after = machine ∨ after.liveState = .idle

variable {machine}

theorem KeptOrIdle.refl : machine.KeptOrIdle machine := ⟨rfl, .inl rfl⟩

theorem KeptOrIdle.trans {middle after : StateMachine} (first : machine.KeptOrIdle middle)
    (second : middle.KeptOrIdle after) : machine.KeptOrIdle after := by
  refine ⟨second.nextPairingId.trans first.nextPairingId, ?_⟩
  rcases second.pairing with rfl | idle
  · exact first.pairing
  · exact .inr idle

theorem publishInactive_keptOrIdle (result : LastResult) (generation : Generation)
    (handle : ConnectionHandle) :
    machine.KeptOrIdle (machine.publishInactive .idle result generation handle) :=
  ⟨rfl, .inr rfl⟩

theorem complete_keptOrIdle (generation : Generation) (handle : ConnectionHandle)
    (result : LastResult) : machine.KeptOrIdle (machine.complete generation handle result) := by
  unfold complete
  split
  · exact .refl
  · exact publishInactive_keptOrIdle ..

theorem disconnect_keptOrIdle (generation : Generation) (handle : ConnectionHandle) :
    machine.KeptOrIdle (machine.disconnect generation handle) := by
  unfold disconnect
  split
  · exact .refl
  · exact publishInactive_keptOrIdle ..

theorem timeout_keptOrIdle (generation : Generation) (handle : ConnectionHandle)
    (id : PairingId) : machine.KeptOrIdle (machine.timeout generation handle id).2 := by
  unfold timeout
  split
  · exact .refl
  · exact publishInactive_keptOrIdle ..

theorem timeout_taken {generation : Generation} {handle : ConnectionHandle} {id : PairingId}
    (taken : (machine.timeout generation handle id).1 = true) :
    (machine.timeout generation handle id).2.liveState = .idle := by
  unfold timeout at taken ⊢
  split
  · rw [if_pos ‹_›] at taken
    cases taken
  · rfl

theorem rejectUnsupportedAction_keptOrIdle (generation : Generation)
    (handle : ConnectionHandle) :
    machine.KeptOrIdle (machine.rejectUnsupportedAction generation handle).2 := by
  unfold rejectUnsupportedAction
  split
  · exact .refl
  · exact publishInactive_keptOrIdle ..

theorem rejectUnsupportedAction_taken {generation : Generation} {handle : ConnectionHandle}
    (taken : (machine.rejectUnsupportedAction generation handle).1 = .unsupported) :
    (machine.rejectUnsupportedAction generation handle).2.liveState = .idle := by
  unfold rejectUnsupportedAction at taken ⊢
  split
  · rw [if_pos ‹_›] at taken
    cases taken
  · rfl

theorem rejectUnsupportedAction_refused {generation : Generation} {handle : ConnectionHandle}
    (refused : (machine.rejectUnsupportedAction generation handle).1 ≠ .unsupported) :
    (machine.rejectUnsupportedAction generation handle).2 = machine := by
  unfold rejectUnsupportedAction at refused ⊢
  split
  · rfl
  · rw [if_neg ‹_›] at refused
    exact absurd rfl refused

/-- Completion and disconnection of the pairing's own connection end it. -/
theorem complete_current {generation : Generation} {handle : ConnectionHandle}
    (sameGeneration : machine.generation = generation)
    (sameHandle : machine.connectionHandle = handle) (result : LastResult) :
    (machine.complete generation handle result).liveState = .idle := by
  simp [complete, isCurrent, sameGeneration, sameHandle, publishInactive]

theorem disconnect_current {generation : Generation} {handle : ConnectionHandle}
    (sameGeneration : machine.generation = generation)
    (sameHandle : machine.connectionHandle = handle) :
    (machine.disconnect generation handle).liveState = .idle := by
  simp [disconnect, isCurrent, sameGeneration, sameHandle, publishInactive]

/-- The response that is accepted answers the pairing that waits. -/
structure Answers (machine : StateMachine) (generation : Generation) (handle : ConnectionHandle)
    (id : PairingId) : Prop where
  generation : machine.generation = generation
  connectionHandle : machine.connectionHandle = handle
  waiting : machine.liveState = .waitingInput
  pairingId : machine.pairingId = id

theorem validateResponse_accepted {generation : Generation} {handle : ConnectionHandle}
    {id : PairingId} (accepted : machine.validateResponse generation handle id = .accepted) :
    machine.Answers generation handle id := by
  unfold validateResponse at accepted
  split at accepted
  · cases accepted
  split at accepted
  · cases accepted
  split at accepted
  · cases accepted
  split at accepted
  · grind [Answers]
  · cases accepted

/-- A pairing that waits for input has an identifier and no response yet. -/
structure InputOpen (machine : StateMachine) : Prop where
  active : machine.pairingActive = true
  unanswered : machine.inputConsumed = false
  identified : machine.pairingId ≠ 0

theorem validateResponse_self (waiting : machine.liveState = .waitingInput)
    (opened : machine.InputOpen) :
    machine.validateResponse machine.generation machine.connectionHandle machine.pairingId =
      .accepted := by
  simp [validateResponse, waiting, opened.active, opened.unanswered, opened.identified]

theorem timeout_self (waiting : machine.liveState = .waitingInput) (opened : machine.InputOpen) :
    (machine.timeout machine.generation machine.connectionHandle machine.pairingId).1 = true := by
  simp [timeout, validateResponse_self waiting opened]

/-- The accepted response leaves the pairing securing, on its own connection. -/
theorem consumeResponse_self (accepted : machine.validateResponse machine.generation
      machine.connectionHandle machine.pairingId = .accepted) :
    machine.consumeResponse machine.generation machine.connectionHandle machine.pairingId =
      { machine with
        liveState := .securing, pairingId := 0, pairingActive := true, inputConsumed := true } := by
  simp [consumeResponse, accepted]

/-- Input begins for a live pairing of the connection that has no open input, under
an identifier that is not zero. -/
structure BeginsInput (machine : StateMachine) (generation : Generation)
    (handle : ConnectionHandle) (after : StateMachine) : Prop where
  generation : machine.generation = generation
  connectionHandle : machine.connectionHandle = handle
  live : machine.liveState ≠ .idle
  closed : machine.liveState = .waitingInput → machine.pairingId = 0
  available : machine.nextPairingId ≠ 0
  after : after = { machine with
    nextPairingId := if machine.nextPairingId = 0xffffffff then 0 else machine.nextPairingId + 1
    liveState := .waitingInput, lastResult := .none
    pairingId := machine.nextPairingId, pairingActive := true, inputConsumed := false
    idExhausted := machine.nextPairingId == 0xffffffff }

theorem beginPasskeyInput_cases (generation : Generation) (handle : ConnectionHandle) :
    ((machine.beginPasskeyInput generation handle).1 = .started ∧
        machine.BeginsInput generation handle (machine.beginPasskeyInput generation handle).2) ∨
      ((machine.beginPasskeyInput generation handle).1 = .idExhausted ∧
        machine.KeptOrIdle (machine.beginPasskeyInput generation handle).2 ∧
        (machine.beginPasskeyInput generation handle).2.liveState = .idle ∧
        (machine.liveState = .waitingInput → machine.pairingId = 0)) ∨
      ((machine.beginPasskeyInput generation handle).1 ≠ .started ∧
        (machine.beginPasskeyInput generation handle).1 ≠ .idExhausted ∧
        (machine.beginPasskeyInput generation handle).2 = machine) := by
  unfold beginPasskeyInput
  split
  · exact .inr (.inr ⟨nofun, nofun, rfl⟩)
  rename_i mine
  split
  · exact .inr (.inr ⟨nofun, nofun, rfl⟩)
  rename_i single
  have closed (waiting : machine.liveState = .waitingInput) : machine.pairingId = 0 := by
    simpa [waiting] using single
  split
  · exact .inr (.inl ⟨rfl, ⟨rfl, .inr rfl⟩, rfl, closed⟩)
  rename_i free
  obtain ⟨mine, live⟩ := not_or.mp mine
  have same : machine.generation = generation ∧ machine.connectionHandle = handle := by
    simpa [isCurrent] using mine
  obtain ⟨rfl, rfl⟩ := same
  exact .inl ⟨rfl, rfl, rfl, live, closed, (not_or.mp free).2, rfl⟩

end StateMachine

end HidBot.BlePairing
