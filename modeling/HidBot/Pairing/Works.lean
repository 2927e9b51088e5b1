import Mathlib.Algebra.Group.Nat.Defs
import HidBot.Pairing.Settling
import HidBot.Pairing.Tickets

/-!
# What holds of pairings

The invariant of the executor's work on pairings, and that it refines tickets: a
pairing identifier is a ticket, open while the pairing waits for input, and used by
the call that injects its passkey.
-/

namespace HidBot.BlePairing

open Interleaving BleLifecycle

/-- What was current when the passkey was injected: the pairing that the response
names waited for input on the connection that the lifecycle was in. -/
structure Injection.Live (injection : Injection) : Prop where
  waiting : injection.pairing.liveState = .waitingInput
  pairingId : injection.pairing.pairingId = injection.pairingId
  generation : injection.pairing.generation = injection.generation
  connectionHandle : injection.pairing.connectionHandle = injection.connectionHandle
  desired : injection.lifecycle.state.desired = .exposed
  observed : injection.lifecycle.state.observed = .connected
  currentGeneration : injection.lifecycle.generation = injection.generation
  currentConnection : injection.lifecycle.connectionHandle = injection.connectionHandle

/-- The injection answers this pairing before its deadline. -/
structure Injection.InTime (injection : Injection) (begun : Begun) : Prop where
  pairingId : begun.pairingId = injection.pairingId
  generation : begun.generation = injection.generation
  connectionHandle : begun.connectionHandle = injection.connectionHandle
  early : injection.now < begun.deadline

/-- The identifiers begun so far are the first ones, and the next one follows them
until there is none. -/
structure Numbered (begun : List Begun) (next : PairingId) : Prop where
  numbers : begun.map (·.pairingId.toNat) = List.range' 1 begun.length
  bounded : begun.length < 2 ^ 32
  next : next = UInt32.ofNat (begun.length + 1)

/-- The executor's invariant, while this work is left. -/
structure Sound (work : List Action) (state : State) : Prop where
  held : Held work state
  opened : state.pairing.liveState = .waitingInput → state.pairing.InputOpen
  numbered : Numbered state.begun state.pairing.nextPairingId
  last : state.pairing.liveState = .waitingInput →
    state.pairing.pairingId.toNat = state.begun.length
  injected : ∀ injection ∈ state.injections, injection.Live ∧
    ∃ begun ∈ state.begun, injection.InTime begun
  filled : state.pairing.liveState ≠ .waitingInput → state.mailbox.secret ≠ .zero →
    state.filledWaiting = false

def State.tickets (state : State) : Tickets where
  issued := state.begun.length
  opened := state.pairing.liveState == .waitingInput
  used := state.injections.map (·.pairingId.toNat)

/-- A part of the executor's work: the invariant holds after it, the mailbox is
wiped if a pairing that waited no longer does, and tickets are moved as they may be. -/
structure Works (work : List Action) (state after : State) : Prop where
  sound : Sound work after
  mailbox : after.mailbox = state.mailbox ∨ after.mailbox = .wiped
  wiped : state.pairing.liveState = .waitingInput → after.pairing.liveState ≠ .waitingInput →
    after.mailbox = .wiped
  moves : state.tickets.Moves after.tickets
  queue : after.queue = state.queue
  rpcPending : after.rpcPending = state.rpcPending
  requester : after.requester = state.requester

variable {work other : List Action} {state middle after : State}

theorem PairingMailbox.secret_wiped : PairingMailbox.wiped.secret = .zero := rfl

namespace Works

theorem refl (sound : Sound work state) : Works work state state :=
  ⟨sound, .inl rfl, fun waiting left => absurd waiting left, .refl, rfl, rfl, rfl⟩

theorem trans (first : Works other state middle) (second : Works work middle after) :
    Works work state after := by
  refine ⟨second.sound, ?_, fun waiting left => ?_, first.moves.trans second.moves,
    second.queue.trans first.queue, second.rpcPending.trans first.rpcPending,
    second.requester.trans first.requester⟩
  · rcases second.mailbox with same | wiped
    · exact same ▸ first.mailbox
    · exact .inr wiped
  · by_cases still : middle.pairing.liveState = .waitingInput
    · exact second.wiped still left
    · rcases second.mailbox with same | wiped
      · exact same.trans (first.wiped waiting still)
      · exact wiped

end Works

/-- The mailbox after it was perhaps wiped still has no digits, or those it had. -/
theorem Quiet.filled (quiet : Quiet state after)
    (filled : state.pairing.liveState ≠ .waitingInput → state.mailbox.secret ≠ .zero →
      state.filledWaiting = false)
    (wiped : state.pairing.liveState = .waitingInput → after.pairing.liveState ≠ .waitingInput →
      after.mailbox = .wiped) (left : after.pairing.liveState ≠ .waitingInput)
    (secret : after.mailbox.secret ≠ .zero) : after.filledWaiting = false := by
  rw [quiet.filledWaiting]
  by_cases waiting : state.pairing.liveState = .waitingInput
  · rw [wiped waiting left] at secret
    exact absurd PairingMailbox.secret_wiped secret
  rcases quiet.mailbox with same | wiped
  · exact filled waiting (same ▸ secret)
  · rw [wiped] at secret
    exact absurd PairingMailbox.secret_wiped secret

/-- A block that settles is a part of the work. -/
theorem Settles.works (settles : Settles work state after) (sound : Sound other state) :
    Works work state after := by
  have quiet := settles.quiet
  have waited (waiting : after.pairing.liveState = .waitingInput) :
      after.pairing = state.pairing := quiet.kept (by simp [waiting])
  refine ⟨⟨settles.held, fun waiting => ?_, ?_, fun waiting => ?_, ?_, ?_⟩, quiet.mailbox,
    settles.wiped, ?_, quiet.queue, quiet.rpcPending, quiet.requester⟩
  · have same := waited waiting
    rw [same] at waiting ⊢
    exact sound.opened waiting
  · rw [quiet.begun, quiet.pairing.nextPairingId]
    exact sound.numbered
  · have same := waited waiting
    rw [same] at waiting ⊢
    rw [quiet.begun]
    exact sound.last waiting
  · rw [quiet.injections, quiet.begun]
    exact sound.injected
  · exact quiet.filled sound.filled settles.wiped
  · by_cases waiting : after.pairing.liveState = .waitingInput
    · have same : after.tickets = state.tickets := by
        simp [State.tickets, quiet.begun, quiet.injections, waited waiting]
      exact same ▸ .refl
    · have closed : after.tickets = { state.tickets with opened := false } := by
        simp [State.tickets, quiet.begun, quiet.injections, waiting]
      exact closed ▸ .single (.close ..)

/-! ### Beginnings -/

/-- The connection that is observed holds the pairing that begins with it. -/
theorem processConnect_works (sound : Sound work state) (environment : Environment)
    (event : BleEvent) : Works work state (state.processConnect environment event) := by
  by_cases live : state.pairing.liveState = .idle
  · unfold State.processConnect
    dsimp only
    split
    · rename_i observed
      obtain ⟨current, lifecycle⟩ := exec_observeConnect_taken observed
      have attached : Attached ((state.onLifecycle (observeConnect event.generation
          event.connectionHandle)).2.beginPairing event.generation event.connectionHandle) := by
        simp only [State.onLifecycle, State.beginPairing, lifecycle]
        exact ⟨rfl, rfl, rfl, current, rfl, rfl, fun waiting => by cases waiting⟩
      have begins : Works work state ((state.onLifecycle (observeConnect event.generation
          event.connectionHandle)).2.beginPairing event.generation event.connectionHandle) := by
        refine ⟨⟨fun _ => .attached attached, fun waiting => ?_, sound.numbered,
          fun waiting => ?_, sound.injected, ?_⟩, .inr rfl, fun waiting => ?_, ?_, rfl, rfl, rfl⟩
        · cases waiting
        · cases waiting
        · exact fun _ digits => absurd rfl digits
        · simp [live] at waiting
        · exact .single (.close ..)
      split
      · exact begins.trans ((State.terminateSecurityConnection_settles (fun _ => attached)
          ..).works begins.sound)
      · exact begins
    · exact (Settles.of_idle (state.onLifecycle_quiet _) live).works sound
  · have advertising : state.lifecycle.state.observed ≠ .advertising := by
      rcases sound.held live with attached | ⟨disabling, _⟩
      · simp [attached.observed]
      · simp [disabling.observed]
    have same : state.processConnect environment event = state := by
      simp [State.processConnect, State.onLifecycle_refused
        (exec_observeConnect_refused advertising event.connectionHandle)]
    rw [same]
    exact .refl sound

/-- The next number is taken. -/
theorem Numbered.take {begun : List Begun} {next : PairingId} (numbered : Numbered begun next)
    (available : next ≠ 0) (generation : Generation) (handle : ConnectionHandle) (now : Nat) :
    next.toNat = begun.length + 1 ∧
      Numbered (begun ++ [⟨next, generation, handle, now⟩])
        (if next = 0xffffffff then 0 else next + 1) := by
  have bounded := numbered.bounded
  have short : begun.length + 1 < 2 ^ 32 := by
    by_contra long
    have exhausted : begun.length + 1 = 2 ^ 32 := by omega
    exact available (by rw [numbered.next, exhausted]; rfl)
  have value : next.toNat = begun.length + 1 := by
    rw [numbered.next, UInt32.toNat_ofNat_of_lt' short]
  refine ⟨value, ?_, by simpa using short, ?_⟩
  · rw [List.map_append, numbered.numbers, List.length_append]
    simp [value, List.range'_concat, Nat.add_comm]
  · rw [List.length_append, List.length_singleton]
    split
    · rename_i last
      rw [last] at value
      rw [← value]
      rfl
    · rw [numbered.next]
      exact (UInt32.ofNat_add (begun.length + 1) 1).symm

/-- Input that begins takes the next identifier. -/
theorem beginInput_works (sound : Sound work state) {generation : Generation}
    {handle : ConnectionHandle} {machine : StateMachine}
    (begins : state.pairing.BeginsInput generation handle machine)
    (waits : state.pairing.liveState ≠ .waitingInput) :
    Works work state { state with
      pairing := machine
      pairingDeadline := state.now + inputTimeoutUs
      begun := state.begun ++ [⟨machine.pairingId, generation, handle, state.now⟩] } := by
  obtain ⟨mine, mineHandle, live, _, available, rfl⟩ := begins
  obtain ⟨number, numbered⟩ := sound.numbered.take available generation handle state.now
  refine ⟨⟨fun _ => ?_, fun _ => ⟨rfl, rfl, available⟩, numbered, fun _ => ?_, ?_, ?_⟩, .inl rfl,
    fun waiting => absurd waiting waits, ?_, rfl, rfl, rfl⟩
  · rcases sound.held live with attached | ⟨disabling, queued⟩
    · refine .attached ⟨attached.desired, attached.observed, attached.connected,
        attached.generation, attached.connectionHandle, attached.terminal, fun _ => ?_⟩
      refine ⟨⟨state.pairing.nextPairingId, generation, handle, state.now⟩, ?_, rfl, mine.symm,
        mineHandle.symm, rfl⟩
      exact List.mem_append_right _ (List.mem_singleton_self _)
    · exact .disabling ⟨disabling.desired, disabling.observed, disabling.connected,
        disabling.operation, disabling.terminal⟩ queued
  · rw [List.length_append]
    exact number
  · intro injection made
    obtain ⟨current, begun, member, early⟩ := sound.injected injection made
    exact ⟨current, begun, List.mem_append_left _ member, early⟩
  · exact fun waiting => absurd rfl waiting
  · have issued : state.tickets.Move { state.tickets with
        issued := state.begun.length + 1, opened := true } := .issue ..
    refine .single ?_
    simpa [State.tickets] using issued

/-- A request for input that is not supported ends the pairing and its connection. -/
theorem rejectUnsupportedAction_settles (held : Held work state) (environment : Environment)
    (generation : Generation) (handle : ConnectionHandle)
    (unsupported : (state.pairing.rejectUnsupportedAction generation handle).1 = .unsupported) :
    Settles work state ((state.withPairing (state.pairing.rejectUnsupportedAction generation
      handle).2).terminateSecurityConnection environment .securityPolicy false) := by
  have ended : (state.withPairing (state.pairing.rejectUnsupportedAction generation
      handle).2).pairing.liveState = .idle := StateMachine.rejectUnsupportedAction_taken unsupported
  have quiet := (state.withPairing_quiet (StateMachine.rejectUnsupportedAction_keptOrIdle
    generation handle)).trans (State.terminateSecurityConnection_quiet _ environment
      .securityPolicy false)
  refine ⟨quiet, fun waiting _ => ?_, fun live => absurd ?_ live⟩
  · have open_ : (state.withPairing (state.pairing.rejectUnsupportedAction generation
        handle).2).lifecycle.state.connected = true ∧ state.pairingTerminalCommitted = false := by
      rcases held (by simp [waiting]) with attached | ⟨disabling, _⟩
      · exact ⟨attached.connected, attached.terminal⟩
      · exact ⟨disabling.connected, disabling.terminal⟩
    exact State.terminateSecurityConnection_wiped open_.1 open_.2 ..
  · exact (State.terminateSecurityConnection_quiet ..).idle ended

theorem processPasskeyAction_works (sound : Sound work state) (environment : Environment)
    (event : BleEvent) : Works work state (state.processPasskeyAction environment event) := by
  unfold State.processPasskeyAction
  dsimp only
  split
  · rcases state.pairing.beginPasskeyInput_cases event.generation event.connectionHandle with
      ⟨started, begins⟩ | ⟨exhausted, ended, idle, closed⟩ | ⟨unstarted, unexhausted, same⟩
    · rw [started]
      refine beginInput_works sound begins fun waiting => ?_
      exact (sound.opened waiting).identified (begins.closed waiting)
    · rw [exhausted]
      have quiet := (state.withPairing_quiet ended).trans
        (State.terminateSecurityConnection_quiet _ environment .securityPolicy true)
      refine Settles.works ⟨quiet, fun waiting => ?_, fun live => absurd ?_ live⟩ sound
      · exact absurd (closed waiting) (sound.opened waiting).identified
      · exact (State.terminateSecurityConnection_quiet ..).idle idle
    · split
      · exact absurd ‹_› unstarted
      · exact absurd ‹_› unexhausted
      · rw [same]
        exact .refl sound
  · split
    · exact (rejectUnsupportedAction_settles sound.held environment _ _ ‹_›).works sound
    · rw [StateMachine.rejectUnsupportedAction_refused ‹_›]
      exact .refl sound

/-! ### Events -/

/-- An event whose processing does not fault the lifecycle, or take the claim of a
queued disable, beside a live pairing that it leaves alone. -/
def State.SparedBy (state : State) (event : BleEvent) : Prop :=
  match event.kind with
  | .timeout => event.generation ≠ state.lifecycle.generation ∧
      state.activeOperation ≠ .bleDisable
  | .disconnect => state.Unwatched
  | .encryptionChange | .pairingComplete | .identityResolved | .repeatPairing | .storeFull =>
      state.eventIsCurrent event = true → state.lifecycle.state.observed ≠ .disabling
  | _ => True

/-- The faults that come first end the pairing, or leave the event as it was. -/
theorem State.SparedBy.kept {event : BleEvent} (spared : state.SparedBy event)
    (lifecycle : after.lifecycle = state.lifecycle)
    (operation : after.activeOperation = state.activeOperation)
    (deadline : after.disableDeadline = state.disableDeadline) : after.SparedBy event := by
  unfold State.SparedBy State.Unwatched State.eventIsCurrent at *
  rw [lifecycle, operation, deadline]
  exact spared

theorem disconnect_settles (held : Held work state)
    (unwatched : state.pairing.liveState ≠ .idle → state.Unwatched) (environment : Environment)
    (generation : Generation) (handle : ConnectionHandle) :
    Settles work state (state.reconcileBleDisconnect environment generation handle
      (state.activeOperation == .bleDisable)) := by
  by_cases idle : state.pairing.liveState = .idle
  · exact .of_idle (state.reconcileBleDisconnect_quiet ..) idle
  rcases held idle with attached | ⟨disabling, queued⟩
  · exact State.reconcileBleDisconnect_attached attached ..
  · rw [disabling.operation]
    exact State.reconcileBleDisconnect_disabling disabling queued (unwatched idle) ..

/-- A security event of the connection that the lifecycle is in, under no disable. -/
theorem securityEvent_settles (held : Held work state) (event : BleEvent)
    (spared : state.pairing.liveState ≠ .idle → state.eventIsCurrent event = true →
      state.lifecycle.state.observed ≠ .disabling) (environment : Environment) :
    Settles work state (if state.eventIsCurrent event then
      state.processSecurityEvent environment event else state) := by
  split
  · refine State.processSecurityEvent_settles (fun live => ?_) environment event
    rcases held live with attached | ⟨disabling, _⟩
    · exact attached
    · exact absurd disabling.observed (spared live ‹_›)
  · exact .refl held

theorem processBleEvent_works (sound : Sound work state) (environment : Environment)
    (event : BleEvent) (spared : state.pairing.liveState ≠ .idle → state.SparedBy event) :
    Works work state (state.processBleEvent environment event) := by
  have held := sound.held
  unfold State.SparedBy at spared
  unfold State.processBleEvent
  cases kind : event.kind with
  | sync => exact (State.processSync_settles held environment event).works sound
  | connect => exact processConnect_works sound environment event
  | disconnect =>
      simp only [kind] at spared
      exact (disconnect_settles held spared ..).works sound
  | advertisingComplete =>
      exact (State.processAdvertisingComplete_settles held environment event).works sound
  | reset => exact (State.processReset_settles held event).works sound
  | timeout =>
      simp only [kind] at spared
      by_cases idle : state.pairing.liveState = .idle
      · exact (Settles.of_idle (state.failBle_quiet ..) idle).works sound
      · exact (State.failBle_stale held (spared idle).1 (spared idle).2 ..).works sound
  | passkeyAction => exact processPasskeyAction_works sound environment event
  | pairingTimeout => exact (State.expirePairing_settles held ..).works sound
  | storageFailure => exact (State.commitPersistentStoreFailure_settles held).works sound
  | encryptionChange | pairingComplete | identityResolved | repeatPairing | storeFull =>
      simp only [kind] at spared
      exact (securityEvent_settles held event spared environment).works sound

/-! ### Responses -/

/-- The head of the work is a pairing request, so no disable is ahead of it. -/
theorem Held.attached {action : Action} (held : Held (action :: work) state)
    (rpc : action.isRpc = true) (live : state.pairing.liveState ≠ .idle) : Attached state := by
  rcases held live with attached | ⟨_, ahead, behind, split, calm⟩
  · exact attached
  cases ahead with
  | nil =>
      obtain ⟨rfl, _⟩ := List.cons.inj split
      cases rpc
  | cons first rest =>
      obtain ⟨rfl, _⟩ := List.cons.inj split
      rw [calm action List.mem_cons_self] at rpc
      cases rpc

/-- A call that answers the pairing which is attached and waits, before its
deadline, and after which it waits no more. -/
theorem injection_works (sound : Sound work state) (attached : Attached state)
    (waiting : state.pairing.liveState = .waitingInput) (early : state.now < state.pairingDeadline)
    (passkey : Nat)
    (ledger : after.ledger = (state.injectPasskey state.pairing.generation
      state.pairing.connectionHandle state.pairing.pairingId passkey).ledger)
    (next : after.pairing.nextPairingId = state.pairing.nextPairingId)
    (answered : after.pairing.liveState ≠ .waitingInput) (wiped : after.mailbox = .wiped)
    (held : Held work after) : Works work state after := by
  have begun : after.begun = state.begun := congrArg Ledger.begun ledger
  have injections := congrArg Ledger.injections ledger
  refine ⟨⟨held, fun again => absurd again answered, ?_, fun again => absurd again answered, ?_,
    fun _ digits => ?_⟩, .inr wiped, fun _ _ => wiped, ?_, congrArg Ledger.queue ledger,
    congrArg Ledger.rpcPending ledger, congrArg Ledger.requester ledger⟩
  · rw [begun, next]
    exact sound.numbered
  · intro injection made
    rw [begun]
    rw [show after.injections = _ from injections] at made
    rcases List.mem_append.mp made with earlier | now
    · exact sound.injected injection earlier
    · rw [List.mem_singleton.mp now]
      obtain ⟨began, member, identified, generation, handle, deadline⟩ :=
        attached.deadline waiting
      refine ⟨⟨waiting, rfl, rfl, rfl, attached.desired, attached.observed,
        attached.generation.symm, attached.connectionHandle.symm⟩, began, member, identified,
        generation, handle, ?_⟩
      exact deadline ▸ early
  · rw [wiped] at digits
    exact absurd PairingMailbox.secret_wiped digits
  · have used : state.tickets.Move ⟨state.begun.length, false,
        state.injections.map (·.pairingId.toNat) ++ [state.begun.length]⟩ := by
      have opened : (state.pairing.liveState == .waitingInput) = true := by simp [waiting]
      rw [State.tickets, opened]
      exact .use ..
    have same : after.tickets = ⟨state.begun.length, false,
        state.injections.map (·.pairingId.toNat) ++ [state.begun.length]⟩ := by
      have last := sound.last waiting
      rw [State.tickets, begun, show after.injections = _ from injections]
      simp [answered, State.ledger, State.injectPasskey, last]
    exact same ▸ .single used

theorem respondToPairing_works (sound : Sound work state)
    (attached : state.pairing.liveState ≠ .idle → Attached state)
    (early : state.pairing.liveState = .waitingInput → state.now < state.pairingDeadline)
    (wiped : state.mailbox = .wiped) (environment : Environment) (generation : Generation)
    (handle : ConnectionHandle) (id : PairingId) (secret : Secret) :
    Works work state (state.respondToPairing environment generation handle id secret).2 := by
  unfold State.respondToPairing
  split
  · rename_i accepted
    split
    · exact .refl sound
    rename_i passkey _
    obtain ⟨rfl, rfl, waiting, rfl⟩ := StateMachine.validateResponse_accepted accepted
    have attached := attached (by simp [waiting])
    dsimp only
    split
    · have terminal := State.terminateSecurityConnection_committed (state.injectPasskey
        state.pairing.generation state.pairing.connectionHandle state.pairing.pairingId passkey)
        attached.connected attached.terminal environment .smpFailed false
      have ended : ((state.injectPasskey state.pairing.generation state.pairing.connectionHandle
          state.pairing.pairingId passkey).commitPairingTerminal .smpFailed).pairing.liveState =
            .idle :=
        StateMachine.complete_current attached.generation attached.connectionHandle _
      have idle := terminal.idle ended
      refine injection_works sound attached waiting (early waiting) passkey terminal.ledger ?_ ?_
        ?_ ?_
      · refine terminal.pairing.nextPairingId.trans ?_
        exact (StateMachine.complete_keptOrIdle ..).nextPairingId
      · rw [idle]
        nofun
      · rcases terminal.mailbox with same | again
        · exact same
        · exact again
      · exact fun live => absurd idle live
    · rw [StateMachine.consumeResponse_self accepted]
      refine injection_works sound attached waiting (early waiting) passkey rfl rfl nofun wiped ?_
      exact fun _ => .attached ⟨attached.desired, attached.observed, attached.connected,
        attached.generation, attached.connectionHandle, attached.terminal, nofun⟩
  · exact .refl sound

/-- What the pairings are held to does not depend on the rest of the state. -/
theorem Sound.congr (sound : Sound work state) (hold : after.hold = state.hold)
    (mailbox : after.mailbox = state.mailbox) (injections : after.injections = state.injections)
    (filled : after.filledWaiting = state.filledWaiting) : Sound work after := by
  have pairing : after.pairing = state.pairing := congrArg Hold.pairing hold
  have begun : after.begun = state.begun := congrArg Hold.begun hold
  refine ⟨fun live => (sound.held (pairing ▸ live)).congr hold, ?_, ?_, ?_, ?_, ?_⟩
  · exact pairing ▸ sound.opened
  · exact pairing ▸ begun ▸ sound.numbered
  · exact pairing ▸ begun ▸ sound.last
  · exact begun ▸ injections ▸ sound.injected
  · exact pairing ▸ mailbox ▸ filled ▸ sound.filled

end HidBot.BlePairing
