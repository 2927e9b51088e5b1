import HidBot.Pairing.Works

/-!
# Runs of the pairing executor

What holds between the steps of the control task, the BLE host and the executor:
the executor's invariant, and that the mailbox holds digits for the request in
progress only.
-/

namespace HidBot.BlePairing

open Interleaving BleLifecycle

/-! ### Pairing requests -/

def Action.rpcToken : Action → Option Token
  | .pairingStatus token | .pairingRespond token => some token
  | _ => none

theorem Action.isRpc_eq (action : Action) : action.isRpc = action.rpcToken.isSome := by
  cases action <;> rfl

/-- The request of the control task has this token pending, or none. -/
def Requester.Awaits : Requester → Token → Prop
  | .idle, pending => pending = 0
  | .filled token, pending => token ≠ 0 ∧ pending = 0
  | .waiting token, pending => pending = 0 ∨ pending = token

/-- The work holds the pending pairing request and no other, and the mailbox holds
digits of a response that is still to be answered. -/
structure Requested (work : List Action) (state : State) : Prop where
  pending : work.filterMap (·.rpcToken) =
    if state.rpcPending = 0 then [] else [state.rpcPending]
  awaits : state.requester.Awaits state.rpcPending
  secret : state.mailbox.secret ≠ .zero →
    (∃ token, state.requester = .filled token) ∨ .pairingRespond state.rpcPending ∈ work

variable {work other : List Action} {state after : State}

theorem Requested.works (requested : Requested work state) (works : Works other state after) :
    Requested work after := by
  refine ⟨?_, ?_, fun digits => ?_⟩
  · rw [works.rpcPending]
    exact requested.pending
  · rw [works.rpcPending, works.requester]
    exact requested.awaits
  · rw [works.rpcPending, works.requester]
    rcases works.mailbox with same | wiped
    · exact requested.secret (same ▸ digits)
    · rw [wiped] at digits
      exact absurd PairingMailbox.secret_wiped digits

/-- Between requests, no request is queued and the mailbox is empty. -/
theorem Requested.quiet (requested : Requested work state) (free : state.rpcPending = 0) :
    ∀ action ∈ work, action.rpcToken = none := by
  have pending := requested.pending
  rw [if_pos free] at pending
  exact List.filterMap_eq_nil_iff.mp pending

theorem Requested.idle (requested : Requested work state) (idle : state.requester = .idle) :
    state.rpcPending = 0 ∧ state.mailbox.secret = .zero := by
  have free : state.rpcPending = 0 := by
    have awaits := requested.awaits
    rw [idle] at awaits
    exact awaits
  refine ⟨free, ?_⟩
  by_contra digits
  rcases requested.secret digits with ⟨token, filled⟩ | queued
  · rw [idle] at filled
    cases filled
  · exact absurd (requested.quiet free _ queued) nofun

/-- What holds between two steps. -/
structure Invariant (state : State) : Prop where
  sound : Sound state.queue state
  requested : Requested state.queue state

theorem boot_invariant : Invariant boot where
  sound := by
    have numbered : Numbered boot.begun boot.pairing.nextPairingId :=
      ⟨rfl, Nat.two_pow_pos 32, rfl⟩
    refine ⟨fun live => absurd rfl live, ?_, numbered, ?_, ?_, ?_⟩
    · exact fun waiting => nomatch waiting
    · exact fun waiting => nomatch waiting
    · exact fun injection made => nomatch made
    · exact fun _ digits => absurd rfl digits
  requested := ⟨rfl, rfl, fun digits => absurd rfl digits⟩

/-! ### The queue -/

theorem DisableQueued.append (queued : DisableQueued work) (more : List Action) :
    DisableQueued (work ++ more) := by
  obtain ⟨ahead, behind, rfl, calm⟩ := queued
  exact ⟨ahead, behind ++ more, by simp, calm⟩

theorem Anchored.append (anchored : Anchored work state) (more : List Action) :
    Anchored (work ++ more) state := by
  rcases anchored with attached | ⟨disabling, queued⟩
  · exact .attached attached
  · exact .disabling disabling (queued.append more)

theorem Sound.append (sound : Sound work state) (more : List Action) :
    Sound (work ++ more) state :=
  { sound with held := fun live => (sound.held live).append more }

/-- An action other than the disable is no longer waited for. -/
theorem Anchored.tail {action : Action} (anchored : Anchored (action :: work) state)
    (other : action ≠ .bleDisable) : Anchored work state := by
  rcases anchored with attached | ⟨disabling, ahead, behind, split, calm⟩
  · exact .attached attached
  cases ahead with
  | nil => exact absurd (List.cons.inj split).1 other
  | cons first rest =>
      refine .disabling disabling ⟨rest, behind, (List.cons.inj split).2, fun queued member => ?_⟩
      exact calm queued (List.mem_cons_of_mem _ member)

theorem Sound.tail {action : Action} (sound : Sound (action :: work) state)
    (other : action ≠ .bleDisable) : Sound work state :=
  { sound with held := fun live => (sound.held live).tail other }

theorem Requested.append (requested : Requested work state) {action : Action}
    (other : action.rpcToken = none) : Requested (work ++ [action]) state := by
  refine ⟨?_, requested.awaits, fun digits => ?_⟩
  · simp [List.filterMap_append, other, requested.pending]
  · exact (requested.secret digits).imp_right fun queued => List.mem_append_left _ queued

theorem Requested.tail {action : Action} (requested : Requested (action :: work) state)
    (other : action.rpcToken = none) : Requested work state := by
  refine ⟨?_, requested.awaits, fun digits => ?_⟩
  · have pending := requested.pending
    rw [List.filterMap_cons_none other] at pending
    exact pending
  · refine (requested.secret digits).imp_right fun queued => ?_
    rcases List.mem_cons.mp queued with rfl | later
    · cases other
    · exact later

/-! ### The executor's steps -/

/-- The head of the work is the pending request, and the only one. -/
theorem Requested.head {action : Action} {token : Token}
    (requested : Requested (action :: work) state) (rpc : action.rpcToken = some token) :
    token ≠ 0 ∧ state.rpcPending = token ∧ ∀ later ∈ work, later.rpcToken = none := by
  have pending := requested.pending
  rw [List.filterMap_cons_some rpc] at pending
  split at pending
  · cases pending
  · obtain ⟨rfl, none⟩ := List.cons.inj pending
    exact ⟨‹_›, rfl, List.filterMap_eq_nil_iff.mp none⟩

/-- The answered request is no longer pending. -/
theorem Requested.answered {action : Action} {token : Token}
    (requested : Requested (action :: work) state) (rpc : action.rpcToken = some token)
    (free : after.rpcPending = 0) (requester : after.requester = state.requester)
    (secret : after.mailbox.secret = .zero) : Requested work after := by
  obtain ⟨valid, pending, none⟩ := requested.head rpc
  refine ⟨?_, ?_, fun digits => absurd secret digits⟩
  · rw [if_pos free]
    exact List.filterMap_eq_nil_iff.mpr none
  · rw [requester, free]
    have awaits := requested.awaits
    rw [pending] at awaits
    cases asks : state.requester with
    | idle => rfl
    | filled other =>
        rw [asks] at awaits
        exact absurd awaits.2 valid
    | waiting other => exact .inl rfl

/-- After a step the invariant holds, a pairing that no longer waits has left the
mailbox wiped, and the tickets were moved as they may be. -/
structure Steps (state after : State) : Prop where
  invariant : Invariant after
  wiped : state.pairing.liveState = .waitingInput → after.pairing.liveState ≠ .waitingInput →
    after.mailbox = .wiped
  moves : state.tickets.Moves after.tickets

/-- The executor takes the head of the queue, with the invariant over both. -/
theorem Invariant.take {action : Action} {queue : List Action} (invariant : Invariant state)
    (head : state.queue = action :: queue) :
    Sound (action :: queue) { state with queue } ∧
      Requested (action :: queue) { state with queue } := by
  have sound := invariant.sound
  have requested := invariant.requested
  rw [head] at sound requested
  exact ⟨sound.congr rfl rfl rfl rfl, requested.pending, requested.awaits, requested.secret⟩

theorem Works.steps {queue : List Action} (works : Works work { state with queue } after)
    (sound : Sound queue after) (requested : Requested queue after) : Steps state after := by
  refine ⟨⟨?_, ?_⟩, works.wiped, works.moves⟩
  · exact works.queue ▸ sound
  · exact works.queue ▸ requested

/-- The work on an action that is no pairing request and no disable. -/
theorem Works.steps_other {action : Action} {queue : List Action}
    (works : Works (action :: queue) { state with queue } after)
    (requested : Requested (action :: queue) { state with queue })
    (noRequest : action.rpcToken = none) (noDisable : action ≠ .bleDisable) :
    Steps state after :=
  works.steps (works.sound.tail noDisable) ((requested.works works).tail noRequest)

/-- The pending request is answered: its work is done, and then it is completed. -/
theorem Works.steps_request {action : Action} {token : Token} {queue : List Action}
    {middle : State} (works : Works (action :: queue) { state with queue } middle)
    (requested : Requested (action :: queue) { state with queue })
    (rpc : action.rpcToken = some token) (secret : middle.mailbox.secret = .zero) :
    Steps state (middle.completePairingRpc token) := by
  have pending : middle.rpcPending = token := works.rpcPending.trans (requested.head rpc).2.1
  have noDisable : action ≠ .bleDisable := by
    rintro rfl
    cases rpc
  rw [State.completePairingRpc, if_pos pending]
  have answered : Requested queue { middle with rpcPending := 0 } :=
    requested.answered rpc rfl works.requester secret
  have sound : Sound queue { middle with rpcPending := 0 } :=
    (works.sound.tail noDisable).congr rfl rfl rfl rfl
  have queued : ({ middle with rpcPending := 0 } : State).queue = queue := works.queue
  exact ⟨⟨queued ▸ sound, queued ▸ answered⟩, works.wiped, works.moves⟩

/-- A part of the work that reaches the pairings nowhere. -/
theorem Works.untouched (sound : Sound work state) (hold : after.hold = state.hold)
    (mailbox : after.mailbox = state.mailbox ∨ after.mailbox = .wiped)
    (ledger : after.ledger = state.ledger) : Works work state after := by
  have same : after.pairing = state.pairing := congrArg Hold.pairing hold
  refine Settles.works ⟨⟨same ▸ .refl, mailbox, ledger⟩, fun waiting left => ?_,
    fun live => ?_⟩ sound
  · exact absurd (same ▸ waiting) left
  · exact (sound.held (same ▸ live)).congr hold

/-- A pending status request leaves no digits. -/
theorem Requested.status_secret {token : Token}
    (requested : Requested (.pairingStatus token :: work) state) :
    state.mailbox.secret = .zero := by
  obtain ⟨valid, pending, none⟩ := requested.head rfl
  by_contra digits
  rcases requested.secret digits with ⟨other, filled⟩ | queued
  · have awaits := requested.awaits
    rw [filled, pending] at awaits
    exact valid awaits.2
  · rcases List.mem_cons.mp queued with status | later
    · cases status
    · exact absurd (none _ later) nofun

variable {queue : List Action} {middle : State}

theorem processPairingStatus_steps {token : Token}
    (works : Works (.pairingStatus token :: queue) { state with queue } middle)
    (requested : Requested (.pairingStatus token :: queue) { state with queue })
    (environment : Environment) : Steps state (middle.processPairingStatus environment token) := by
  have pending : middle.rpcPending = token := works.rpcPending.trans (requested.head rfl).2.1
  have reconciled := works.trans ((State.reconcilePairingDeadline_settles works.sound.held
    works.sound.opened environment).works works.sound)
  have reported : Works (.pairingStatus token :: queue) { state with queue }
      { middle.reconcilePairingDeadline environment with
        rpcStatus := (middle.reconcilePairingDeadline environment).currentPairingStatus } :=
    reconciled.trans (.untouched reconciled.sound rfl (.inl rfl) rfl)
  rw [State.processPairingStatus, if_neg (not_not_intro pending)]
  exact reported.steps_request requested rfl (requested.works reported).status_secret

theorem processPairingRespond_steps {token : Token}
    (works : Works (.pairingRespond token :: queue) { state with queue } middle)
    (requested : Requested (.pairingRespond token :: queue) { state with queue })
    (environment : Environment) :
    Steps state (middle.processPairingRespond environment token) := by
  have pending : middle.rpcPending = token := works.rpcPending.trans (requested.head rfl).2.1
  have wiped : Works (.pairingRespond token :: queue) { state with queue }
      middle.wipePairingMailbox :=
    works.trans (.untouched works.sound rfl (.inr rfl) rfl)
  have reconciled := wiped.trans ((State.reconcilePairingDeadline_settles wiped.sound.held
    wiped.sound.opened environment).works wiped.sound)
  have empty : (middle.wipePairingMailbox.reconcilePairingDeadline environment).mailbox =
      .wiped := by
    rcases (State.reconcilePairingDeadline_quiet middle.wipePairingMailbox
      environment).mailbox with same | again
    · exact same
    · exact again
  have early (waiting : (middle.wipePairingMailbox.reconcilePairingDeadline
      environment).pairing.liveState = .waitingInput) :
      (middle.wipePairingMailbox.reconcilePairingDeadline environment).now <
        (middle.wipePairingMailbox.reconcilePairingDeadline environment).pairingDeadline := by
    have live : middle.wipePairingMailbox.pairing.liveState ≠ .idle := fun idle => by
      rw [(State.reconcilePairingDeadline_quiet ..).idle idle] at waiting
      cases waiting
    obtain ⟨same, early⟩ := State.reconcilePairingDeadline_waiting
      (wiped.sound.held.attached rfl live) wiped.sound.opened environment waiting
    rw [same]
    exact early
  have finish (answered : RespondResult × State)
      (works : Works (.pairingRespond token :: queue) { state with queue } answered.2)
      (empty : answered.2.mailbox = .wiped) :
      Steps state ({ answered.2 with rpcResult := answered.1 }.completePairingRpc token) := by
    have noted : Works (.pairingRespond token :: queue) { state with queue }
        { answered.2 with rpcResult := answered.1 } :=
      works.trans (.untouched works.sound rfl (.inl rfl) rfl)
    exact noted.steps_request requested rfl (congrArg PairingMailbox.secret empty)
  rw [State.processPairingRespond, if_neg (not_not_intro pending)]
  dsimp only
  split
  · have answers := respondToPairing_works reconciled.sound
      (fun live => reconciled.sound.held.attached rfl live) early empty environment
      middle.mailbox.generation middle.mailbox.connectionHandle middle.mailbox.pairingId
      middle.mailbox.secret
    refine finish _ (reconciled.trans answers) ?_
    rcases answers.mailbox with same | again
    · exact same.trans empty
    · exact again
  · exact finish _ reconciled empty

/-- The step whose processing faults the lifecycle, or takes the claim of a queued
disable, beside a live pairing, is not taken while there is one. -/
def State.Spares (state : State) : Step → Prop
  | .requestBleDisable room _ => room = true
  | .processNext _ =>
      match state.queue with
      | .bleEvent event :: _ => state.SparedBy event
      | _ => True
  | .cycleTail _ => state.Unwatched
  | _ => True

def State.Admits (state : State) (step : Step) : Prop :=
  state.pairing.liveState = .idle ∨ state.Spares step

instance (state : State) : Decidable state.Unwatched := inferInstanceAs (Decidable (_ → _))

instance (state : State) (event : BleEvent) : Decidable (state.SparedBy event) := by
  unfold State.SparedBy
  split <;> infer_instance

instance (state : State) (step : Step) : Decidable (state.Spares step) := by
  unfold State.Spares
  split
  · infer_instance
  · split <;> infer_instance
  · infer_instance
  · infer_instance

instance (state : State) (step : Step) : Decidable (state.Admits step) :=
  inferInstanceAs (Decidable (_ ∨ _))

theorem processNext_steps (invariant : Invariant state) (environment : Environment)
    (admitted : state.Admits (.processNext environment)) :
    Steps state (state.processNext environment) := by
  unfold State.processNext
  cases head : state.queue with
  | nil => exact ⟨invariant, fun waiting left => absurd waiting left, .refl⟩
  | cons action queue =>
      obtain ⟨sound, requested⟩ := invariant.take head
      have fallbacks : Works (action :: queue) { state with queue }
          (State.reconcileBleFallbacks { state with queue }).2 :=
        (State.reconcileBleFallbacks_settles sound.held).works sound
      dsimp only
      cases action with
      | bleEvent event =>
          rw [State.act]
          split
          · exact fallbacks.steps_other requested rfl nofun
          refine (fallbacks.trans (processBleEvent_works fallbacks.sound environment event
            fun live => ?_)).steps_other requested rfl nofun
          have spares : State.Spared { state with queue }
              (State.reconcileBleFallbacks { state with queue }).2 :=
            State.reconcileBleFallbacks_spared
          rcases spares with ended | ⟨lifecycle, operation, deadline⟩
          · exact absurd ended live
          have before : state.pairing.liveState ≠ .idle := fun idle =>
            live ((State.reconcileBleFallbacks_quiet { state with queue }).idle idle)
          have spared : State.SparedBy { state with queue } event := by
            have spares := admitted.resolve_left before
            rw [State.Spares, head] at spares
            exact spares
          exact spared.kept lifecycle operation deadline
      | bleEnable =>
          exact (fallbacks.trans ((State.processEnable_settles fallbacks.sound.held
            environment).works fallbacks.sound)).steps_other requested rfl nofun
      | bleDisable =>
          have works := fallbacks.trans ((State.processDisable_settles fallbacks.sound.held
            environment).works fallbacks.sound)
          exact works.steps works.sound ((requested.works works).tail rfl)
      | pairingStatus token => exact processPairingStatus_steps fallbacks requested environment
      | pairingRespond token => exact processPairingRespond_steps fallbacks requested environment

theorem cycleTail_steps (invariant : Invariant state) (environment : Environment)
    (admitted : state.Admits (.cycleTail environment)) :
    Steps state (state.cycleTail environment) := by
  have fallbacks : Works state.queue state state.reconcileBleFallbacks.2 :=
    (State.reconcileBleFallbacks_settles invariant.sound.held).works invariant.sound
  have works : Works state.queue state (state.cycleTail environment) := by
    refine fallbacks.trans ((State.driveBleDisable_settles fallbacks.sound.held (fun live => ?_)
      environment).works fallbacks.sound)
    have spares : State.Spared state state.reconcileBleFallbacks.2 :=
      State.reconcileBleFallbacks_spared
    rcases spares with ended | ⟨_, operation, deadline⟩
    · exact absurd ended live
    have before : state.pairing.liveState ≠ .idle := fun idle =>
      live (state.reconcileBleFallbacks_quiet.idle idle)
    unfold State.Unwatched
    rw [operation, deadline]
    exact admitted.resolve_left before
  have steps : Works state.queue { state with queue := state.queue }
      (state.cycleTail environment) := works
  exact steps.steps works.sound (invariant.requested.works works)

/-! ### The steps of the other tasks -/

/-- A step that leaves the pairing alone. -/
theorem Steps.of_kept (pairing : after.pairing = state.pairing) (begun : after.begun = state.begun)
    (injections : after.injections = state.injections) (invariant : Invariant after) :
    Steps state after := by
  refine ⟨invariant, fun waiting left => absurd (pairing ▸ waiting) left, ?_⟩
  have same : after.tickets = state.tickets := by
    rw [State.tickets, State.tickets, pairing, begun, injections]
  exact same ▸ .refl

theorem Steps.stays (invariant : Invariant state) : Steps state state :=
  .of_kept rfl rfl rfl invariant

/-- A command over no live pairing may do what it likes to the lifecycle. -/
theorem Sound.of_idle (sound : Sound other state) (idle : state.pairing.liveState = .idle)
    (pairing : after.pairing = state.pairing) (begun : after.begun = state.begun)
    (injections : after.injections = state.injections) (mailbox : after.mailbox = state.mailbox)
    (filled : after.filledWaiting = state.filledWaiting) : Sound work after := by
  refine ⟨fun live => absurd (pairing ▸ idle) live, ?_, ?_, ?_, ?_, ?_⟩
  · exact pairing ▸ sound.opened
  · exact pairing ▸ begun ▸ sound.numbered
  · exact pairing ▸ begun ▸ sound.last
  · exact begun ▸ injections ▸ sound.injected
  · exact pairing ▸ mailbox ▸ filled ▸ sound.filled

/-- What a command of the control task changes is its claim, the lifecycle and the queue. -/
structure Commands (state after : State) (action : Action) : Prop where
  queue : after.queue = state.queue ∨ after.queue = state.queue ++ [action]
  rest : { after with
      lifecycle := state.lifecycle, activeOperation := state.activeOperation
      queue := state.queue } = state

theorem scheduleTransition_commands (state : State) (room : Bool) (operation : ControlOperation)
    (action : Action) (kind : LifecycleOperation) (outcome : TransitionOutcome) :
    Commands state (state.scheduleTransition room operation action kind outcome) action := by
  unfold State.scheduleTransition
  split
  · split
    · exact ⟨.inr rfl, rfl⟩
    · exact ⟨.inl rfl, rfl⟩
  · exact ⟨.inl rfl, rfl⟩

theorem Commands.steps {action : Action} (commands : Commands state after action)
    (noRequest : action.rpcToken = none) (invariant : Invariant state)
    (held : Held after.queue after) : Steps state after := by
  have pairing : after.pairing = state.pairing :=
    (congrArg State.pairing commands.rest :)
  have begun : after.begun = state.begun :=
    (congrArg State.begun commands.rest :)
  have injections : after.injections = state.injections :=
    (congrArg State.injections commands.rest :)
  have mailbox : after.mailbox = state.mailbox :=
    (congrArg State.mailbox commands.rest :)
  have filled : after.filledWaiting = state.filledWaiting :=
    (congrArg State.filledWaiting commands.rest :)
  have pending : after.rpcPending = state.rpcPending :=
    (congrArg State.rpcPending commands.rest :)
  have requester : after.requester = state.requester :=
    (congrArg State.requester commands.rest :)
  have sound := invariant.sound
  have requested : Requested after.queue state := by
    rcases commands.queue with same | queued
    · exact same ▸ invariant.requested
    · exact queued ▸ invariant.requested.append noRequest
  refine .of_kept pairing begun injections ⟨⟨held, ?_, ?_, ?_, ?_, ?_⟩, ?_, ?_, ?_⟩
  · exact pairing ▸ sound.opened
  · exact pairing ▸ begun ▸ sound.numbered
  · exact pairing ▸ begun ▸ sound.last
  · exact begun ▸ injections ▸ sound.injected
  · exact pairing ▸ mailbox ▸ filled ▸ sound.filled
  · exact pending ▸ requested.pending
  · exact requester ▸ pending ▸ requested.awaits
  · exact mailbox ▸ requester ▸ pending ▸ requested.secret

theorem requestBleEnable_commands (state : State) (room : Bool) :
    Commands state (state.requestBleEnable room) .bleEnable := by
  unfold State.requestBleEnable
  dsimp only
  split
  · exact ⟨(scheduleTransition_commands ..).queue, congrArg (fun whole : State =>
      { whole with lifecycle := state.lifecycle, activeOperation := state.activeOperation })
      (scheduleTransition_commands ..).rest⟩
  · exact ⟨.inl rfl, rfl⟩

theorem requestBleDisable_commands (state : State) (room routeHeld : Bool) :
    Commands state (state.requestBleDisable room routeHeld) .bleDisable := by
  unfold State.requestBleDisable
  dsimp only
  split
  · exact ⟨(scheduleTransition_commands ..).queue, congrArg (fun whole : State =>
      { whole with lifecycle := state.lifecycle, activeOperation := state.activeOperation })
      (scheduleTransition_commands ..).rest⟩
  · exact ⟨.inl rfl, rfl⟩

/-- The claim is there to be taken only when nothing holds it. -/
theorem claim_free {operation active : ControlOperation}
    (claimed : (operation.claim active).1 = true) : active = .none := by
  unfold ControlOperation.claim at claimed
  split at claimed
  · assumption
  · cases claimed

/-- A refused command gives the claim back. -/
theorem request_refused {operation : ControlOperation} {call : Program Words TransitionOutcome}
    (free : state.activeOperation = .none)
    (refused : (call.exec state.lifecycle).1.actionResult ≠ .accepted)
    (same : (call.exec state.lifecycle).2 = state.lifecycle) (room : Bool) (action : Action)
    (kind : LifecycleOperation) :
    State.scheduleTransition ((state.claimOperation operation).onLifecycle call).2 room operation
      action kind ((state.claimOperation operation).onLifecycle call).1 = state := by
  have claimed : (operation.claim state.activeOperation).2 = operation := by
    rw [free]
    rfl
  have restored : ({ state with lifecycle := state.lifecycle, activeOperation := .none } : State) =
      state := by
    rw [← free]
  have refused : ((state.claimOperation operation).onLifecycle call).1.actionResult ≠ .accepted :=
    refused
  unfold State.scheduleTransition
  rw [if_neg refused]
  simpa [State.releaseOperation, State.onLifecycle, State.claimOperation, claimed, same,
    ControlOperation.release] using restored

theorem requestBleEnable_steps (invariant : Invariant state) (room : Bool) :
    Steps state (state.requestBleEnable room) := by
  refine (requestBleEnable_commands state room).steps rfl invariant fun live => ?_
  have kept : (state.requestBleEnable room).pairing = state.pairing :=
    (congrArg State.pairing (requestBleEnable_commands state room).rest :)
  have anchored := invariant.sound.held (kept ▸ live)
  have same : state.requestBleEnable room = state := by
    unfold State.requestBleEnable
    dsimp only
    split
    · have free := claim_free ‹_›
      rcases anchored with attached | ⟨disabling, _⟩
      · obtain ⟨refused, same⟩ := exec_beginEnable_connected attached.desired attached.observed
        exact request_refused free refused same ..
      · rw [disabling.operation] at free
        cases free
    · rfl
  rw [same]
  exact anchored

/-- A disable that is begun over a live pairing is queued, with nothing asked before it. -/
theorem requestBleDisable_steps (invariant : Invariant state) (idle : state.requester = .idle)
    {room routeHeld : Bool} (admitted : state.Admits (.requestBleDisable room routeHeld)) :
    Steps state (state.requestBleDisable room routeHeld) := by
  refine (requestBleDisable_commands state room routeHeld).steps rfl invariant fun live => ?_
  have kept : (state.requestBleDisable room routeHeld).pairing = state.pairing :=
    (congrArg State.pairing (requestBleDisable_commands state room routeHeld).rest :)
  have roomy : room = true := admitted.resolve_left (kept ▸ live)
  have anchored := invariant.sound.held (kept ▸ live)
  unfold State.requestBleDisable
  dsimp only
  split
  · rename_i claimed
    have free := claim_free claimed.2
    rcases anchored with attached | ⟨disabling, _⟩
    · rcases exec_beginDisable_connected attached.desired attached.observed with
        ⟨refused, same⟩ | ⟨accepted, desired, observed, connected⟩
      · rw [request_refused free refused same]
        exact .attached attached
      · have calm := invariant.requested.quiet (invariant.requested.idle idle).1
        have accepted : ((state.claimOperation .bleDisable).onLifecycle
            beginDisable).1.actionResult = .accepted := accepted
        rw [State.scheduleTransition, if_pos accepted, if_pos roomy]
        refine .disabling ⟨desired, observed, connected.trans attached.connected, ?_,
          attached.terminal⟩ ⟨state.queue, [], rfl, fun action member => ?_⟩
        · simp [State.enqueue, State.onLifecycle, State.claimOperation, ControlOperation.claim,
            free]
        · rw [action.isRpc_eq, calm action member]
          rfl
    · rw [disabling.operation] at free
      cases free
  · exact anchored

theorem signalBleEvent_steps (invariant : Invariant state) (room : Bool) (event : BleEvent) :
    Steps state (state.signalBleEvent room event) := by
  unfold State.signalBleEvent
  split
  · have silent : (Action.bleEvent event).rpcToken = none := rfl
    have requested := invariant.requested.append silent
    exact .of_kept rfl rfl rfl
      ⟨(invariant.sound.append [.bleEvent event]).congr rfl rfl rfl rfl,
        requested.pending, requested.awaits, requested.secret⟩
  · unfold State.markBleEventOverflow
    split
    · split
      · exact .of_kept rfl rfl rfl ⟨invariant.sound.congr rfl rfl rfl rfl,
          invariant.requested.pending, invariant.requested.awaits, invariant.requested.secret⟩
      · exact .of_kept rfl rfl rfl ⟨invariant.sound.congr rfl rfl rfl rfl,
          invariant.requested.pending, invariant.requested.awaits, invariant.requested.secret⟩
    · exact .stays invariant

theorem takeRpcToken_valid (state : State) : state.takeRpcToken.1 ≠ 0 := by
  unfold State.takeRpcToken
  split
  · decide
  · assumption

/-- A request that is queued is the pending one. -/
theorem Requested.asked (requested : Requested state.queue state) (free : state.rpcPending = 0)
    {action : Action} {token : Token} (asks : action.rpcToken = some token) (valid : token ≠ 0)
    (queue : after.queue = state.queue ++ [action]) (pending : after.rpcPending = token)
    (requester : after.requester = .waiting token)
    (secret : after.mailbox.secret ≠ .zero → action = .pairingRespond token) :
    Requested after.queue after := by
  refine ⟨?_, ?_, fun digits => .inr ?_⟩
  · have before : state.queue.filterMap (·.rpcToken) = [] :=
      List.filterMap_eq_nil_iff.mpr (requested.quiet free)
    rw [queue, pending, if_neg valid, List.filterMap_append, before,
      List.filterMap_cons_some asks]
    rfl
  · rw [requester, pending]
    exact .inr rfl
  · rw [queue, pending, secret digits]
    exact List.mem_append_right _ (List.mem_singleton_self _)

theorem requestPairingStatus_steps (invariant : Invariant state) (idle : state.requester = .idle)
    (room : Bool) : Steps state (state.requestPairingStatus room) := by
  obtain ⟨free, empty⟩ := invariant.requested.idle idle
  unfold State.requestPairingStatus
  rw [if_neg (not_not_intro free)]
  dsimp only
  split
  · refine .of_kept rfl rfl rfl ⟨?_, ?_⟩
    · exact (invariant.sound.append [.pairingStatus state.takeRpcToken.1]).congr rfl rfl rfl rfl
    · have asks : (Action.pairingStatus state.takeRpcToken.1).rpcToken =
          some state.takeRpcToken.1 := rfl
      exact invariant.requested.asked free asks (takeRpcToken_valid state) rfl rfl rfl
        fun digits => absurd empty digits
  · exact .of_kept rfl rfl rfl ⟨invariant.sound.congr rfl rfl rfl rfl,
      invariant.requested.pending, invariant.requested.awaits, invariant.requested.secret⟩

/-- Filling the mailbox notes whether a pairing waits. -/
theorem fillPairingMailbox_steps (invariant : Invariant state) (idle : state.requester = .idle)
    (coherent : Bool) (id : PairingId) (secret : Secret) :
    Steps state (state.fillPairingMailbox coherent id secret) := by
  obtain ⟨free, _⟩ := invariant.requested.idle idle
  have sound := invariant.sound
  unfold State.fillPairingMailbox
  rw [if_neg (not_not_intro free)]
  refine .of_kept rfl rfl rfl ⟨⟨fun live => (sound.held live).congr (by rfl), sound.opened,
    sound.numbered, sound.last, sound.injected, fun left _ => ?_⟩, invariant.requested.pending,
    ⟨takeRpcToken_valid state, free⟩, fun _ => .inl ⟨_, rfl⟩⟩
  simpa using left

theorem submitPairingResponse_steps (invariant : Invariant state) {token : Token}
    (filled : state.requester = .filled token) (room : Bool) :
    Steps state (state.submitPairingResponse room token) := by
  have awaits := invariant.requested.awaits
  rw [filled] at awaits
  obtain ⟨valid, free⟩ := awaits
  have sound := invariant.sound
  unfold State.submitPairingResponse
  split
  · refine .of_kept rfl rfl rfl ⟨?_, ?_⟩
    · exact (sound.append [.pairingRespond token]).congr rfl rfl rfl rfl
    · have asks : (Action.pairingRespond token).rpcToken = some token := rfl
      exact invariant.requested.asked free asks valid rfl rfl rfl fun _ => rfl
  · refine .of_kept rfl rfl rfl ⟨⟨fun live => (sound.held live).congr (by rfl), sound.opened,
      sound.numbered, sound.last, sound.injected, fun _ digits => absurd rfl digits⟩,
      invariant.requested.pending, free, fun digits => absurd rfl digits⟩

/-- The request returns when the executor has answered it, which wiped the mailbox. -/
theorem returnPairingRequest_steps (invariant : Invariant state) {token : Token}
    (waiting : state.requester = .waiting token) (answered : state.rpcPending ≠ token) :
    Steps state { state with requester := .idle } := by
  have awaits := invariant.requested.awaits
  rw [waiting] at awaits
  have free : state.rpcPending = 0 := awaits.resolve_right answered
  refine .of_kept rfl rfl rfl ⟨invariant.sound.congr rfl rfl rfl rfl,
    invariant.requested.pending, free, fun digits => ?_⟩
  rcases invariant.requested.secret digits with ⟨other, filled⟩ | queued
  · rw [waiting] at filled
    cases filled
  · exact absurd (invariant.requested.quiet free _ queued) nofun

/-- A step that reaches neither the requests nor the pairings. -/
theorem Steps.aside (invariant : Invariant state) (hold : after.hold = state.hold)
    (ledger : after.ledger = state.ledger) (mailbox : after.mailbox = state.mailbox) :
    Steps state after := by
  have queue : after.queue = state.queue := congrArg Ledger.queue ledger
  have injections : after.injections = state.injections := congrArg Ledger.injections ledger
  refine .of_kept (congrArg Hold.pairing hold) (congrArg Ledger.begun ledger) injections
    ⟨?_, ?_⟩
  · exact queue ▸ invariant.sound.congr hold mailbox injections
      (congrArg Ledger.filledWaiting ledger)
  · have requested := invariant.requested
    have pending : after.rpcPending = state.rpcPending := congrArg Ledger.rpcPending ledger
    have requester : after.requester = state.requester := congrArg Ledger.requester ledger
    refine ⟨?_, ?_, ?_⟩
    · exact queue ▸ pending ▸ requested.pending
    · exact requester ▸ pending ▸ requested.awaits
    · exact queue ▸ mailbox ▸ requester ▸ pending ▸ requested.secret

theorem step_steps (invariant : Invariant state) {step : Step} (admitted : state.Admits step) :
    Steps state (state.step step) := by
  cases step with
  | requestBleEnable room =>
      rw [State.step]
      split
      · exact requestBleEnable_steps invariant room
      · exact .stays invariant
  | requestBleDisable room routeHeld =>
      rw [State.step]
      split
      · exact requestBleDisable_steps invariant ‹_› admitted
      · exact .stays invariant
  | requestPairingStatus room =>
      rw [State.step]
      split
      · exact requestPairingStatus_steps invariant ‹_› room
      · exact .stays invariant
  | fillPairingMailbox coherent id secret =>
      rw [State.step]
      split
      · exact fillPairingMailbox_steps invariant ‹_› coherent id secret
      · exact .stays invariant
  | submitPairingResponse room =>
      rw [State.step]
      split
      · exact submitPairingResponse_steps invariant ‹_› room
      · exact .stays invariant
  | returnPairingRequest =>
      rw [State.step]
      split
      · split
        · exact .stays invariant
        · exact returnPairingRequest_steps invariant ‹_› ‹_›
      · exact .stays invariant
  | signalBleEvent room event => exact signalBleEvent_steps invariant room event
  | observeStoreFailure => exact .aside invariant rfl rfl rfl
  | failHandoff => exact .aside invariant rfl rfl rfl
  | processNext environment => exact processNext_steps invariant environment admitted
  | cycleTail environment => exact cycleTail_steps invariant environment admitted
  | tick elapsed => exact .aside invariant rfl rfl rfl

/-! ### Runs -/

/-- Reached from the boot by steps that are all admitted. -/
inductive AdmittedRun : State → Prop
  | boot : AdmittedRun boot
  | step {state : State} (reached : AdmittedRun state) (step : Step)
      (admitted : state.Admits step) : AdmittedRun (state.step step)

def AdmittedFrom (state : State) : List Step → Prop
  | [] => True
  | step :: later => state.Admits step ∧ AdmittedFrom (state.step step) later

instance : (state : State) → (steps : List Step) → Decidable (AdmittedFrom state steps)
  | _, [] => inferInstanceAs (Decidable True)
  | state, step :: later =>
      have := instDecidableAdmittedFrom (state.step step) later
      inferInstanceAs (Decidable (_ ∧ _))

theorem AdmittedRun.follow (reached : AdmittedRun state) {steps : List Step}
    (admitted : AdmittedFrom state steps) : AdmittedRun (steps.foldl State.step state) := by
  induction steps generalizing state with
  | nil => exact reached
  | cons step later ih => exact ih (reached.step step admitted.1) admitted.2

theorem AdmittedRun.invariant (reached : AdmittedRun state) : Invariant state := by
  induction reached with
  | boot => exact boot_invariant
  | step _ step admitted ih => exact (step_steps ih admitted).invariant

theorem boot_tickets : boot.tickets = {} := rfl

/-- Over a run, the identifiers are tickets that are used once. -/
theorem AdmittedRun.tickets (reached : AdmittedRun state) : Tickets.Moves {} state.tickets := by
  induction reached with
  | boot => exact boot_tickets ▸ .refl
  | step reached step admitted ih =>
      exact ih.trans (step_steps reached.invariant admitted).moves

end HidBot.BlePairing
