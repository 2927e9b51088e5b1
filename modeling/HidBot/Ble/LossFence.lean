import HidBot.Ble.RouteLoss

/-!
# Queued losses stay fenced

A run is any order of whole calls of the BLE host, the control task and the
executor. The executor clears a route-loss mark as the last access of processing
an event, which is a step of its own here.
-/

namespace HidBot.BleControl

open Interleaving BleLifecycle

/-! ### What the executor and the control task keep -/

/-- The marks stay, and no event is noted anew. -/
structure KeepsLoss (before after : State) : Prop where
  authority : after.routeLossAuthority = before.routeLossAuthority
  zero : after.routeLossAuthorityZero = before.routeLossAuthorityZero
  noted : ∀ event, after.Noted event → before.Noted event

theorem KeepsLoss.refl (state : State) : KeepsLoss state state := ⟨rfl, rfl, fun _ => id⟩

theorem KeepsLoss.trans {first second third : State} (one : KeepsLoss first second)
    (two : KeepsLoss second third) : KeepsLoss first third :=
  ⟨two.authority.trans one.authority, two.zero.trans one.zero,
    fun event noted => one.noted event (two.noted event noted)⟩

/-- An access that leaves the queue alone. -/
theorem KeepsLoss.of_same {before after : State}
    (authority : after.routeLossAuthority = before.routeLossAuthority)
    (zero : after.routeLossAuthorityZero = before.routeLossAuthorityZero)
    (queue : after.queue = before.queue) : KeepsLoss before after :=
  ⟨authority, zero, fun event noted => by rwa [State.Noted, ← queue]⟩

theorem KeepsLoss.marked {before after : State} (keeps : KeepsLoss before after)
    {authority : Generation} (marked : before.LossMarked authority) :
    after.LossMarked authority := by
  rwa [State.LossMarked, keeps.authority, keeps.zero]

/-- A lifecycle call, whatever it does. -/
theorem onBle_keepsLoss {α : Type} (call : Program Words α) : (onBle call).Each KeepsLoss :=
  .zoom (fun _ _ _ => .of_same rfl rfl rfl) (.any call)

theorem steps_keepLoss : QuietSteps (fun _ _ => True) KeepsLoss where
  books _ _ books := .of_same books.authority books.zero books.queue
  lift _ _ _ := .of_same rfl rfl rfl
  refl _ := trivial
  fault _ _ _ := .any _
  hiddenInitialization _ := .any _
  hiddenSync _ := .any _
  sync _ := .any _
  disconnect _ _ _ := .any _
  disable _ := .any _
  resetRecovery _ _ := .any _

/-- A store outside the queue and the marks. -/
theorem write_keepsLoss {update : State → State}
    (authority : ∀ state, (update state).routeLossAuthority = state.routeLossAuthority)
    (zero : ∀ state, (update state).routeLossAuthorityZero = state.routeLossAuthorityZero)
    (queue : ∀ state, (update state).queue = state.queue) :
    (Program.write update).Each KeepsLoss :=
  .write fun state => .of_same (authority state) (zero state) (queue state)

theorem read_keepsLoss {α : Type} (view : State → α) : (Program.read view).Each KeepsLoss :=
  .read .refl view

theorem releaseOperation_keepsLoss (operation : ControlOperation) :
    (releaseOperation operation).Each KeepsLoss :=
  write_keepsLoss (fun _ => rfl) (fun _ => rfl) fun _ => rfl

theorem dequeue_keepsLoss : dequeue.Each KeepsLoss := by
  refine .readModifyWrite fun state => ?_
  split
  · exact .refl state
  · rename_i action queue found
    refine ⟨rfl, rfl, fun event noted => ?_⟩
    rw [State.Noted, found]
    exact List.mem_cons_of_mem _ noted

/-- Nothing that the executor does for BLE marks a loss or clears a mark, but
for the last access of processing. -/
theorem blocks_keepLoss : Blocks fun call => call.Each KeepsLoss where
  toQuietBlocks := steps_keepLoss.blocks dequeue_keepsLoss
  advertising _ := onBle_keepsLoss _
  connect _ _ := onBle_keepsLoss _

theorem clearProcessed_spec {authority : Generation} {state : State} {cleared : Option Generation}
    (marked : state.LossMarked authority) (other : cleared ≠ some authority) :
    ((clearProcessed cleared).exec state).2.LossMarked authority := by
  cases cleared with
  | none => exact marked
  | some generation =>
      have different : authority ≠ generation := fun same => other (congrArg some same.symm)
      unfold State.LossMarked at marked ⊢
      unfold clearProcessed clearBleRouteLoss
      by_cases zero : generation = 0
      · rw [if_neg (zero ▸ different)] at marked ⊢
        simpa [zero] using marked
      · by_cases found : state.routeLossAuthority = generation
        · have absent : authority = 0 := by
            by_contra nonzero
            rw [if_neg nonzero] at marked
            exact different (marked.symm.trans found)
          simpa [zero, found, absent] using marked
        · simpa [zero, found] using marked

theorem enqueue_keepsLoss (room : Bool) {action : Action}
    (unnoted : ∀ event, action ≠ .bleEvent event true) : (enqueue room action).Each KeepsLoss := by
  unfold enqueue
  split
  · refine .bind (.write fun state => ⟨rfl, rfl, fun event noted => ?_⟩) fun _ => trivial
    rcases List.mem_append.mp noted with before | added
    · exact before
    · exact absurd (List.mem_singleton.mp added).symm (unnoted event)
  · trivial

theorem scheduleTransition_keepsLoss (room : Bool) (operation : ControlOperation)
    {action : Action} (kind : LifecycleOperation) (outcome : TransitionOutcome)
    (unnoted : ∀ event, action ≠ .bleEvent event true) :
    (scheduleTransition room operation action kind outcome).Each KeepsLoss := by
  unfold scheduleTransition
  split
  · refine .bind (enqueue_keepsLoss room unnoted) fun queued => ?_
    split
    · trivial
    · refine .bind (onBle_keepsLoss _) fun _ => ?_
      refine .bind blocks_keepLoss.clearBleHidPeer fun _ => ?_
      exact .bind (releaseOperation_keepsLoss _) fun _ => trivial
  · exact .bind (releaseOperation_keepsLoss _) fun _ => trivial

theorem claimOperation_keepsLoss (operation : ControlOperation) :
    (claimOperation operation).Each KeepsLoss :=
  .readModifyWrite fun _ => .of_same rfl rfl rfl

theorem requestBleEnable_keepsLoss (room : Bool) : (requestBleEnable room).Each KeepsLoss := by
  refine .bind (claimOperation_keepsLoss _) fun claimed => ?_
  split
  · exact .bind (onBle_keepsLoss _) fun outcome => scheduleTransition_keepsLoss _ _ _ _ (by simp)
  · trivial

theorem requestBleDisable_keepsLoss (room routeFree : Bool) :
    (requestBleDisable room routeFree).Each KeepsLoss := by
  unfold requestBleDisable
  split
  · refine .bind (claimOperation_keepsLoss _) fun claimed => ?_
    split
    · exact .bind (onBle_keepsLoss _) fun outcome => scheduleTransition_keepsLoss _ _ _ _ (by simp)
    · trivial
  · trivial

theorem requestProfileSelect_keepsLoss (room quiescent : Bool) :
    (requestProfileSelect room quiescent).Each KeepsLoss := by
  have refused : (do releaseOperation .profileSelection; return false : Program State Bool).Each
      KeepsLoss := .bind (releaseOperation_keepsLoss _) fun _ => trivial
  refine .bind (claimOperation_keepsLoss _) fun claimed => ?_
  split
  · refine .bind (onBle_keepsLoss _) fun lifecycle => .bind (read_keepsLoss _) fun stack => ?_
    dsimp only
    split
    · exact refused
    have restarted : (restartHidden lifecycle.stackReady).Each KeepsLoss := by
      unfold restartHidden
      split
      · exact onBle_keepsLoss _
      · trivial
    refine .bind restarted fun restarted => ?_
    split
    · exact refused
    refine .bind (write_keepsLoss (fun _ => rfl) (fun _ => rfl) fun _ => rfl) fun _ => ?_
    refine .bind (enqueue_keepsLoss room (by simp)) fun queued => ?_
    split
    · trivial
    · refine .bind (onBle_keepsLoss _) fun generation => .bind (onBle_keepsLoss _) fun _ => ?_
      exact refused
  · trivial

/-! ### Runs -/

namespace Loss

inductive Call where
  | signal (room : Bool) (spurious : Nat) (event : BleEvent)
  | processNext (turns : Nat) (environment : Environment)
  | clearProcessed
  | cycleTail (turns : Nat) (environment : Environment)
  | failBleRouteDisconnect (released : Generation) (result : Int32) (owner : ControlOperation)
  | activateBleRoute (link : Link) (route : RouteAnswers)
  | submitBleReport (link : Link) (work : HidWork) (interface : BleHidInterface)
      (notified : BleNotifyBackendResult)
  | requestBleEnable (room : Bool)
  | requestBleDisable (room routeFree : Bool)
  | requestProfileSelect (room quiescent : Bool)
  | observeStoreFailure
  | failHandoff
  deriving DecidableEq, Repr

/-- The state, and the mark that the executor clears next. -/
structure Run where
  state : State := {}
  clearing : Option Generation := none
  deriving DecidableEq, Repr

def Action.lapse : Action → Action
  | .bleEvent event _ => .bleEvent event false
  | action => action

/-- The notes of queued events lapse when the generation moves on. -/
def lapse (before after : State) : State :=
  if after.lifecycle.generation = before.lifecycle.generation then after
  else { after with queue := after.queue.map Action.lapse }

def Run.make {α : Type} (run : Run) (call : Program State α) : Run :=
  { run with state := lapse run.state (call.exec run.state).2 }

/-- The executor makes no other call before it has cleared the mark. -/
def Run.execute {α : Type} (run : Run) (call : Program State α) : Run :=
  match run.clearing with
  | none => run.make call
  | some _ => run

def Run.process (run : Run) (turns : Nat) (environment : Environment) : Run :=
  match run.clearing with
  | none =>
      { run.make (processNext turns environment) with
        clearing := ((processNext turns environment).exec run.state).1 }
  | some _ => run

def call : Call → Run → Run
  | .signal room spurious event, run =>
      run.make (signalBleEvent room (List.replicate spurious true ++ [false]) event)
  | .processNext turns environment, run => run.process turns environment
  | .clearProcessed, run => { run.make (clearProcessed run.clearing) with clearing := none }
  | .cycleTail turns environment, run => run.execute (cycleTail turns environment)
  | .failBleRouteDisconnect released result owner, run =>
      run.execute (failBleRouteDisconnect released result owner)
  | .activateBleRoute link route, run => run.execute (activateBleRoute link route)
  | .submitBleReport link work interface notified, run =>
      run.execute (submitBleReport link work interface notified)
  | .requestBleEnable room, run => run.make (requestBleEnable room)
  | .requestBleDisable room routeFree, run => run.make (requestBleDisable room routeFree)
  | .requestProfileSelect room quiescent, run => run.make (requestProfileSelect room quiescent)
  | .observeStoreFailure, run =>
      { run with state := { run.state with persistentStoreFailureObserved := true } }
  | .failHandoff, run => { run with state := { run.state with handoffFailure := true } }

/-- Every call in every order. -/
def own (_ : Run) (_ : Call) : Prop := True

/-- The executor clears a mark only if no other noted event of its generation is queued. -/
def noneBehind (run : Run) (operation : Call) : Prop :=
  operation = .clearProcessed → ∀ event, run.state.Noted event →
    run.clearing ≠ some event.generation

/-- A noted event is fenced: its mark is pending, no route is activated and no
report is submitted. -/
structure Fenced (event : BleEvent) (state : State) : Prop where
  pending : ((bleRouteLossPending event.generation).exec state).1 = true
  notActivated : ∀ link route, ((activateBleRoute link route).exec state).1 = .notReady
  notSubmitted : ∀ link work interface notified,
    ((submitBleReport link work interface notified).exec state).1 = .notReady ∨
      ((submitBleReport link work interface notified).exec state).1 = .stale

def LossFenced (allowed : Run → Call → Prop) : Prop :=
  ∀ run event, Follows call allowed {} run → run.state.Noted event → Fenced event run.state

/-- What the mark of the current generation fences. -/
theorem Fenced.of_lost {event : BleEvent} {state : State}
    (lost : state.LossMarked event.generation)
    (current : event.generation = state.lifecycle.generation) : Fenced event state := by
  refine ⟨(bleRouteLossPending_iff _ _).mpr lost, fun link route => ?_, fun link work interface notified => ?_⟩
  · rw [current] at lost
    unfold activateBleRoute bleRouteReady
    simp [Program.exec_bind, bleLinkReady_of_lost link lost]
  · rw [current] at lost
    unfold submitBleReport
    have refused := bleHidInterfaceReady_of_lost link work interface lost
    rw [Program.exec_bind]
    have same : ((currentBleHidIdentity work interface).exec state).2 = state := rfl
    rw [same]
    split
    · exact .inr rfl
    · left
      simp [Program.exec_bind, refused]

/-! ### Runs keep losses fenced -/

/-- Every noted event is of the current generation, and that is marked. -/
structure Run.Sound (run : Run) : Prop where
  current : ∀ event, run.state.Noted event → event.generation = run.state.lifecycle.generation
  marked : ∀ event, run.state.Noted event → run.state.LossMarked event.generation

theorem noted_of_lapse {event : BleEvent} {before after : State}
    (noted : (lapse before after).Noted event) :
    after.lifecycle.generation = before.lifecycle.generation ∧ after.Noted event := by
  unfold lapse at noted
  split at noted
  · rename_i same
    exact ⟨same, noted⟩
  · obtain ⟨action, member, lapsed⟩ := List.mem_map.mp noted
    cases action <;> simp [Action.lapse] at lapsed

theorem lapse_of_same {before after : State}
    (same : after.lifecycle.generation = before.lifecycle.generation) :
    lapse before after = after := if_pos same

theorem Run.Sound.keeps {run : Run} (sound : run.Sound) {after : State}
    (keeps : KeepsLoss run.state after) (clearing : Option Generation) :
    Run.Sound { state := lapse run.state after, clearing } := by
  constructor <;> intro event noted
  · obtain ⟨same, noted⟩ := noted_of_lapse noted
    rw [lapse_of_same same, same]
    exact sound.current event (keeps.noted event noted)
  · obtain ⟨same, noted⟩ := noted_of_lapse noted
    rw [lapse_of_same same]
    exact keeps.marked (sound.marked event (keeps.noted event noted))

theorem Run.Sound.make {α : Type} {run : Run} (sound : run.Sound) {call : Program State α}
    (keeps : call.Each KeepsLoss) : (run.make call).Sound :=
  sound.keeps (keeps.exec .refl (fun _ _ _ => .trans) run.state) run.clearing

theorem Run.Sound.execute {α : Type} {run : Run} (sound : run.Sound) {call : Program State α}
    (keeps : call.Each KeepsLoss) : (run.execute call).Sound := by
  unfold Run.execute
  split
  · exact sound.make keeps
  · exact sound

theorem Run.Sound.signal {run : Run} (sound : run.Sound) {event : BleEvent} {after : State}
    (signalled : Signalled event run.state after) :
    Run.Sound { run with state := lapse run.state after } := by
  have same := congrArg Words.generation signalled.lifecycle
  rw [lapse_of_same same]
  have current (other : BleEvent) (noted : after.Noted other) :
      other.generation = run.state.lifecycle.generation ∧
        after.LossMarked run.state.lifecycle.generation := by
    rcases signalled.noted other noted with before | ⟨rfl, lost⟩
    · have now := sound.current other before
      exact ⟨now, signalled.marked (.inl (now ▸ sound.marked other before))⟩
    · exact ⟨State.TargetedBy.current lost.2, signalled.marked (.inr lost)⟩
  refine ⟨fun other noted => ?_, fun other noted => ?_⟩
  · exact (current other noted).1.trans same.symm
  · rw [(current other noted).1]
    exact (current other noted).2

/-- The clearing of a mark is sound if no noted event of its generation is queued. -/
theorem Run.Sound.clear {run : Run} (sound : run.Sound)
    (none : ∀ event, run.state.Noted event → run.clearing ≠ some event.generation) :
    Run.Sound { run.make (clearProcessed run.clearing) with clearing := .none } := by
  have rest : ((clearProcessed run.clearing).exec run.state).2.lifecycle = run.state.lifecycle ∧
      ((clearProcessed run.clearing).exec run.state).2.queue = run.state.queue := by
    unfold clearProcessed
    split
    · exact ⟨rfl, rfl⟩
    · unfold clearBleRouteLoss
      split
      · exact ⟨rfl, rfl⟩
      · simp only [Program.exec_write]
        split <;> exact ⟨rfl, rfl⟩
  have same := congrArg Words.generation rest.1
  simp only [Run.make, lapse_of_same same]
  have before (event : BleEvent)
      (noted : ((clearProcessed run.clearing).exec run.state).2.Noted event) :
      run.state.Noted event := by rwa [State.Noted, rest.2] at noted
  refine ⟨fun event noted => ?_, fun event noted => ?_⟩
  · exact (sound.current event (before event noted)).trans same.symm
  · exact clearProcessed_spec (sound.marked event (before event noted))
      (none event (before event noted))

theorem failBleRouteDisconnect_keepsLoss (released : Generation) (result : Int32)
    (owner : ControlOperation) : (failBleRouteDisconnect released result owner).Each KeepsLoss :=
  .bind (steps_keepLoss.failBle _ _ _ _) fun _ => releaseOperation_keepsLoss owner

theorem overflowPending_keepsLoss (generation : Generation) :
    (bleEventOverflowPending generation).Each KeepsLoss := by
  unfold bleEventOverflowPending
  split
  · exact read_keepsLoss _
  · exact .bind (read_keepsLoss _) fun _ => trivial

theorem routeLossPending_keepsLoss (generation : Generation) :
    (bleRouteLossPending generation).Each KeepsLoss := by
  unfold bleRouteLossPending
  split
  · exact read_keepsLoss _
  · exact .bind (read_keepsLoss _) fun _ => trivial

theorem bleLinkReady_keepsLoss (link : Link) : (bleLinkReady link).Each KeepsLoss := by
  refine .bind (read_keepsLoss _) fun peer => .bind (read_keepsLoss _) fun failed => ?_
  split
  · trivial
  refine .bind (onBle_keepsLoss _) fun lifecycle => ?_
  refine .bind (overflowPending_keepsLoss _) fun overflowed => ?_
  split
  · trivial
  refine .bind (routeLossPending_keepsLoss _) fun lost => ?_
  split
  · trivial
  · exact .bind (read_keepsLoss _) fun connection => trivial

theorem activateBleRoute_keepsLoss (link : Link) (route : RouteAnswers) :
    (activateBleRoute link route).Each KeepsLoss := by
  have ready (owned : Bool) : (bleRouteReady link owned).Each KeepsLoss :=
    .bind (bleLinkReady_keepsLoss link) fun _ => trivial
  refine .bind (ready _) fun active => ?_
  split
  · trivial
  refine .bind (bleLinkReady_keepsLoss link) fun linked => ?_
  split
  · trivial
  split
  · trivial
  refine .bind (ready _) fun active => ?_
  split <;> trivial

theorem submitBleReport_keepsLoss (link : Link) (work : HidWork) (interface : BleHidInterface)
    (notified : BleNotifyBackendResult) :
    (submitBleReport link work interface notified).Each KeepsLoss := by
  have identity : (currentBleHidIdentity work interface).Each KeepsLoss :=
    .bind (read_keepsLoss _) fun peer => trivial
  refine .bind identity fun current => ?_
  split
  · trivial
  refine .bind ?_ fun ready => ?_
  · refine .bind identity fun current => ?_
    split
    · trivial
    refine .bind (read_keepsLoss _) fun peer => .bind (read_keepsLoss _) fun failed => ?_
    split
    · trivial
    refine .bind (onBle_keepsLoss _) fun lifecycle => ?_
    refine .bind (overflowPending_keepsLoss _) fun overflowed => ?_
    split
    · trivial
    refine .bind (routeLossPending_keepsLoss _) fun lost => ?_
    split
    · trivial
    · exact .bind (read_keepsLoss _) fun connection => trivial
  · split <;> trivial

theorem Run.Sound.process {run : Run} (sound : run.Sound) (turns : Nat)
    (environment : Environment) : (run.process turns environment).Sound := by
  unfold Run.process
  split
  · exact sound.keeps ((blocks_keepLoss.processNext turns environment).exec .refl
      (fun _ _ _ => .trans) run.state) _
  · exact sound

theorem Run.Sound.step {run : Run} (sound : run.Sound) {operation : Call}
    (admitted : noneBehind run operation) : (call operation run).Sound := by
  cases operation with
  | signal room spurious event => exact sound.signal (signalBleEvent_signalled ..)
  | processNext turns environment => exact sound.process turns environment
  | clearProcessed => exact sound.clear (admitted rfl)
  | cycleTail turns environment => exact sound.execute (blocks_keepLoss.cycleTail turns environment)
  | failBleRouteDisconnect released result owner =>
      exact sound.execute (failBleRouteDisconnect_keepsLoss released result owner)
  | activateBleRoute link route => exact sound.execute (activateBleRoute_keepsLoss link route)
  | submitBleReport link work interface notified =>
      exact sound.execute (submitBleReport_keepsLoss link work interface notified)
  | requestBleEnable room => exact sound.make (requestBleEnable_keepsLoss room)
  | requestBleDisable room routeFree => exact sound.make (requestBleDisable_keepsLoss room routeFree)
  | requestProfileSelect room quiescent =>
      exact sound.make (requestProfileSelect_keepsLoss room quiescent)
  | observeStoreFailure => exact ⟨sound.current, sound.marked⟩
  | failHandoff => exact ⟨sound.current, sound.marked⟩

/-- **A queued loss stays fenced** until it is processed, in runs in which the
executor clears no mark that stands for another queued loss. -/
theorem loss_fenced {allowed : Run → Call → Prop}
    (clearsNone : ∀ run call, allowed run call → noneBehind run call) : LossFenced allowed := by
  intro run event follows noted
  have sound : run.Sound := by
    refine follows.induct ⟨?_, ?_⟩ fun _ _ sound admitted => sound.step (clearsNone _ _ admitted)
    · exact fun event noted => absurd noted (by simp [State.Noted])
    · exact fun event noted => absurd noted (by simp [State.Noted])
  exact .of_lost (sound.marked event noted) (sound.current event noted)

theorem loss_fenced_noneBehind : LossFenced noneBehind :=
  loss_fenced fun _ _ admitted => admitted

/-! ### Two losses of one generation -/

def peerHandles : BleHidHandles := { keyboardValue := 1, mouseValue := 2, controlPointValue := 3 }

/-- An event of connection 7 at generation 1. -/
def ofPeer (kind : BleEventKind) : BleEvent := { kind, generation := 1, connectionHandle := 7 }

def subscribed (hidInterface : BleHidInterface) (attributeHandle : AttributeHandle) : BleEvent :=
  { ofPeer .subscription with
    hidInterface, attributeHandle, subscriptionReasonKnown := true, notifyEnabled := true }

def signalAndProcess (event : BleEvent) : List Call :=
  [.signal true 0 event, .processNext 1 { handles := peerHandles }, .clearProcessed]

/-- A connected and subscribed peer resolves its identity and disconnects; the
executor has processed the first of the two. -/
def twoLosses : List Call :=
  [.requestBleEnable true, .processNext 1 {}] ++
    signalAndProcess { kind := .sync, generation := 1 } ++ signalAndProcess (ofPeer .connect) ++
    signalAndProcess (subscribed .keyboard 1) ++ signalAndProcess (subscribed .mouse 2) ++
    [.signal true 0 (ofPeer .identityResolved), .signal true 0 (ofPeer .disconnect),
      .processNext 1 {}, .clearProcessed]

/-- **The BLE route is activated** while the disconnect of its peer is queued. -/
theorem route_activated_over_loss : ¬LossFenced own := by
  intro fenced
  have follows := @Follows.of_calls _ _ call own {} twoLosses fun _ _ _ => trivial
  have noted : State.Noted (ofPeer .disconnect)
      (twoLosses.foldl (fun run operation => call operation run) {}).state := by
    have queue : (twoLosses.foldl (fun run operation => call operation run) {}).state.queue =
        [.bleEvent (ofPeer .disconnect) true] := rfl
    simp [State.Noted, queue]
  have activated : ((activateBleRoute
      { supported := ⟨true, true⟩, required := ⟨true, true⟩, handles := peerHandles }
      { owned := false, requested := .accepted, ownedAfter := true }).exec
        (twoLosses.foldl (fun run operation => call operation run) {}).state).1 =
          .requested .accepted := rfl
  have refused := (fenced _ _ follows noted).notActivated
    { supported := ⟨true, true⟩, required := ⟨true, true⟩, handles := peerHandles }
    { owned := false, requested := .accepted, ownedAfter := true }
  simp [activated] at refused

end Loss

end HidBot.BleControl
