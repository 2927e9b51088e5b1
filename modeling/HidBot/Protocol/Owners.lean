import HidBot.Protocol.Steps

/-!
# Sequence owners

Owner identities are handed out in order and never again, and the hook hears of
every owner that is no longer active, but never of the active one.
-/

namespace HidBot.ControlProtocol

open ControlSession Interleaving

variable {Payload : Type} [DecidableEq Payload] {config : Config} {wire : Wire Payload}
  {freedom : Freedom Payload}

/-- The owner that an event hands out. -/
def Event.owner? : Event Payload → Option LocalOwnerId
  | .activated owner .. => some owner
  | _ => none

/-- The owners handed out so far, in order. -/
def owners (log : List (Event Payload)) : List LocalOwnerId := log.filterMap Event.owner?

/-- The owner of the active session. -/
def activeOwner (state : State Payload ResponseFrame) : Option LocalOwnerId :=
  if state.activeSession then some state.localOwnerId else none

/-- The environment changes the authority epoch when it accepts a transition. -/
def AcceptingChangesEpoch (config : Config) (wire : Wire Payload) (run : Run Payload)
    (operation : Operation Payload) : Prop :=
  ∀ payload answers call, operation = .frame payload answers →
    .provider call ∈ (run.protocol.step config wire operation).2 → answers.accepts call →
      answers.epochAfter ≠ answers.epoch

/-- Accepting changes the epoch, and safety failures name owners that were handed out. -/
structure Promises (config : Config) (wire : Wire Payload) (run : Run Payload)
    (operation : Operation Payload) : Prop where
  epochChanges : AcceptingChangesEpoch config wire run operation
  ownerIssued : ∀ owner, operation = .hidSafetyFailure owner → owner ∈ owners run.log

/-- The owners of a run. -/
structure OwnersKept (config : Config) (wire : Wire Payload) (run : Run Payload) : Prop where
  increasing : (owners run.log).Pairwise (· < ·)
  nonzero : ∀ owner ∈ owners run.log, owner ≠ 0
  /-- After the last identity no hello succeeds. -/
  exhausted : UInt64.ofNat (2 ^ 64 - 1) ∈ owners run.log → ∀ operation,
    owners (run.protocol.step config wire operation).2 = []
  retired : config.sequenceOwnerRetired = true → ∀ owner ∈ owners run.log,
    activeOwner run.protocol.session ≠ some owner → .sequenceOwnerRetired owner ∈ run.log
  spared : ∀ owner, .sequenceOwnerRetired owner ∈ run.log →
    activeOwner run.protocol.session ≠ some owner

/-- **Owners are retired and never reused**, if the environment keeps its promises. -/
def OwnersNeverReused (config : Config) (wire : Wire Payload) : Prop :=
  ∀ bootBytes run, Follows (Run.call config wire) (Promises config wire) (boot bootBytes) run →
    OwnersKept config wire run

/-- The identities below this one have been handed out. -/
def ownerLimit (next : LocalOwnerId) : Nat := if next = 0 then 2 ^ 64 else next.toNat

theorem ownerLimit_succ {next : LocalOwnerId} (remaining : next ≠ 0) :
    ownerLimit (next + 1) = ownerLimit next + 1 := by
  have bound := next.toNat_lt
  have positive : next.toNat ≠ 0 := fun zero => remaining (UInt64.toNat_inj.mp zero)
  have successor : (next + 1).toNat = (next.toNat + 1) % 2 ^ 64 := UInt64.toNat_add next 1
  unfold ownerLimit
  rw [if_neg remaining]
  split
  · rename_i wrapped
    rw [wrapped] at successor
    have zero : (0 : LocalOwnerId).toNat = 0 := rfl
    omega
  · rename_i unwrapped
    have nonzero : (next + 1).toNat ≠ 0 := fun zero => unwrapped (UInt64.toNat_inj.mp zero)
    omega

/-- The identities handed out are the first ones, in order. -/
structure Ledger (config : Config) (state : State Payload ResponseFrame)
    (log : List (Event Payload)) : Prop where
  issued : (owners log).map UInt64.toNat = List.range' 1 (ownerLimit state.nextLocalOwnerId - 1)
  active : ∀ owner, activeOwner state = some owner → owner ∈ owners log
  retired : config.sequenceOwnerRetired = true → ∀ owner ∈ owners log,
    activeOwner state ≠ some owner → .sequenceOwnerRetired owner ∈ log
  spared : ∀ owner, .sequenceOwnerRetired owner ∈ log →
    owner ∈ owners log ∧ activeOwner state ≠ some owner

section Owners

variable {log events : List (Event Payload)}

omit [DecidableEq Payload] in
theorem owners_append : owners (log ++ events) = owners log ++ owners events :=
  List.filterMap_append ..

omit [DecidableEq Payload] in
theorem owners_eq_nil (handsNone : ∀ event ∈ events, event.owner? = none) : owners events = [] :=
  List.filterMap_eq_nil_iff.mpr handsNone

omit [DecidableEq Payload] in
theorem retireSequenceOwner_owners (owner : LocalOwnerId) :
    owners (retireSequenceOwner config owner : List (Event Payload)) = [] := by
  apply owners_eq_nil
  intro event member
  rw [(retireSequenceOwner_mem member).1]
  rfl

omit [DecidableEq Payload] in
theorem Event.Quiet.owner?_eq {event : Event Payload} (quiet : event.Quiet) :
    event.owner? = none := by
  cases event <;> first | rfl | cases quiet

omit [DecidableEq Payload] in
theorem Replay.owner?_eq {state : State Payload ResponseFrame} {event : Event Payload}
    (replay : Replay wire state event) : event.owner? = none := by
  cases replay <;> rfl

theorem Lapse.owners {state : State Payload ResponseFrame} {lapsed : List (Event Payload)}
    (lapse : Lapse wire freedom state lapsed) : owners lapsed = [] := by
  apply owners_eq_nil
  intro event member
  obtain ⟨_, _, _, _, rfl⟩ := lapse.eq_forgotten event member
  rfl

end Owners

namespace Ledger

variable {state state' : State Payload ResponseFrame} {log events : List (Event Payload)}

omit [DecidableEq Payload] in
theorem lt_limit (ledger : Ledger config state log) {owner : LocalOwnerId}
    (member : owner ∈ owners log) :
    0 < owner.toNat ∧ owner.toNat < ownerLimit state.nextLocalOwnerId := by
  have listed : owner.toNat ∈ (owners log).map UInt64.toNat := List.mem_map_of_mem member
  rw [ledger.issued, List.mem_range'_1] at listed
  omega

omit [DecidableEq Payload] in
theorem nonzero (ledger : Ledger config state log) {owner : LocalOwnerId}
    (member : owner ∈ owners log) : owner ≠ 0 := by
  rintro rfl
  exact absurd (ledger.lt_limit member).1 (by decide)

omit [DecidableEq Payload] in
/-- Only these three fields of a session matter. -/
theorem congr (ledger : Ledger config state log)
    (next : state'.nextLocalOwnerId = state.nextLocalOwnerId)
    (same : activeOwner state' = activeOwner state) : Ledger config state' log where
  issued := by rw [next]; exact ledger.issued
  active := by rw [same]; exact ledger.active
  retired := by rw [same]; exact ledger.retired
  spared := by rw [same]; exact ledger.spared

omit [DecidableEq Payload] in
/-- Events that hand out no owner and retire inactive ones are added. -/
theorem append (ledger : Ledger config state log) (handsNone : owners events = [])
    (retires : ∀ owner, .sequenceOwnerRetired owner ∈ events →
      owner ∈ owners log ∧ activeOwner state ≠ some owner) :
    Ledger config state (log ++ events) := by
  have same : owners (log ++ events) = owners log := by
    rw [owners_append, handsNone, List.append_nil]
  refine ⟨?_, ?_, ?_, ?_⟩
  · rw [same]
    exact ledger.issued
  · rw [same]
    exact ledger.active
  · rw [same]
    intro hooked owner issued inactive
    exact List.mem_append_left _ (ledger.retired hooked owner issued inactive)
  · rw [same]
    intro owner member
    exact (List.mem_append.mp member).elim (ledger.spared owner) (retires owner)

omit [DecidableEq Payload] in
/-- The active owner is retired and its session ends. -/
theorem revoke (ledger : Ledger config state log) (active : state.activeSession = true)
    (handsNone : owners events = [])
    (retires : ∀ owner, .sequenceOwnerRetired owner ∈ events → owner = state.localOwnerId)
    (hears : config.sequenceOwnerRetired = true → state.localOwnerId ≠ 0 →
      .sequenceOwnerRetired state.localOwnerId ∈ events) :
    Ledger config state.clearAuthority (log ++ events) := by
  have same : owners (log ++ events) = owners log := by
    rw [owners_append, handsNone, List.append_nil]
  have current : activeOwner state = some state.localOwnerId := by simp [activeOwner, active]
  have issued := ledger.active _ current
  refine ⟨?_, ?_, ?_, ?_⟩
  · rw [same]
    exact ledger.issued
  · intro owner revoked
    cases revoked
  · rw [same]
    intro hooked owner member _
    by_cases last : owner = state.localOwnerId
    · rw [last]
      exact List.mem_append_right _ (hears hooked (ledger.nonzero issued))
    · apply List.mem_append_left
      apply ledger.retired hooked owner member
      rw [current]
      exact fun other => last (Option.some.inj other).symm
  · rw [same]
    intro owner member
    refine ⟨?_, nofun⟩
    rcases List.mem_append.mp member with member | member
    · exact (ledger.spared owner member).1
    · rw [retires owner member]
      exact issued

omit [DecidableEq Payload] in
/-- The next owner is handed out. -/
theorem activate (ledger : Ledger config state log) (inactive : state.activeSession = false)
    (remaining : state.nextLocalOwnerId ≠ 0) (clientNonce : Token) (payload : Payload)
    (session : Token) (epoch : AuthorityEpoch) (response : ResponseFrame) (deadline : UInt64) :
    Ledger config (opened state clientNonce payload session epoch response deadline)
      (log ++ [.activated state.nextLocalOwnerId session epoch response]) := by
  have limit : ownerLimit state.nextLocalOwnerId = state.nextLocalOwnerId.toNat := if_neg remaining
  have positive : state.nextLocalOwnerId.toNat ≠ 0 :=
    fun zero => remaining (UInt64.toNat_inj.mp zero)
  have added : owners (log ++ [.activated state.nextLocalOwnerId session epoch response]) =
      owners log ++ [state.nextLocalOwnerId] := owners_append
  have current : activeOwner (opened state clientNonce payload session epoch response deadline) =
      some state.nextLocalOwnerId := rfl
  have none : activeOwner state = none := by simp [activeOwner, inactive]
  refine ⟨?_, ?_, ?_, ?_⟩
  · show _ = List.range' 1 (ownerLimit (state.nextLocalOwnerId + 1) - 1)
    rw [added, List.map_append, ledger.issued, ownerLimit_succ remaining, limit,
      Nat.add_sub_cancel, List.map_singleton]
    obtain ⟨before, same⟩ := Nat.exists_eq_succ_of_ne_zero positive
    rw [same, Nat.succ_eq_add_one, Nat.add_sub_cancel, List.range'_1_concat, Nat.add_comm 1]
  · intro owner active
    rw [current] at active
    rw [added, Option.some.inj active]
    exact List.mem_append_right _ (List.mem_singleton_self _)
  · intro hooked owner member other
    rw [added] at member
    rcases List.mem_append.mp member with member | member
    · apply List.mem_append_left
      exact ledger.retired hooked owner member (by rw [none]; nofun)
    · rw [current, List.mem_singleton.mp member] at other
      exact absurd rfl other
  · intro owner member
    rcases List.mem_append.mp member with member | member
    · obtain ⟨issued, -⟩ := ledger.spared owner member
      have below := (ledger.lt_limit issued).2
      rw [added, current]
      refine ⟨List.mem_append_left _ issued, fun same => ?_⟩
      rw [← Option.some.inj same, limit] at below
      omega
    · cases List.mem_singleton.mp member

end Ledger

theorem Moves.ledger {state state' : State Payload ResponseFrame} {log events : List (Event Payload)}
    (moves : Moves config wire freedom state events state') (changes : ¬freedom.unchanged)
    (issued : ∀ owner, freedom.stale owner → owner ∈ owners log)
    (ledger : Ledger config state log) : Ledger config state' (log ++ events) := by
  induction moves generalizing log with
  | quiet events quiet =>
      apply ledger.append (owners_eq_nil fun event member => (quiet event member).owner?_eq)
      intro owner member
      exact absurd (quiet _ member) id
  | lease deadline =>
      rw [List.append_nil]
      exact ledger.congr rfl rfl
  | @retire state owner stale other =>
      apply ledger.append (retireSequenceOwner_owners owner)
      intro retired member
      cases (retireSequenceOwner_mem member).1
      refine ⟨issued owner stale, fun current => ?_⟩
      unfold activeOwner at current
      split at current
      · rename_i active
        exact other active (Option.some.inj current)
      · cases current
  | @revoke state active =>
      apply ledger.revoke active (retireSequenceOwner_owners _)
      · intro owner member
        cases (retireSequenceOwner_mem member).1
        rfl
      · intro hooked nonzero
        simp [retireSequenceOwner, hooked, nonzero]
  | activate inactive remaining clientNonce payload session epoch response deadline _ _ _ _ =>
      exact ledger.activate inactive remaining clientNonce payload session epoch response deadline
  | @complete state payload id session epoch identity response addresses fresh _ _ =>
      have kept : Ledger config (state.cacheCompletedRequest id identity epoch response) log :=
        ledger.congr rfl rfl
      exact kept.append rfl (by simp)
  | @transition state payload id session epoch identity response addresses fresh _ _ =>
      have stored : Ledger config (retained state ⟨id, session, payload, response⟩) log :=
        ledger.congr rfl rfl
      apply stored.revoke (sessionCurrent_iff.mp addresses.current).1
      · exact @retireSequenceOwner_owners Payload config _
      · intro owner member
        rcases List.mem_cons.mp member with other | member
        · cases other
        · cases (retireSequenceOwner_mem member).1
          rfl
      · intro hooked nonzero
        have kept : state.localOwnerId ≠ 0 := nonzero
        simp [retireSequenceOwner, hooked, kept, retained]
  | transitionUnchanged response addresses fresh _ _ unchanged => exact absurd unchanged changes
  | seq _ _ _ first second =>
      rw [← List.append_assoc]
      apply second _ (first issued ledger)
      intro owner stale
      rw [owners_append]
      exact List.mem_append_left _ (issued owner stale)

/-- After the last identity nothing is handed out. -/
theorem Moves.exhausted {state state' : State Payload ResponseFrame} {events : List (Event Payload)}
    (moves : Moves config wire freedom state events state') (none : state.nextLocalOwnerId = 0) :
    state'.nextLocalOwnerId = 0 ∧ owners events = [] := by
  induction moves with
  | quiet events quiet =>
      exact ⟨none, owners_eq_nil fun event member => (quiet event member).owner?_eq⟩
  | lease => exact ⟨none, rfl⟩
  | retire | revoke => exact ⟨none, retireSequenceOwner_owners _⟩
  | activate inactive remaining => exact absurd none remaining
  | complete => exact ⟨none, rfl⟩
  | transition | transitionUnchanged =>
      exact ⟨none, @retireSequenceOwner_owners Payload config _⟩
  | seq _ _ _ first second =>
      obtain ⟨still, earlier⟩ := first none
      obtain ⟨last, later⟩ := second still
      rw [owners_append, earlier, later]
      exact ⟨last, rfl⟩

theorem AcceptingChangesEpoch.not_unchanged {run : Run Payload} {operation : Operation Payload}
    (changes : AcceptingChangesEpoch config wire run operation) :
    ¬(Freedom.of config operation (run.protocol.step config wire operation).2).unchanged := by
  rintro ⟨payload, answers, call, rfl, called, accepts, same⟩
  exact changes payload answers call rfl called accepts same

theorem Run.ledger {bootBytes : Vector UInt8 16} {run : Run Payload}
    (follows : Follows (Run.call config wire) (Promises config wire) (boot bootBytes) run) :
    Sound run.protocol.session ∧ Ledger config run.protocol.session run.log := by
  refine Run.induct ⟨?_, ?_, ?_, ?_⟩ ?_ ?_ ?_ follows
  · rfl
  · intro owner active
    simp only [Protocol.initialized, State.clearTransitionRetry, State.initialized,
      activeOwner] at active
    cases active
  · simp [owners]
  · simp
  · intro state log replayed replay ledger
    apply ledger.append (owners_eq_nil fun event member => (replay event member).owner?_eq)
    intro owner member
    cases replay _ member
  · intro run operation replayed state events state' promises moves _ ledger
    apply moves.ledger _ _ ledger
    · exact promises.epochChanges.not_unchanged
    · intro owner stale
      rw [owners_append]
      exact List.mem_append_left _ (promises.ownerIssued owner stale)
  · intro freedom state log lapsed lapse ledger
    apply ledger.append lapse.owners
    intro owner member
    obtain ⟨_, _, _, _, other⟩ := lapse.eq_forgotten _ member
    cases other

/-- **Sequence owners are always retired and never reused.** -/
theorem owners_never_reused (config : Config) (wire : Wire Payload) :
    OwnersNeverReused config wire := by
  intro bootBytes run follows
  obtain ⟨sound, ledger⟩ := Run.ledger follows
  refine ⟨?_, fun owner => ledger.nonzero, fun last operation => ?_, ledger.retired,
    fun owner retired => (ledger.spared owner retired).2⟩
  · have sorted : ((owners run.log).map UInt64.toNat).Pairwise (· < ·) := by
      rw [ledger.issued]
      exact List.pairwise_lt_range'
    exact (List.pairwise_map.mp sorted).imp fun less => UInt64.lt_iff_toNat_lt.mpr less
  · have none : run.protocol.session.nextLocalOwnerId = 0 := by
      have below := (ledger.lt_limit last).2
      have bound := run.protocol.session.nextLocalOwnerId.toNat_lt
      unfold ownerLimit at below
      split at below
      · assumption
      · have value : (UInt64.ofNat (2 ^ 64 - 1)).toNat = 2 ^ 64 - 1 := rfl
        omega
    obtain ⟨replayed, events, lapsed, same, replay, moves, lapse⟩ :=
      (step_explained config wire sound operation).parts
    rw [same, owners_append, owners_append, (moves.exhausted none).2, lapse.owners,
      owners_eq_nil fun event member => (replay event member).owner?_eq]
    rfl

end HidBot.ControlProtocol
