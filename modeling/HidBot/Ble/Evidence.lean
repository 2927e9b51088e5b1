import HidBot.Ble.Readiness
import Mathlib.Data.List.Induction

/-!
# Evidence behind the readiness of a connection

A run tells which connection has been begun last, what its last verification has shown
and what has failed since. The flags of the security state never say more than that, and
the token of the inhibition outlasts every call but those that retire or begin its
connection.
-/

namespace HidBot.BleSecurity

open BleLifecycle (Generation ConnectionHandle noConnection)
open Bonds (findDefinition PersistedSecurityEvidence persistedBondIsValid)
open ControlProtocol (ProfileId)

/-! ### What an operation says of a connection -/

namespace Operation

def opens : Operation → Bool
  | .state (.beginConnection ..) => true
  | _ => false

def failsPersistently : Operation → Bool
  | .state (.applyPersistentStoreFailure ..) => true
  | .inhibit (.inhibit _ _ persistent) => persistent
  | _ => false

variable (generation : Generation) (connectionHandle : ConnectionHandle)

def retires : Operation → Bool
  | .state (.retireConnection generation' handle') =>
      generation' = generation && handle' = connectionHandle
  | _ => false

def verifies : Operation → Bool
  | .state (.applyVerification generation' handle' _ _) =>
      generation' = generation && handle' = connectionHandle
  | _ => false

/-- A failure of the store; one for another handle is not applied. -/
def fails : Operation → Bool
  | .state (.applyStoreFailure generation' handle' _ _) =>
      generation' = generation && handle' = connectionHandle
  | _ => false

def marks : Operation → Bool
  | .state (.markLifecycleUnhealthy generation') => generation' = generation
  | _ => false

end Operation

/-- The outcome of a verification is what the profile asks for. -/
structure Satisfies (profile : ProfileId) (link : LinkSecurityEvidence)
    (persisted : PersistedSecurityEvidence) : Prop where
  encrypted : link.encrypted = (policy profile).encrypted
  authenticated : link.authenticated = (policy profile).authenticated
  bonded : link.nimbleBonded = (policy profile).bonded
  identityResolved : link.identityResolved = (policy profile).identityResolved
  secureConnections : (policy profile).secureConnectionsRequired → link.secureConnections
  keySize : link.keySize = (policy profile).keySize
  persistedBond : persistedBondIsValid persisted profile = (policy profile).persistedBond

/-- The last verification of the connection among the operations. -/
def LastVerification (operations : List Operation) (generation : Generation)
    (connectionHandle : ConnectionHandle) (link : LinkSecurityEvidence)
    (persisted : PersistedSecurityEvidence) : Prop :=
  ∃ before after,
    operations = before ++
      .state (.applyVerification generation connectionHandle link persisted) :: after ∧
    ∀ operation ∈ after, ¬operation.verifies generation connectionHandle

section LastVerification

variable {operations : List Operation} {generation : Generation}
  {connectionHandle : ConnectionHandle} {link : LinkSecurityEvidence}
  {persisted : PersistedSecurityEvidence}

theorem LastVerification.of_snoc (operations : List Operation) :
    LastVerification (operations ++
      [.state (.applyVerification generation connectionHandle link persisted)])
      generation connectionHandle link persisted :=
  ⟨operations, [], rfl, by simp⟩

theorem LastVerification.snoc {operation : Operation}
    (last : LastVerification operations generation connectionHandle link persisted)
    (other : ¬operation.verifies generation connectionHandle) :
    LastVerification (operations ++ [operation]) generation connectionHandle link persisted := by
  obtain ⟨before, after, rfl, none⟩ := last
  refine ⟨before, after ++ [operation], by simp, ?_⟩
  simpa only [List.forall_mem_append, List.forall_mem_singleton] using ⟨none, other⟩

end LastVerification

/-! ### The flags of the security state -/

namespace State

variable {state : State}

/-- A snapshot is taken between operations only, where the sequence is even. -/
def Even (state : State) : Prop := state.sequence &&& 1 = 0

theorem even_two (sequence : UInt32) : (sequence + 1 + 1) &&& 1 = sequence &&& 1 := by
  apply UInt32.toNat_inj.mp
  simp only [UInt32.toNat_and, UInt32.toNat_add, show (1 : UInt32).toNat = 1 from rfl,
    Nat.and_one_is_mod]
  omega

theorem even_write (even : state.Even) {stores : State → State}
    (untouched : ∀ state, (stores state).sequence = state.sequence) :
    (state.write stores).Even := by
  simp only [Even, write, endWrite, untouched, beginWrite, even_two]
  exact even

theorem snapshot_of_even (even : state.Even) : state.snapshot =
    { profile := state.profile, generation := state.generation
      connectionHandle := state.connectionHandle, flags := state.flags, coherent := true
      keySize := state.keySize, lastStoreFailure := state.lastStoreFailure
      lastStoreStatus := state.lastStoreStatus } := by
  rw [snapshot, attempt, if_neg (not_not.mpr (show state.sequence &&& 1 = 0 from even))]

/-- The evidence of the link that the flags show. -/
def link (state : State) : LinkSecurityEvidence where
  encrypted := state.flags.encrypted
  authenticated := state.flags.authenticated
  nimbleBonded := state.flags.nimbleBonded
  secureConnections := state.flags.secureConnections
  identityResolved := state.flags.identityResolved
  keySize := state.keySize

end State

/-- An operation that leaves a connection, and says of it no more than is known. -/
structure Continues (operation : Operation) (state next : State) : Prop where
  connected : state.flags.connected
  generation : next.generation = state.generation
  connectionHandle : next.connectionHandle = state.connectionHandle
  profile : next.profile = state.profile
  standing : ¬operation.retires state.generation state.connectionHandle
  stored : next.flags.storeHealthy →
    state.flags.storeHealthy ∧ ¬operation.fails state.generation state.connectionHandle
  healthy : next.flags.lifecycleHealthy →
    state.flags.lifecycleHealthy ∧ ¬operation.marks state.generation
  verified : next.flags.persisted →
    (∃ persisted, operation =
      .state (.applyVerification state.generation state.connectionHandle next.link persisted) ∧
      persistedBondIsValid persisted state.profile) ∨
    state.flags.persisted ∧ next.link = state.link ∧
      ¬operation.verifies state.generation state.connectionHandle

theorem Continues.refl {operation : Operation} {state : State} (connected : state.flags.connected)
    (standing : ¬operation.retires state.generation state.connectionHandle)
    (stored : ¬operation.fails state.generation state.connectionHandle)
    (healthy : ¬operation.marks state.generation)
    (verified : ¬operation.verifies state.generation state.connectionHandle) :
    Continues operation state state where
  connected := connected
  generation := rfl
  connectionHandle := rfl
  profile := rfl
  standing := standing
  stored := fun flag => ⟨flag, stored⟩
  healthy := fun flag => ⟨flag, healthy⟩
  verified := fun flag => .inr ⟨flag, rfl, verified⟩

/-- Whatever leaves a connection without beginning it continues the one before. -/
theorem State.apply_continues {state : State} (even : state.Even) (operation : StateOperation)
    (kept : ¬(Operation.state operation).opens)
    (connected : (state.apply operation).flags.connected) :
    Continues (.state operation) state (state.apply operation) := by
  cases operation with
  | beginConnection generation handle healthy profile => exact absurd rfl kept
  | retireConnection generation handle =>
      simp only [State.apply, State.retireConnection, snapshot_of_even even] at connected ⊢
      split_ifs at connected ⊢ with other
      · refine .refl connected ?_ (by simp [Operation.fails]) (by simp [Operation.marks])
          (by simp [Operation.verifies])
        grind [Operation.retires]
      · simp [State.write, State.endWrite] at connected
  | applyStoreFailure generation handle kind status =>
      simp only [State.apply, State.applyStoreFailure, snapshot_of_even even] at connected ⊢
      split_ifs at connected ⊢ with other
      · refine .refl connected (by simp [Operation.retires]) ?_ (by simp [Operation.marks])
          (by simp [Operation.verifies])
        grind [Operation.fails]
      · constructor <;>
          simp_all [State.write, State.endWrite, State.beginWrite, Operation.retires,
            Operation.marks]
  | applyPersistentStoreFailure kind status =>
      constructor <;>
        simp_all [State.apply, State.applyPersistentStoreFailure, State.write, State.endWrite,
          State.beginWrite, Operation.retires]
  | applyVerification generation handle link persisted =>
      simp only [State.apply, State.applyVerification, snapshot_of_even even] at connected ⊢
      split_ifs at connected ⊢ with other
      · refine .refl connected (by simp [Operation.retires]) (by simp [Operation.fails])
          (by simp [Operation.marks]) ?_
        grind [Operation.verifies]
      · constructor <;>
          simp_all [State.write, State.endWrite, State.beginWrite, Operation.retires,
            Operation.marks, Operation.fails, State.link]
  | markLifecycleUnhealthy generation =>
      simp only [State.apply, State.markLifecycleUnhealthy, snapshot_of_even even] at connected ⊢
      split_ifs at connected ⊢ with other
      · refine .refl connected (by simp [Operation.retires]) (by simp [Operation.fails]) ?_
          (by simp [Operation.verifies])
        grind [Operation.marks]
      · constructor <;>
          simp_all [State.write, State.endWrite, State.beginWrite, Operation.retires,
            Operation.fails]

/-- What the flags say of a connection is what the operations since its begin have said. -/
structure Since (state : State) (later : List Operation) : Prop where
  latest : ∀ operation ∈ later, ¬operation.opens
  standing : ∀ operation ∈ later, ¬operation.retires state.generation state.connectionHandle
  stored : state.flags.storeHealthy →
    ∀ operation ∈ later, ¬operation.fails state.generation state.connectionHandle
  healthy : state.flags.lifecycleHealthy → ∀ operation ∈ later, ¬operation.marks state.generation
  verified : state.flags.persisted → ∃ persisted,
    LastVerification later state.generation state.connectionHandle state.link persisted ∧
      persistedBondIsValid persisted state.profile

theorem Since.snoc {state next : State} {later : List Operation} {operation : Operation}
    (since : Since state later) (continues : Continues operation state next)
    (kept : ¬operation.opens) : Since next (later ++ [operation]) where
  latest := by simpa only [List.forall_mem_append, List.forall_mem_singleton] using
    ⟨since.latest, kept⟩
  standing := by
    rw [continues.generation, continues.connectionHandle]
    simpa only [List.forall_mem_append, List.forall_mem_singleton] using
      ⟨since.standing, continues.standing⟩
  stored := fun flag => by
    obtain ⟨before, here⟩ := continues.stored flag
    rw [continues.generation, continues.connectionHandle]
    simpa only [List.forall_mem_append, List.forall_mem_singleton] using
      ⟨since.stored before, here⟩
  healthy := fun flag => by
    obtain ⟨before, here⟩ := continues.healthy flag
    rw [continues.generation]
    simpa only [List.forall_mem_append, List.forall_mem_singleton] using
      ⟨since.healthy before, here⟩
  verified := fun flag => by
    rw [continues.generation, continues.connectionHandle, continues.profile]
    rcases continues.verified flag with ⟨persisted, rfl, valid⟩ | ⟨before, same, other⟩
    · exact ⟨persisted, .of_snoc later, valid⟩
    · obtain ⟨persisted, last, valid⟩ := since.verified before
      exact ⟨persisted, same ▸ last.snoc other, valid⟩

/-- The security state after the operations of a run. -/
structure Follows (operations : List Operation) (state : State) : Prop where
  even : state.Even
  lasting : state.persistentStoreHealthy → ∀ operation, .state operation ∈ operations →
    ¬(Operation.state operation).failsPersistently
  sound : state.flags.storeHealthy → state.persistentStoreHealthy
  standing : state.flags.connected → ∃ earlier healthy later, operations = earlier ++
    .state (.beginConnection state.generation state.connectionHandle healthy state.profile) ::
      later ∧ Since state later

section Follows

variable {operations : List Operation} {state : State}

theorem State.apply_even (even : state.Even) (operation : StateOperation) :
    (state.apply operation).Even := by
  cases operation <;>
    simp only [apply, beginConnection, retireConnection, applyStoreFailure,
      applyPersistentStoreFailure, applyVerification, markLifecycleUnhealthy] <;>
    (try split_ifs) <;> first | exact even | exact even_write even fun _ => rfl

/-- Only the failure that lasts changes whether the persistent store is healthy. -/
theorem State.apply_persistentStoreHealthy (operation : StateOperation) :
    (state.apply operation).persistentStoreHealthy =
      (state.persistentStoreHealthy && !(Operation.state operation).failsPersistently) := by
  cases operation <;>
    simp only [apply, beginConnection, retireConnection, applyStoreFailure,
      applyPersistentStoreFailure, applyVerification, markLifecycleUnhealthy,
      Operation.failsPersistently] <;>
    (try split_ifs) <;> simp [write, endWrite, beginWrite]

theorem State.apply_sound (sound : state.flags.storeHealthy → state.persistentStoreHealthy)
    (operation : StateOperation) (flag : (state.apply operation).flags.storeHealthy) :
    (state.apply operation).persistentStoreHealthy := by
  cases operation <;>
    simp only [apply, beginConnection, retireConnection, applyStoreFailure,
      applyPersistentStoreFailure, applyVerification, markLifecycleUnhealthy] at flag ⊢ <;>
    (try split_ifs at flag ⊢) <;> simp_all [write, endWrite, beginWrite]

theorem Follows.snoc_state (follows : Follows operations state) (operation : StateOperation) :
    Follows (operations ++ [.state operation]) (state.apply operation) where
  even := State.apply_even follows.even operation
  lasting := fun healthy other member => by
    rw [State.apply_persistentStoreHealthy, Bool.and_eq_true, Bool.not_eq_true'] at healthy
    rcases List.mem_append.mp member with before | here
    · exact follows.lasting healthy.1 other before
    · cases List.mem_singleton.mp here
      simp [healthy.2]
  sound := State.apply_sound follows.sound operation
  standing := fun connected => by
    by_cases opens : (Operation.state operation).opens
    · cases operation <;> simp only [Operation.opens, Bool.false_eq_true] at opens
      case beginConnection generation handle healthy profile =>
      exact ⟨operations, healthy, [], rfl, by constructor <;> simp [State.apply,
        State.beginConnection, State.write, State.endWrite]⟩
    · have continues := State.apply_continues follows.even operation opens connected
      obtain ⟨earlier, healthy, later, split, since⟩ := follows.standing continues.connected
      refine ⟨earlier, healthy, later ++ [.state operation], ?_, since.snoc continues opens⟩
      rw [split, continues.generation, continues.connectionHandle, continues.profile]
      simp

theorem Follows.snoc_inhibit (follows : Follows operations state) (operation : InhibitOperation) :
    Follows (operations ++ [.inhibit operation]) state where
  even := follows.even
  lasting := fun healthy other member => by
    rcases List.mem_append.mp member with before | here
    · exact follows.lasting healthy other before
    · cases List.mem_singleton.mp here
  sound := follows.sound
  standing := fun connected => by
    obtain ⟨earlier, healthy, later, split, since⟩ := follows.standing connected
    refine ⟨earlier, healthy, later ++ [.inhibit operation], by simp [split], since.snoc ?_ ?_⟩
    · exact .refl connected (by simp [Operation.retires]) (by simp [Operation.fails])
        (by simp [Operation.marks]) (by simp [Operation.verifies])
    · simp [Operation.opens]

theorem Follows.of_run (operations : List Operation) :
    Follows operations (Backend.run operations).security := by
  induction operations using List.reverseRecOn with
  | nil => exact ⟨rfl, by simp, fun _ => rfl, fun connected => by cases connected⟩
  | append_singleton operations operation ih =>
      rw [Backend.run_snoc]
      cases operation with
      | state operation => exact ih.snoc_state operation
      | inhibit operation => exact ih.snoc_inhibit operation

end Follows

/-! ### The token of the inhibition -/

namespace ReadinessInhibit

variable {words : ReadinessInhibit} {generation : Generation} {connectionHandle : ConnectionHandle}

/-- The token of the connection is the one that inhibits. -/
def Inhibited (words : ReadinessInhibit) (generation : Generation)
    (connectionHandle : ConnectionHandle) : Prop :=
  words.governs generation connectionHandle ∧ words.inhibitedToken = words.authorityToken

theorem Inhibited.inhibits (inhibited : words.Inhibited generation connectionHandle) :
    words.inhibits generation connectionHandle := by
  simp [ReadinessInhibit.inhibits, inhibited.1, inhibited.2]

theorem inhibited_of_inhibit {persistent : Bool}
    (returned : (words.inhibit generation connectionHandle persistent).1) :
    (words.inhibit generation connectionHandle persistent).2.Inhibited generation
      connectionHandle := by
  unfold inhibit at returned ⊢
  dsimp only at returned ⊢
  split_ifs at returned ⊢ with governed
  exact ⟨governed, rfl⟩

/-- An operation that neither begins a connection nor retires this one keeps it inhibited. -/
theorem Inhibited.apply (inhibited : words.Inhibited generation connectionHandle)
    {operation : InhibitOperation}
    (begins : ∀ generation handle, operation ≠ .beginConnection generation handle)
    (retires : operation ≠ .retireConnection generation connectionHandle) :
    (words.apply operation).Inhibited generation connectionHandle := by
  cases operation with
  | beginConnection generation handle => exact absurd rfl (begins generation handle)
  | retireConnection generation' handle =>
      simp only [ReadinessInhibit.apply, retireConnection]
      split_ifs with governed
      · have governs := inhibited.1
        simp only [ReadinessInhibit.governs, Bool.and_eq_true, decide_eq_true_eq]
          at governed governs
        obtain ⟨⟨-, rfl⟩, rfl⟩ := governed
        obtain ⟨⟨-, rfl⟩, rfl⟩ := governs
        exact absurd rfl retires
      · exact inhibited
  | inhibit generation' handle persistent =>
      simp only [ReadinessInhibit.apply, inhibit]
      split_ifs
      · exact ⟨inhibited.1, rfl⟩
      · exact inhibited

theorem apply_persistentStoreUnhealthy (operation : InhibitOperation) :
    (words.apply operation).persistentStoreUnhealthy =
      (words.persistentStoreUnhealthy || (Operation.inhibit operation).failsPersistently) := by
  cases operation <;>
    simp only [apply, beginConnection, retireConnection, inhibit,
      Operation.failsPersistently, Bool.or_false] <;>
    split_ifs <;> rfl

end ReadinessInhibit

/-! ### Calls -/

/-- After a begin or a retirement of the inhibition alone the other half is still to come. -/
def Paired : List Operation → Prop
  | [] => True
  | .inhibit (.beginConnection _ _) :: rest => (∃ operation ∈ rest, operation.opens) ∧ Paired rest
  | .inhibit (.retireConnection generation handle) :: rest =>
      (∃ operation ∈ rest, operation.retires generation handle) ∧ Paired rest
  | _ :: rest => Paired rest

theorem Paired.of_cons {operation : Operation} {rest : List Operation}
    (paired : Paired (operation :: rest)) : Paired rest := by
  unfold Paired at paired
  split at paired <;> simp_all

theorem Paired.of_append {before after : List Operation} (paired : Paired (before ++ after)) :
    Paired after := by
  induction before with
  | nil => exact paired
  | cons operation before ih => exact ih paired.of_cons

def operationsOf (calls : List Call) : List Operation := calls.flatMap Call.operations

theorem paired_operationsOf (calls : List Call) : Paired (operationsOf calls) := by
  induction calls with
  | nil => trivial
  | cons call calls ih =>
      rw [operationsOf, List.flatMap_cons, ← operationsOf]
      cases call <;> simp [Call.operations, Paired, Operation.opens, Operation.retires, ih]

theorem ReadinessInhibit.Inhibited.foldl {backend : Backend} {generation : Generation}
    {connectionHandle : ConnectionHandle} {operations : List Operation}
    (inhibited : backend.securityInhibit.Inhibited generation connectionHandle)
    (paired : Paired operations) (latest : ∀ operation ∈ operations, ¬operation.opens)
    (standing : ∀ operation ∈ operations, ¬operation.retires generation connectionHandle) :
    (operations.foldl Backend.apply backend).securityInhibit.Inhibited generation
      connectionHandle := by
  induction operations generalizing backend with
  | nil => exact inhibited
  | cons operation operations ih =>
      rw [List.forall_mem_cons] at latest standing
      refine ih ?_ paired.of_cons latest.2 standing.2
      cases operation with
      | state operation => exact inhibited
      | inhibit operation =>
          refine inhibited.apply (fun generation handle same => ?_) fun same => ?_
          · subst same
            obtain ⟨other, member, opens⟩ := paired.1
            exact latest.2 other member opens
          · subst same
            obtain ⟨other, member, retires⟩ := paired.1
            exact standing.2 other member retires

theorem Backend.persistentStoreUnhealthy_run (operations : List Operation) :
    (run operations).securityInhibit.persistentStoreUnhealthy ↔
      ∃ operation, .inhibit operation ∈ operations ∧
        (Operation.inhibit operation).failsPersistently := by
  induction operations using List.reverseRecOn with
  | nil => simp [run]
  | append_singleton operations operation ih =>
      rw [run_snoc]
      cases operation with
      | state operation => simp [apply, ih]
      | inhibit operation =>
          simp [apply, ReadinessInhibit.apply_persistentStoreUnhealthy, ih, or_and_right,
            exists_or]

/-! ### Readiness -/

/-- What a run has shown of the connection that it has begun between the two parts. -/
structure Verified (earlier : List Operation) (opening : Operation) (later : List Operation)
    (generation : Generation) (connectionHandle : ConnectionHandle) (profile : ProfileId) :
    Prop where
  latest : ∀ operation ∈ later, ¬operation.opens
  standing : ∀ operation ∈ later, ¬operation.retires generation connectionHandle
  verified : ∃ link persisted,
    LastVerification later generation connectionHandle link persisted ∧
      Satisfies profile link persisted
  stored : ∀ operation ∈ later, ¬operation.fails generation connectionHandle
  healthy : ∀ operation ∈ later, ¬operation.marks generation
  lasting : ∀ operation ∈ earlier ++ opening :: later, ¬operation.failsPersistently
  admitted : ∀ before persistent after,
    later = before ++ .inhibit (.inhibit generation connectionHandle persistent) :: after →
    ¬((Backend.run (earlier ++ opening :: before)).securityInhibit.inhibit generation
      connectionHandle persistent).1

theorem State.satisfies_of_ready {state : State} {generation : Generation}
    {connectionHandle : ConnectionHandle} (even : state.Even)
    (ready : state.securityReadyForHid generation connectionHandle) :
    state.generation = generation ∧ state.connectionHandle = connectionHandle ∧
      state.flags.connected ∧ state.flags.storeHealthy ∧ state.flags.lifecycleHealthy ∧
      state.flags.persisted = (policy state.profile).persistedBond ∧
      ∀ persisted, persistedBondIsValid persisted state.profile →
        Satisfies state.profile state.link persisted := by
  simp only [securityReadyForHid, snapshot_of_even even, Bool.and_eq_true, Bool.true_and,
    decide_eq_true_eq] at ready
  obtain ⟨⟨⟨⟨⟨⟨⟨⟨⟨⟨⟨generation, handle⟩, connected⟩, encrypted⟩, authenticated⟩, bonded⟩,
    persisted⟩, resolved⟩, secure⟩, keySize⟩, stored⟩, healthy⟩ := ready
  refine ⟨generation, handle, connected, stored, healthy, persisted, fun evidence valid => ?_⟩
  refine ⟨encrypted, authenticated, bonded, resolved, fun required => ?_, keySize, valid⟩
  simpa [required, link] using secure

theorem Backend.not_failsPersistently_of_ready {operations : List Operation}
    {generation : Generation} {connectionHandle : ConnectionHandle}
    (ready : (run operations).securityReadyForHid generation connectionHandle) :
    ∀ operation ∈ operations, ¬operation.failsPersistently := by
  rw [securityReadyForHid, Bool.and_eq_true, Bool.not_eq_true'] at ready
  have follows := Follows.of_run operations
  obtain ⟨-, -, -, stored, -⟩ := State.satisfies_of_ready follows.even ready.2
  intro operation member fails
  cases operation with
  | state operation => exact follows.lasting (follows.sound stored) operation member fails
  | inhibit operation =>
      have unhealthy := (persistentStoreUnhealthy_run operations).mpr ⟨operation, member, fails⟩
      simp [ReadinessInhibit.inhibits, unhealthy] at ready

/-- An inhibition that has found the connection lasts until the pairs of the transport
retire it or begin another. -/
theorem Backend.inhibits_of_inhibit {earlier before after : List Operation} {opening : Operation}
    {generation : Generation} {connectionHandle : ConnectionHandle} {persistent : Bool}
    (paired : Paired after) (latest : ∀ operation ∈ after, ¬operation.opens)
    (standing : ∀ operation ∈ after, ¬operation.retires generation connectionHandle)
    (returned : ((run (earlier ++ opening :: before)).securityInhibit.inhibit generation
      connectionHandle persistent).1) :
    (run (earlier ++ opening :: (before ++ .inhibit (.inhibit generation connectionHandle
      persistent) :: after))).securityInhibit.inhibits generation connectionHandle := by
  have split : earlier ++ opening :: (before ++
      .inhibit (.inhibit generation connectionHandle persistent) :: after) =
        earlier ++ opening :: before ++
          [.inhibit (.inhibit generation connectionHandle persistent)] ++ after := by simp
  rw [split, run, List.foldl_append, ← run, run_snoc]
  exact (ReadinessInhibit.Inhibited.foldl (ReadinessInhibit.inhibited_of_inhibit returned) paired
    latest standing).inhibits

/-- The backend is ready for a connection only with evidence of it, and after a persistent
failure it is ready for none. -/
theorem ready_is_verified (calls : List Call) :
    (∀ generation connectionHandle,
      (Backend.run (operationsOf calls)).securityReadyForHid generation connectionHandle →
      ∃ earlier healthy profile later, operationsOf calls = earlier ++
          .state (.beginConnection generation connectionHandle healthy profile) :: later ∧
        Verified earlier (.state (.beginConnection generation connectionHandle healthy profile))
          later generation connectionHandle profile) ∧
      ((Backend.run (operationsOf calls)).persistentStoreFailureObserved ∨
          (∃ operation ∈ operationsOf calls, operation.failsPersistently) →
        ∀ more generation connectionHandle,
          ¬(Backend.run (operationsOf (calls ++ more))).securityReadyForHid generation
            connectionHandle) := by
  refine ⟨fun generation handle ready => ?_, fun failed more generation handle ready => ?_⟩
  · have follows := Follows.of_run (operationsOf calls)
    have lasting := Backend.not_failsPersistently_of_ready ready
    rw [Backend.securityReadyForHid, Bool.and_eq_true, Bool.not_eq_true'] at ready
    obtain ⟨rfl, rfl, connected, stored, healthy, persisted, satisfies⟩ :=
      State.satisfies_of_ready follows.even ready.2
    obtain ⟨earlier, begun, later, split, since⟩ := follows.standing connected
    obtain ⟨evidence, last, valid⟩ := since.verified persisted
    refine ⟨earlier, begun, _, later, split, since.latest, since.standing,
      ⟨_, evidence, last, satisfies evidence valid⟩, since.stored stored, since.healthy healthy,
      split ▸ lasting, fun before persistent after cut returned => ?_⟩
    have paired := paired_operationsOf calls
    have latest := since.latest
    have standing := since.standing
    rw [split, cut] at paired
    rw [cut, List.forall_mem_append, List.forall_mem_cons] at latest standing
    have inhibits := Backend.inhibits_of_inhibit paired.of_append.of_cons.of_append.of_cons
      latest.2.2 standing.2.2 returned
    rw [← cut, ← split, ready.1] at inhibits
    cases inhibits
  · have lasting := Backend.not_failsPersistently_of_ready ready
    rw [operationsOf, List.flatMap_append, ← operationsOf, ← operationsOf,
      List.forall_mem_append] at lasting
    rcases failed with observed | ⟨operation, member, fails⟩
    · obtain ⟨operation, member, fails⟩ := (Backend.persistentStoreUnhealthy_run _).mp observed
      exact lasting.1 _ member fails
    · exact lasting.1 operation member fails

section Retirement

/-- A record of a bond that the strict composite accepts. -/
def strictRecord : Bonds.StoredSecurityRecord where
  found := true
  identityMatches := true
  ltkPresent := true
  authenticated := true
  keySize := 16

def strictLink : LinkSecurityEvidence where
  encrypted := true
  authenticated := true
  nimbleBonded := true
  identityResolved := true
  keySize := 16

/-- A connection begun and verified. -/
def verifiedCalls : List Call :=
  [.beginSecurity 1 7 .strictComposite,
    .state (.applyVerification 1 7 strictLink { our := strictRecord, peer := strictRecord })]

theorem ready_is_verified_strict :
    ∃ earlier healthy profile later, operationsOf verifiedCalls = earlier ++
        .state (.beginConnection 1 7 healthy profile) :: later ∧
      Verified earlier (.state (.beginConnection 1 7 healthy profile)) later 1 7 profile :=
  (ready_is_verified verifiedCalls).1 1 7 (by decide)

/-- Between its two halves a retirement has given up the inhibition, but not yet the
readiness. -/
theorem ready_while_retiring :
    ((Backend.run (operationsOf verifiedCalls)).securityInhibit.inhibit 1 7 false).1 ∧
      (Backend.run (operationsOf (verifiedCalls ++ [.inhibit 1 7 false]) ++
        (Call.retireSecurity 1 7).operations.take 1)).securityReadyForHid 1 7 := by
  decide

end Retirement

end HidBot.BleSecurity
