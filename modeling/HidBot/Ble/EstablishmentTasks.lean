import HidBot.Ble.EstablishmentLease

/-!
# The tasks on the lease

Each task relies on what the others leave alone. The host knows facts of an id for as long
as it is the lease, since an id that is gone stays gone; the controller owns the lease from
its reservation on, unless a retirement takes it.
-/

namespace HidBot.BleTransport

open Interleaving

variable {before after cells : HciCells} {id current : EstablishmentId}

/-! ### Accesses beside the controller -/

theorem each_read {α : Type} {view : HciCells → α} : (Program.read view).Each ByOthers :=
  .read (fun _ => .refl) view

theorem each_note (note : Note) (plain : note.plain) (spares : note.Spares) :
    (Program.write (·.note note)).Each ByOthers := by
  refine .write fun cells lease => ?_
  exact .of_lease [note] lease (lease.noted note plain spares) rfl
    (List.forall_mem_singleton.mpr plain) rfl (.inl rfl) (.inl rfl)

theorem signalHandoffFailure_each : signalHandoffFailure.Each ByOthers :=
  each_note .failed rfl trivial

theorem setIngressEnabled_each (enabled : Bool) : (setIngressEnabled enabled).Each ByOthers :=
  .write fun _ lease => .still lease rfl rfl rfl rfl rfl

theorem retireHciEstablishment_each : retireHciEstablishment.Each ByOthers := by
  refine .bind (.write fun _ lease => .still lease rfl rfl rfl rfl rfl) fun _ => ?_
  refine .bind (.write fun _ lease => .still lease rfl rfl rfl rfl rfl) fun _ => ?_
  refine .bind (.write fun cells lease => ?_) fun _ => ?_
  · exact .of_lease [.retired cells.id] lease lease.retire rfl
      (List.forall_mem_singleton.mpr rfl) rfl (.inr rfl) (.inl rfl)
  refine .bind (.write fun _ lease => ?_) fun _ => ?_
  · exact .of_lease [] lease lease.clearOwner rfl (List.forall_mem_nil _) rfl
      (.inl rfl) (.inl rfl)
  refine .bind (.write fun _ lease => .still lease rfl rfl rfl rfl rfl) fun _ => ?_
  refine .bind (.write fun _ lease => .still lease rfl rfl rfl rfl rfl) fun _ => ?_
  refine .write fun _ lease => ?_
  exact .of_lease [] lease (lease.setHandle noConnection (.inl rfl)) rfl
    (List.forall_mem_nil _) rfl (.inl rfl) (.inr rfl)

/-! ### The host task -/

/-- While the id is the lease, what the host has found out for it is in the log. -/
structure Knows (fact : List Note → Prop) (id : EstablishmentId) (cells : HciCells) : Prop where
  lease : Lease cells
  published : id ∈ publishedIds cells.log
  fact : cells.id = id → fact cells.log

/-- A fact that a longer log does not take away. -/
def Lasting (fact : List Note → Prop) : Prop := ∀ log later, log <:+ later → fact log → fact later

theorem lasting_sublist (notes : List Note) : Lasting (notes.Sublist ·) :=
  fun _ _ more found => found.trans more.sublist

theorem lasting_ended (note : Note) (id : EstablishmentId) :
    Lasting fun log => Ended (note :: log) id :=
  fun _ _ more ended => ended.mono (more.sublist.cons_cons note)

section Host

variable {fact : List Note → Prop} {α : Type}

theorem Knows.stable (lasting : Lasting fact) (knows : Knows fact id before)
    (moved : ByController before after) : Knows fact id after := by
  have moves := moved knows.lease
  refine ⟨moves.lease, moves.published knows.published, fun held => ?_⟩
  exact lasting _ _ moves.log (knows.fact (moves.gone id knows.published held))

theorem Knows.imp {more : List Note → Prop} (weaken : fact cells.log → more cells.log)
    (knows : Knows fact id cells) : Knows more id cells :=
  ⟨knows.lease, knows.published, fun held => weaken (knows.fact held)⟩

/-- Reading changes nothing. -/
def Unchanged (before after : HciCells) : Prop := after = before

theorem Knows.reads (lasting : Lasting fact) (knows : Knows fact id cells)
    {call : HciProgram α} (each : call.Each Unchanged) :
    call.Safe ByController ByOthers (fun _ later => Knows fact id later) cells := by
  refine each.safe (fun _ _ knows moved => knows.stable lasting moved) ?_ knows
  rintro before _ knows rfl
  exact ⟨.refl, knows⟩

theorem beside_safe {call : HciProgram α} (each : call.Each ByOthers) (lease : Lease cells) :
    call.Safe ByController ByOthers (fun _ _ => True) cells := by
  have safe : call.Safe ByController ByOthers (fun _ later => Lease later) cells :=
    each.safe (fun _ _ lease moved => (moved lease).lease)
      (fun _ _ lease does => ⟨does, (does lease).lease⟩) lease
  exact safe.mono fun _ _ _ => trivial

theorem beside_done (result : α) :
    (Program.done result : HciProgram α).Safe ByController ByOthers (fun _ _ => True) cells :=
  fun _ _ => trivial

theorem reads_view {view : HciCells → α} : (Program.read view).Each Unchanged :=
  .read (fun _ => rfl) view

theorem ownsHciEstablishment_reads (stack generation : UInt32) (handle : ConnectionHandle) :
    (ownsHciEstablishment id stack generation handle).Each Unchanged := by
  unfold ownsHciEstablishment
  split
  · trivial
  refine .bind reads_view fun _ => ?_
  split
  · trivial
  refine .bind reads_view fun _ => ?_
  split
  · trivial
  refine .bind reads_view fun _ => ?_
  split
  · trivial
  exact .bind reads_view fun _ => trivial

theorem clearDisconnectOwner_each (id : EstablishmentId) :
    (clearDisconnectOwner id).Each ByOthers := by
  refine .write fun cells lease => ?_
  split
  · exact .of_lease [] lease lease.clearOwner rfl (List.forall_mem_nil _) rfl
      (.inl rfl) (.inl rfl)
  · exact .refl lease

/-- What is resolved has ended. -/
theorem resolveHciEstablishment_safe
    (knows : Knows (fun log => Ended (.resolved id id :: log) id) id cells) :
    (resolveHciEstablishment id (.resolved id)).Safe ByController ByOthers (fun _ _ => True)
      cells := by
  unfold resolveHciEstablishment
  split
  · exact beside_done ()
  refine Program.Safe.changeThen fun later moved => ?_
  replace knows := knows.stable (lasting_ended _ _) moved
  by_cases held : later.id = id
  · rw [if_pos held]
    have ended := knows.fact held
    subst held
    have kept : Lease { later with id := 0, log := .resolved later.id later.id :: later.log } :=
      (knows.lease.noted (.resolved later.id later.id) rfl rfl).leave 0 (.inl rfl)
        fun _ => .inl ended
    refine ⟨fun lease => ?_, beside_safe (clearDisconnectOwner_each _) kept⟩
    exact .of_lease [_] lease kept rfl (List.forall_mem_singleton.mpr rfl) rfl
      (.inr rfl) (.inl rfl)
  · rw [if_neg held]
    exact ⟨.refl, beside_done ()⟩

/-- The outcome of a probe, of which an unknown connection has been noted. -/
def Probed (id : EstablishmentId) (handle : ConnectionHandle) (result : Int) (log : List Note) :
    Prop :=
  result = unknownConnection → [.unknown id, .probed id handle id].Sublist log

theorem lasting_probed (id : EstablishmentId) (handle : ConnectionHandle) (result : Int) :
    Lasting (Probed id handle result) :=
  fun _ _ more probed unknown => (probed unknown).trans more.sublist

theorem Knows.note {more : List Note → Prop} (knows : Knows fact id cells) (note : Note)
    (plain : note.plain) (spares : note.Spares)
    (learns : cells.id = id → fact cells.log → more (note :: cells.log)) :
    Knows more id (cells.note note) where
  lease := knows.lease.noted note plain spares
  published := (publishedIds_plain plain).symm ▸ knows.published
  fact held := learns held (knows.fact held)

/-- The host writes a note. -/
theorem Knows.noteThen {rest : Unit → HciProgram α} {post : α → HciCells → Prop}
    (knows : Knows fact id cells) (lasting : Lasting fact) (note : HciCells → Note)
    (plain : ∀ cells, (note cells).plain) (spares : ∀ cells, (note cells).Spares)
    (goes : ∀ later, Knows fact id later →
      (rest ()).Safe ByController ByOthers post (later.note (note later))) :
    (Program.write (fun cells => cells.note (note cells)) >>= rest).Safe ByController ByOthers post
      cells := by
  refine Program.Safe.writeThen fun later moved => ?_
  replace knows := knows.stable lasting moved
  refine ⟨fun lease => ?_, goes later knows⟩
  exact .of_lease [_] lease (lease.noted _ (plain later) (spares later)) rfl
    (List.forall_mem_singleton.mpr (plain later)) rfl (.inl rfl) (.inl rfl)

/-- Only the present lease is noted to have been probed. -/
theorem disconnectControllerHandle_safe (handle : ConnectionHandle) (answer : Int)
    (knows : Knows (fun _ => True) id cells) :
    (disconnectControllerHandle id handle answer).Safe ByController ByOthers
      (fun result later => Knows (Probed id handle result) id later) cells := by
  refine knows.noteThen (fun _ _ _ _ => trivial) (fun cells => .probed id handle cells.id)
    (fun _ => rfl) (fun _ => trivial) fun later knows => ?_
  have probed : Knows ([.probed id handle id].Sublist ·) id
      (later.note (.probed id handle later.id)) :=
    knows.note _ rfl trivial fun held _ => by
      rw [held]
      exact .cons_cons _ (List.nil_sublist _)
  split
  · refine probed.noteThen (lasting_sublist _) (fun _ => .unknown id) (fun _ => rfl)
      (fun _ => trivial) fun later probed => ?_
    have unknown := probed.note (.unknown id) rfl trivial fun _ found => found.cons_cons _
    refine fun last moved => ?_
    exact (unknown.stable (lasting_sublist _) moved).imp fun found _ => found
  · rename_i known
    exact fun last moved => (probed.stable (lasting_sublist _) moved).imp
      fun _ unknown => absurd unknown known

/-- Only a probe of the present lease resolves it. -/
theorem probeEstablishment_safe (stack generation : UInt32) (handle : ConnectionHandle)
    (answer : Int) (knows : Knows (fun _ => True) id cells) :
    (probeEstablishment id stack generation handle answer).Safe ByController ByOthers
      (fun _ _ => True) cells := by
  refine .bind ByController.refl ((disconnectControllerHandle_safe handle answer knows).mono ?_)
  intro result later probed
  split
  · rename_i unknown
    refine .bind ByController.refl ((probed.reads (lasting_probed id handle result)
      (ownsHciEstablishment_reads stack generation handle)).mono ?_)
    intro owns later probed
    split
    · refine Program.Safe.readThen fun later moved => ⟨.refl, ?_⟩
      replace probed := probed.stable (lasting_probed id handle result) moved
      split
      · refine resolveHciEstablishment_safe (probed.imp fun found => ?_)
        exact .absent handle ((found unknown).cons_cons _)
      · exact beside_done ()
    · exact beside_done ()
  split
  · exact beside_safe signalHandoffFailure_each probed.lease
  refine beside_safe (.bind each_read fun hidden => ?_) probed.lease
  split
  · trivial
  · exact signalHandoffFailure_each

/-- The handle of the lease, or what a retirement leaves in its place. -/
def Handle (id : EstablishmentId) (handle : ConnectionHandle) (log : List Note) : Prop :=
  ∃ published before, .published id published before ∈ log ∧
    (handle = published ∨ handle = noConnection)

theorem lasting_handle (id : EstablishmentId) (handle : ConnectionHandle) :
    Lasting (Handle id handle) :=
  fun _ _ more ⟨published, before, inside, same⟩ =>
    ⟨published, before, more.subset inside, same⟩

theorem settleEstablishment_safe (stack generation : UInt32) (handle : ConnectionHandle)
    (registry : Registry) (answer : Int) (knows : Knows (Handle id handle) id cells) :
    (settleEstablishment id stack generation handle registry answer).Safe ByController ByOthers
      (fun _ _ => True) cells := by
  unfold settleEstablishment
  split
  · rename_i inside
    refine knows.noteThen (lasting_handle id handle) (fun _ => .registered id handle)
      (fun _ => rfl) (fun _ => trivial) fun later knows => ?_
    refine resolveHciEstablishment_safe (knows.note _ rfl trivial ?_)
    rintro - ⟨published, before, found, same | none⟩
    · subst same
      exact .registered handle before
        (((List.singleton_sublist.mpr found).cons_cons _).cons_cons _)
    · exact absurd (none ▸ inside) registry.property
  · refine Program.Safe.changeThen fun later moved => ?_
    replace knows := knows.stable (lasting_handle id handle) moved
    by_cases free : later.disconnectOwner = 0
    · rw [if_pos free]
      refine ⟨fun lease => ?_, probeEstablishment_safe _ _ _ _ ⟨knows.lease.own id, knows.published,
        fun _ => trivial⟩⟩
      exact .of_lease [.owned id] lease (lease.own id) rfl
        (List.forall_mem_singleton.mpr rfl) rfl (.inl rfl) (.inl rfl)
    · rw [if_neg free]
      refine ⟨.refl, ?_⟩
      dsimp only
      split
      · exact probeEstablishment_safe _ _ _ _ (knows.imp fun _ => trivial)
      · exact beside_safe signalHandoffFailure_each knows.lease

theorem processHciEstablishment_safe (registry : Registry) (answer : Int) (lease : Lease cells) :
    (processHciEstablishment registry answer).Safe ByController ByOthers (fun _ _ => True)
      cells := by
  refine Program.Safe.readThen fun later moved => ⟨.refl, ?_⟩
  replace lease := (moved lease).lease
  generalize same : later.id = id
  split
  · exact beside_done ()
  rename_i taken
  have published : id ∈ publishedIds later.log := by
    rcases same ▸ lease.held with free | reserved | published
    · exact absurd (.inl free) taken
    · exact absurd (.inr reserved) taken
    · exact published
  have knows : Knows (fun _ => True) id later := ⟨lease, published, fun _ => trivial⟩
  refine Program.Safe.readThen fun later moved => ⟨.refl, ?_⟩
  replace knows := knows.stable (fun _ _ _ _ => trivial) moved
  refine Program.Safe.readThen fun later moved => ⟨.refl, ?_⟩
  replace knows := knows.stable (fun _ _ _ _ => trivial) moved
  refine Program.Safe.readThen fun later moved => ⟨.refl, ?_⟩
  replace knows := knows.stable (fun _ _ _ _ => trivial) moved
  generalize stored : later.handle = handle
  replace knows : Knows (Handle id handle) id later := by
    refine ⟨knows.lease, knows.published, fun held => ?_⟩
    obtain ⟨published, before, inside⟩ := mem_publishedIds.mp knows.published
    refine ⟨published, before, inside, ?_⟩
    exact stored ▸ knows.lease.handle published before (held ▸ inside)
  refine Program.Safe.readThen fun later moved => ⟨.refl, ?_⟩
  replace knows := knows.stable (lasting_handle id handle) moved
  split
  · exact beside_safe signalHandoffFailure_each knows.lease
  refine Program.Safe.readThen fun later moved => ⟨.refl, ?_⟩
  replace knows := knows.stable (lasting_handle id handle) moved
  split
  · exact beside_safe signalHandoffFailure_each knows.lease
  refine .bind ByController.refl ((knows.reads (lasting_handle id handle)
    (ownsHciEstablishment_reads _ _ handle)).mono ?_)
  intro owns later knows
  split
  · exact settleEstablishment_safe _ _ _ registry answer knows
  · exact beside_safe signalHandoffFailure_each knows.lease

end Host

/-! ### The controller task -/

section Controller

variable {α : Type} {assertion : HciCells → Prop}

/-- The tasks beside the controller keep an assertion. -/
def Stable (assertion : HciCells → Prop) : Prop :=
  ∀ before after, assertion before → ByOthers before after → assertion after

theorem ByOthers.refl (cells : HciCells) : ByOthers cells cells := Aside.refl

/-- So does an access of the controller that they could make as well. -/
theorem aside_safe (stable : Stable assertion) {call : HciProgram α} (each : call.Each ByOthers)
    (holds : assertion cells) :
    call.Safe ByOthers ByController (fun _ later => assertion later) cells := by
  refine each.safe stable (fun before after holds does => ?_) holds
  exact ⟨fun lease => (does lease).toMoves, stable before after holds does⟩

theorem aside_bind {β : Type} {post : β → HciCells → Prop} (stable : Stable assertion)
    {call : HciProgram α} {rest : α → HciProgram β} (each : call.Each ByOthers)
    (holds : assertion cells)
    (goes : ∀ result later, assertion later →
      (rest result).Safe ByOthers ByController post later) :
    (call >>= rest).Safe ByOthers ByController post cells :=
  .bind ByOthers.refl ((aside_safe stable each holds).mono goes)

theorem zero_ne_reservation : (0 : EstablishmentId) ≠ reservation := by decide

/-- Nothing is being published. -/
structure Settled (cells : HciCells) : Prop where
  lease : Lease cells
  unreserved : cells.id ≠ reservation

theorem Settled.stable : Stable Settled := by
  intro before after settled moved
  have aside := moved settled.lease
  refine ⟨aside.lease, ?_⟩
  rcases aside.id with same | free
  · exact same ▸ settled.unreserved
  · exact free ▸ zero_ne_reservation

/-- The id that a Connection Complete replaces, if any, has a disconnect owner. -/
structure Replaceable (current : EstablishmentId) (cells : HciCells) : Prop
    extends Settled cells where
  known : current ≠ 0 → current ∈ publishedIds cells.log ∧ .owned current ∈ cells.log

theorem Replaceable.stable : Stable (Replaceable current) := by
  intro before after replaceable moved
  have aside := moved replaceable.lease
  refine ⟨Settled.stable _ _ replaceable.toSettled moved, fun taken => ?_⟩
  exact (replaceable.known taken).imp aside.published (aside.log.subset ·)

/-- An id that has been allocated and not published. -/
structure Fresh (id : EstablishmentId) (cells : HciCells) : Prop where
  positive : 0 < id
  below : id < cells.next
  unpublished : id ∉ publishedIds cells.log

theorem Fresh.aside (fresh : Fresh id before) (aside : Aside before after) : Fresh id after :=
  ⟨fresh.positive, aside.next.symm ▸ fresh.below, aside.unpublished fresh.unpublished⟩

/-- What an allocation has come to, beside an id that may be replaced. -/
def Allocated (current : EstablishmentId) : Allocation → HciCells → Prop
  | .allocated id, cells => Fresh id cells ∧ current < id
  | .exhausted, _ | .unfinished, _ => True

theorem allocateFrom_safe (turns : List Bool) (candidate : EstablishmentId)
    (replaceable : Replaceable current cells) :
    (allocateFrom turns candidate).Safe ByOthers ByController
      (fun result later => Replaceable current later ∧ Allocated current result later) cells := by
  induction turns generalizing candidate cells with
  | nil => exact fun later moved => ⟨Replaceable.stable _ _ replaceable moved, trivial⟩
  | cons spurious turns ih =>
      unfold allocateFrom
      split
      · exact fun later moved => ⟨Replaceable.stable _ _ replaceable moved, trivial⟩
      rename_i usable
      refine Program.Safe.changeThen fun later moved => ?_
      replace replaceable := Replaceable.stable _ _ replaceable moved
      by_cases taken : ¬spurious ∧ later.next = candidate
      · rw [if_pos taken]
        have same := taken.2
        subst same
        have short : later.next ≠ reservation := fun same => usable (.inr same)
        have lease := replaceable.lease.allocate short
        refine ⟨fun _ => ⟨lease, List.suffix_rfl, fun _ _ held => held⟩, ?_⟩
        have positive : 0 < later.next := Nat.pos_of_ne_zero fun none => usable (.inl none)
        have fresh : Fresh later.next { later with next := later.next + 1 } :=
          ⟨positive, Nat.lt_succ_self _, fun published =>
            Nat.lt_irrefl _ (replaceable.lease.bounded _ published).2⟩
        have newer : current < later.next := by
          by_cases none : current = 0
          · exact none ▸ positive
          · exact (replaceable.lease.bounded _ (replaceable.known none).1).2
        intro last moved
        have aside := moved lease
        have kept : Replaceable current { later with next := later.next + 1 } :=
          ⟨⟨lease, replaceable.unreserved⟩, replaceable.known⟩
        exact ⟨Replaceable.stable _ _ kept moved, fresh.aside aside, newer⟩
      · rw [if_neg taken]
        exact ⟨.refl _, ih _ replaceable⟩

/-- The lease is reserved for a fresh id, unless a retirement has freed it. -/
structure Reserving (id : EstablishmentId) (cells : HciCells) : Prop where
  lease : Lease cells
  fresh : Fresh id cells
  vacant : cells.id = 0 ∨ cells.id = reservation

theorem Reserving.stable : Stable (Reserving id) := by
  intro before after reserving moved
  have aside := moved reserving.lease
  refine ⟨aside.lease, reserving.fresh.aside aside, ?_⟩
  exact aside.id.elim (fun same => same ▸ reserving.vacant) .inl

/-- The handle has been stored for it, unless a retirement has cleared it. -/
structure Stored (id : EstablishmentId) (handle : ConnectionHandle) (cells : HciCells) : Prop
    extends Reserving id cells where
  handle : cells.handle = handle ∨ cells.handle = noConnection

theorem Stored.stable {handle : ConnectionHandle} : Stable (Stored id handle) := by
  intro before after stored moved
  refine ⟨Reserving.stable _ _ stored.toReserving moved, ?_⟩
  exact (moved stored.lease).handle.elim (fun same => same ▸ stored.handle) .inr

/-- The id is published, and the controller has not decided on it. -/
structure Undecided (id : EstablishmentId) (cells : HciCells) : Prop extends Settled cells where
  published : id ∈ publishedIds cells.log
  unconfirmed : .confirmed id ∉ cells.log
  standing : ∀ before, .withdrawn id before ∉ cells.log

theorem Undecided.stable : Stable (Undecided id) := by
  intro before after undecided moved
  have aside := moved undecided.lease
  refine ⟨Settled.stable _ _ undecided.toSettled moved, aside.published undecided.published, ?_, ?_⟩
  · exact fun confirmed => undecided.unconfirmed (aside.plain _ confirmed rfl)
  · exact fun earlier withdrawn => undecided.standing earlier (aside.plain _ withdrawn rfl)

theorem settled_done (result : α) (settled : Settled cells) :
    (Program.done result : HciProgram α).Safe ByOthers ByController
      (fun _ later => Settled later) cells :=
  fun _ moved => Settled.stable _ _ settled moved

theorem each_ingressOpen (epoch : Nat) : (ingressOpen epoch).Each ByOthers := by
  refine .bind each_read fun enabled => ?_
  split
  · exact .bind each_read fun _ => trivial
  · trivial

/-- Publishing a fresh id leaves it undecided. -/
theorem Stored.publish {handle : ConnectionHandle} (stored : Stored id handle cells) :
    Undecided id { cells with id, log := .published id handle cells.id :: cells.log } := by
  have lease := stored.lease.publish handle stored.fresh.positive stored.fresh.below
    stored.fresh.unpublished stored.vacant stored.handle
  refine ⟨⟨lease, lease.ne_reservation (.head _)⟩, .head _, fun confirmed => ?_,
    fun before withdrawn => ?_⟩
  · rcases List.mem_cons.mp confirmed with same | old
    · cases same
    · exact stored.fresh.unpublished (stored.lease.confirmed id old)
  · rcases List.mem_cons.mp withdrawn with same | old
    · cases same
    · exact stored.fresh.unpublished (stored.lease.withdrawn id before old).1

theorem confirmOpen_safe (epoch : Nat) (undecided : Undecided id cells) :
    (confirmOpen id epoch).Safe ByOthers ByController (fun confirmed later =>
      if confirmed then Settled later else Undecided id later) cells := by
  refine Program.Safe.readThen fun later moved => ⟨.refl _, ?_⟩
  replace undecided := Undecided.stable _ _ undecided moved
  split
  · intro later moved
    replace undecided := Undecided.stable _ _ undecided moved
    by_cases same : later.ingressEpoch = epoch
    · simp only [if_pos same]
      have lease := undecided.lease.confirm undecided.published undecided.standing
      refine ⟨fun _ => ⟨lease, List.suffix_cons _ _, fun _ _ held => held⟩, ?_⟩
      exact settled_done true ⟨lease, undecided.unreserved⟩
    · simp only [if_neg same]
      exact ⟨.refl _, fun last moved => Undecided.stable _ _ undecided moved⟩
  · exact fun last moved => Undecided.stable _ _ undecided moved

/-- The controller gives up an id that it has not confirmed. -/
theorem withdraw_safe (undecided : Undecided id cells) :
    (resolveHciEstablishment id (.withdrawn id)).Safe ByOthers ByController
      (fun _ later => Settled later) cells := by
  unfold resolveHciEstablishment
  split
  · exact settled_done () undecided.toSettled
  refine Program.Safe.changeThen fun later moved => ?_
  replace undecided := Undecided.stable _ _ undecided moved
  by_cases held : later.id = id
  · rw [if_pos held]
    subst held
    have lease := undecided.lease.withdraw undecided.published undecided.unconfirmed
    refine ⟨fun _ => ⟨lease, List.suffix_cons _ _, fun other published held => ?_⟩, ?_⟩
    · exact absurd held.symm (undecided.lease.ne_zero published)
    · exact aside_safe Settled.stable (clearDisconnectOwner_each _) ⟨lease, zero_ne_reservation⟩
  · rw [if_neg held]
    exact ⟨.refl _, settled_done () undecided.toSettled⟩

/-- The reservation is given up, and nothing else. -/
theorem release_safe (reserving : Reserving id cells) :
    (exchangeId reservation 0 (.released id) >>= fun _ => pure false).Safe ByOthers ByController
      (fun _ later => Settled later) cells := by
  refine Program.Safe.changeThen fun later moved => ?_
  replace reserving := Reserving.stable _ _ reserving moved
  by_cases held : later.id = reservation
  · rw [if_pos held]
    have noted := reserving.lease.noted (.released id later.id) rfl held
    have lease : Lease { later with id := 0, log := .released id later.id :: later.log } :=
      noted.leave 0 (.inl rfl) fun published => absurd published (noted.not_published (.inr held))
    refine ⟨fun _ => ⟨lease, List.suffix_cons _ _, fun other published same => ?_⟩,
      settled_done false ⟨lease, zero_ne_reservation⟩⟩
    exact absurd same.symm (reserving.lease.ne_zero published)
  · rw [if_neg held]
    exact ⟨.refl _, settled_done false ⟨reserving.lease, held⟩⟩

theorem publishEstablishment_safe (handle : ConnectionHandle) (epoch : Nat)
    (reserving : Reserving id cells) :
    (publishEstablishment id handle epoch).Safe ByOthers ByController
      (fun _ later => Settled later) cells := by
  refine aside_bind Reserving.stable (each_ingressOpen epoch) reserving
    fun admitted later reserving => ?_
  split
  · refine aside_bind Reserving.stable each_read reserving fun incarnation later reserving => ?_
    refine aside_bind Reserving.stable (.write fun _ lease => .still lease rfl rfl rfl rfl rfl)
      reserving fun _ later reserving => ?_
    refine aside_bind Reserving.stable each_read reserving fun generation later reserving => ?_
    refine aside_bind Reserving.stable (.write fun _ lease => .still lease rfl rfl rfl rfl rfl)
      reserving fun _ later reserving => ?_
    refine Program.Safe.writeThen fun later moved => ?_
    replace reserving := Reserving.stable _ _ reserving moved
    have lease := reserving.lease.setHandle handle
      (.inr (reserving.lease.not_published reserving.vacant))
    have stored : Stored id handle { later with handle } :=
      ⟨⟨lease, ⟨reserving.fresh.positive, reserving.fresh.below, reserving.fresh.unpublished⟩,
        reserving.vacant⟩, .inl rfl⟩
    refine ⟨fun _ => ⟨lease, List.suffix_rfl, fun _ _ held => held⟩, ?_⟩
    refine aside_bind Stored.stable (.write fun _ lease => ?_) stored fun _ later stored => ?_
    · exact .of_lease [] lease lease.clearOwner rfl (List.forall_mem_nil _) rfl
        (.inl rfl) (.inl rfl)
    refine Program.Safe.writeThen fun later moved => ?_
    replace stored := Stored.stable _ _ stored moved
    have undecided := stored.publish
    refine ⟨fun _ => ⟨undecided.lease, List.suffix_cons _ _, ?_⟩, ?_⟩
    · rintro other published rfl
      exact absurd published stored.fresh.unpublished
    refine .bind ByOthers.refl ((confirmOpen_safe epoch undecided).mono ?_)
    intro confirmed later decided
    cases confirmed with
    | true => exact settled_done true decided
    | false =>
        refine .bind ByOthers.refl ((withdraw_safe decided).mono ?_)
        exact fun _ later settled => settled_done false settled
  · exact release_safe reserving

theorem signal_safe (result : α) (settled : Settled cells) :
    (signalHandoffFailure >>= fun _ => pure result).Safe ByOthers ByController
      (fun _ later => Settled later) cells :=
  aside_bind Settled.stable signalHandoffFailure_each settled
    fun _ _ settled => settled_done result settled

theorem reserveEstablishment_safe (handle : ConnectionHandle) (epoch : Nat) (turns : List Bool)
    (replaceable : Replaceable current cells) :
    (reserveEstablishment current handle epoch turns).Safe ByOthers ByController
      (fun _ later => Settled later) cells := by
  have allocation : (allocateHciEstablishmentId turns).Safe ByOthers ByController
      (fun result later => Replaceable current later ∧ Allocated current result later) cells :=
    aside_bind Replaceable.stable each_read replaceable fun candidate _ replaceable =>
      allocateFrom_safe turns candidate replaceable
  refine .bind ByOthers.refl (allocation.mono ?_)
  rintro result later ⟨replaceable, allocated⟩
  cases result with
  | unfinished => exact settled_done none replaceable.toSettled
  | exhausted => exact signal_safe (some false) replaceable.toSettled
  | allocated id =>
      refine Program.Safe.changeThen fun last moved => ?_
      obtain ⟨fresh, newer⟩ := allocated
      replace fresh := fresh.aside (moved replaceable.lease)
      replace replaceable := Replaceable.stable _ _ replaceable moved
      by_cases held : last.id = current
      · rw [if_pos held]
        have noted := replaceable.lease.noted (.reserved id last.id) rfl (held.symm ▸ newer)
        have lease : Lease
            { last with id := reservation, log := .reserved id last.id :: last.log } := by
          refine noted.leave reservation (.inr rfl) fun published => .inl ?_
          have owned := (replaceable.known (held ▸ noted.ne_zero published)).2
          subst held
          exact .replaced id ((List.singleton_sublist.mpr owned).cons_cons _)
        refine ⟨fun _ => ⟨lease, List.suffix_cons _ _, fun other published same => ?_⟩, ?_⟩
        · exact absurd same.symm (replaceable.lease.ne_reservation published)
        · refine .bind ByOthers.refl ((publishEstablishment_safe handle epoch
            ⟨lease, ⟨fresh.positive, fresh.below, fresh.unpublished⟩, .inr rfl⟩).mono ?_)
          exact fun _ _ settled => settled_done _ settled
      · rw [if_neg held]
        exact ⟨.refl _, signal_safe (some false) replaceable.toSettled⟩

theorem isDuplicate_reads (current : EstablishmentId) (handle : ConnectionHandle) :
    (isDuplicate current handle).Each ByOthers := by
  unfold isDuplicate
  split
  · trivial
  refine .bind each_read fun stack => .bind each_read fun incarnation => ?_
  split
  · trivial
  refine .bind each_read fun generation => .bind each_read fun backend => ?_
  split
  · trivial
  exact .bind each_read fun _ => trivial

/-- A lease is replaced only while its own establishment has the disconnect. -/
theorem isReplacingProbed_safe (settled : Settled cells) (taken : current ≠ 0)
    (published : current ∈ publishedIds cells.log) :
    (isReplacingProbed current).Safe ByOthers ByController (fun replacing later =>
      Settled later ∧ (replacing = true → Replaceable current later)) cells := by
  unfold isReplacingProbed
  split
  · exact fun later moved => ⟨Settled.stable _ _ settled moved, fun replacing => by cases replacing⟩
  refine Program.Safe.readThen fun later moved => ⟨.refl _, fun last after => ?_⟩
  have aside := moved settled.lease
  replace settled := Settled.stable _ _ settled moved
  refine ⟨Settled.stable _ _ settled after, fun owns => ?_⟩
  have owner : later.disconnectOwner = current := of_decide_eq_true owns
  have owned := settled.lease.owner (owner.symm ▸ taken)
  have replaceable : Replaceable current later :=
    ⟨settled, fun _ => ⟨aside.published published, owner ▸ owned⟩⟩
  exact Replaceable.stable _ _ replaceable after

/-- The lease is published where nothing is reserved. -/
theorem Settled.held (settled : Settled cells) (taken : cells.id ≠ 0) :
    cells.id ∈ publishedIds cells.log :=
  (settled.lease.held.resolve_left taken).resolve_left settled.unreserved

theorem observeConnection_safe (handle : ConnectionHandle) (epoch : Nat) (turns : List Bool)
    (settled : Settled cells) :
    (observeConnection handle epoch turns).Safe ByOthers ByController
      (fun _ later => Settled later) cells := by
  refine Program.Safe.readThen fun later moved => ⟨.refl _, ?_⟩
  replace settled := Settled.stable _ _ settled moved
  split
  · rename_i free
    exact reserveEstablishment_safe handle epoch turns ⟨settled, fun taken => absurd free taken⟩
  rename_i taken
  have published := settled.held taken
  generalize later.id = current at taken published
  have replaceable : Settled later ∧ current ∈ publishedIds later.log := ⟨settled, published⟩
  have stable : Stable fun cells => Settled cells ∧ current ∈ publishedIds cells.log :=
    fun before after both moved => ⟨Settled.stable _ _ both.1 moved,
      (moved both.1.lease).published both.2⟩
  refine aside_bind stable (isDuplicate_reads current handle) replaceable
    fun duplicate later both => ?_
  refine .bind ByOthers.refl ((isReplacingProbed_safe both.1 taken both.2).mono ?_)
  rintro replacing later ⟨settled, owned⟩
  split
  · exact settled_done _ settled
  split
  · exact signal_safe (some false) settled
  · rename_i probed
    exact reserveEstablishment_safe handle epoch turns (owned (Decidable.not_not.mp probed))

theorem observeHciIngress_safe (event : List UInt8) (turns : List Bool)
    (settled : Settled cells) :
    (observeHciIngress event turns).Safe ByOthers ByController
      (fun _ later => Settled later) cells := by
  refine aside_bind Settled.stable each_read settled fun epoch later settled => ?_
  refine aside_bind Settled.stable (each_ingressOpen epoch) settled fun admitted later settled => ?_
  split
  · split
    · exact aside_bind Settled.stable each_read settled
        fun _ _ settled => settled_done _ settled
    · exact observeConnection_safe _ epoch turns settled
    · exact settled_done _ settled
  · exact settled_done _ settled

end Controller

end HidBot.BleTransport
