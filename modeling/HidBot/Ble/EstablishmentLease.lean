import HidBot.Ble.HciEstablishment
import HidBot.Interleaving.Rely
import Mathlib.Data.List.Nodup

/-!
# What the lease keeps

The ids that have been published are distinct and lie below the next one. A published id
that is no longer the lease has been ended or withdrawn, and it never comes back. Only the
controller publishes; the other tasks do no more than give the lease up.
-/

namespace HidBot.BleTransport

open Interleaving

variable {log later : List Note} {id other : EstablishmentId}
  {cells before middle after : HciCells} {note : Note}

/-! ### The log -/

def publishedIds (log : List Note) : List EstablishmentId :=
  log.filterMap fun
    | .published id _ _ => some id
    | _ => none

theorem mem_publishedIds :
    id ∈ publishedIds log ↔ ∃ handle before, .published id handle before ∈ log := by
  rw [publishedIds, List.mem_filterMap]
  constructor
  · rintro ⟨note, inside, same⟩
    cases note with
    | published _ handle before =>
        cases same
        exact ⟨handle, before, inside⟩
    | _ => cases same
  · rintro ⟨handle, before, inside⟩
    exact ⟨_, inside, rfl⟩

/-- A plain note says nothing of the ids that are published. -/
def Note.plain : Note → Bool
  | .published .. | .confirmed _ | .withdrawn .. => false
  | _ => true

theorem publishedIds_plain (plain : note.plain) :
    publishedIds (note :: log) = publishedIds log := by
  cases note with
  | published _ _ _ => cases plain
  | _ => rfl

/-- How a lease ends, the latest access first. -/
inductive Ended (log : List Note) (id : EstablishmentId) : Prop where
  | registered (handle : ConnectionHandle) (before : EstablishmentId)
      (order : [.resolved id id, .registered id handle, .published id handle before].Sublist log)
  | absent (handle : ConnectionHandle)
      (order : [.resolved id id, .unknown id, .probed id handle id].Sublist log)
  | replaced (successor : EstablishmentId)
      (order : [.reserved successor id, .owned id].Sublist log)
  | retired (inside : .retired id ∈ log)

theorem Ended.mono (more : log.Sublist later) (ended : Ended log id) : Ended later id := by
  cases ended with
  | registered handle before order => exact .registered handle before (order.trans more)
  | absent handle order => exact .absent handle (order.trans more)
  | replaced successor order => exact .replaced successor (order.trans more)
  | retired inside => exact .retired (more.subset inside)

/-- An access on behalf of one establishment clears no other. -/
def Note.Spares : Note → Prop
  | .reserved id before => before < id
  | .released _ before => before = reservation
  | .published _ _ before => before = 0 ∨ before = reservation
  | .withdrawn id before | .resolved id before => before = id
  | _ => True

/-! ### The invariant -/

structure Lease (cells : HciCells) : Prop where
  limit : cells.next ≤ reservation
  bounded : ∀ id ∈ publishedIds cells.log, 0 < id ∧ id < cells.next
  distinct : (publishedIds cells.log).Nodup
  held : cells.id = 0 ∨ cells.id = reservation ∨ cells.id ∈ publishedIds cells.log
  handle : ∀ handle before, .published cells.id handle before ∈ cells.log →
    cells.handle = handle ∨ cells.handle = noConnection
  owner : cells.disconnectOwner ≠ 0 → .owned cells.disconnectOwner ∈ cells.log
  kept : ∀ id ∈ publishedIds cells.log, cells.id = id ∨ Ended cells.log id ∨
    ∃ before, .withdrawn id before ∈ cells.log
  confirmed : ∀ id, .confirmed id ∈ cells.log → id ∈ publishedIds cells.log
  withdrawn : ∀ id before, .withdrawn id before ∈ cells.log →
    id ∈ publishedIds cells.log ∧ .confirmed id ∉ cells.log
  spares : ∀ note ∈ cells.log, note.Spares

namespace Lease

theorem initial : Lease {} where
  limit := by decide
  bounded _ inside := by cases inside
  distinct := .nil
  held := .inl rfl
  handle _ _ inside := by cases inside
  owner taken := absurd rfl taken
  kept _ inside := by cases inside
  confirmed _ inside := by cases inside
  withdrawn _ _ inside := by cases inside
  spares _ inside := by cases inside

/-- The other cells do not matter. -/
theorem congr (lease : Lease cells) (id : after.id = cells.id) (next : after.next = cells.next)
    (owner : after.disconnectOwner = cells.disconnectOwner) (handle : after.handle = cells.handle)
    (log : after.log = cells.log) : Lease after where
  limit := next ▸ lease.limit
  bounded := by rw [log, next]; exact lease.bounded
  distinct := log ▸ lease.distinct
  held := by rw [log, id]; exact lease.held
  handle := by rw [log, id, handle]; exact lease.handle
  owner := by rw [log, owner]; exact lease.owner
  kept := by rw [log, id]; exact lease.kept
  confirmed := log ▸ lease.confirmed
  withdrawn := log ▸ lease.withdrawn
  spares := log ▸ lease.spares

theorem ne_reservation (lease : Lease cells) (published : id ∈ publishedIds cells.log) :
    id ≠ reservation :=
  Nat.ne_of_lt (Nat.lt_of_lt_of_le (lease.bounded id published).2 lease.limit)

theorem ne_zero (lease : Lease cells) (published : id ∈ publishedIds cells.log) : id ≠ 0 :=
  Nat.pos_iff_ne_zero.mp (lease.bounded id published).1

/-- The lease is no published id where it is free or reserved. -/
theorem not_published (lease : Lease cells) (vacant : id = 0 ∨ id = reservation) :
    id ∉ publishedIds cells.log := fun published =>
  vacant.elim (lease.ne_zero published) (lease.ne_reservation published)

/-- A note may be written that publishes nothing and agrees with what has been confirmed and
withdrawn. -/
theorem record (lease : Lease cells) {note : Note}
    (silent : publishedIds (note :: cells.log) = publishedIds cells.log)
    (confirmed : ∀ id, note = .confirmed id →
      id ∈ publishedIds cells.log ∧ ∀ before, .withdrawn id before ∉ cells.log)
    (withdrawn : ∀ id before, note = .withdrawn id before →
      id ∈ publishedIds cells.log ∧ .confirmed id ∉ cells.log)
    (spares : note.Spares) : Lease (cells.note note) where
  limit := lease.limit
  bounded := silent ▸ lease.bounded
  distinct := silent ▸ lease.distinct
  held := silent ▸ lease.held
  handle handle before inside := by
    rcases List.mem_cons.mp inside with same | old
    · rw [← same] at silent
      exact absurd (congrArg List.length silent) (Nat.succ_ne_self _)
    · exact lease.handle handle before old
  owner taken := .tail _ (lease.owner taken)
  kept other inside := by
    refine (lease.kept other (silent ▸ inside)).imp_right fun gone => gone.imp ?_ ?_
    · exact Ended.mono (.cons _ (.refl _))
    · exact fun ⟨before, withdrawn⟩ => ⟨before, .tail _ withdrawn⟩
  confirmed other inside := by
    have published : other ∈ publishedIds cells.log := by
      rcases List.mem_cons.mp inside with same | old
      · exact (confirmed other same.symm).1
      · exact lease.confirmed other old
    exact silent ▸ published
  withdrawn other before inside := by
    have known : other ∈ publishedIds cells.log ∧ .confirmed other ∉ note :: cells.log := by
      rcases List.mem_cons.mp inside with rfl | old
      · refine (withdrawn other before rfl).imp_right fun unconfirmed confirmed => ?_
        exact unconfirmed ((List.mem_cons.mp confirmed).resolve_left fun same => by cases same)
      · refine (lease.withdrawn other before old).imp_right fun unconfirmed inside => ?_
        rcases List.mem_cons.mp inside with same | confirmation
        · exact (confirmed other same.symm).2 before old
        · exact unconfirmed confirmation
    exact known.imp_left fun published => silent ▸ published
  spares := List.forall_mem_cons.mpr ⟨spares, lease.spares⟩

theorem noted (lease : Lease cells) (note : Note) (plain : note.plain) (spares : note.Spares) :
    Lease (cells.note note) := by
  refine lease.record (publishedIds_plain plain) ?_ ?_ spares
  · rintro id rfl
    cases plain
  · rintro id before rfl
    cases plain

theorem confirm (lease : Lease cells) (published : id ∈ publishedIds cells.log)
    (standing : ∀ before, .withdrawn id before ∉ cells.log) :
    Lease (cells.note (.confirmed id)) := by
  refine lease.record rfl ?_ ?_ trivial
  · rintro _ ⟨⟩
    exact ⟨published, standing⟩
  · rintro _ _ ⟨⟩

/-- The lease may be given up by whoever ends it. -/
theorem leave (lease : Lease cells) (id : EstablishmentId) (free : id = 0 ∨ id = reservation)
    (ended : cells.id ∈ publishedIds cells.log → Ended cells.log cells.id ∨
      ∃ before, .withdrawn cells.id before ∈ cells.log) :
    Lease { cells with id } := by
  refine { lease with
    held := free.imp_right .inl
    handle := fun handle before inside => ?_
    kept := fun other published => ?_ }
  · exact absurd (mem_publishedIds.mpr ⟨handle, before, inside⟩) (lease.not_published free)
  · rcases lease.kept other published with rfl | gone
    · exact .inr (ended published)
    · exact .inr gone

theorem retire (lease : Lease cells) :
    Lease { cells with id := 0, log := .retired cells.id :: cells.log } :=
  (lease.noted (.retired cells.id) rfl trivial).leave 0 (.inl rfl)
    fun _ => .inl (.retired (.head _))

theorem setHandle (lease : Lease cells) (handle : ConnectionHandle)
    (free : handle = noConnection ∨ cells.id ∉ publishedIds cells.log) :
    Lease { cells with handle } := by
  refine { lease with handle := fun published before inside => ?_ }
  rcases free with none | unpublished
  · exact .inr none
  · exact absurd (mem_publishedIds.mpr ⟨published, before, inside⟩) unpublished

theorem clearOwner (lease : Lease cells) : Lease { cells with disconnectOwner := 0 } :=
  { lease with owner := fun taken => absurd rfl taken }

theorem own (lease : Lease cells) (id : EstablishmentId) :
    Lease { cells with disconnectOwner := id, log := .owned id :: cells.log } :=
  { lease.noted (.owned id) rfl trivial with owner := fun _ => .head _ }

theorem allocate (lease : Lease cells) (short : cells.next ≠ reservation) :
    Lease { cells with next := cells.next + 1 } :=
  { lease with
    limit := Nat.lt_of_le_of_ne lease.limit short
    bounded := fun id published => (lease.bounded id published).imp_right Nat.lt_succ_of_lt }

/-- What is published is a new id, and the lease holds none before. -/
theorem publish (lease : Lease cells) (handle : ConnectionHandle) (positive : 0 < id)
    (below : id < cells.next) (fresh : id ∉ publishedIds cells.log)
    (vacant : cells.id = 0 ∨ cells.id = reservation)
    (stored : cells.handle = handle ∨ cells.handle = noConnection) :
    Lease { cells with id, log := .published id handle cells.id :: cells.log } where
  limit := lease.limit
  bounded := List.forall_mem_cons.mpr ⟨⟨positive, below⟩, lease.bounded⟩
  distinct := List.nodup_cons.mpr ⟨fresh, lease.distinct⟩
  held := .inr (.inr (.head _))
  handle := by
    intro published before inside
    rcases List.mem_cons.mp inside with same | old
    · cases same
      exact stored
    · exact absurd (mem_publishedIds.mpr ⟨published, before, old⟩) fresh
  owner taken := .tail _ (lease.owner taken)
  kept := by
    refine List.forall_mem_cons.mpr ⟨.inl rfl, fun other published => .inr ?_⟩
    have gone : cells.id ≠ other := fun same => lease.not_published vacant (same ▸ published)
    refine ((lease.kept other published).resolve_left gone).imp ?_ ?_
    · exact Ended.mono (.cons _ (.refl _))
    · exact fun ⟨before, withdrawn⟩ => ⟨before, .tail _ withdrawn⟩
  confirmed other inside := by
    rcases List.mem_cons.mp inside with same | old
    · cases same
    · exact .tail _ (lease.confirmed other old)
  withdrawn other before inside := by
    rcases List.mem_cons.mp inside with same | old
    · cases same
    · refine (lease.withdrawn other before old).imp (.tail _) fun unconfirmed confirmed => ?_
      rcases List.mem_cons.mp confirmed with same | inside
      · cases same
      · exact unconfirmed inside
  spares := List.forall_mem_cons.mpr ⟨vacant, lease.spares⟩

theorem withdraw (lease : Lease cells) (published : cells.id ∈ publishedIds cells.log)
    (unconfirmed : .confirmed cells.id ∉ cells.log) :
    Lease { cells with id := 0, log := .withdrawn cells.id cells.id :: cells.log } := by
  have withdrawn : Lease (cells.note (.withdrawn cells.id cells.id)) := by
    refine lease.record rfl ?_ ?_ rfl
    · rintro _ ⟨⟩
    · rintro _ _ ⟨⟩
      exact ⟨published, unconfirmed⟩
  exact withdrawn.leave 0 (.inl rfl) fun _ => .inr ⟨_, .head _⟩

end Lease

/-! ### Accesses -/

/-- What any access does. -/
structure Moves (before after : HciCells) : Prop where
  lease : Lease after
  log : before.log <:+ after.log
  gone : ∀ id ∈ publishedIds before.log, after.id = id → before.id = id

/-- What an access of a task other than the controller does. -/
structure Aside (before after : HciCells) : Prop extends Moves before after where
  next : after.next = before.next
  id : after.id = before.id ∨ after.id = 0
  handle : after.handle = before.handle ∨ after.handle = noConnection
  plain : ∀ note ∈ after.log, note.plain = false → note ∈ before.log

theorem Moves.published (moves : Moves before after) (published : id ∈ publishedIds before.log) :
    id ∈ publishedIds after.log := by
  obtain ⟨handle, previous, inside⟩ := mem_publishedIds.mp published
  exact mem_publishedIds.mpr ⟨handle, previous, moves.log.subset inside⟩

theorem Moves.trans (first : Moves before middle) (second : Moves middle after) :
    Moves before after where
  lease := second.lease
  log := first.log.trans second.log
  gone id published held :=
    first.gone id published (second.gone id (first.published published) held)

theorem Aside.trans (first : Aside before middle) (second : Aside middle after) :
    Aside before after where
  toMoves := first.toMoves.trans second.toMoves
  next := second.next.trans first.next
  id := second.id.elim (fun same => first.id.imp same.trans same.trans) .inr
  handle := second.handle.elim (fun same => first.handle.imp same.trans same.trans) .inr
  plain note inside special := first.plain note (second.plain note inside special) special

theorem Aside.unpublished (aside : Aside before after)
    (fresh : id ∉ publishedIds before.log) : id ∉ publishedIds after.log := by
  intro published
  obtain ⟨handle, previous, inside⟩ := mem_publishedIds.mp published
  exact fresh (mem_publishedIds.mpr ⟨handle, previous, aside.plain _ inside rfl⟩)

/-- An access of the controller. -/
def ByController (before after : HciCells) : Prop := Lease before → Moves before after

/-- An access of another task. -/
def ByOthers (before after : HciCells) : Prop := Lease before → Aside before after

/-- Nothing that the lease is about changes. -/
theorem Aside.still (lease : Lease before) (id : after.id = before.id)
    (next : after.next = before.next) (owner : after.disconnectOwner = before.disconnectOwner)
    (handle : after.handle = before.handle) (log : after.log = before.log) :
    Aside before after where
  lease := lease.congr id next owner handle log
  log := log ▸ List.suffix_rfl
  gone _ _ held := id ▸ held
  next := next
  id := .inl id
  handle := .inl handle
  plain _ inside _ := log ▸ inside

theorem Aside.refl (lease : Lease before) : Aside before before := .still lease rfl rfl rfl rfl rfl

theorem ByController.refl (cells : HciCells) : ByController cells cells :=
  fun lease => (Aside.refl lease).toMoves

/-- What the tasks beside the controller do to the lease. -/
theorem Aside.of_lease (notes : List Note) (lease : Lease before) (kept : Lease after)
    (log : after.log = notes ++ before.log) (plain : ∀ note ∈ notes, note.plain)
    (next : after.next = before.next) (id : after.id = before.id ∨ after.id = 0)
    (handle : after.handle = before.handle ∨ after.handle = noConnection) :
    Aside before after where
  lease := kept
  log := ⟨notes, log.symm⟩
  gone other published held := by
    rcases id with same | free
    · exact same ▸ held
    · exact absurd (held.symm.trans free) (lease.ne_zero published)
  next := next
  id := id
  handle := handle
  plain note inside special := by
    rw [log, List.mem_append] at inside
    refine inside.resolve_left fun new => ?_
    exact absurd ((plain note new).symm.trans special) (by decide)

end HidBot.BleTransport
