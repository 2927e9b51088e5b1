import HidBot.Bonds.Provenance

/-!
# The next start after a run of writes

If no operation of the storage fails, a run of writes keeps everything that a start checks
but two things: an association may be left pending, and a bond may be left half there. The
next start then refuses the store. Otherwise it succeeds.
-/

namespace HidBot.Bonds

open ControlProtocol (ProfileId)

namespace BondStore

/-- What a start checks, except that every creation is finished. -/
structure Orderly (store : BondStore) : Prop where
  loaded : store.ram = store.durable
  few : store.associations.entries.length ≤ bondCapacity
  legible : ∀ entry ∈ store.associations.entries, associationEntryValid false entry
  valid : ∀ peer bondClass, store.association peer = ⟨.complete, bondClass⟩ →
    store.PairValid peer bondClass
  records : ∀ side, validSet bondCapacity (store.durable side).keys
  schemas : validSet schemaRecoveryCapacity store.revisions.keys

/-- The creation of this bond has been begun and not finished. -/
def PartialCreation (store : BondStore) (peer : StoreIdentity) : Prop :=
  (store.association peer).state = .pending ∨
    ¬(peer ∈ store.durable .our ↔ peer ∈ store.durable .peer)

theorem association_of_entry {store : BondStore} {entry : (_ : StoreIdentity) × UInt32}
    (listed : entry ∈ store.associations.entries) :
    store.association entry.1 = decodeAssociation entry.2 := by
  have stored : store.associations.lookup entry.1 = some entry.2 :=
    AList.mem_lookup_iff.mpr listed
  simp only [association, stored]

theorem entry_of_association (store : BondStore) (peer : StoreIdentity)
    (known : (store.association peer).state ≠ .missing) :
    ∃ word, ⟨peer, word⟩ ∈ store.associations.entries ∧
      store.association peer = decodeAssociation word := by
  cases stored : store.associations.lookup peer with
  | none => simp [association, stored] at known
  | some word => exact ⟨word, AList.mem_lookup_iff.mp stored, by simp [association, stored]⟩

theorem keys_valid {store : BondStore} (records : ∀ side, validSet bondCapacity (store.durable side).keys)
    (side : Side) : (store.durable side).keys.all validIdentity := by
  have valid := records side
  simp only [validSet, decide_eq_true_eq] at valid
  exact valid.2.1

theorem associationPairValid_iff {store : BondStore}
    (records : ∀ side, validSet bondCapacity (store.durable side).keys)
    (entry : (_ : StoreIdentity) × UInt32) :
    store.associationPairValid entry ↔
      store.PairValid entry.1 (store.association entry.1).bondClass := by
  have both : (store.durable .our).keys.all validIdentity ∧
      (store.durable .peer).keys.all validIdentity :=
    ⟨keys_valid records .our, keys_valid records .peer⟩
  simp only [associationPairValid, durablePair, IoAnswer.query, if_pos both, PairValid]
  refine ⟨fun valid => ⟨?_, valid⟩, And.right⟩
  -- A record that is valid has been found.
  simp only [persistedBondIsValid, recordIsValid, decide_eq_true_eq] at valid
  rintro (_ | _)
  · exact AList.lookup_isSome.mp (evidence_found.symm.trans valid.1.1)
  · exact AList.lookup_isSome.mp (evidence_found.symm.trans valid.2.1.1)

theorem Startable.orderly {store : BondStore} (startable : store.Startable)
    (loaded : store.ram = store.durable) : store.Orderly where
  loaded := loaded
  few := startable.few
  legible entry listed := by
    have complete := startable.complete entry listed
    simp only [associationEntryValid, decide_eq_true_eq] at complete ⊢
    exact ⟨complete.1, complete.2.1, nofun⟩
  valid peer bondClass complete := by
    obtain ⟨word, listed, known⟩ := entry_of_association store peer
      (by simp [complete])
    have valid := (associationPairValid_iff startable.records _).mp (startable.valid _ listed)
    simpa [complete] using valid
  records := startable.records
  schemas := startable.schemas

theorem Orderly.startable {store : BondStore} (orderly : store.Orderly)
    (finished : ∀ peer, ¬store.PartialCreation peer) : store.Startable := by
  have complete (entry : (_ : StoreIdentity) × UInt32)
      (listed : entry ∈ store.associations.entries) :
      (store.association entry.1).state = .complete := by
    have legible := orderly.legible entry listed
    simp only [associationEntryValid, decide_eq_true_eq] at legible
    have begun := ((decodeAssociation_begun entry.2).resolve_left legible.2.1).1
    rw [← association_of_entry listed] at begun
    exact begun.resolve_left fun pending => finished entry.1 (.inl pending)
  constructor
  · exact orderly.few
  · intro entry listed
    have legible := orderly.legible entry listed
    simp only [associationEntryValid, decide_eq_true_eq] at legible ⊢
    exact ⟨legible.1, legible.2.1, fun _ =>
      (congrArg _ (association_of_entry listed)).symm.trans (complete entry listed)⟩
  · intro entry listed
    refine (associationPairValid_iff orderly.records entry).mpr (orderly.valid _ _ ?_)
    rw [← complete entry listed]
  · exact orderly.records
  · exact orderly.schemas
  · exact fun peer => not_not.mp fun half => finished peer (.inr half)

theorem Startable.finished {store : BondStore} (startable : store.Startable)
    (peer : StoreIdentity) : ¬store.PartialCreation peer := by
  rintro (pending | half)
  · obtain ⟨word, listed, known⟩ := entry_of_association store peer
      (by simp [pending])
    have complete := startable.complete _ listed
    simp only [associationEntryValid, decide_eq_true_eq] at complete
    rw [known, complete.2.2 trivial] at pending
    simp at pending
  · exact half (startable.paired peer)

/-! ### What one write keeps -/

theorem length_insert_le {β : Type} {entries : Namespace β} {key : StoreIdentity} (value : β)
    {capacity : Nat} (few : entries.entries.length ≤ capacity)
    (room : key ∈ entries ∨ entries.entries.length < capacity) :
    (entries.insert key value).entries.length ≤ capacity := by
  have same (other : Namespace β) : other.entries.length = other.keys.length := by
    simp [AList.keys, List.keys]
  rw [same, AList.keys_insert, List.length_cons]
  rw [same] at few room
  by_cases listed : key ∈ entries
  · have positive := List.length_pos_of_mem (AList.mem_keys.mp listed)
    rw [List.length_erase_of_mem (AList.mem_keys.mp listed)]
    lia
  · rw [List.erase_of_not_mem (mt AList.mem_keys.mpr listed)]
    exact room.resolve_left listed

theorem mem_entries_insert {β : Type} {entries : Namespace β} {key : StoreIdentity} {value : β}
    {entry : (_ : StoreIdentity) × β} (listed : entry ∈ (entries.insert key value).entries) :
    entry = ⟨key, value⟩ ∨ entry ∈ entries.entries := by
  rw [AList.entries_insert, List.mem_cons] at listed
  exact listed.imp_right fun kept => List.kerase_sublist key entries.entries |>.subset kept

theorem validSet_insert {β : Type} {entries : Namespace β} {key : StoreIdentity} (value : β)
    {capacity : Nat} (valid : validSet capacity entries.keys) (identity : validIdentity key)
    (room : key ∈ entries ∨ entries.entries.length < capacity) :
    validSet capacity (entries.insert key value).keys := by
  simp only [validSet, List.all_eq_true, decide_eq_true_eq] at valid ⊢
  obtain ⟨few, identities, -⟩ := valid
  refine ⟨?_, fun other listed => ?_, AList.keys_nodup _⟩
  · simpa [AList.keys, List.keys] using
      length_insert_le value (by simpa [AList.keys, List.keys] using few) room
  · rcases (AList.mem_insert entries).mp (AList.mem_keys.mpr listed) with rfl | kept
    · exact identity
    · exact identities other (AList.mem_keys.mp kept)

theorem Orderly.setAssociation {store : BondStore} (orderly : store.Orderly)
    {peer : StoreIdentity} {record : AssociationRecord}
    (begun : record.state = .pending ∨ record.state = .complete)
    (relaxed : record.bondClass ≠ .strictComposite) (identity : validIdentity peer)
    (room : (store.association peer).state = .missing →
      store.associations.entries.length < bondCapacity)
    (paired : record.state = .complete → store.PairValid peer record.bondClass) :
    (store.setAssociation peer record).Orderly where
  loaded := orderly.loaded
  few := by
    refine length_insert_le _ orderly.few ?_
    by_cases listed : peer ∈ store.associations
    · exact .inl listed
    · refine .inr (room ?_)
      simp [association, AList.lookup_eq_none.mpr listed]
  legible entry listed := by
    rcases mem_entries_insert listed with rfl | kept
    · simp only [associationEntryValid, decode_encode begun relaxed, identity]
      rcases begun with state | state <;> simp [state]
    · exact orderly.legible entry kept
  valid other bondClass complete := by
    by_cases target : other = peer
    · subst target
      rw [association_setAssociation begun relaxed] at complete
      subst complete
      exact paired rfl
    · rw [association_setAssociation_of_ne target] at complete
      exact orderly.valid other bondClass complete
  records := orderly.records
  schemas := orderly.schemas

theorem Orderly.stored {store : BondStore} (orderly : store.Orderly) {side : Side} {kept : Kept}
    {selected : BondClass} (identity : validIdentity kept.value.peerAddr)
    (writable : store.Writable kept.value.peerAddr selected)
    (room : store.hasRoom side kept.value.peerAddr) :
    ((store.putRam side kept).putDurable side kept).Orderly where
  loaded := by
    change put store.ram side kept = put store.durable side kept
    rw [orderly.loaded]
  few := orderly.few
  legible := orderly.legible
  valid other bondClass complete := by
    have different : other ≠ kept.value.peerAddr := by
      rintro rfl
      have complete : store.association kept.value.peerAddr = ⟨.complete, bondClass⟩ := complete
      simp [Writable, complete] at writable
    have same (third : Side) : (put store.durable side kept third).lookup other =
        (store.durable third).lookup other := by
      rw [lookup_put, if_neg fun target => different target.2]
    obtain ⟨found, valid⟩ := orderly.valid other bondClass complete
    constructor
    · intro third
      rw [← AList.lookup_isSome]
      exact (congrArg _ (same third)).trans (AList.lookup_isSome.mpr (found third))
    · simpa only [evidence, putDurable, putRam, same] using valid
  records third := by
    by_cases target : third = side
    · subst target
      have space : kept.value.peerAddr ∈ store.durable third ∨
          (store.durable third).entries.length < bondCapacity := by
        simpa [hasRoom, orderly.loaded, AList.lookup_isSome] using room
      simpa [putDurable, putRam, put] using
        validSet_insert kept (orderly.records third) identity space
    · simpa [putDurable, putRam, put, target] using orderly.records third
  schemas := orderly.schemas

theorem Orderly.rawWrite {store : BondStore} (orderly : store.Orderly) {io : RawAnswer}
    (sound : io = .stored ∨ io = .full) (side : Side) (kept : Kept) {selected : BondClass}
    (identity : validIdentity kept.value.peerAddr)
    (writable : store.Writable kept.value.peerAddr selected) :
    (store.rawWrite io side kept).2.Orderly := by
  unfold BondStore.rawWrite
  split_ifs with room
  · rcases sound with rfl | rfl
    · exact orderly.stored identity writable room
    · exact orderly
  · exact orderly

theorem Orderly.completeAssociation {store finished : BondStore} (orderly : store.Orderly)
    {io : CompleteAnswers} {claim : AssociationCreation} {connection : UInt64}
    {peer : StoreIdentity} {selected : BondClass} {decision : AssociationDecision}
    (identity : validIdentity peer)
    (done : store.completeAssociation io claim connection peer selected = (decision, finished)) :
    finished.Orderly := by
  rcases completeAssociation_store done with rfl | ⟨pending, relaxed, paired, rfl⟩
  · exact orderly
  · exact orderly.setAssociation (.inr rfl) relaxed identity (by simp [pending]) fun _ => paired

theorem Orderly.validated {store : BondStore} (orderly : store.Orderly) :
    store.validateAssociationNamespace false = .ok store.associations.entries.length := by
  have legible : store.associations.entries.all (associationEntryValid false) :=
    List.all_eq_true.mpr orderly.legible
  simp [validateAssociationNamespace, orderly.few, legible]

/-- The store knows the same of the peer. -/
def SameBond (store other : BondStore) (peer : StoreIdentity) : Prop :=
  store.associations.lookup peer = other.associations.lookup peer ∧
    store.revisions.lookup peer = other.revisions.lookup peer ∧
    (∀ side, (store.durable side).lookup peer = (other.durable side).lookup peer) ∧
    ∀ side, (store.ram side).lookup peer = (other.ram side).lookup peer

theorem SameBond.rfl {store : BondStore} {peer : StoreIdentity} : store.SameBond store peer :=
  ⟨Eq.refl _, Eq.refl _, fun _ => Eq.refl _, fun _ => Eq.refl _⟩

theorem SameBond.trans {store middle other : BondStore} {peer : StoreIdentity}
    (first : store.SameBond middle peer) (second : middle.SameBond other peer) :
    store.SameBond other peer :=
  ⟨first.1.trans second.1, first.2.1.trans second.2.1,
    fun side => (first.2.2.1 side).trans (second.2.2.1 side),
    fun side => (first.2.2.2 side).trans (second.2.2.2 side)⟩

end BondStore

namespace Backend

/-- No operation of the storage fails, and the stack is not started anew. The host stack
may have no room. -/
def Event.Undisturbed : Event → Prop
  | .storeWrite io _ _ => io.prepare = {} ∧ io.complete = {} ∧ (io.raw = .stored ∨ io.raw = .full)
  | .selectProfile _ _ | .reboot _ _ => False
  | _ => True

section Write

variable {backend admitted : Backend} {io : PrepareAnswers} {value : SecurityValue}
  {result : Except StoreError Unit}

end Write

theorem initialized_storeWrite (backend : Backend) (io : WriteAnswers) (side : Side)
    (value : SecurityValue) :
    (backend.storeWrite io side value).2.initialized = backend.initialized := by
  rcases storeWrite_cases io backend side value with
    ⟨-, same⟩ | ⟨admitted, admits, store, securityInhibit, same, -⟩ <;> rw [same]
  · exact (profile_admitWrite (Prod.mk.eta).symm).2.1
  · exact (profile_admitWrite admits).2.1

end Backend

end HidBot.Bonds
