import HidBot.Bonds.DeleteTransaction
import Mathlib.Data.List.Nodup

/-!
# A removal that is cut is finished by the restart

Every store operation leaves the disk as it was, or with the receipt and nothing lost
but records of the target, or without the receipt and without the target. From each
of these a restart that is not disturbed returns success.
-/

namespace HidBot.Bonds

open Interleaving

/-! ### Disks -/

section Lookup

variable {entries : List (String × Blob)} {key other : String}

theorem lookup_filter_same : (entries.filter (·.1 ≠ key)).lookup key = none := by
  rw [List.lookup_eq_none_iff]
  intro entry member
  simpa [bne_iff_ne, ne_comm] using (List.mem_filter.mp member).2

theorem lookup_filter_other (different : other ≠ key) :
    (entries.filter (·.1 ≠ key)).lookup other = entries.lookup other := by
  induction entries with
  | nil => rfl
  | cons entry entries ih =>
      obtain ⟨name, blob⟩ := entry
      by_cases same : name = key
      · have apart : other ≠ name := same ▸ different
        simpa [List.filter_cons, same, List.lookup_cons, beq_eq_false_iff_ne.mpr different,
          beq_eq_false_iff_ne.mpr apart] using ih
      · by_cases here : other = name
        · simp [same, here]
        · simpa [List.filter_cons, same, List.lookup_cons, beq_eq_false_iff_ne.mpr here] using ih

end Lookup

/-- The slot holds a record of this identity. -/
def Disk.Holds (disk : Disk) (target : StoreIdentity) (slot : Slot) : Prop :=
  ∃ bytes, disk.bonds.lookup slot.key = some bytes ∧ belongs target slot bytes = true

/-- Nothing is lost but records of the target. -/
structure Erases (target : StoreIdentity) (before after : Disk) : Prop where
  entries : after.bonds ⊆ before.bonds
  bonds : ∀ key, after.bonds.lookup key = before.bonds.lookup key ∨
    (∃ slot ∈ knownSlots, slot.key = key ∧ before.Holds target slot) ∧
      after.bonds.lookup key = none
  revisions : ∀ identity, after.revisions identity = before.revisions identity ∨
    identity = target ∧ after.revisions identity = none
  associations : ∀ identity, after.associations identity = before.associations identity ∨
    identity = target ∧ after.associations identity = none

/-- What is the same or gone twice is the same or gone. -/
theorem lost_trans {α : Type} {gone : Prop} {first second third : Option α}
    (one : second = first ∨ gone ∧ second = none) (two : third = second ∨ gone ∧ third = none) :
    third = first ∨ gone ∧ third = none := by
  rcases two with same | gone
  · rcases one with same' | ⟨here, gone⟩
    · exact .inl (same.trans same')
    · exact .inr ⟨here, same.trans gone⟩
  · exact .inr gone

namespace Erases

variable {target : StoreIdentity} {first second third : Disk}

theorem refl (disk : Disk) : Erases target disk disk :=
  ⟨fun _ member => member, fun _ => .inl rfl, fun _ => .inl rfl, fun _ => .inl rfl⟩

theorem trans (one : Erases target first second) (two : Erases target second third) :
    Erases target first third := by
  refine ⟨fun _ member => one.entries (two.entries member), fun key => ?_,
    fun identity => lost_trans (one.revisions identity) (two.revisions identity),
    fun identity => lost_trans (one.associations identity) (two.associations identity)⟩
  rcases two.bonds key with same | ⟨⟨slot, known, named, bytes, found, belongs⟩, gone⟩
  · rcases one.bonds key with same' | ⟨held, gone⟩
    · exact .inl (same.trans same')
    · exact .inr ⟨held, same.trans gone⟩
  · rcases one.bonds key with same | ⟨held, gone'⟩
    · refine .inr ⟨⟨slot, known, named, bytes, ?_, belongs⟩, gone⟩
      rw [named, ← same, ← named, found]
    · exact .inr ⟨held, gone⟩

/-- The receipt does not matter. -/
theorem withReceipt (disk : Disk) (receipt : Option Blob) :
    Erases target disk { disk with receipt } :=
  ⟨fun _ member => member, fun _ => .inl rfl, fun _ => .inl rfl, fun _ => .inl rfl⟩

theorem eraseBond {disk : Disk} {slot : Slot} (known : slot ∈ knownSlots)
    (holds : disk.Holds target slot) : Erases target disk (disk.eraseBond slot.key) := by
  refine ⟨fun _ member => List.mem_of_mem_filter member, fun key => ?_, fun _ => .inl rfl,
    fun _ => .inl rfl⟩
  by_cases same : key = slot.key
  · exact .inr ⟨⟨slot, known, same.symm, holds⟩, same ▸ lookup_filter_same⟩
  · exact .inl (lookup_filter_other same)

theorem deleteSchema (disk : Disk) : Erases target disk (disk.deleteSchema target) := by
  have updated : ∀ {α : Type} (records : StoreIdentity → Option α) (identity : StoreIdentity),
      Function.update records target none identity = records identity ∨
        identity = target ∧ Function.update records target none identity = none := by
    intro α records identity
    by_cases same : identity = target
    · exact .inr ⟨same, by simp [same]⟩
    · exact .inl (by simp [same])
  exact ⟨fun _ member => member, fun _ => .inl rfl, updated disk.revisions,
    updated disk.associations⟩

end Erases

/-- The scan finds no reason to refuse the disk. -/
structure Disk.Scannable (disk : Disk) (target : StoreIdentity) : Prop where
  layout : disk.layoutValid = true
  fits : ∀ slot ∈ knownSlots, ∀ bytes, disk.bonds.lookup slot.key = some bytes →
    unfit target slot bytes = false

theorem Disk.Scannable.erases {target : StoreIdentity} {before after : Disk}
    (scannable : before.Scannable target) (erases : Erases target before after) :
    after.Scannable target := by
  refine ⟨?_, fun slot known bytes found => ?_⟩
  · have layout := List.all_eq_true.mp scannable.layout
    exact List.all_eq_true.mpr fun entry member => layout entry (erases.entries member)
  · rcases erases.bonds slot.key with same | ⟨-, gone⟩
    · exact scannable.fits slot known bytes (same ▸ found)
    · simp [gone] at found

/-- No slot and no schema record of the target remains. -/
structure Disk.Without (disk : Disk) (target : StoreIdentity) : Prop where
  bonds : ∀ slot ∈ knownSlots, ¬disk.Holds target slot
  revision : disk.revisions target = none
  association : disk.associations target = none

/-! ### Stages -/

/-- The receipt stands, and a restart can finish the removal. -/
structure Pending (target : StoreIdentity) (start : Disk) (machine : Machine) : Prop where
  journaled : machine.journaled = true
  receipt : machine.disk.receipt = some (deletionIntent target)
  valid : validIdentity target = true
  scannable : machine.disk.Scannable target
  erases : Erases target start machine.disk

structure Finished (target : StoreIdentity) (start : Disk) (machine : Machine) : Prop where
  journaled : machine.journaled = true
  receipt : machine.disk.receipt = none
  without : machine.disk.Without target
  erases : Erases target start machine.disk

/-- Where a removal stands that began with this disk. -/
inductive Stage (target : StoreIdentity) (start : Disk) (machine : Machine) : Prop where
  | untouched (same : machine.disk = start) (fresh : machine.journaled = false)
  | pending (pending : Pending target start machine)
  | finished (finished : Finished target start machine)

section Stage

variable {target : StoreIdentity} {start : Disk} {machine : Machine}

/-- A failure of the store leaves no other trace. -/
theorem Stage.failed (stage : Stage target start machine) :
    Stage target start { machine with ioFailed := true } := by
  cases stage with
  | untouched same fresh => exact .untouched same fresh
  | pending pending => exact .pending { pending with }
  | finished finished => exact .finished { finished with }

/-- Records of the target are lost. -/
theorem Pending.erase (pending : Pending target start machine) {disk : Disk}
    (receipt : disk.receipt = machine.disk.receipt) (erases : Erases target machine.disk disk) :
    Pending target start { machine with disk } where
  journaled := pending.journaled
  receipt := receipt.trans pending.receipt
  valid := pending.valid
  scannable := pending.scannable.erases erases
  erases := pending.erases.trans erases

end Stage

/-! ### Judgements -/

/-- What a call has to show of its outcome: a failure comes from the store, unless it
may be `refused`. -/
def Outcome {α : Type} (refused : Prop) (holds : α → Machine → Prop) :
    Except Failure α → Machine → Prop
  | .ok result, machine => holds result machine
  | .error _, machine => refused ∨ machine.ioFailed = true

/-- Nothing else works on the disk. -/
def Alone (before after : Machine) : Prop := after = before

theorem Alone.refl (machine : Machine) : Alone machine machine := rfl

/-- Every operation of the call keeps the stage of the removal, and its outcome is as
said. -/
def Meets {α : Type} (target : StoreIdentity) (start : Disk) (refused : Prop)
    (holds : α → Machine → Prop) (call : Journal α) (machine : Machine) : Prop :=
  Fallible.Safe Alone (fun before after => Stage target start before → Stage target start after)
    (Outcome refused holds) call machine

section Meets

variable {α β : Type} {target : StoreIdentity} {start : Disk} {refused : Prop} {machine : Machine}

theorem Meets.pure {holds : α → Machine → Prop} {result : α} (here : holds result machine) :
    Meets target start refused holds (pure result) machine :=
  Fallible.Safe.pure fun _ same => same ▸ here

theorem Meets.throw {holds : α → Machine → Prop} {failure : Failure} (here : refused) :
    Meets target start refused holds (throw failure) machine :=
  Fallible.Safe.throw fun _ _ => .inl here

theorem Meets.bind {middle : α → Machine → Prop} {holds : β → Machine → Prop} {call : Journal α}
    {rest : α → Journal β} (first : Meets target start refused middle call machine)
    (later : ∀ result machine, middle result machine →
      Meets target start refused holds (rest result) machine) :
    Meets target start refused holds (call >>= rest) machine := by
  refine Fallible.Safe.bind .refl (fun failure before after failed same => same ▸ failed)
    (Scripted.Safe.mono (fun outcome machine holds => ?_) first)
  cases outcome with
  | ok result => exact later result machine holds
  | error failure => exact holds

theorem Meets.mono {stronger holds : α → Machine → Prop} {call : Journal α}
    (meets : Meets target start refused stronger call machine)
    (weaken : ∀ result machine, stronger result machine → holds result machine) :
    Meets target start refused holds call machine := by
  refine Scripted.Safe.mono (fun outcome later here => ?_) meets
  cases outcome with
  | ok result => exact weaken result later here
  | error failure => exact here

/-- An operation is done or fails; applied or not, it keeps the stage. -/
theorem Meets.operation {holds : α → Machine → Prop}
    {change : Machine → Except Failure α × Machine}
    (stage : Stage target start machine → Stage target start (change machine).2)
    (returns : Outcome refused holds (change machine).1 (change machine).2) :
    Meets target start refused holds (operation change) machine := by
  have stable : ∀ before after, before = machine → Alone before after → after = machine :=
    fun _ _ here same => Eq.trans same here
  refine Scripted.Safe.bind .refl ((Scripted.Safe.ask stable some rfl).mono
    fun answer later same => ?_)
  subst same
  cases answer with
  | done =>
      refine Scripted.Safe.readModifyWrite fun later same => ?_
      subst same
      exact ⟨stage, fun last same => same ▸ returns⟩
  | failed status applied =>
      refine Scripted.Safe.readModifyWrite fun later same => ?_
      subst same
      refine ⟨fun here => ?_, fun last same => .inr (same ▸ rfl)⟩
      cases applied
      · exact here.failed
      · exact (stage here).failed

theorem Meets.query {holds : α → Machine → Prop} {view : Disk → Except Failure α}
    (returns : Outcome refused holds (view machine.disk) machine) :
    Meets target start refused holds (query view) machine := .operation id returns

end Meets

/-! ### The receipt -/

theorem deletionIdentity_intent (identity : StoreIdentity) :
    deletionIdentity (deletionIntent identity) 1 = identity := by
  obtain ⟨type, value⟩ := identity
  simp only [deletionIdentity, deletionIntent, StoreIdentity.mk.injEq]
  refine ⟨rfl, Vector.ext fun index inside => ?_⟩
  have shift : 1 + 1 + index = index + 2 := by omega
  simp [shift, List.getElem?_eq_getElem (show index < value.toList.length by simpa using inside)]

theorem deletionIntent_length (identity : StoreIdentity) :
    (deletionIntent identity).length = 8 := by simp [deletionIntent]

theorem decodeIntent_deletionIntent {identity : StoreIdentity}
    (valid : validIdentity identity = true) :
    decodeIntent (deletionIntent identity) = some identity := by
  unfold decodeIntent
  rw [if_neg (by simp [deletionIntent]), deletionIdentity_intent]
  simp [Option.filter, valid]

section Receipt

variable {target : StoreIdentity} {start : Disk} {refused : Prop} {machine : Machine}

theorem readReceipt_meets (fits : ∀ bytes ∈ machine.disk.receipt, bytes.length = 8) :
    Meets target start refused (fun found later => found = machine.disk.receipt ∧ later = machine)
      readReceipt machine := by
  refine .query ?_
  cases receipt : machine.disk.receipt with
  | none => simp [bounded, Outcome]
  | some bytes => simp [bounded, Outcome, fits bytes receipt]

theorem readDeleteIntent_none (receipt : machine.disk.receipt = none) :
    Meets target start refused (fun found later => found = none ∧ later = machine)
      readDeleteIntent machine := by
  refine .bind (readReceipt_meets (by simp [receipt])) ?_
  rintro found machine ⟨rfl, rfl⟩
  simp only [receipt]
  exact .pure ⟨rfl, rfl⟩

theorem readDeleteIntent_some (valid : validIdentity target = true)
    (receipt : machine.disk.receipt = some (deletionIntent target)) :
    Meets target start refused (fun found later => found = some target ∧ later = machine)
      readDeleteIntent machine := by
  have length := deletionIntent_length target
  refine .bind (readReceipt_meets (by simp [receipt, length])) ?_
  rintro found machine ⟨rfl, rfl⟩
  simp only [receipt, length, ↓reduceIte, decodeIntent_deletionIntent valid]
  exact .pure ⟨rfl, rfl⟩

end Receipt

/-! ### The scan -/

/-- The slots that a scan selects on this disk. -/
structure Selected (target : StoreIdentity) (disk : Disk) (slots selected : List Slot) : Prop where
  sublist : selected.Sublist slots
  holds : ∀ slot ∈ slots, slot ∈ selected ↔ disk.Holds target slot

theorem DeleteCategory.size_le (category : DeleteCategory) : category.size ≤ 88 := by
  cases category <;> decide

theorem fits_of_not_unfit {target : StoreIdentity} {slot : Slot} {bytes : Blob}
    (fits : unfit target slot bytes = false) : bytes.length ≤ 88 := by
  have size : bytes.length = slot.category.size := by
    simp only [unfit, decide_eq_false_iff_not, not_or, ne_eq, not_not] at fits
    exact fits.1
  exact size ▸ slot.category.size_le

section Scan

variable {target : StoreIdentity} {start : Disk} {refused : Prop} {machine : Machine}

/-- Every record of these slots fits. -/
def Disk.Fits (disk : Disk) (target : StoreIdentity) (slots : List Slot) : Prop :=
  ∀ slot ∈ slots, ∀ bytes, disk.bonds.lookup slot.key = some bytes → unfit target slot bytes = false

theorem readBond_meets {slot : Slot}
    (fits : refused ∨ ∀ bytes, machine.disk.bonds.lookup slot.key = some bytes →
      unfit target slot bytes = false) :
    Meets target start refused (fun found later =>
      found = machine.disk.bonds.lookup slot.key ∧ later = machine)
      (readBond slot.key) machine := by
  refine .query ?_
  by_cases long : (machine.disk.bonds.lookup slot.key).any (88 < ·.length) = true
  · simp only [bounded, long, ↓reduceIte, Outcome]
    refine .inl (fits.resolve_right fun fits => ?_)
    obtain ⟨bytes, found, long⟩ := (Option.any_eq_true _ _).mp long
    have := fits_of_not_unfit (fits bytes found)
    simp only [decide_eq_true_eq] at long
    omega
  · simp [bounded, long, Outcome]

theorem Selected.cons {disk : Disk} {slot : Slot} {rest selected : List Slot}
    (fresh : slot ∉ rest) (later : Selected target disk rest selected) :
    (disk.Holds target slot → Selected target disk (slot :: rest) (slot :: selected)) ∧
      (¬disk.Holds target slot → Selected target disk (slot :: rest) selected) := by
  refine ⟨fun held => ⟨later.sublist.cons_cons slot, fun other member => ?_⟩,
    fun free => ⟨later.sublist.cons slot, fun other member => ?_⟩⟩
  · rcases List.mem_cons.mp member with rfl | member
    · simp [held]
    · have different : other ≠ slot := fun same => fresh (same ▸ member)
      simpa [different] using later.holds other member
  · rcases List.mem_cons.mp member with rfl | member
    · exact ⟨fun here => absurd (later.sublist.subset here) fresh, fun here => absurd here free⟩
    · exact later.holds other member

theorem scanSlots_meets {slots : List Slot} (distinct : slots.Nodup)
    (fits : refused ∨ machine.disk.Fits target slots) :
    Meets target start refused (fun selected later => later = machine ∧
      Selected target machine.disk slots selected ∧ machine.disk.Fits target slots)
      (scanSlots target slots) machine := by
  induction slots with
  | nil => exact .pure ⟨rfl, ⟨.refl _, by simp⟩, by simp [Disk.Fits]⟩
  | cons slot rest ih =>
      obtain ⟨fresh, distinct⟩ := List.nodup_cons.mp distinct
      have ih := ih distinct (fits.imp_right fun fits other member =>
        fits other (List.mem_cons_of_mem _ member))
      refine .bind (readBond_meets (fits.imp_right fun fits => fits slot (by simp))) ?_
      rintro result machine ⟨found, rfl⟩
      cases result with
      | none =>
          refine ih.mono fun selected later ⟨same, selects, fits⟩ => ⟨same, ?_, ?_⟩
          · refine (selects.cons fresh).2 ?_
            rintro ⟨bytes, here, -⟩
            simp [← found] at here
          · intro other member bytes here
            rcases List.mem_cons.mp member with rfl | member
            · simp [← found] at here
            · exact fits other member bytes here
      | some bytes =>
          dsimp only
          split
          · rename_i bad
            refine .throw (fits.resolve_right fun fits => ?_)
            simp [fits slot (by simp) bytes found.symm] at bad
          · rename_i good
            refine ih.bind fun selected later ⟨same, selects, fits⟩ => .pure ⟨same, ?_, ?_⟩
            · by_cases ours : belongs target slot bytes = true
              · simpa only [ours, ↓reduceIte] using (selects.cons fresh).1 ⟨bytes, found.symm, ours⟩
              · simp only [ours]
                refine (selects.cons fresh).2 ?_
                rintro ⟨other, here, belongs⟩
                cases found.trans here
                exact ours belongs
            · intro other member bytes' here
              rcases List.mem_cons.mp member with rfl | member
              · cases found.trans here
                simpa using good
              · exact fits other member bytes' here

theorem knownSlots_nodup : knownSlots.Nodup := by decide +kernel

theorem knownSlots_length : knownSlots.length = 27 := by decide

theorem keys_nodup : (knownSlots.map Slot.key).Nodup := by decide +kernel

theorem validateLayout_meets (sound : refused ∨ machine.disk.layoutValid = true) :
    Meets target start refused (fun _ later => later = machine ∧ machine.disk.layoutValid = true)
      validateLayout machine := by
  refine .query ?_
  split
  · exact ⟨rfl, ‹_›⟩
  · exact .inl (sound.resolve_right ‹_›)

/-- A scan that returns has validated the disk; one that is refused had reason to be. -/
theorem targetDeleteScan_meets
    (sound : refused ∨ validIdentity target = true ∧ machine.disk.Scannable target) :
    Meets target start refused (fun selected later => later = machine ∧
      validIdentity target = true ∧ machine.disk.Scannable target ∧
        Selected target machine.disk knownSlots selected) (targetDeleteScan target) machine := by
  unfold targetDeleteScan
  by_cases valid : validIdentity target = true
  · simp only [valid, Bool.true_eq_false, ↓reduceIte, true_and] at sound ⊢
    refine .bind (validateLayout_meets (sound.imp_right (·.layout))) ?_
    rintro _ machine ⟨rfl, layout⟩
    refine (scanSlots_meets knownSlots_nodup (sound.imp_right (·.fits))).mono ?_
    rintro selected machine ⟨rfl, selects, fits⟩
    exact ⟨rfl, ⟨layout, fits⟩, selects⟩
  · simp only [valid, ↓reduceIte]
    have thrown : Meets target start refused (fun _ _ => False)
        (throw .invalid : Journal PUnit) machine :=
      .throw (sound.resolve_right fun both => valid both.1)
    exact .bind thrown fun _ _ => False.elim

theorem verifySchemaAbsent_meets
    (sound : refused ∨ machine.disk.revisions target = none ∧
      machine.disk.associations target = none) :
    Meets target start refused (fun _ later => later = machine ∧
      machine.disk.revisions target = none ∧ machine.disk.associations target = none)
      (verifySchemaAbsent target) machine := by
  refine .query ?_
  split
  · exact ⟨rfl, ‹_›⟩
  · exact .inl (sound.resolve_right ‹_›)

/-- The scan of a disk without the target finds nothing. -/
theorem verifyDurableTargetAbsent_meets
    (sound : refused ∨ validIdentity target = true ∧ machine.disk.Scannable target ∧
      machine.disk.Without target) :
    Meets target start refused (fun _ later => later = machine ∧ machine.disk.Without target)
      (verifyDurableTargetAbsent target) machine := by
  refine .bind (targetDeleteScan_meets (sound.imp_right fun sound => ⟨sound.1, sound.2.1⟩)) ?_
  rintro selected machine ⟨rfl, valid, scannable, selects⟩
  by_cases nothing : selected = []
  · simp only [nothing, ne_eq, not_true_eq_false, ↓reduceIte]
    refine (verifySchemaAbsent_meets (sound.imp_right fun sound =>
      ⟨sound.2.2.revision, sound.2.2.association⟩)).mono ?_
    rintro _ machine ⟨rfl, revision, association⟩
    refine ⟨rfl, fun slot known holds => ?_, revision, association⟩
    simpa [nothing] using (selects.holds slot known).mpr holds
  · simp only [ne_eq, nothing, not_false_eq_true, ↓reduceIte]
    have thrown : Meets target start refused (fun _ _ => False)
        (throw .invalid : Journal PUnit) machine := by
      refine .throw (sound.resolve_right fun sound => ?_)
      obtain ⟨slot, member⟩ := List.exists_mem_of_ne_nil selected nothing
      have known := selects.sublist.subset member
      exact sound.2.2.bonds slot known ((selects.holds slot known).mp member)
    exact .bind thrown fun _ _ => False.elim

end Scan

/-! ### The removal -/

theorem key_injective {slot other : Slot} (known : slot ∈ knownSlots) (known' : other ∈ knownSlots)
    (same : slot.key = other.key) : slot = other :=
  List.inj_on_of_nodup_map keys_nodup known known' same

theorem Disk.holds_eraseBond {disk : Disk} {target : StoreIdentity} {slot other : Slot}
    (known : slot ∈ knownSlots) (known' : other ∈ knownSlots) :
    (disk.eraseBond slot.key).Holds target other ↔ disk.Holds target other ∧ other ≠ slot := by
  by_cases same : other = slot
  · subst same
    have gone : (disk.eraseBond other.key).bonds.lookup other.key = none := lookup_filter_same
    simp [Disk.Holds, gone]
  · have kept : (disk.eraseBond slot.key).bonds.lookup other.key = disk.bonds.lookup other.key :=
      lookup_filter_other fun keys => same (key_injective known' known keys)
    simp [Disk.Holds, kept, same]

section Removal

variable {target : StoreIdentity} {start : Disk} {refused : Prop} {machine : Machine}

theorem eraseBond_meets (pending : Pending target start machine) {slot : Slot}
    (known : slot ∈ knownSlots) (holds : machine.disk.Holds target slot) :
    Meets target start refused (fun _ later => Pending target start later ∧
      later.disk = machine.disk.eraseBond slot.key) (eraseBond slot.key) machine := by
  have present : (machine.disk.bonds.lookup slot.key).isSome = true := by
    obtain ⟨bytes, found, -⟩ := holds
    simp [found]
  have after : Pending target start { machine with disk := machine.disk.eraseBond slot.key } :=
    pending.erase rfl (.eraseBond known holds)
  refine .operation (fun _ => ?_) ?_
  · simp only [present, ↓reduceIte]
    exact .pending after
  · simp only [present, ↓reduceIte]
    exact ⟨after, rfl⟩

theorem eraseSlots_meets {slots : List Slot} (pending : Pending target start machine)
    (sublist : slots.Sublist knownSlots) (held : ∀ slot ∈ slots, machine.disk.Holds target slot) :
    Meets target start refused (fun _ later => Pending target start later ∧
      ∀ slot ∈ knownSlots, later.disk.Holds target slot →
        machine.disk.Holds target slot ∧ slot ∉ slots) (eraseSlots slots) machine := by
  induction slots generalizing machine with
  | nil => exact .pure ⟨pending, fun slot _ holds => ⟨holds, by simp⟩⟩
  | cons slot rest ih =>
      have known : slot ∈ knownSlots := sublist.subset (by simp)
      have fresh : slot ∉ rest := (List.nodup_cons.mp (sublist.nodup knownSlots_nodup)).1
      refine .bind (eraseBond_meets pending known (held slot (by simp))) ?_
      rintro _ later ⟨pending, erased⟩
      have remaining := ih pending ((List.sublist_cons_self _ _).trans sublist)
        fun other member => by
        have known' := sublist.subset (List.mem_cons_of_mem slot member)
        rw [erased, Disk.holds_eraseBond known known']
        exact ⟨held other (List.mem_cons_of_mem slot member), fun same => fresh (same ▸ member)⟩
      refine remaining.mono fun _ last ⟨pending, gone⟩ => ⟨pending, fun other known' holds => ?_⟩
      obtain ⟨here, absent⟩ := gone other known' holds
      rw [erased, Disk.holds_eraseBond known known'] at here
      exact ⟨here.1, by simp [here.2, absent]⟩

theorem deleteSchema_meets (pending : Pending target start machine)
    (bonds : ∀ slot ∈ knownSlots, ¬machine.disk.Holds target slot) :
    Meets target start refused (fun _ later => Pending target start later ∧
      later.disk.Without target) (deleteSchema target) machine := by
  have after : Pending target start { machine with disk := machine.disk.deleteSchema target } :=
    pending.erase rfl (.deleteSchema machine.disk)
  refine .operation (fun _ => .pending after) ⟨after, bonds, ?_, ?_⟩ <;>
    simp [Disk.deleteSchema]

theorem completeDurableTarget_meets (pending : Pending target start machine) :
    Meets target start refused (fun _ later => Pending target start later ∧
      later.disk.Without target) (completeDurableTarget target) machine := by
  refine .bind (targetDeleteScan_meets (.inr ⟨pending.valid, pending.scannable⟩)) ?_
  rintro selected machine ⟨rfl, -, -, selects⟩
  have held : ∀ slot ∈ selected, machine.disk.Holds target slot := fun slot member =>
    (selects.holds slot (selects.sublist.subset member)).mp member
  refine .bind (eraseSlots_meets pending selects.sublist held) ?_
  rintro _ later ⟨pending, gone⟩
  have bonds : ∀ slot ∈ knownSlots, ¬later.disk.Holds target slot := fun slot known holds =>
    (gone slot known holds).2 ((selects.holds slot known).mpr (gone slot known holds).1)
  refine .bind (deleteSchema_meets pending bonds) ?_
  rintro _ last ⟨pending, without⟩
  refine (verifyDurableTargetAbsent_meets
    (.inr ⟨pending.valid, pending.scannable, without⟩)).mono ?_
  rintro _ machine ⟨rfl, without⟩
  exact ⟨pending, without⟩

theorem finishDeleteIntent_meets (pending : Pending target start machine)
    (sound : refused ∨ machine.disk.Without target) :
    Meets target start refused (fun _ later => Finished target start later)
      (finishDeleteIntent target) machine := by
  refine .bind (readDeleteIntent_some pending.valid pending.receipt) ?_
  rintro found machine ⟨rfl, rfl⟩
  simp only [ne_eq, not_true_eq_false, ↓reduceIte]
  refine .bind (verifyDurableTargetAbsent_meets
    (sound.imp_right fun without => ⟨pending.valid, pending.scannable, without⟩)) ?_
  rintro _ machine ⟨rfl, without⟩
  have finished : Finished target start
      { machine with disk := { machine.disk with receipt := none } } :=
    ⟨pending.journaled, rfl, ⟨without.bonds, without.revision, without.association⟩,
      pending.erases.trans (.withReceipt ..)⟩
  have erased : Meets target start refused (fun _ later => Finished target start later)
      eraseReceipt machine := by
    refine .operation (fun _ => ?_) ?_
    · simp only [pending.receipt, Option.isSome_some, ↓reduceIte]
      exact .finished finished
    · simp only [pending.receipt, Option.isSome_some, ↓reduceIte]
      exact finished
  refine .bind erased fun _ later finished => ?_
  refine .bind (readDeleteIntent_none finished.receipt) ?_
  rintro found machine ⟨rfl, rfl⟩
  exact .pure finished

/-- A restart that no operation disturbs returns, and leaves no receipt. -/
theorem resumeExactDeletion_meets (unjournaled : start.receipt = none)
    (stage : Stage target start machine) :
    Meets target start False (fun _ later => later.disk.receipt = none) resumeExactDeletion
      machine := by
  have settled : machine.disk.receipt = none →
      Meets target start False (fun _ later => later.disk.receipt = none) resumeExactDeletion
        machine := by
    intro receipt
    refine .bind (readDeleteIntent_none receipt) ?_
    rintro found machine ⟨rfl, rfl⟩
    exact .pure receipt
  cases stage with
  | untouched same fresh => exact settled (same ▸ unjournaled)
  | finished finished => exact settled finished.receipt
  | pending pending =>
      refine .bind (readDeleteIntent_some pending.valid pending.receipt) ?_
      rintro found machine ⟨rfl, rfl⟩
      refine .bind (completeDurableTarget_meets pending) ?_
      rintro _ later ⟨pending, without⟩
      exact (finishDeleteIntent_meets pending (.inr without)).mono fun _ _ => Finished.receipt

/-! ### The whole removal -/

/-- What the removal from the RAM store may do to the disk. -/
structure ErasesOnly (target : StoreIdentity) (before after : Machine) : Prop where
  journaled : after.journaled = before.journaled
  receipt : after.disk.receipt = before.disk.receipt
  erases : Erases target before.disk after.disk

/-- What a call that only reads may do. -/
structure ReadsOnly (before after : Machine) : Prop where
  disk : after.disk = before.disk
  journaled : after.journaled = before.journaled

theorem Pending.erasesOnly {later : Machine} (pending : Pending target start machine)
    (step : ErasesOnly target machine later) : Pending target start later where
  journaled := step.journaled.trans pending.journaled
  receipt := step.receipt.trans pending.receipt
  valid := pending.valid
  scannable := pending.scannable.erases step.erases
  erases := pending.erases.trans step.erases

theorem ReadsOnly.erasesOnly {before after : Machine} (step : ReadsOnly before after) :
    ErasesOnly target before after :=
  ⟨step.journaled, by rw [step.disk], by rw [step.disk]; exact .refl _⟩

/-- The call, when nothing else works on the disk, does only such steps. -/
def Does (step : Machine → Machine → Prop) (call : Journal Unit) : Prop :=
  ∀ machine, Fallible.Safe Alone step (fun _ _ => True) call machine

/-- A call that erases nothing but records of the target, whatever it returns. -/
theorem erasing_meets {call : Journal Unit} {step : Machine → Machine → Prop}
    (does : Does step call) (only : ∀ before after, step before after →
      ErasesOnly target before after) (pending : Pending target start machine) :
    Meets target start True (fun _ later => Pending target start later) call machine := by
  have stable : ∀ before after : Machine, Pending target start before → Alone before after →
      Pending target start after := fun _ _ pending same => same ▸ pending
  have keeps : ∀ before after : Machine, Pending target start before → step before after →
      (Stage target start before → Stage target start after) ∧ Pending target start after := by
    intro before after pending step
    have after := pending.erasesOnly (only _ _ step)
    exact ⟨fun _ => .pending after, after⟩
  refine (Scripted.Safe.keeping stable keeps (does machine) pending).mono
    fun outcome later both => ?_
  cases outcome with
  | ok result => exact both.2
  | error failure => exact .inl trivial

theorem beginDeleteIntent_meets (unjournaled : start.receipt = none)
    (valid : validIdentity target = true) (scannable : machine.disk.Scannable target)
    (same : machine.disk = start) :
    Meets target start True (fun _ later => Pending target start later)
      (beginDeleteIntent target) machine := by
  unfold beginDeleteIntent
  simp only [valid, Bool.true_eq_false, ↓reduceIte]
  refine .bind (readDeleteIntent_none (same ▸ unjournaled)) ?_
  rintro found machine ⟨rfl, rfl⟩
  have written : Pending target start { machine with
      disk := { machine.disk with receipt := some (deletionIntent target) }, journaled := true } :=
    ⟨rfl, rfl, valid, scannable.erases (.withReceipt ..), same ▸ .withReceipt ..⟩
  have wrote : Meets target start True (fun _ later => Pending target start later)
      (writeReceipt (deletionIntent target)) machine :=
    .operation (fun _ => .pending written) written
  refine .bind wrote fun _ later pending => ?_
  refine .bind (readDeleteIntent_some pending.valid pending.receipt) ?_
  rintro found machine ⟨rfl, rfl⟩
  simp only [ne_eq, not_true_eq_false, ↓reduceIte]
  exact .pure pending

theorem runJournaledRemoval_meets {removeRam verifyRam : Journal Unit}
    (unjournaled : start.receipt = none) (removes : Does (ErasesOnly target) removeRam)
    (verifies : Does ReadsOnly verifyRam) (same : machine.disk = start) :
    Meets target start True (fun _ later => Finished target start later)
      (runJournaledRemoval target removeRam verifyRam) machine := by
  refine .bind (targetDeleteScan_meets (.inl trivial)) ?_
  rintro _ machine ⟨rfl, valid, scannable, -⟩
  refine .bind (beginDeleteIntent_meets unjournaled valid scannable same) fun _ later pending => ?_
  refine .bind (erasing_meets removes (fun _ _ => id) pending) fun _ later pending => ?_
  refine .bind (completeDurableTarget_meets pending) fun _ later pending => ?_
  refine .bind (erasing_meets verifies (fun _ _ => ReadsOnly.erasesOnly) pending.1)
    fun _ later pending => ?_
  exact finishDeleteIntent_meets pending (.inl trivial)

end Removal

/-! ### What a restart takes -/

/-- The single operations of a restart. -/
structure Admits (good : IoAnswer → Prop) (step : Machine → Machine → Prop) : Prop where
  operation : ∀ {α : Type} (change : Machine → Except Failure α × Machine),
    (∀ machine, (change machine).2.journaled = machine.journaled ∧
      (change machine).2.ioFailed = machine.ioFailed) →
    Fallible.Within good step 1 (fun _ => True) (operation change)

section Admits

variable {good : IoAnswer → Prop} {step : Machine → Machine → Prop} (admits : Admits good step)

include admits

theorem within_query {α : Type} (view : Disk → Except Failure α) :
    Fallible.Within good step 1 (fun _ => True) (query view) :=
  admits.operation _ fun _ => ⟨rfl, rfl⟩

theorem readDeleteIntent_within :
    Fallible.Within good step 1 (fun _ => True) readDeleteIntent := by
  refine .bind 0 (within_query admits _) (fun found _ => ?_) (Nat.le_refl _)
  cases found with
  | none => exact .pure trivial
  | some bytes =>
      dsimp only
      split
      · exact .pure trivial
      · exact .throw _

theorem scanSlots_within (target : StoreIdentity) (slots : List Slot) :
    Fallible.Within good step slots.length (fun selected => selected.length ≤ slots.length)
      (scanSlots target slots) := by
  induction slots with
  | nil => exact .pure (Nat.le_refl _)
  | cons slot rest ih =>
      have longer : ∀ selected : List Slot, selected.length ≤ rest.length →
          selected.length ≤ (slot :: rest).length := fun _ => Nat.le_succ_of_le
      refine .bind rest.length (within_query admits _) (fun found _ => ?_)
        (by simp [Nat.add_comm])
      cases found with
      | none => exact ih.mono (Nat.le_refl _) longer
      | some bytes =>
          dsimp only
          split
          · exact .throwThen _ _
          · refine .bind 0 ih (fun selected bound => .pure ?_) (Nat.le_refl _)
            split
            · exact Nat.succ_le_succ bound
            · exact longer selected bound

theorem targetDeleteScan_within (target : StoreIdentity) :
    Fallible.Within good step 28 (fun selected => selected.length ≤ 27)
      (targetDeleteScan target) := by
  have scan := scanSlots_within admits target knownSlots
  rw [knownSlots_length] at scan
  unfold targetDeleteScan
  split
  · exact .throwThen _ _
  · exact .bind 27 (within_query admits _) (fun _ _ => scan) (Nat.le_refl _)

theorem verifyDurableTargetAbsent_within (target : StoreIdentity) :
    Fallible.Within good step 29 (fun _ => True) (verifyDurableTargetAbsent target) := by
  refine .bind 1 (targetDeleteScan_within admits target) (fun selected _ => ?_) (Nat.le_refl _)
  split
  · exact .throwThen _ _
  · exact within_query admits _

theorem eraseSlots_within (slots : List Slot) :
    Fallible.Within good step slots.length (fun _ => True) (eraseSlots slots) := by
  induction slots with
  | nil => exact .pure trivial
  | cons slot rest ih =>
      refine .bind rest.length (admits.operation _ fun machine => ?_) (fun _ _ => ih)
        (by simp [Nat.add_comm])
      split <;> exact ⟨rfl, rfl⟩

theorem completeDurableTarget_within (target : StoreIdentity) :
    Fallible.Within good step 85 (fun _ => True) (completeDurableTarget target) := by
  refine .bind 57 (targetDeleteScan_within admits target) (fun selected bound => ?_) (by decide)
  refine .bind 30 ((eraseSlots_within admits selected).mono bound fun _ => id) (fun _ _ => ?_)
    (by decide)
  refine .bind 29 (admits.operation _ fun _ => ⟨rfl, rfl⟩) (fun _ _ => ?_) (Nat.le_refl _)
  exact verifyDurableTargetAbsent_within admits target

theorem finishDeleteIntent_within (target : StoreIdentity) :
    Fallible.Within good step 32 (fun _ => True) (finishDeleteIntent target) := by
  refine .bind 31 (readDeleteIntent_within admits) (fun found _ => ?_) (Nat.le_refl _)
  split
  · exact .throwThen _ _
  refine .bind 2 (verifyDurableTargetAbsent_within admits target) (fun _ _ => ?_) (Nat.le_refl _)
  refine .bind 1 (admits.operation _ fun machine => ?_) (fun _ _ => ?_) (Nat.le_refl _)
  · split <;> exact ⟨rfl, rfl⟩
  refine .bind 0 (readDeleteIntent_within admits) (fun found _ => ?_) (Nat.le_refl _)
  exact .ite (.throw _) (.pure trivial)

/-- The operations of a restart. -/
def resumeOperations : Nat := 118

theorem resumeExactDeletion_within :
    Fallible.Within good step resumeOperations (fun _ => True) resumeExactDeletion := by
  refine .bind 117 (readDeleteIntent_within admits) (fun found _ => ?_) (Nat.le_refl _)
  cases found with
  | none => exact (Fallible.Within.pure trivial).mono (Nat.zero_le _) fun _ => id
  | some target =>
      exact .bind 32 (completeDurableTarget_within admits target)
        (fun _ _ => finishDeleteIntent_within admits target) (Nat.le_refl _)

end Admits

/-- The answers matter only to what is returned and to the mark of a failure. -/
theorem operation_within {α : Type} {good : IoAnswer → Prop} {step : Machine → Machine → Prop}
    {change : Machine → Except Failure α × Machine}
    (done : ∀ machine, step machine (change machine).2)
    (failed : ∀ status, ¬good (.failed status true) ∧ ¬good (.failed status false) ∨
      ∀ machine, step machine { machine with ioFailed := true } ∧
        step machine { (change machine).2 with ioFailed := true }) :
    Fallible.Within good step 1 (fun _ => True) (operation change) := by
  have asked : (Scripted.ask some : Scripted IoAnswer Machine IoAnswer).Within good step 1 good :=
    .ask fun next here => ⟨next, rfl, here⟩
  refine Scripted.Within.bind asked fun answer here => (?_ : Scripted.Within _ _ 0 _ _)
  cases answer with
  | done => exact .ofProgram (.readModifyWrite done) fun _ _ _ => trivial
  | failed status applied =>
      refine .ofProgram (.readModifyWrite fun machine => ?_) fun _ _ _ => trivial
      rcases failed status with never | always
      · cases applied
        · exact absurd here never.2
        · exact absurd here never.1
      · cases applied
        · exact (always machine).1
        · exact (always machine).2

/-- No restart writes a receipt. -/
theorem admits_journaled :
    Admits (fun _ => True) fun before after => after.journaled = before.journaled where
  operation _ kept := operation_within (fun machine => (kept machine).1)
    fun _ => .inr fun machine => ⟨rfl, (kept machine).1⟩

/-- Where every operation is done, none has failed. -/
theorem admits_done :
    Admits (· = .done) fun before after => after.ioFailed = before.ioFailed where
  operation _ kept := operation_within (fun machine => (kept machine).2)
    fun _ => .inl ⟨nofun, nofun⟩

/-! ### Boots -/

/-- The call with these answers, in a boot of its own. -/
def boot (call : Journal Unit) (script : List IoAnswer) (machine : Machine) :
    Option (Except Failure Unit) × Machine :=
  (call.run.withScript script).exec { machine with ioFailed := false }

/-- One restart after the other. -/
def restarts (scripts : List (List IoAnswer)) (machine : Machine) : Machine :=
  scripts.foldl (fun machine script => (boot resumeExactDeletion script machine).2) machine

/-- What the last restart leaves of a removal that stopped here. -/
structure Recovered (target : StoreIdentity) (start : Disk) (stopped : Machine)
    (restarted : Option (Except Failure Unit) × Machine) : Prop where
  returned : restarted.1 = some (.ok ())
  receipt : restarted.2.disk.receipt = none
  unjournaled : stopped.journaled = false → stopped.disk = start ∧ restarted.2.disk = start
  journaled : stopped.journaled = true → restarted.2.disk.Without target
  bonds : ∀ key, (∀ slot ∈ knownSlots, slot.key = key → ¬start.Holds target slot) →
    restarted.2.disk.bonds.lookup key = start.bonds.lookup key
  schemas : ∀ identity, identity ≠ target →
    restarted.2.disk.revisions identity = start.revisions identity ∧
      restarted.2.disk.associations identity = start.associations identity

section Boots

variable {target : StoreIdentity} {start : Disk} {machine : Machine}

theorem Stage.boot (stage : Stage target start machine) :
    Stage target start { machine with ioFailed := false } := by
  cases stage with
  | untouched same fresh => exact .untouched same fresh
  | pending pending => exact .pending { pending with }
  | finished finished => exact .finished { finished with }

theorem Meets.boot {refused : Prop} {holds : Unit → Machine → Prop} {call : Journal Unit}
    (meets : Meets target start refused holds call { machine with ioFailed := false })
    (stage : Stage target start machine) (script : List IoAnswer) :
    Stage target start (boot call script machine).2 ∧
      ∀ outcome ∈ (Bonds.boot call script machine).1,
        Outcome refused holds outcome (Bonds.boot call script machine).2 :=
  (Scripted.Safe.withScript meets script).exec (fun _ _ stage step => step stage) stage.boot

theorem resume_journaled (script : List IoAnswer) :
    (boot resumeExactDeletion script machine).2.journaled = machine.journaled := by
  have each : (resumeExactDeletion.run.withScript script).Each
      fun before after => after.journaled = before.journaled :=
    .bind (resumeExactDeletion_within admits_journaled script fun _ _ => trivial).1 fun _ => trivial
  exact each.exec_view _

theorem restarts_stage (unjournaled : start.receipt = none) (scripts : List (List IoAnswer))
    (stage : Stage target start machine) :
    Stage target start (restarts scripts machine) ∧
      (restarts scripts machine).journaled = machine.journaled := by
  induction scripts generalizing machine with
  | nil => exact ⟨stage, rfl⟩
  | cons script scripts ih =>
      have next := ((resumeExactDeletion_meets unjournaled stage.boot).boot stage script).1
      exact ⟨(ih next).1, (ih next).2.trans (resume_journaled script)⟩

/-- A restart that nothing disturbs returns. -/
theorem resume_returns (unjournaled : start.receipt = none) (stage : Stage target start machine)
    {script : List IoAnswer} (clean : ∀ answer ∈ script, answer = .done)
    (long : resumeOperations ≤ script.length) :
    (boot resumeExactDeletion script machine).1 = some (.ok ()) ∧
      (boot resumeExactDeletion script machine).2.disk.receipt = none := by
  obtain ⟨each, ends⟩ := resumeExactDeletion_within admits_done script clean
  have undisturbed : (boot resumeExactDeletion script machine).2.ioFailed = false := by
    have each : (resumeExactDeletion.run.withScript script).Each
        fun before after => after.ioFailed = before.ioFailed := .bind each fun _ => trivial
    exact each.exec_view _
  have returned : (boot resumeExactDeletion script machine).1.isSome = true := by
    have uncut : (resumeExactDeletion.run.withScript script).Ends fun outcome =>
        outcome.isSome = true := by
      refine ends.bind fun result outcome => ?_
      cases result with
      | none => exact absurd outcome (Nat.not_lt.mpr long)
      | some result => rfl
    exact uncut.exec _
  obtain ⟨outcome, same⟩ := Option.isSome_iff_exists.mp returned
  have holds :=
    ((resumeExactDeletion_meets unjournaled stage.boot).boot stage script).2 outcome same
  cases outcome with
  | ok result => exact ⟨same, holds⟩
  | error failure => simp [Outcome, undisturbed] at holds

/-- Wherever a removal stops, and however often the restarts are cut, the last restart
finishes it or finds it never begun. -/
theorem removal_recovered {removeRam verifyRam : Journal Unit} (unjournaled : start.receipt = none)
    (removes : Does (ErasesOnly target) removeRam) (verifies : Does ReadsOnly verifyRam)
    (cut : List IoAnswer) (reruns : List (List IoAnswer)) {last : List IoAnswer}
    (clean : ∀ answer ∈ last, answer = .done) (long : resumeOperations ≤ last.length) :
    let stopped := (boot (runJournaledRemoval target removeRam verifyRam) cut { disk := start }).2
    Recovered target start stopped
      (boot resumeExactDeletion last (restarts reruns stopped)) := by
  intro stopped
  have first : Stage target start stopped :=
    ((runJournaledRemoval_meets unjournaled removes verifies rfl).boot (.untouched rfl rfl) cut).1
  obtain ⟨stage, kept⟩ := restarts_stage unjournaled reruns first
  obtain ⟨returned, receipt⟩ := resume_returns unjournaled stage clean long
  have final := ((resumeExactDeletion_meets unjournaled stage.boot).boot stage last).1
  have journaled := (resume_journaled last).trans kept
  have erases :
      Erases target start (boot resumeExactDeletion last (restarts reruns stopped)).2.disk := by
    cases final with
    | untouched same _ => exact same ▸ .refl _
    | pending pending => exact pending.erases
    | finished finished => exact finished.erases
  refine ⟨returned, receipt, fun fresh => ⟨?_, ?_⟩, fun written => ?_, fun key free => ?_,
    fun identity other => ?_⟩
  · cases first with
    | untouched same _ => exact same
    | pending pending => simp [pending.journaled] at fresh
    | finished finished => simp [finished.journaled] at fresh
  · cases final with
    | untouched same _ => exact same
    | pending pending => simp [pending.journaled, fresh] at journaled
    | finished finished => simp [finished.journaled, fresh] at journaled
  · cases final with
    | untouched _ untouched => simp [untouched, written] at journaled
    | pending pending => simp [pending.receipt] at receipt
    | finished finished => exact finished.without
  · exact (erases.bonds key).resolve_right fun ⟨⟨slot, known, named, holds⟩, _⟩ =>
      free slot known named holds
  · exact ⟨(erases.revisions identity).resolve_right fun gone => other gone.1,
      (erases.associations identity).resolve_right fun gone => other gone.1⟩

end Boots

/-! ### A removal that is cut between two erases -/

section Peer

variable {target : StoreIdentity} {step : Machine → Machine → Prop}

theorem Does.pure : Does step (pure ()) :=
  fun _ => Fallible.Safe.pure fun _ _ => trivial

theorem Does.bind {first second : Journal Unit} (one : Does step first) (two : Does step second) :
    Does step (first >>= fun _ => second) := by
  refine fun machine => Fallible.Safe.bind .refl (fun _ _ _ _ _ => trivial)
    (Scripted.Safe.mono (fun outcome later _ => ?_) (one machine))
  cases outcome with
  | ok result => exact two later
  | error failure => trivial

theorem Does.operation {change : Machine → Except Failure Unit × Machine}
    (done : ∀ machine, step machine (change machine).2)
    (failed : ∀ machine, step machine { machine with ioFailed := true } ∧
      step machine { (change machine).2 with ioFailed := true }) :
    Does step (operation change) := by
  intro machine
  have stable : ∀ before after : Machine, True → Alone before after → True :=
    fun _ _ _ _ => trivial
  refine Scripted.Safe.bind .refl ((Scripted.Safe.ask stable some trivial).mono
    fun answer later _ => ?_)
  cases answer with
  | done => exact Scripted.Safe.readModifyWrite fun later _ => ⟨done later, fun _ _ => trivial⟩
  | failed status applied =>
      refine Scripted.Safe.readModifyWrite fun later _ => ⟨?_, fun _ _ => trivial⟩
      cases applied
      · exact (failed later).1
      · exact (failed later).2

/-- The erase of a slot that holds a record of the target. -/
def eraseHeld (target : StoreIdentity) (slot : Slot) : Journal Unit :=
  operation fun machine => (.ok (),
    if (machine.disk.bonds.lookup slot.key).any (belongs target slot) then
      { machine with disk := machine.disk.eraseBond slot.key }
    else machine)

/-- Every record of the target is erased, one after the other. -/
def deletePeer (target : StoreIdentity) : List Slot → Journal Unit
  | [] => return
  | slot :: rest => do
      eraseHeld target slot
      deletePeer target rest

theorem eraseHeld_does {slot : Slot} (known : slot ∈ knownSlots) :
    Does (ErasesOnly target) (eraseHeld target slot) := by
  have only : ∀ machine : Machine, ErasesOnly target machine
      (if (machine.disk.bonds.lookup slot.key).any (belongs target slot) then
        { machine with disk := machine.disk.eraseBond slot.key } else machine) := by
    intro machine
    split
    · rename_i held
      obtain ⟨bytes, found, ours⟩ := (Option.any_eq_true _ _).mp held
      exact ⟨rfl, rfl, .eraseBond known ⟨bytes, found, ours⟩⟩
    · exact ⟨rfl, rfl, .refl _⟩
  refine .operation only fun machine => ⟨⟨rfl, rfl, .refl _⟩, ?_⟩
  exact ⟨(only machine).journaled, (only machine).receipt, (only machine).erases⟩

theorem deletePeer_does {slots : List Slot} (known : slots ⊆ knownSlots) :
    Does (ErasesOnly target) (deletePeer target slots) := by
  induction slots with
  | nil => exact .pure
  | cons slot rest ih =>
      exact .bind (eraseHeld_does (known (by simp)))
        (ih fun _ member => known (List.mem_cons_of_mem slot member))

end Peer

/-- An identity that is told by its first byte. -/
def peer (first : UInt8) : StoreIdentity where
  type := 1
  value := (Vector.replicate 6 0).set 0 first

/-- A record of this peer. -/
def record (category : DeleteCategory) (first : UInt8) : Blob :=
  .replicate category.identityOffset 0 ++ [1, first] ++
    .replicate (category.size - category.identityOffset - 2) 0

/-- Two bonded peers. -/
def twoBonds : Disk where
  bonds := [1, 2].flatMap fun number => [.ourSec, .peerSec].map fun category =>
    ((⟨category, number⟩ : Slot).key, record category (.ofNat number))
  revisions identity := if identity = peer 1 ∨ identity = peer 2 then some 3 else none

theorem verifySchemaAbsent_reads (identity : StoreIdentity) :
    Does ReadsOnly (verifySchemaAbsent identity) :=
  .operation (fun _ => ⟨rfl, rfl⟩) fun _ => ⟨⟨rfl, rfl⟩, ⟨rfl, rfl⟩⟩

/-- The removal of the first peer, cut between its two records. -/
def halfRemoved : Machine :=
  (boot (runJournaledRemoval (peer 1) (deletePeer (peer 1) knownSlots)
    (verifySchemaAbsent (peer 1))) (.replicate 53 .done) { disk := twoBonds }).2

theorem removal_recovered_halfRemoved :
    Recovered (peer 1) twoBonds halfRemoved
      (boot resumeExactDeletion (.replicate resumeOperations .done)
        (restarts [.replicate 40 .done] halfRemoved)) :=
  removal_recovered rfl (deletePeer_does (fun _ member => member)) (verifySchemaAbsent_reads _)
    (.replicate 53 .done) [.replicate 40 .done] (by simp) (by simp)

example : halfRemoved.journaled = true ∧ halfRemoved.disk.bonds.map (·.1) =
    ["peer_sec_1", "our_sec_2", "peer_sec_2"] := by decide +kernel

end HidBot.Bonds
