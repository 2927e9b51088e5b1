import HidBot.Interleaving.Fallible

/-!
# The journaled removal of a bond

`bond_delete_transaction.hpp`: the records of one exact identity are removed under a
receipt, from which a restart finishes the removal. Every store operation takes an
answer from the script: it is done, or it fails with or without having been applied.
A script that runs out cuts the removal.
-/

namespace HidBot.Bonds

open Interleaving

structure StoreIdentity where
  type : UInt8 := 0
  value : Vector UInt8 6 := .replicate 6 0
  deriving DecidableEq

def validIdentity (identity : StoreIdentity) : Bool :=
  if 1 < identity.type then false
  else if identity.type ≠ 0 then true
  else identity.value.any (· ≠ 0)

abbrev Blob := List UInt8

/-! ### Slots -/

inductive DeleteCategory where
  | cccd
  | rpa
  | csfc
  | ourSec
  | peerSec
  deriving DecidableEq

/-- `kDeleteCategories`, in its order. -/
def deleteCategories : List DeleteCategory := [.cccd, .rpa, .csfc, .ourSec, .peerSec]

namespace DeleteCategory

def keyPrefix : DeleteCategory → String
  | cccd => "cccd_sec_"
  | rpa => "rpa_rec_"
  | csfc => "csfc_sec_"
  | ourSec => "our_sec_"
  | peerSec => "peer_sec_"

def count : DeleteCategory → Nat
  | cccd => 15
  | rpa | csfc | ourSec | peerSec => 3

def size : DeleteCategory → Nat
  | cccd => 16
  | rpa => 14
  | csfc => 8
  | ourSec | peerSec => 88

def identityOffset : DeleteCategory → Nat
  | rpa => 7
  | cccd | csfc | ourSec | peerSec => 0

end DeleteCategory

structure Slot where
  category : DeleteCategory
  index : Nat
  deriving DecidableEq

def Slot.key (slot : Slot) : String := slot.category.keyPrefix ++ toString slot.index

def DeleteCategory.slots (category : DeleteCategory) : List Slot :=
  (List.range category.count).map fun index => ⟨category, index + 1⟩

/-- The slots in the order in which they are scanned. -/
def knownSlots : List Slot := deleteCategories.flatMap (·.slots)

/-- `deletion_slot`: the key is a slot, or of no category. -/
def deletionSlot (key : String) : Bool :=
  match deleteCategories.find? fun category => category.keyPrefix.isPrefixOf key with
  | some category => category.slots.any (·.key = key)
  | none => true

/-! ### The store -/

structure Disk where
  /-- The entries of the bond namespace. -/
  bonds : List (String × Blob) := []
  /-- The schema record of an identity: its revision and its association. -/
  revisions : StoreIdentity → Option UInt8 := fun _ => none
  associations : StoreIdentity → Option UInt32 := fun _ => none
  receipt : Option Blob := none

/-- The disk, and what a run remembers for the statements about it. -/
structure Machine where
  disk : Disk
  /-- The receipt has been written. -/
  journaled : Bool := false
  /-- An operation has failed. -/
  ioFailed : Bool := false

/-- A status other than success. -/
inductive Failure where
  | invalid
  | storage (status : Int)
  deriving DecidableEq

inductive IoAnswer where
  | done
  | failed (status : Int) (applied : Bool)
  deriving DecidableEq

abbrev Journal := Fallible Failure IoAnswer Machine

/-- One atomic operation of the store. -/
def operation {α : Type} (change : Machine → Except Failure α × Machine) : Journal α :=
  ExceptT.mk do
    match ← Scripted.ask some with
    | .done => .readModifyWrite change
    | .failed status applied => .readModifyWrite fun machine =>
        (.error (.storage status),
          { (if applied then (change machine).2 else machine) with ioFailed := true })

/-- An operation that changes nothing. -/
def query {α : Type} (view : Disk → Except Failure α) : Journal α :=
  operation fun machine => (view machine.disk, machine)

/-- `ESP_ERR_NVS_INVALID_LENGTH`. -/
def invalidLength : Failure := .storage 0x110c

/-- `ESP_ERR_NVS_NOT_FOUND`. -/
def notFound : Failure := .storage 0x1102

/-- `ESP_ERR_INVALID_STATE`. -/
def invalidState : Failure := .storage 0x103

/-- A blob that fits into the buffer, or none. -/
def bounded (capacity : Nat) (blob : Option Blob) : Except Failure (Option Blob) :=
  if blob.any (capacity < ·.length) then .error invalidLength else .ok blob

def readBond (key : String) : Journal (Option Blob) :=
  query fun disk => bounded 88 (disk.bonds.lookup key)

def readReceipt : Journal (Option Blob) := query fun disk => bounded 8 disk.receipt

def writeReceipt (bytes : Blob) : Journal Unit :=
  operation fun machine =>
    (.ok (), { machine with disk := { machine.disk with receipt := some bytes }, journaled := true })

def Disk.eraseBond (disk : Disk) (key : String) : Disk :=
  { disk with bonds := disk.bonds.filter (·.1 ≠ key) }

def eraseBond (key : String) : Journal Unit :=
  operation fun machine =>
    if (machine.disk.bonds.lookup key).isSome then
      (.ok (), { machine with disk := machine.disk.eraseBond key })
    else (.error notFound, machine)

def eraseReceipt : Journal Unit :=
  operation fun machine =>
    if machine.disk.receipt.isSome then
      (.ok (), { machine with disk := { machine.disk with receipt := none } })
    else (.error notFound, machine)

def Disk.layoutValid (disk : Disk) : Bool := disk.bonds.all fun entry => deletionSlot entry.1

def validateLayout : Journal Unit :=
  query fun disk => if disk.layoutValid then .ok () else .error invalidState

def Disk.deleteSchema (disk : Disk) (identity : StoreIdentity) : Disk :=
  { disk with
    revisions := Function.update disk.revisions identity none
    associations := Function.update disk.associations identity none }

def deleteSchema (identity : StoreIdentity) : Journal Unit :=
  operation fun machine =>
    (.ok (), { machine with disk := machine.disk.deleteSchema identity })

def verifySchemaAbsent (identity : StoreIdentity) : Journal Unit :=
  query fun disk =>
    if disk.revisions identity = none ∧ disk.associations identity = none then .ok ()
    else .error invalidState

/-! ### The receipt -/

def deletionIntent (identity : StoreIdentity) : Blob :=
  1 :: identity.type :: identity.value.toList

/-- The identity at this offset of a buffer that is zero after the blob. -/
def deletionIdentity (bytes : Blob) (offset : Nat) : StoreIdentity where
  type := bytes.getD offset 0
  value := .ofFn fun index => bytes.getD (offset + 1 + index) 0

def decodeIntent (bytes : Blob) : Option StoreIdentity :=
  if bytes.getD 0 0 ≠ 1 then none
  else some (deletionIdentity bytes 1) |>.filter validIdentity

def readDeleteIntent : Journal (Option StoreIdentity) := do
  match ← readReceipt with
  | none => return none
  | some bytes =>
      match if bytes.length = 8 then decodeIntent bytes else none with
      | some identity => return some identity
      | none => throw .invalid

def beginDeleteIntent (identity : StoreIdentity) : Journal Unit := do
  if validIdentity identity = false then
    throw .invalid
  if (← readDeleteIntent).isSome then
    throw .invalid
  writeReceipt (deletionIntent identity)
  if (← readDeleteIntent) ≠ some identity then
    throw .invalid

/-! ### The removal -/

/-- The record does not fit its slot, or its alias is the target although it belongs
to another identity. -/
def unfit (target : StoreIdentity) (slot : Slot) (bytes : Blob) : Bool :=
  let identity := deletionIdentity bytes slot.category.identityOffset
  bytes.length ≠ slot.category.size ∨ validIdentity identity = false ∨
    (slot.category.identityOffset = 7 ∧ identity ≠ target ∧ deletionIdentity bytes 0 = target)

def belongs (target : StoreIdentity) (slot : Slot) (bytes : Blob) : Bool :=
  deletionIdentity bytes slot.category.identityOffset = target

/-- The loop over the slots: those that hold a record of the target. -/
def scanSlots (target : StoreIdentity) : List Slot → Journal (List Slot)
  | [] => return []
  | slot :: rest => do
      match ← readBond slot.key with
      | none => scanSlots target rest
      | some bytes =>
          if unfit target slot bytes then
            throw .invalid
          let selected ← scanSlots target rest
          return if belongs target slot bytes then slot :: selected else selected

def targetDeleteScan (target : StoreIdentity) : Journal (List Slot) := do
  if validIdentity target = false then
    throw .invalid
  validateLayout
  scanSlots target knownSlots

def verifyDurableTargetAbsent (target : StoreIdentity) : Journal Unit := do
  if (← targetDeleteScan target) ≠ [] then
    throw .invalid
  verifySchemaAbsent target

def eraseSlots : List Slot → Journal Unit
  | [] => return
  | slot :: rest => do
      eraseBond slot.key
      eraseSlots rest

def completeDurableTarget (target : StoreIdentity) : Journal Unit := do
  eraseSlots (← targetDeleteScan target)
  deleteSchema target
  verifyDurableTargetAbsent target

def finishDeleteIntent (target : StoreIdentity) : Journal Unit := do
  if (← readDeleteIntent) ≠ some target then
    throw .invalid
  verifyDurableTargetAbsent target
  eraseReceipt
  if (← readDeleteIntent).isSome then
    throw .invalid

def resumeExactDeletion : Journal Unit := do
  match ← readDeleteIntent with
  | none => return
  | some target =>
      completeDurableTarget target
      finishDeleteIntent target

def runJournaledRemoval (target : StoreIdentity) (removeRam verifyRam : Journal Unit) :
    Journal Unit := do
  let _ ← targetDeleteScan target
  beginDeleteIntent target
  removeRam
  completeDurableTarget target
  verifyRam
  finishDeleteIntent target

end HidBot.Bonds
