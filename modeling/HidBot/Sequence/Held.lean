import HidBot.Sequence.Plan
import Mathlib.Data.List.Sort
import Mathlib.Data.Set.Basic

/-!
# What a HID state holds

The keys, modifiers and buttons that are held, as a set: a press adds to it and a
release takes from it. The six key slots hold the keys in increasing order, padded
with zeros, and `apply_transition` moves the set, unless a seventh key is pressed. The
operations of a parsed plan can be applied to the state in which it starts.
-/

namespace HidBot.Sequence

/-! ### Slots -/

/-- The slots are these keys in increasing order, and zeros after them. -/
structure Padded (keys : List UInt8) (slots : Vector UInt8 6) : Prop where
  sorted : keys.Pairwise (· < ·)
  nonzero : 0 ∉ keys
  slots : slots.toList = keys ++ List.replicate (6 - keys.length) 0

theorem toList_ofFn_getD {keys : List UInt8} (fits : keys.length ≤ 6) :
    (Vector.ofFn fun slot : Fin 6 => keys.getD slot 0).toList =
      keys ++ List.replicate (6 - keys.length) 0 := by
  refine List.ext_getElem (by simp; omega) fun slot here there => ?_
  by_cases held : slot < keys.length
  · simp [held]
  · simp [List.getElem_append_right (Nat.le_of_not_lt held), List.getElem?_eq_none
      (Nat.le_of_not_lt held)]

theorem insertKey_eq_orderedInsert (usage : UInt8) (keys : List UInt8) :
    insertKey usage keys = keys.orderedInsert (· ≥ ·) usage := by
  induction keys with
  | nil => rfl
  | cons last before ih => simp [insertKey, List.orderedInsert, ih, ← UInt8.not_le, ite_not]

/-- The keys in increasing order with one more. -/
def inserted (usage : UInt8) (keys : List UInt8) : List UInt8 :=
  (insertKey usage keys.reverse).reverse

@[simp] theorem mem_inserted {usage other : UInt8} {keys : List UInt8} :
    other ∈ inserted usage keys ↔ other = usage ∨ other ∈ keys := by
  rw [inserted, List.mem_reverse, insertKey_eq_orderedInsert,
    (List.perm_orderedInsert ..).mem_iff, List.mem_cons, List.mem_reverse]

@[simp] theorem length_inserted (usage : UInt8) (keys : List UInt8) :
    (inserted usage keys).length = keys.length + 1 := by
  simp [inserted, insertKey_eq_orderedInsert, List.orderedInsert_length]

theorem inserted_sorted {usage : UInt8} {keys : List UInt8} (sorted : keys.Pairwise (· < ·))
    (fresh : usage ∉ keys) : (inserted usage keys).Pairwise (· < ·) := by
  rw [inserted, List.pairwise_reverse, insertKey_eq_orderedInsert]
  have descending : keys.reverse.Pairwise (· ≥ ·) :=
    List.pairwise_reverse.mpr (sorted.imp fun less => UInt8.le_of_lt less)
  have distinct : (keys.reverse.orderedInsert (· ≥ ·) usage).Nodup := by
    rw [(List.perm_orderedInsert ..).nodup_iff, List.nodup_cons, List.mem_reverse,
      List.nodup_reverse]
    exact ⟨fresh, sorted.imp UInt8.ne_of_lt⟩
  refine ((descending.orderedInsert usage _).and distinct).imp ?_
  rintro first second ⟨above, different⟩
  exact UInt8.lt_of_le_of_ne above (Ne.symm different)

namespace Padded

variable {keys : List UInt8} {slots : Vector UInt8 6} {usage : UInt8}

theorem length_le (padded : Padded keys slots) : keys.length ≤ 6 := by
  have same := congrArg List.length padded.slots
  simp only [Vector.length_toList, List.length_append, List.length_replicate] at same
  omega

theorem mem_iff (padded : Padded keys slots) (used : usage ≠ 0) :
    usage ∈ slots.toList ↔ usage ∈ keys := by
  simp [padded.slots, used]

theorem holds_iff (padded : Padded keys slots) :
    usage ≠ 0 ∧ usage ∈ slots.toList ↔ usage ∈ keys := by
  refine ⟨fun held => (padded.mem_iff held.1).mp held.2, fun held => ?_⟩
  have used : usage ≠ 0 := fun zero => padded.nonzero (zero ▸ held)
  exact ⟨used, (padded.mem_iff used).mpr held⟩

theorem idxOf_free (padded : Padded keys slots) :
    slots.toList.idxOf? 0 = if keys.length < 6 then some keys.length else none := by
  have before : keys.findIdx? (· == 0) = none := List.idxOf?_eq_none_iff.mpr padded.nonzero
  rw [padded.slots, List.idxOf?, List.findIdx?_append, before]
  by_cases room : keys.length < 6
  · simp [room, Nat.sub_ne_zero_of_lt room]
  · simp [room, Nat.sub_eq_zero_of_le (Nat.le_of_not_lt room)]

theorem press_held (padded : Padded keys slots) (used : usage ≠ 0) (held : usage ∈ keys) :
    pressKey usage slots = some slots := by
  rw [pressKey, if_pos ((padded.mem_iff used).mpr held)]

theorem press_full (padded : Padded keys slots) (used : usage ≠ 0) (fresh : usage ∉ keys)
    (full : keys.length = 6) : pressKey usage slots = none := by
  rw [pressKey, if_neg ((padded.mem_iff used).not.mpr fresh), padded.idxOf_free,
    if_neg (by simp [full])]

theorem press_room (padded : Padded keys slots) (used : usage ≠ 0) (fresh : usage ∉ keys)
    (room : keys.length < 6) :
    ∃ after, pressKey usage slots = some after ∧ Padded (inserted usage keys) after := by
  have kept : slots.toList.take keys.length = keys := by simp [padded.slots]
  have free : slots.toList.drop (keys.length + 1) = .replicate (6 - (keys.length + 1)) 0 := by
    simp [padded.slots, List.drop_append, Nat.sub_sub]
  have whole : (inserted usage keys ++
      List.replicate (6 - (keys.length + 1)) 0).length = 6 := by
    simp only [List.length_append, length_inserted, List.length_replicate]
    omega
  refine ⟨Vector.ofFn fun slot =>
    (inserted usage keys ++ List.replicate (6 - (keys.length + 1)) 0).getD slot 0, ?_, ?_⟩
  · simp only [pressKey, if_neg ((padded.mem_iff used).not.mpr fresh), padded.idxOf_free,
      if_pos room, kept, free, inserted]
  · refine ⟨inserted_sorted padded.sorted fresh, ?_, ?_⟩
    · rw [mem_inserted]
      exact fun either => either.elim (Ne.symm used) padded.nonzero
    · rw [toList_ofFn_getD (Nat.le_of_eq whole), whole, length_inserted]
      simp

theorem release (padded : Padded keys slots) (used : usage ≠ 0) :
    Padded (keys.erase usage) (releaseKey usage slots) := by
  have sorted : (keys.erase usage).Pairwise (· < ·) := padded.sorted.sublist List.erase_sublist
  have nonzero : 0 ∉ keys.erase usage := fun member => padded.nonzero (List.mem_of_mem_erase member)
  refine ⟨sorted, nonzero, ?_⟩
  have fits := padded.length_le
  have erased := List.erase_eq_eraseIdx slots.toList usage
  unfold releaseKey
  split
  · rename_i absent
    have absent : usage ∉ keys := by
      rwa [List.idxOf?_eq_none_iff, padded.mem_iff used] at absent
    rw [List.erase_of_not_mem absent]
    exact padded.slots
  · rename_i found here
    simp only [here] at erased
    have held : usage ∈ keys := by
      refine (padded.mem_iff used).mp (Decidable.byContradiction fun absent => ?_)
      rw [List.idxOf?_eq_none_iff.mpr absent] at here
      cases here
    have length := List.length_erase_of_mem held
    have some := List.length_pos_of_mem held
    rw [← erased, padded.slots, List.erase_append_left _ held, toList_ofFn_getD, List.append_assoc,
      List.replicate_append_replicate]
    · congr 2
      simp only [List.length_append, List.length_replicate]
      omega
    · simp only [List.length_append, List.length_replicate]
      omega

theorem press {after : Vector UInt8 6} (padded : Padded keys slots) (used : usage ≠ 0)
    (pressed : pressKey usage slots = some after) :
    ∃ keys', Padded keys' after ∧ ∀ other, other ∈ keys' ↔ other ∈ keys ∨ other = usage := by
  by_cases held : usage ∈ keys
  · cases (padded.press_held used held).symm.trans pressed
    exact ⟨keys, padded, fun other => by grind⟩
  by_cases room : keys.length < 6
  · obtain ⟨slots', here, padded'⟩ := padded.press_room used held room
    cases here.symm.trans pressed
    exact ⟨_, padded', fun other => mem_inserted.trans or_comm⟩
  · have full := Nat.le_antisymm padded.length_le (Nat.le_of_not_lt room)
    cases (padded.press_full used held full).symm.trans pressed

theorem mem_erase (padded : Padded keys slots) (other : UInt8) :
    other ∈ keys.erase usage ↔ other ∈ keys ∧ other ≠ usage := by
  have distinct : keys.Nodup := padded.sorted.imp UInt8.ne_of_lt
  rw [distinct.mem_erase_iff, and_comm]

end Padded

/-! ### Held inputs -/

/-- A key, a modifier or a mouse button. -/
inductive Input where
  | key (usage : UInt8)
  | modifier (bit : Fin 8)
  | button (bit : Fin 8)
  deriving DecidableEq

def HidState.holds (state : HidState) : Input → Prop
  | .key usage => usage ≠ 0 ∧ usage ∈ state.keycodes.toList
  | .modifier bit => state.modifiers.toBitVec[bit] = true
  | .button bit => state.mouseButtons.toBitVec[bit] = true

/-- The inputs that are held in a state. -/
def HidState.held (state : HidState) : Set Input := {input | state.holds input}

/-- The key slots are in order: increasing keys, and then zeros. -/
def HidState.Ordered (state : HidState) : Prop := ∃ keys, Padded keys state.keycodes

/-- The inputs that an operation names. -/
def Operation.names (operation : Operation) : Input → Prop
  | .key usage => (operation.kind = .keyPress ∨ operation.kind = .keyRelease) ∧
      modifierUsage operation.value = false ∧ usage = operation.value.toUInt8
  | .modifier bit => (operation.kind = .keyPress ∨ operation.kind = .keyRelease) ∧
      modifierUsage operation.value = true ∧ operation.value.toNat = 224 + bit
  | .button bit => (operation.kind = .mousePress ∨ operation.kind = .mouseRelease) ∧
      operation.value.toUInt8.toBitVec[bit] = true

/-- The inputs held after an operation on these. -/
def Operation.hold (operation : Operation) (held : Set Input) : Set Input :=
  match operation.kind with
  | .keyPress | .mousePress => held ∪ {input | operation.names input}
  | .keyRelease | .mouseRelease => held \ {input | operation.names input}
  | .defaultDelay | .wait => held

/-- The inputs held after these operations: the first ones, with the presses and
without the releases since. -/
def heldAfter (held : Set Input) (operations : List Operation) : Set Input :=
  operations.foldl (fun held operation => operation.hold held) held

/-- A key operation names a usage of a key or a modifier. -/
def Operation.Known (operation : Operation) : Prop :=
  operation.kind = .keyPress ∨ operation.kind = .keyRelease →
    ordinaryUsage operation.value = true ∨ modifierUsage operation.value = true

section Transition

variable {operation : Operation} {state : HidState}

theorem toUInt8_ne_zero {value : UInt16} (ordinary : ordinaryUsage value = true) :
    value.toUInt8 ≠ 0 := by
  simp only [ordinaryUsage, Bool.or_eq_true, Bool.and_eq_true, decide_eq_true_eq,
    UInt16.le_iff_toNat_le] at ordinary
  intro zero
  have small := congrArg UInt8.toNat zero
  simp only [UInt16.toNat_toUInt8] at small
  simp at small ordinary
  omega

theorem modifierBit_bit (usage bit : Fin 8) :
    (modifierBit (UInt16.ofNat (224 + usage))).toBitVec[bit] = decide (usage = bit) := by
  revert usage bit
  decide

theorem modifierBit_iff {value : UInt16} (modifier : modifierUsage value = true) (bit : Fin 8) :
    (modifierBit value).toBitVec[bit] = true ↔ value.toNat = 224 + bit := by
  simp only [modifierUsage, Bool.and_eq_true, decide_eq_true_eq, UInt16.le_iff_toNat_le] at modifier
  simp only [UInt16.toNat_ofNat] at modifier
  have usage : value.toNat - 224 < 8 := by omega
  have same : value = UInt16.ofNat (224 + (⟨value.toNat - 224, usage⟩ : Fin 8)) := by
    refine UInt16.toNat_inj.mp ?_
    simp only [UInt16.toNat_ofNat']
    omega
  rw [same, modifierBit_bit, ← same, decide_eq_true_iff, Fin.ext_iff]
  dsimp only
  omega

theorem hold_mouse (input : Input) (buttons : UInt8) :
    input ∈ { state with mouseButtons := buttons }.held ↔ match input with
      | .button bit => buttons.toBitVec[bit] = true
      | other => other ∈ state.held := by
  cases input <;> rfl

theorem hold_modifiers (input : Input) (modifiers : UInt8) :
    input ∈ { state with modifiers }.held ↔ match input with
      | .modifier bit => modifiers.toBitVec[bit] = true
      | other => other ∈ state.held := by
  cases input <;> rfl

theorem hold_keycodes {keys : List UInt8} {keycodes : Vector UInt8 6}
    (padded : Padded keys keycodes) (input : Input) :
    input ∈ { state with keycodes }.held ↔ match input with
      | .key usage => usage ∈ keys
      | other => other ∈ state.held := by
  cases input with
  | key usage => exact padded.holds_iff
  | _ => rfl

theorem hold_iff (held : Set Input) (input : Input) :
    input ∈ operation.hold held ↔ match operation.kind with
      | .keyPress | .mousePress => input ∈ held ∨ operation.names input
      | .keyRelease | .mouseRelease => input ∈ held ∧ ¬operation.names input
      | .defaultDelay | .wait => input ∈ held := by
  unfold Operation.hold
  split <;> rfl

theorem applyTransition_key {kind : OperationKind} {value : UInt16}
    (key : kind = .keyPress ∨ kind = .keyRelease) :
    applyTransition ⟨kind, value⟩ state =
      if modifierUsage value then some { state with
        modifiers := if kind = OperationKind.keyPress then state.modifiers ||| modifierBit value
          else state.modifiers &&& ~~~modifierBit value }
      else (if kind = .keyPress then pressKey value.toUInt8 state.keycodes
        else some (releaseKey value.toUInt8 state.keycodes)).map
          fun keycodes => { state with keycodes } := by
  rcases key with rfl | rfl
  · simp only [applyTransition, ↓reduceIte]
    split
    · rfl
    · cases pressKey value.toUInt8 state.keycodes <;> rfl
  · simp only [applyTransition, reduceCtorEq, ↓reduceIte, Option.map_some]

theorem applyTransition_mouse {kind : OperationKind} {value : UInt16}
    (mouse : kind = .mousePress ∨ kind = .mouseRelease) :
    applyTransition ⟨kind, value⟩ state = some { state with
      mouseButtons := if kind = OperationKind.mousePress then
        state.mouseButtons ||| value.toUInt8 else state.mouseButtons &&& ~~~value.toUInt8 } := by
  rcases mouse with rfl | rfl <;> rfl

/-- A mouse button that is pressed or released. -/
theorem hold_mouseButton {kind : OperationKind} {value : UInt16}
    (mouse : kind = .mousePress ∨ kind = .mouseRelease) :
    { state with
      mouseButtons := if kind = OperationKind.mousePress then
        state.mouseButtons ||| value.toUInt8 else state.mouseButtons &&& ~~~value.toUInt8 }.held =
      (Operation.mk kind value).hold state.held := by
  refine Set.ext fun input => (hold_mouse ..).trans ?_
  rw [hold_iff]
  have before (bit : Fin 8) : .button bit ∈ state.held ↔ state.mouseButtons.toBitVec[bit] = true :=
    Iff.rfl
  rcases mouse with rfl | rfl <;> cases input <;> simp_all [Operation.names]

/-- A modifier that is pressed or released. -/
theorem hold_modifierKey {kind : OperationKind} {value : UInt16}
    (key : kind = .keyPress ∨ kind = .keyRelease) (modifier : modifierUsage value = true) :
    { state with
      modifiers := if kind = OperationKind.keyPress then state.modifiers ||| modifierBit value
        else state.modifiers &&& ~~~modifierBit value }.held =
      (Operation.mk kind value).hold state.held := by
  refine Set.ext fun input => (hold_modifiers ..).trans ?_
  rw [hold_iff]
  have named := modifierBit_iff modifier
  have unnamed (bit : Fin 8) :
      (modifierBit value).toBitVec[bit] = false ↔ value.toNat ≠ 224 + bit := by
    rw [← Bool.not_eq_true, named]
  have before (bit : Fin 8) : .modifier bit ∈ state.held ↔ state.modifiers.toBitVec[bit] = true :=
    Iff.rfl
  rcases key with rfl | rfl <;> cases input <;> simp_all [Operation.names]

/-- The keys after a key is pressed or released. -/
theorem hold_key {kind : OperationKind} {value : UInt16} {keys keys' : List UInt8}
    {keycodes : Vector UInt8 6} (key : kind = .keyPress ∨ kind = .keyRelease)
    (ordinary : modifierUsage value = false) (padded : Padded keys state.keycodes)
    (padded' : Padded keys' keycodes)
    (members : ∀ usage, usage ∈ keys' ↔
      if kind = .keyPress then usage ∈ keys ∨ usage = value.toUInt8
      else usage ∈ keys ∧ usage ≠ value.toUInt8) :
    { state with keycodes }.held = (Operation.mk kind value).hold state.held := by
  refine Set.ext fun input => (hold_keycodes padded' input).trans ?_
  rw [hold_iff]
  have before (usage : UInt8) : .key usage ∈ state.held ↔ usage ∈ keys := padded.holds_iff
  rcases key with rfl | rfl <;> cases input <;> simp_all [Operation.names]

theorem applyKey_held {kind : OperationKind} {value : UInt16}
    (key : kind = .keyPress ∨ kind = .keyRelease)
    (known : ordinaryUsage value = true ∨ modifierUsage value = true) (ordered : state.Ordered)
    {next : HidState} (applied : applyTransition ⟨kind, value⟩ state = some next) :
    next.Ordered ∧ next.held = (Operation.mk kind value).hold state.held := by
  obtain ⟨keys, padded⟩ := ordered
  rw [applyTransition_key key] at applied
  by_cases modifier : modifierUsage value = true
  · rw [if_pos modifier] at applied
    rw [← Option.some.inj applied]
    exact ⟨⟨keys, padded⟩, hold_modifierKey key modifier⟩
  · rw [if_neg modifier] at applied
    have used := toUInt8_ne_zero (known.resolve_right modifier)
    have ordinary := Bool.eq_false_iff.mpr modifier
    obtain ⟨keycodes, slots, rfl⟩ := Option.map_eq_some_iff.mp applied
    rcases key with rfl | rfl
    · rw [if_pos rfl] at slots
      obtain ⟨keys', padded', members⟩ := padded.press used slots
      exact ⟨⟨keys', padded'⟩, hold_key (.inl rfl) ordinary padded padded' members⟩
    · rw [if_neg nofun] at slots
      have padded' := Option.some.inj slots ▸ padded.release used
      exact ⟨⟨_, padded'⟩, hold_key (.inr rfl) ordinary padded padded' padded.mem_erase⟩

/-- An operation that is applied moves the inputs held, and keeps the slots in order. -/
theorem applyTransition_held (known : operation.Known) (ordered : state.Ordered)
    {next : HidState} (applied : applyTransition operation state = some next) :
    next.Ordered ∧ next.held = operation.hold state.held := by
  obtain ⟨kind, value⟩ := operation
  by_cases key : kind = .keyPress ∨ kind = .keyRelease
  · exact applyKey_held key (known key) ordered applied
  by_cases mouse : kind = .mousePress ∨ kind = .mouseRelease
  · rw [applyTransition_mouse mouse] at applied
    rw [← Option.some.inj applied]
    exact ⟨ordered, hold_mouseButton mouse⟩
  · cases kind <;> simp_all [applyTransition, Operation.hold]

end Transition

/-! ### The simulation -/

/-- The operations can be applied one after the other. -/
def Admitted : HidState → List Operation → Prop
  | _, [] => True
  | state, operation :: rest => operation.Known ∧
      ∃ next, applyTransition operation state = some next ∧ Admitted next rest

theorem parseKey_known {kind : OperationKind} {digits : List Char} {operation : Operation}
    (parsed : parseKey kind digits = some operation) : operation.Known := by
  unfold parseKey at parsed
  split at parsed
  · cases parsed
  · obtain ⟨value, -, rest⟩ := Option.bind_eq_some_iff.mp parsed
    split at rest
    · rename_i usage
      cases rest
      exact fun _ => Bool.or_eq_true _ _ ▸ usage
    · cases rest

theorem parseToken_known {token : List Char} {operation : Operation}
    (parsed : parseToken token = some operation) : operation.Known := by
  unfold parseToken at parsed
  split at parsed
  · obtain ⟨value, -, same⟩ := Option.bind_eq_some_iff.mp parsed
    cases same
    exact nofun
  · obtain ⟨value, -, same⟩ := Option.bind_eq_some_iff.mp parsed
    cases same
    exact nofun
  · exact parseKey_known parsed
  · exact parseKey_known parsed
  · unfold parseButton at parsed
    split at parsed <;> cases parsed
    exact nofun
  · unfold parseButton at parsed
    split at parsed <;> cases parsed
    exact nofun
  · cases parsed

theorem parseTokens_admitted {room : Nat} {simulated : HidState} {code : List Char}
    {operations : List Operation} (parsed : parseTokens room simulated code = some operations) :
    Admitted simulated operations := by
  induction room generalizing simulated code operations with
  | zero => simp [parseTokens] at parsed
  | succ room ih =>
      simp only [parseTokens, Option.bind_eq_bind, Option.bind_eq_some_iff] at parsed
      obtain ⟨operation, token, next, applied, rest⟩ := parsed
      have known := parseToken_known token
      split at rest
      · cases rest
        exact ⟨known, next, applied, trivial⟩
      · cases rest
      · obtain ⟨later, remaining, same⟩ := Option.bind_eq_some_iff.mp rest
        cases same
        exact ⟨known, next, applied, ih remaining⟩

/-- The wait of one operation. -/
def Operation.delay (operation : Operation) (isLast : Bool) (defaultDelay : Nat) : Nat :=
  if operation.kind = .wait then operation.value.toNat
  else if operation.kind.isHid = true ∧ isLast = false then defaultDelay else 0

/-- The waits of a plan from here on, with this default delay. -/
def delays (defaultDelay : Nat) : List Operation → Nat
  | [] => 0
  | operation :: rest =>
      operation.delay rest.isEmpty defaultDelay +
        delays (if operation.kind = .defaultDelay then operation.value.toNat else defaultDelay) rest

theorem scheduledDuration_eq {defaultDelay duration total : Nat} {operations : List Operation}
    (within : duration ≤ maximumScheduledDurationMs)
    (scheduled : scheduledDuration defaultDelay duration operations = some total) :
    total = duration + delays defaultDelay operations ∧ total ≤ maximumScheduledDurationMs := by
  induction operations generalizing defaultDelay duration with
  | nil =>
      cases scheduled
      exact ⟨rfl, within⟩
  | cons operation rest ih =>
      unfold scheduledDuration at scheduled
      obtain ⟨inside, scheduled⟩ := Option.ite_none_left_eq_some.mp scheduled
      obtain ⟨same, bound⟩ := ih (Nat.le_of_not_lt inside) scheduled
      refine ⟨same.trans ?_, bound⟩
      have delay : operation.kind.isHid = true → operation.kind ≠ .defaultDelay := by
        rintro hid kind
        rw [kind] at hid
        cases hid
      rw [delays, Operation.delay]
      by_cases wait : operation.kind = .wait
      · simp only [wait, ↓reduceIte, reduceCtorEq] at same ⊢
        omega
      by_cases hid : operation.kind.isHid = true ∧ rest ≠ []
      · simp only [wait, hid, delay hid.1, ↓reduceIte, ne_eq, not_false_eq_true, and_self,
          List.isEmpty_eq_false_iff] at same ⊢
        omega
      · simp only [wait, hid, ↓reduceIte, List.isEmpty_eq_false_iff] at same ⊢
        omega

/-- What a parsed plan is: operations that can be applied, and their waits. -/
structure Planned (plan : Plan) : Prop where
  admitted : Admitted plan.initialState plan.operations
  duration : plan.scheduledDurationMs.toNat = delays 0 plan.operations
  bound : plan.scheduledDurationMs.toNat ≤ maximumScheduledDurationMs

theorem parse_planned {code : List Char} {initialState : HidState} {plan : Plan}
    (parsed : parse code initialState = some plan) :
    Planned plan ∧ plan.initialState = initialState := by
  unfold parse at parsed
  split at parsed
  · cases parsed
  · obtain ⟨operations, tokens, rest⟩ := Option.bind_eq_some_iff.mp parsed
    obtain ⟨duration, scheduled, same⟩ := Option.bind_eq_some_iff.mp rest
    cases same
    obtain ⟨total, bound⟩ := scheduledDuration_eq (Nat.zero_le _) scheduled
    have small : (UInt32.ofNat duration).toNat = duration := by
      rw [UInt32.toNat_ofNat', Nat.mod_eq_of_lt]
      exact Nat.lt_of_le_of_lt bound (by decide)
    refine ⟨⟨parseTokens_admitted tokens, ?_, ?_⟩, rfl⟩
    · exact small.trans (total.trans (Nat.zero_add _))
    · exact small.trans_le bound

end HidBot.Sequence
