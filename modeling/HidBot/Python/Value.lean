import Mathlib.Data.List.Basic
import Mathlib.Tactic.SplitIfs

/-!
# Decoded JSON and the checks made of it

The values that a JSON decoder returns, and checks that read them step by step. A check may
raise an error of its own, and it may run into an exception that it has not meant to raise:
a key that is absent, a value that cannot be hashed, a text that cannot be encoded. The
rules say of a check that is made of others when it raises its own errors only.
-/

namespace HidBot.Python

/-! ### Values -/

/-- A code point of a text: an escape may leave half of a surrogate pair behind. -/
inductive CodePoint where
  | char (value : Char)
  | surrogate (unit : Fin 0x800)
  deriving DecidableEq

abbrev Text := List CodePoint

instance : LawfulBEq Text := inferInstance

def text (literal : String) : Text := literal.toList.map .char

/-- A text without surrogates has an encoding. -/
def Text.encodable (value : Text) : Bool :=
  value.all fun | .char _ => true | .surrogate _ => false

/-- A value of the decoder. A float that is no number is none. -/
inductive Value where
  | null
  | bool (value : Bool)
  | int (value : Int)
  | float (value : Option Rat)
  | str (value : Text)
  | list (items : List Value)
  | dict (members : List (Text × Value))

namespace Value

/-- Lists and dictionaries cannot be looked up in a set. -/
def hashable : Value → Bool
  | list _ | dict _ => false
  | _ => true

def asStr : Value → Option Text
  | str value => some value
  | _ => none

def asDict : Value → Option (List (Text × Value))
  | dict members => some members
  | _ => none

def asList : Value → Option (List Value)
  | list items => some items
  | _ => none

def asBool : Value → Option Bool
  | bool value => some value
  | _ => none

/-- `type(value) is int`, between the bounds. -/
def asInt (low high : Int) : Value → Option Int
  | int value => if low ≤ value ∧ value ≤ high then some value else none
  | _ => none

@[simp] theorem asStr_eq_some {value : Value} {text : Text} :
    value.asStr = some text ↔ value = .str text := by
  cases value <;> simp [asStr]

@[simp] theorem asDict_eq_some {value : Value} {members : List (Text × Value)} :
    value.asDict = some members ↔ value = .dict members := by
  cases value <;> simp [asDict]

end Value

/-- The members of a dictionary in the order of their insertion. -/
abbrev Members := List (Text × Value)

namespace Members

def keys (members : Members) : List Text := members.map Prod.fst

/-- `members.get(key)`. -/
def get? (members : Members) (key : Text) : Option Value :=
  (members.find? (·.1 = key)).map Prod.snd

/-- `set(members) == fields`. -/
def hasExactly (members : Members) (fields : List Text) : Bool :=
  members.keys.all fields.contains && fields.all members.keys.contains

theorem mem_of_get? {members : Members} {key : Text} {value : Value}
    (found : members.get? key = some value) : (key, value) ∈ members := by
  obtain ⟨member, located, rfl⟩ := Option.map_eq_some_iff.mp found
  have same : member.1 = key := by simpa using List.find?_some located
  exact same ▸ List.mem_of_find?_eq_some located

theorem get?_of_mem_keys {members : Members} {key : Text} (member : key ∈ members.keys) :
    ∃ value, members.get? key = some value := by
  obtain ⟨entry, inside, rfl⟩ := List.mem_map.mp member
  obtain ⟨found, located⟩ := Option.isSome_iff_exists.mp (List.find?_isSome.mpr
    ⟨entry, inside, by simp⟩ : (members.find? (·.1 = entry.1)).isSome)
  exact ⟨found.2, by simp [get?, located]⟩

theorem mem_keys_of_hasExactly {members : Members} {fields : List Text}
    (exact' : members.hasExactly fields) {field : Text} (known : field ∈ fields) :
    field ∈ members.keys := by
  simp only [hasExactly, Bool.and_eq_true, List.all_eq_true, List.contains_iff_mem] at exact'
  exact exact'.2 field known

end Members

/-! ### Checks -/

/-- An exception: an error that the check has meant to raise, or another. -/
inductive Raised (ε : Type) where
  | own (error : ε)
  | keyError
  | typeError
  | unicodeEncodeError
  deriving DecidableEq

abbrev Check (ε α : Type) := Except (Raised ε) α

/-- The check raises no errors but its own. -/
def Handled {ε α : Type} (check : Check ε α) : Prop :=
  ∀ raised, check = .error raised → ∃ error, raised = .own error

section Checks

variable {ε α β : Type}

def refuse (error : ε) : Check ε α := .error (.own error)

def require (holds : Prop) [Decidable holds] (error : ε) : Check ε Unit :=
  if holds then .ok () else refuse error

def demand (value : Option α) (error : ε) : Check ε α :=
  match value with
  | some value => .ok value
  | none => refuse error

/-- `members[key]`. -/
def item (members : Members) (key : Text) : Check ε Value :=
  match members.get? key with
  | some value => .ok value
  | none => .error .keyError

/-- `value in {texts}`. -/
def isOneOf (texts : List Text) (value : Value) : Check ε Bool :=
  if value.hashable then .ok (value.asStr.any texts.contains) else .error .typeError

/-- `value.encode("utf-8")`, of which only the length matters. -/
def encodedLength (value : Text) : Check ε Nat :=
  if value.encodable then
    .ok (value.foldr (fun
      | .char value, length => value.utf8Size + length
      | .surrogate _, length => length) 0)
  else .error .unicodeEncodeError

theorem bind_ok {check : Check ε α} {rest : α → Check ε β} {result : β} :
    (check >>= rest) = .ok result ↔ ∃ value, check = .ok value ∧ rest value = .ok result := by
  cases check with
  | error raised =>
      refine ⟨fun same => ?_, fun ⟨_, same, _⟩ => ?_⟩
      · cases same
      · cases same
  | ok value =>
      refine ⟨fun same => ⟨value, rfl, same⟩, fun ⟨other, same, later⟩ => ?_⟩
      cases same
      exact later

theorem require_ok {holds : Prop} [Decidable holds] {error : ε} {result : Unit} :
    require holds error = .ok result ↔ holds := by
  by_cases here : holds
  · simp [require, here]
  · simp [require, refuse, here]

theorem demand_ok {value : Option α} {error : ε} {result : α} :
    demand value error = .ok result ↔ value = some result := by
  cases value <;> simp [demand, refuse]

theorem isOneOf_ok {texts : List Text} {value : Value} {result : Bool} :
    (isOneOf texts value : Check ε Bool) = .ok result ↔
      value.hashable ∧ value.asStr.any texts.contains = result := by
  unfold isOneOf
  split_ifs with hashable <;> simp [hashable]

/-! ### Which checks raise their own errors only -/

@[simp] theorem handled_ok (value : α) : Handled (.ok value : Check ε α) :=
  fun _ same => by cases same

@[simp] theorem handled_pure (value : α) : Handled (pure value : Check ε α) := handled_ok value

@[simp] theorem handled_refuse (error : ε) : Handled (refuse error : Check ε α) :=
  fun _ same => ⟨error, (Except.error.inj same).symm⟩

@[simp] theorem handled_require (holds : Prop) [Decidable holds] (error : ε) :
    Handled (require holds error) := by
  unfold require
  split_ifs
  · exact handled_ok ()
  · exact handled_refuse error

@[simp] theorem handled_demand (value : Option α) (error : ε) : Handled (demand value error) := by
  cases value with
  | none => exact handled_refuse error
  | some value => exact handled_ok value

@[simp] theorem handled_isOneOf {texts : List Text} {value : Value} :
    Handled (isOneOf texts value : Check ε Bool) ↔ value.hashable := by
  unfold isOneOf
  split_ifs with hashable
  · simp [hashable]
  · exact iff_of_false (fun handled => by simpa using handled .typeError rfl) hashable

@[simp] theorem handled_encodedLength {value : Text} :
    Handled (encodedLength value : Check ε Nat) ↔ value.encodable := by
  unfold encodedLength
  split_ifs with encodable
  · simp [encodable]
  · exact iff_of_false (fun handled => by simpa using handled .unicodeEncodeError rfl) encodable

/-- The first check, and then the rest wherever the first lets it begin. -/
theorem handled_bind {check : Check ε α} {rest : α → Check ε β} :
    Handled (check >>= rest) ↔
      Handled check ∧ ∀ value, check = .ok value → Handled (rest value) := by
  cases check with
  | error raised =>
      refine ⟨fun handled => ⟨fun other same => handled other ?_, fun value same => by cases same⟩,
        fun handled other same => handled.1 other ?_⟩
      · cases same
        rfl
      · cases same
        rfl
  | ok value =>
      refine ⟨fun handled => ⟨handled_ok value, fun other same => ?_⟩,
        fun handled => handled.2 value rfl⟩
      cases same
      exact handled

@[simp] theorem handled_map {f : α → β} {check : Check ε α} :
    Handled (f <$> check) ↔ Handled check := by
  cases check with
  | error raised => exact ⟨fun handled other same => handled other (by cases same; rfl),
      fun handled other same => handled other (by cases same; rfl)⟩
  | ok value => exact iff_of_true (handled_ok (f value)) (handled_ok value)

/-- In a loop every item is reached that those before it let pass. -/
theorem handled_foldlM {items : List β} {body : α → β → Check ε α} {first : α} :
    Handled (items.foldlM body first) ↔ ∀ before item after reached,
      items = before ++ item :: after → before.foldlM body first = .ok reached →
        Handled (body reached item) := by
  induction items generalizing first with
  | nil => simp
  | cons item rest ih =>
      rw [List.foldlM_cons, handled_bind]
      constructor
      · rintro ⟨here, later⟩ before other after reached split passed
        cases before with
        | nil =>
            cases split
            cases passed
            exact here
        | cons head before =>
            cases split
            rw [List.foldlM_cons] at passed
            obtain ⟨next, ok, passed⟩ := bind_ok.mp passed
            exact ih.mp (later next ok) before other after reached rfl passed
      · intro each
        refine ⟨each [] item rest first rfl rfl, fun next ok => ih.mpr ?_⟩
        intro before other after reached split passed
        refine each (item :: before) other after reached (by rw [split]; rfl) ?_
        rw [List.foldlM_cons]
        exact bind_ok.mpr ⟨next, ok, passed⟩

theorem handled_mapM {items : List β} {body : β → Check ε α}
    (each : ∀ item ∈ items, Handled (body item)) : Handled (items.mapM body) := by
  induction items with
  | nil => exact handled_ok []
  | cons item items ih =>
      rw [List.forall_mem_cons] at each
      simp [List.mapM_cons, handled_bind, each.1, ih each.2]

/-- A loop whose state after some items is known. -/
theorem foldlM_ok {body : α → β → Check ε α} (state : List β → α) {items : List β}
    (step : ∀ before item after, items = before ++ item :: after →
      body (state before) item = .ok (state (before ++ [item]))) :
    items.foldlM body (state []) = .ok (state items) := by
  suffices ∀ after before, items = before ++ after →
      after.foldlM body (state before) = .ok (state items) from this items [] rfl
  intro after
  induction after with
  | nil =>
      intro before split
      rw [split, List.append_nil]
      rfl
  | cons item after ih =>
      intro before split
      rw [List.foldlM_cons, step before item after split]
      exact ih (before ++ [item]) (by simp [split])

/-- What a loop that ends well has made of its items, one after the other. -/
theorem foldlM_induct {body : α → β → Check ε α} {first : α} (property : List β → α → Prop)
    (initially : property [] first)
    (preserved : ∀ before item reached next, property before reached →
      body reached item = .ok next → property (before ++ [item]) next)
    {items : List β} {last : α} (ended : items.foldlM body first = .ok last) :
    property items last := by
  have general : ∀ items before reached, property before reached →
      items.foldlM body reached = .ok last → property (before ++ items) last := by
    intro items
    induction items with
    | nil =>
        intro before reached holds ended
        cases ended
        simpa using holds
    | cons item rest ih =>
        intro before reached holds ended
        rw [List.foldlM_cons] at ended
        obtain ⟨next, ok, ended⟩ := bind_ok.mp ended
        simpa using ih (before ++ [item]) next (preserved before item reached next holds ok) ended
  simpa using general items [] first initially ended

end Checks

end HidBot.Python
