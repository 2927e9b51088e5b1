import HidBot.Python.Value

/-!
# Records

A dictionary that has exactly the fields that are named, and what may be asked of a field. A
field of a record can always be read.
-/

namespace HidBot.Python

/-- What is left of a dictionary that has passed the check of its fields. -/
structure Record (names : List String) where
  members : Members
  complete : members.hasExactly (names.map text)

/-- `isinstance(value, dict) and set(value) == names`. -/
def Value.asRecord (names : List String) : Value → Option (Record names)
  | .dict members =>
      if complete : Members.hasExactly members (names.map text) then some ⟨members, complete⟩
      else none
  | _ => none

namespace Record

variable {names : List String}

theorem present (record : Record names) {name : String} (known : name ∈ names) :
    (record.members.get? (text name)).isSome := by
  obtain ⟨value, found⟩ := Members.get?_of_mem_keys
    (Members.mem_keys_of_hasExactly record.complete (List.mem_map_of_mem known))
  rw [found]
  rfl

/-- `record[name]`, which cannot fail. -/
def get (record : Record names) (name : String) (known : name ∈ names := by decide) : Value :=
  (record.members.get? (text name)).get (record.present known)

theorem get_mem (record : Record names) {name : String} (known : name ∈ names) :
    (text name, record.get name known) ∈ record.members :=
  Members.mem_of_get? (Option.some_get _).symm

end Record

theorem Value.of_asRecord {names : List String} {value : Value} {record : Record names}
    (found : value.asRecord names = some record) : value = .dict record.members := by
  cases value with
  | dict members =>
      simp only [asRecord, Option.dite_none_right_eq_some, Option.some.injEq] at found
      obtain ⟨_, rfl⟩ := found
      rfl
  | _ => cases found

/-- The characters of a text without surrogates. -/
def Text.characters (value : Text) : Option (List Char) :=
  value.mapM fun
    | .char value => some value
    | .surrogate _ => none

namespace Value

/-- The value is one of the texts, and not merely equal to none of them. -/
def isName (names : List String) (value : Value) : Bool :=
  value.asStr.any (names.map text).contains

/-- `Enum(value)`, which names every failure alike. -/
def asMember {α : Type} (table : List (String × α)) (value : Value) : Option α := do
  let name ← value.asStr
  (table.find? (text ·.1 = name)).map Prod.snd

def asName (names : List String) (value : Value) : Option Text :=
  value.asStr.filter (names.map text).contains

def asInteger : Value → Option Int
  | int value => some value
  | _ => none

/-- A list of texts. -/
def asTexts : Value → Option (List Text)
  | list items => items.mapM asStr
  | _ => none

/-- `None`, or what the reader takes. -/
def asOptional {α : Type} (read : Value → Option α) : Value → Option (Option α)
  | null => some none
  | value => (read value).map some

end Value

section Checks

variable {ε α β : Type}

/-- `value in {names}`, where another value is refused. -/
def literal (names : List String) (value : Value) (error : ε) : Check ε Text := do
  require (← isOneOf (names.map text) value) error
  demand value.asStr error

theorem literal_ok {names : List String} {value : Value} {error : ε} {result : Text} :
    literal names value error = .ok result ↔
      value.isName names ∧ value = .str result := by
  simp only [literal, bind_ok, isOneOf_ok, require_ok, demand_ok, Value.asStr_eq_some]
  constructor
  · rintro ⟨_, ⟨-, rfl⟩, _, named, same⟩
    exact ⟨named, same⟩
  · rintro ⟨named, rfl⟩
    exact ⟨true, ⟨rfl, named⟩, (), rfl, rfl⟩

@[simp] theorem handled_literal {names : List String} {value : Value} {error : ε} :
    Handled (literal names value error) ↔ value.hashable := by
  simp [literal, handled_bind]

/-- The rest may rely on what has been read. -/
theorem handled_demand_bind {value : Option α} {error : ε} {rest : α → Check ε β} :
    Handled (demand value error >>= rest) ↔
      ∀ result, value = some result → Handled (rest result) := by
  simp only [handled_bind, handled_demand, true_and, demand_ok]

theorem handled_require_bind {holds : Prop} [Decidable holds] {error : ε}
    {rest : Unit → Check ε β} :
    Handled (require holds error >>= rest) ↔ (holds → Handled (rest ())) := by
  simp only [handled_bind, handled_require, true_and, require_ok]
  exact ⟨fun rest holds => rest () holds, fun rest _ => rest⟩

/-- Whether the rest raises its own errors only may depend on that something has been read. -/
theorem handled_demand_then {value : Option α} {error : ε} {rest : α → Check ε β}
    {later : Prop} (same : ∀ result, Handled (rest result) ↔ later) :
    Handled (demand value error >>= rest) ↔ (value.isSome → later) := by
  rw [handled_demand_bind, Option.isSome_iff_exists, exists_imp]
  exact forall₂_congr fun result _ => same result

theorem handled_literal_then {names : List String} {value : Value} {error : ε}
    {rest : Text → Check ε β} {later : Prop} (same : ∀ name, Handled (rest name) ↔ later) :
    Handled (literal names value error >>= rest) ↔
      value.hashable ∧ (value.isName names → later) := by
  rw [handled_bind, handled_literal]
  refine and_congr_right fun _ => ⟨fun each named => ?_, fun each name read => ?_⟩
  · cases value with
    | str name => exact (same name).mp (each name (literal_ok.mpr ⟨named, rfl⟩))
    | _ => exact absurd named (by simp [Value.isName, Value.asStr])
  · exact (same name).mpr (each (literal_ok.mp read).1)

end Checks

end HidBot.Python
