import Mathlib.Data.List.Basic

/-!
# Values on the wire

The JSON values that the two sides exchange, as the host sees them, and the readers
that its validators are made of.
-/

namespace HidBot.Wire

/-- A value of `json.loads`. The keys of a dictionary are distinct. -/
inductive Value where
  | null
  | bool (value : Bool)
  | int (value : Int)
  | float
  | str (text : String)
  | list (items : List Value)
  | dict (members : List (String × Value))

namespace Value

/-- `value[name]`. -/
def get (name : String) : Value → Option Value
  | dict members => (members.find? (·.1 == name)).map (·.2)
  | _ => none

/-- `isinstance(value, dict) and set(value) == fields`. -/
def hasExactly (fields : List String) : Value → Bool
  | dict members => members.all (fields.contains ·.1) && fields.all (members.map (·.1)).contains
  | _ => false

/-- `type(value) is bool`. -/
def asBool : Value → Option Bool
  | bool value => some value
  | _ => none

/-- `type(value) is int` between the bounds. -/
def asInt (low high : Int) : Value → Option Int
  | int value => if low ≤ value ∧ value ≤ high then some value else none
  | _ => none

/-- `isinstance(value, str)`. -/
def asStr : Value → Option String
  | str text => some text
  | _ => none

/-- A string of a finite set. -/
def asOneOf (texts : List String) (value : Value) : Option String :=
  value.asStr.filter texts.contains

/-- `None`, or what the reader accepts. -/
def asOptional {α : Type} (reader : Value → Option α) : Value → Option (Option α)
  | null => some none
  | value => (reader value).map some

end Value

/-! ### Checks -/

/-- A check that raises a `ProtocolError` with its message. -/
abbrev Checked := Except String

/-- A field that a reader accepts. -/
def demand {α : Type} (value : Option α) (message : String) : Checked α :=
  match value with
  | some value => .ok value
  | none => .error message

/-- A condition that is no reason to raise. -/
def require (holds : Prop) [Decidable holds] (message : String) : Checked Unit :=
  if holds then .ok () else .error message

section Checks

variable {α β : Type} {message : String} {result : β}

theorem bind_ok {check : Checked α} {rest : α → Checked β} :
    (check >>= rest) = .ok result ↔ ∃ value, check = .ok value ∧ rest value = .ok result := by
  cases check with
  | error message => exact ⟨nofun, nofun⟩
  | ok value =>
      refine ⟨fun same => ⟨value, rfl, same⟩, fun ⟨other, same, later⟩ => ?_⟩
      cases same
      exact later

theorem require_ok {holds : Prop} [Decidable holds] {result : Unit} :
    require holds message = .ok result ↔ holds := by
  by_cases here : holds
  · simp [require, here]
  · simp [require, here]

/-- A field is accepted, and then the rest. -/
theorem demand_then {value : Option α} {field : α} {rest : α → Checked β}
    (same : value = some field) (later : rest field = .ok result) :
    (demand value message >>= rest) = .ok result := by
  rw [same]
  exact later

/-- A condition holds, and then the rest. -/
theorem require_then {holds : Prop} [Decidable holds] {rest : Unit → Checked β} (here : holds)
    (later : rest () = .ok result) : (require holds message >>= rest) = .ok result := by
  rw [require, if_pos here]
  exact later

end Checks

end HidBot.Wire
