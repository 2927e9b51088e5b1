import Mathlib.Data.List.Basic

/-!
# Parsed requests

The JSON tree that the parser hands to the protocol, and the accessors and bounds
that the protocol applies to it.
-/

namespace HidBot.ControlProtocol

/-- A parsed value. A string stands for its bytes up to the first NUL, one
character for each byte, and a number for its value if that is an integer. -/
inductive Json where
  | null
  | bool (value : Bool)
  | number (value : Option Int)
  | string (text : String)
  | array (items : List Json)
  | object (members : List (String × Json))

namespace Json

def isObject : Json → Bool
  | object _ => true
  | _ => false

/-- `cJSON_GetObjectItemCaseSensitive`: the first member of that name. -/
def item (name : String) : Json → Option Json
  | object members => (members.find? (·.1 == name)).map (·.2)
  | _ => none

/-- The value of `is_integer_number`. -/
def integer : Option Json → Option Int
  | some (number value) => value
  | _ => none

/-- A member that is an integer between the bounds. -/
def integerWithin (name : String) (low high : Int) (json : Json) : Option Int :=
  (integer (json.item name)).filter fun value => low ≤ value ∧ value ≤ high

/-- `get_bounded_nonempty_string`. -/
def boundedNonemptyString (name : String) (maximumLength : Nat) (json : Json) : Option String :=
  match json.item name with
  | some (string text) =>
      if text.length = 0 ∨ text.length > maximumLength then none else some text
  | _ => none

/-- `object_has_only_fields`. -/
def hasOnlyFields (allowed : List String) : Json → Bool
  | object members => members.all fun member => allowed.contains member.1
  | _ => false

/-- `cJSON_GetArraySize`. -/
def size : Json → Nat
  | array items => items.length
  | object members => members.length
  | _ => 0

def maxJsonStringBytes : Nat := 64
def maxJsonObjectMembers : Nat := 8
def maxJsonArrayMembers : Nat := 8
def maxJsonDepth : Nat := 4
def maxSequenceCodeBytes : Nat := 320

mutual

/-- `is_json_tree_bounded`. The long string is the first one at the path `long`. -/
def treeBounded (depth : Nat) (long : Option (List String)) : Json → Bool
  | string text =>
      depth ≤ maxJsonDepth &&
        text.length ≤ if long = some [] then maxSequenceCodeBytes else maxJsonStringBytes
  | array items =>
      depth ≤ maxJsonDepth && items.length ≤ maxJsonArrayMembers && itemsBounded (depth + 1) items
  | object members =>
      depth ≤ maxJsonDepth && members.length ≤ maxJsonObjectMembers &&
        membersBounded (depth + 1) long members
  | _ => depth ≤ maxJsonDepth

def itemsBounded (depth : Nat) : List Json → Bool
  | [] => true
  | item :: items => treeBounded depth none item && itemsBounded depth items

def membersBounded (depth : Nat) (long : Option (List String)) : List (String × Json) → Bool
  | [] => true
  | (name, value) :: members =>
      let here := long.bind fun
        | step :: rest => if step = name then some rest else none
        | [] => none
      name.length ≤ maxJsonStringBytes && treeBounded depth here value &&
        membersBounded depth (if here.isSome then none else long) members

end

mutual

/-- `object_has_no_duplicate_keys`. -/
def noDuplicateKeys : Json → Bool
  | array items => itemsNoDuplicateKeys items
  | object members => decide (members.map (·.1)).Nodup && membersNoDuplicateKeys members
  | _ => true

def itemsNoDuplicateKeys : List Json → Bool
  | [] => true
  | item :: items => noDuplicateKeys item && itemsNoDuplicateKeys items

def membersNoDuplicateKeys : List (String × Json) → Bool
  | [] => true
  | (_, value) :: members => noDuplicateKeys value && membersNoDuplicateKeys members

end

end Json

end HidBot.ControlProtocol
