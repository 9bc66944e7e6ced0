import NxccBridge.Core.Serde
import NxccBridge.Core.Utf16

/-!
# JSON text in JavaScript

The values that `JSON.parse` makes of a text.  Numbers become doubles, strings
are sequences of code units, and of several members of one name the last is the
property.
-/

namespace NxccBridge.Js

open NxccBridge.Serde
open NxccBridge.Utf16

/-- A double is given by its bits. -/
inductive JsValue
  | null
  | bool (value : Bool)
  | number (bits : UInt64)
  | string (text : Units)
  | array (elements : List JsValue)
  | object (members : List (Units × JsValue))

/-- The property of an object: its last member of the name. -/
def get (name : Units) : List (Units × JsValue) → Option JsValue
  | [] => none
  | member :: rest =>
      (get name rest).or (if member.1 = name then some member.2 else none)

/-- A property of a value that is not an object with own members is absent. -/
def JsValue.property (value : JsValue) (name : String) : Option JsValue :=
  match value with
  | .object members => get (units name) members
  | _ => none

/-! ## What is read from a serialized value -/

section OfJson

-- The double next to an integer.
variable (toDouble : ℤ → UInt64)

mutual

def ofJson : JsonValue → JsValue
  | .null => .null
  | .bool value => .bool value
  | .posInt value => .number (toDouble value.toNat)
  | .negInt value => .number (toDouble value.toInt)
  | .float bits => .number bits
  | .string text => .string (units text)
  | .array elements => .array (ofElements elements)
  | .object members => .object (ofMembers members)

def ofElements : List JsonValue → List JsValue
  | [] => []
  | element :: rest => ofJson element :: ofElements rest

def ofMembers : List (String × JsonValue) → List (Units × JsValue)
  | [] => []
  | (name, value) :: rest => (units name, ofJson value) :: ofMembers rest

end

theorem units_injective : Function.Injective units := by
  intro left right heq
  exact String.toList_injective (encode_injective heq)

@[simp]
theorem length_ofElements (elements : List JsonValue) :
    (ofElements toDouble elements).length = elements.length := by
  induction elements with
  | nil => rfl
  | cons element rest ih => simp [ofElements, ih]

theorem get_ofMembers_eq_none {name : String}
    {members : List (String × JsonValue)}
    (hname : name ∉ members.map Prod.fst) :
    get (units name) (ofMembers toDouble members) = none := by
  induction members with
  | nil => rfl
  | cons member rest ih =>
      rw [List.map_cons, List.mem_cons, not_or] at hname
      have hunits : units member.1 ≠ units name := fun heq =>
        hname.1 (units_injective heq).symm
      rw [ofMembers, get, ih hname.2, if_neg hunits, Option.none_or]

/-- The members of a record are its properties. -/
theorem get_ofMembers {members : List (String × JsonValue)}
    (hnodup : (members.map Prod.fst).Nodup) (name : String) :
    get (units name) (ofMembers toDouble members) =
      (members.lookup name).map (ofJson toDouble) := by
  induction members with
  | nil => rfl
  | cons member rest ih =>
      rw [List.map_cons, List.nodup_cons] at hnodup
      obtain ⟨first, value⟩ := member
      rw [ofMembers, get, List.lookup_cons]
      by_cases hname : name = first
      · subst hname
        rw [get_ofMembers_eq_none toDouble hnodup.1, Option.none_or, if_pos rfl,
          beq_self_eq_true]
        rfl
      · have hunits : units first ≠ units name := fun heq =>
          hname (units_injective heq).symm
        rw [ih hnodup.2, if_neg hunits, Option.or_none,
          beq_eq_false_iff_ne.mpr hname]

theorem property_ofJson {members : List (String × JsonValue)}
    (hnodup : (members.map Prod.fst).Nodup) (name : String) :
    (ofJson toDouble (.object members)).property name =
      (members.lookup name).map (ofJson toDouble) :=
  get_ofMembers toDouble hnodup name

end OfJson

end NxccBridge.Js
