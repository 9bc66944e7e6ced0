import Mathlib.Data.List.Nodup
import NxccBridge.Core.RoundTrip

/-!
# Derived serialization over JSON values

The values of JSON text and what derived code does with them: a record is
written as an object of its fields and read from an object or an array, and an
enumeration without tags is read by the first alternative that accepts.
-/

namespace NxccBridge.Serde

open NxccBridge.RoundTrip

inductive JsonValue
  | null
  | bool (value : Bool)
  | posInt (value : UInt64)
  | negInt (value : Int64)
  | float (bits : UInt64)
  | string (value : String)
  | array (elements : List JsonValue)
  | object (members : List (String × JsonValue))

/-- Why a value is not read.  Of several reasons one is reported. -/
inductive SerdeError
  | syntaxError (message : String)
  | invalidType (expected : String)
  | invalidValue (message : String)
  | invalidLength (length : ℕ)
  | missingField (name : String)
  | duplicateField (name : String)
  | noVariant (enumeration : String)
  deriving DecidableEq

/-! ## Records -/

/-- The fields of a record: the members of an object that it names, or the
elements of an array in its order.  Other members are ignored. -/
def structFields (names : List String) :
    JsonValue → Except SerdeError (String → Option JsonValue)
  | .object members =>
      match names.find? fun name => 1 < (members.map Prod.fst).count name with
      | some name => .error (.duplicateField name)
      | none => .ok fun name => members.lookup name
  | .array elements =>
      if elements.length = names.length then
        .ok fun name => (names.zip elements).lookup name
      else .error (.invalidLength elements.length)
  | _ => .error (.invalidType "struct")

/-- An object with the names of the record gives its members. -/
theorem structFields_object {names : List String} (hnodup : names.Nodup)
    {members : List (String × JsonValue)}
    (hmembers : members.map Prod.fst = names) :
    structFields names (.object members) =
      .ok fun name => members.lookup name := by
  have hfound : names.find? (fun name =>
      1 < (members.map Prod.fst).count name) = none := by
    rw [List.find?_eq_none]
    intro name _
    have hcount := List.nodup_iff_count_le_one.mp hnodup name
    simpa [hmembers] using hcount
  simp only [structFields, hfound]

/-- A field that has to be there. -/
def required {Value : Type} (fields : String → Option JsonValue)
    (name : String) (read : JsonValue → Except SerdeError Value) :
    Except SerdeError Value :=
  match fields name with
  | some value => read value
  | none => .error (.missingField name)

/-- An optional field, which may also be null. -/
def optional {Value : Type} (fields : String → Option JsonValue)
    (name : String) (read : JsonValue → Except SerdeError Value) :
    Except SerdeError (Option Value) :=
  match fields name with
  | none => .ok none
  | some .null => .ok none
  | some value => do
      let value ← read value
      .ok (some value)

def nullable {Value : Type} (write : Value → JsonValue) :
    Option Value → JsonValue
  | none => .null
  | some value => write value

theorem required_of_lookup {Value : Type}
    {fields : String → Option JsonValue} {name : String} {value : JsonValue}
    (read : JsonValue → Except SerdeError Value)
    (hfield : fields name = some value) :
    required fields name read = read value := by
  rw [required, hfield]

theorem optional_of_lookup {Value : Type}
    {fields : String → Option JsonValue} {name : String} {value : JsonValue}
    (read : JsonValue → Except SerdeError Value)
    (hfield : fields name = some value) (hnull : value ≠ .null) :
    optional fields name read = (read value >>= fun result =>
      .ok (some result)) := by
  rw [optional, hfield]
  cases value with
  | null => exact absurd rfl hnull
  | _ => rfl

/-- An optional field whose values are not written as null is read as it
was. -/
theorem optional_nullable {Value : Type}
    {fields : String → Option JsonValue} {name : String}
    {write : Value → JsonValue} {read : JsonValue → Except SerdeError Value}
    {field : Option Value} (hfield : fields name = some (nullable write field))
    (hread : ∀ value, field = some value →
      write value ≠ .null ∧ read (write value) = .ok value) :
    optional fields name read = .ok field := by
  cases field with
  | none =>
      rw [optional, hfield]
      rfl
  | some value =>
      obtain ⟨hnull, hvalue⟩ := hread value rfl
      rw [optional_of_lookup read hfield hnull, nullable, hvalue, ok_bind]

/-! ## Plain values -/

def readUnit : JsonValue → Except SerdeError Unit
  | .null => .ok ()
  | _ => .error (.invalidType "unit")

def readBool : JsonValue → Except SerdeError Bool
  | .bool value => .ok value
  | _ => .error (.invalidType "a boolean")

def readU64 : JsonValue → Except SerdeError UInt64
  | .posInt value => .ok value
  | .negInt _ => .error (.invalidValue "expected u64")
  | _ => .error (.invalidType "u64")

def readString : JsonValue → Except SerdeError String
  | .string value => .ok value
  | _ => .error (.invalidType "a string")

def readArray {Value : Type} (read : JsonValue → Except SerdeError Value) :
    JsonValue → Except SerdeError (List Value)
  | .array elements => elements.mapM read
  | _ => .error (.invalidType "a sequence")

/-! ## Enumerations without tags -/

/-- The result of the first alternative that reads the value. -/
def firstMatch {Value : Type} (enumeration : String) :
    List (JsonValue → Except SerdeError Value) → JsonValue →
      Except SerdeError Value
  | [], _ => .error (.noVariant enumeration)
  | alternative :: rest, value =>
      match alternative value with
      | .ok result => .ok result
      | .error _ => firstMatch enumeration rest value

theorem firstMatch_cons_of_ok {Value : Type} (enumeration : String)
    {alternative : JsonValue → Except SerdeError Value}
    {rest : List (JsonValue → Except SerdeError Value)} {value : JsonValue}
    {result : Value} (hresult : alternative value = .ok result) :
    firstMatch enumeration (alternative :: rest) value = .ok result := by
  rw [firstMatch, hresult]

end NxccBridge.Serde
