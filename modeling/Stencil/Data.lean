import Stencil.Context
import Stencil.Fault.Basic
import Stencil.Number.Shortest

/-!
# Data

Data of the host's own that values are made of. Maps and fields become records,
sequences become lists, and a variant that holds data becomes a record with one
entry under the name of the variant. Numbers that are not integers become their
decimal texts. What has no value is a fault: an integer out of range, a key that
is neither a text nor an integer nor a truth value, and data that refuses.
-/

namespace Stencil

open Number (Binary BinaryFormat)

/-- Data of the host. -/
inductive Data where
  | unit
  | boolean (value : Bool)
  | integer (value : Int)
  | unsupported (type : String)
  | number (format : BinaryFormat) (value : Binary)
  | text (value : String)
  | bytes (values : List UInt8)
  | wrapped (inner : Data)
  | variant (name : String) (inner : Data)
  | sequence (items : List Data)
  | mapping (entries : List (Data × Data))
  | keyless (inner : Data)
  | fields (fields : List (String × Data))
  | refusing (reason : String)

/-- A value made of data, or the cause why there is none. -/
abbrev Conversion (α : Type) := ExceptT Cause Fresh α

namespace Data

/-- The name of an entry, from the value of its key. -/
def keyText (key : Value) : Except Cause String :=
  match key.datum with
  | .text _ | .integer _ | .boolean _ => .ok key.written
  | _ => .error .keyNotText

mutual

/-- The value made of some data. -/
def toValue : Data → Conversion Value
  | .unit => return .none
  | .boolean value => return .boolean value
  | .integer value =>
    match Text.toWord? value with
    | some word => return .integer word
    | none => throw .integerRange
  | .unsupported type => throw (.unsupported type)
  | .number format value => return .text (format.text value)
  | .text value => return .text value
  | .bytes values => Value.newList (values.map fun byte => .natural byte.toNat)
  | .wrapped inner => inner.toValue
  | .variant name inner => do
    let value ← inner.toValue
    Value.newRecord [(name, value)]
  | .sequence items => do
    let values ← itemsToValues items
    Value.newList values
  | .mapping entries => do
    let values ← entriesToValues entries
    Value.newRecord values
  | .keyless _ => throw .valueBeforeKey
  | .fields members => do
    let values ← fieldsToValues members
    Value.newRecord values
  | .refusing reason => throw (.custom reason)
termination_by structural data => data

/-- The values of the elements of a sequence, in order. -/
def itemsToValues : List Data → Conversion (List Value)
  | [] => return []
  | item :: rest => do
    let value ← item.toValue
    return value :: (← itemsToValues rest)
termination_by structural items => items

/-- The values of the entries of a map with the texts of their keys, in order. -/
def entriesToValues : List (Data × Data) → Conversion (List (String × Value))
  | [] => return []
  | (key, inner) :: rest => do
    let name ← keyText (← key.toValue)
    let value ← inner.toValue
    return (name, value) :: (← entriesToValues rest)
termination_by structural entries => entries

/-- The values of fields with their names, in order. -/
def fieldsToValues : List (String × Data) → Conversion (List (String × Value))
  | [] => return []
  | (name, inner) :: rest => do
    let value ← inner.toValue
    return (name, value) :: (← fieldsToValues rest)
termination_by structural members => members

end

end Data

/-- The entries of a value that is a record; no other value is a context. -/
def Value.scope (value : Value) : Except Cause (Named Value) :=
  match value.datum with
  | .record _ _ entries => .ok entries
  | _ => .error (.notFields value.label)

/-- A context with the entries of some data in its one scope. -/
def Context.ofData (data : Data) : Conversion Context := do
  let value ← data.toValue
  let entries ← value.scope
  return .ofEntries entries

end Stencil
