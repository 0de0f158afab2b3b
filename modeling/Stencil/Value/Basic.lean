import Stencil.Named
import Stencil.Text.Decimal
import Stencil.Text.Quoted

/-!
# Values

What a template can see. A value is a datum with a raw flag, which says that it
is written without escaping. Lists and records carry a mark: the host's handle
that they were reached through. Two of them are the same when their marks are,
whatever they hold. A record lists its own names unless it was given names to
list, which need not be those it has entries for.
-/

namespace Stencil

mutual

/-- The data of a value, regardless of escaping. -/
inductive Datum where
  | none
  | boolean (value : Bool)
  | integer (value : Int64)
  | text (value : String)
  | record (mark : Nat) (listed : Option (List String)) (entries : List (String × Value))
  | list (mark : Nat) (items : List Value)
  | callable (mark : Nat)

/-- A datum with the flag that keeps it from being escaped. -/
structure Value where
  datum : Datum
  raw : Bool

end

/-- A source of marks that were not used before. -/
abbrev Fresh (α : Type) := StateM Nat α

namespace Fresh

/-- The next unused mark. -/
def mark : Fresh Nat := fun unused => (unused, unused + 1)

/-- No mark is handed out twice. -/
theorem mark_lt (unused : Nat) : (mark.run unused).1 < (mark.run unused).2 :=
  Nat.lt_succ_self unused

end Fresh

namespace Datum

/-- What messages call a datum. -/
def label : Datum → String
  | none => "none"
  | boolean _ => "bool"
  | integer _ => "integer"
  | text _ => "string"
  | record .. => "struct"
  | list .. => "list"
  | callable _ => "callable"

/-- A short word for the kind of a datum. -/
def word : Datum → String
  | none => "none"
  | boolean _ => "bool"
  | integer _ => "int"
  | text _ => "str"
  | record .. => "struct"
  | list .. => "list"
  | callable _ => "fn"

/-- The names that a record with the given entries lists. -/
def listedNames {α : Type} (listed : Option (List String)) (entries : List (String × α)) :
    List String :=
  listed.getD (Named.names entries)

end Datum

instance : Inhabited Value := ⟨⟨.none, false⟩⟩

mutual

/-- The text of a datum, as a template writes it. Lists and records are shown
with brackets around their elements; nothing and callables have no text. -/
def Datum.written : Datum → String
  | .none => ""
  | .boolean value => if value then "true" else "false"
  | .integer value => Text.decimalWord value
  | .text value => value
  | .record _ listed entries =>
    let texts := entriesWritten entries
    "\x7b" ++ ", ".intercalate ((Datum.listedNames listed texts).map fun name =>
      name ++ ": " ++ (Named.get? texts name).getD "") ++ "\x7d"
  | .list _ items => "[" ++ ", ".intercalate (itemsWritten items) ++ "]"
  | .callable _ => ""
termination_by structural datum => datum

/-- The text of a value. -/
def Value.written : Value → String
  | ⟨datum, _⟩ => datum.written
termination_by structural value => value

/-- The texts of the elements of a list. -/
def itemsWritten : List Value → List String
  | [] => []
  | item :: rest => item.written :: itemsWritten rest
termination_by structural items => items

/-- The texts of the entries of a record, under their names. -/
def entriesWritten : List (String × Value) → List (String × String)
  | [] => []
  | (name, value) :: rest => (name, value.written) :: entriesWritten rest
termination_by structural entries => entries

end

mutual

/-- The datum in which the contents under a mark were exchanged for new ones. -/
def Datum.renew (mark : Nat) (contents : Datum) : Datum → Datum
  | .record own listed entries =>
    if own = mark then contents else .record own listed (entriesRenewed mark contents entries)
  | .list own items =>
    if own = mark then contents else .list own (itemsRenewed mark contents items)
  | .none => .none
  | .boolean value => .boolean value
  | .integer value => .integer value
  | .text value => .text value
  | .callable own => .callable own
termination_by structural datum => datum

/-- The value in which the contents under a mark were exchanged for new ones. -/
def Value.renew (mark : Nat) (contents : Datum) : Value → Value
  | ⟨datum, raw⟩ => ⟨Datum.renew mark contents datum, raw⟩
termination_by structural value => value

/-- The elements in which the contents under a mark were exchanged. -/
def itemsRenewed (mark : Nat) (contents : Datum) : List Value → List Value
  | [] => []
  | item :: rest => item.renew mark contents :: itemsRenewed mark contents rest
termination_by structural items => items

/-- The entries in which the contents under a mark were exchanged. -/
def entriesRenewed (mark : Nat) (contents : Datum) : List (String × Value) → List (String × Value)
  | [] => []
  | (name, value) :: rest =>
    (name, value.renew mark contents) :: entriesRenewed mark contents rest
termination_by structural entries => entries

end

namespace Value

/-- A value that is escaped when it is written. -/
def plain (datum : Datum) : Value := ⟨datum, false⟩

/-- Nothing. -/
def none : Value := plain .none

/-- A truth value. -/
def boolean (value : Bool) : Value := plain (.boolean value)

/-- An integer. -/
def integer (value : Int64) : Value := plain (.integer value)

/-- A natural number, wrapped to a signed 64-bit word. -/
def natural (value : Nat) : Value := plain (.integer (Int64.ofNat value))

/-- A text. -/
def text (value : String) : Value := plain (.text value)

/-- A text that is written as it is. -/
def rawText (value : String) : Value := ⟨.text value, true⟩

/-- A new list. -/
def newList (items : List Value) : Fresh Value :=
  return plain (.list (← Fresh.mark) items)

/-- A new record with the given entries. -/
def newRecord (entries : List (String × Value)) : Fresh Value :=
  return plain (.record (← Fresh.mark) Option.none (Named.ofPairs entries))

/-- What messages call the value. -/
def label (value : Value) : String := value.datum.label

/-- The value is nothing. -/
def isNone (value : Value) : Bool :=
  match value.datum with
  | .none => true
  | _ => false

/-- The value is a callable. -/
def isCallable (value : Value) : Bool :=
  match value.datum with
  | .callable _ => true
  | _ => false

/-- The text of the value, quoted and labelled so that its kind can be told. -/
def described (value : Value) : String :=
  let shown := match value.datum with
    | .none => "None"
    | .boolean b => "Bool(" ++ (if b then "true" else "false") ++ ")"
    | .integer n => "Integer(" ++ Text.decimalWord n ++ ")"
    | .text s => "String(" ++ Text.quote s ++ ")"
    | .record .. => "Struct(" ++ value.written ++ ")"
    | .list .. => "List(" ++ value.written ++ ")"
    | .callable _ => "Callable"
  if value.raw then "Raw(" ++ shown ++ ")" else shown

/-- Each entry's name, quoted, with its value, described, between braces. -/
def describedEntries (entries : Named Value) : String :=
  "\x7b" ++ ", ".intercalate (entries.map fun entry =>
    Text.quote entry.1 ++ ": " ++ entry.2.described) ++ "\x7d"

/-- Nothing, false, zero, and empty texts and lists are not truthy; records and
callables always are. -/
def truthy (value : Value) : Bool :=
  match value.datum with
  | .none => false
  | .boolean b => b
  | .integer n => n ≠ 0
  | .text s => s ≠ ""
  | .record .. => true
  | .list _ items => !items.isEmpty
  | .callable _ => true

/-- The value as an integer: a text by the numeral it holds, a list by its
length; zero where there is none. -/
def toInteger (value : Value) : Int64 :=
  match value.datum with
  | .boolean b => if b then 1 else 0
  | .integer n => n
  | .text s => (Text.readWord s).getD 0
  | .list _ items => Int64.ofNat items.length
  | _ => 0

/-- The integer that the value is, or that its text is the numeral of. -/
def integerLike? (value : Value) : Option Int64 :=
  match value.datum with
  | .integer n => some n
  | .text s => Text.readWord s
  | _ => Option.none

/-- The entry of a record under a name; nothing if it has none. -/
def ofRecord (entries : List (String × Value)) (name : String) : Value :=
  (Named.get? entries name).getD none

/-- The field of a record; a value that is not a record has no fields. -/
def field? (value : Value) (name : String) : Option Value :=
  match value.datum with
  | .record _ _ entries => some (ofRecord entries name)
  | _ => Option.none

/-- The element of a list, or the field of a record that the number names. -/
def element? (value : Value) (index : Nat) : Option Value :=
  match value.datum with
  | .list _ items => items[index]?
  | .record _ _ entries => some (ofRecord entries (Text.decimal index))
  | _ => Option.none

/-- What a loop goes over: the elements of a list, nothing for nothing, any
other value once. -/
def elements (value : Value) : List Value :=
  match value.datum with
  | .none => []
  | .list _ items => items
  | _ => [value]

/-- Two values are the same: lists and records by their marks, other values of
one kind by what they hold, values of different kinds by their texts. Nothing is
the same as nothing. -/
def same (left right : Value) : Bool :=
  match left.datum, right.datum with
  | .none, _ => false
  | _, .none => false
  | .boolean a, .boolean b => a = b
  | .integer a, .integer b => a = b
  | .record a .., .record b .. => a = b
  | .list a _, .list b _ => a = b
  | _, _ => left.written = right.written

/-- The order of two values: integers by size, other values by their texts.
Nothing has no place in the order. -/
def order? (left right : Value) : Option Ordering :=
  match left.datum, right.datum with
  | .none, _ => Option.none
  | _, .none => Option.none
  | .integer a, .integer b => some (compare a.toInt b.toInt)
  | _, _ => some (compare left.written right.written)

/-- Nothing is not the same as anything. -/
theorem same_none_left (value : Value) : same none value = false := rfl

end Value

end Stencil
