import Stencil.Value.Basic

/-!
# Editing a record

A record's entries are set, removed and looked at one by one.
-/

namespace Stencil

/-- What can be done to a record. -/
inductive RecordStep where
  | set (name : String) (value : Value)
  | remove (name : String)
  | get (name : String)
  | names
  | text
  | describe

/-- What a step answers. -/
inductive RecordAnswer where
  | text (shown : String)
  | value (value : Value)
  | removed (value : Option Value)
  | names (names : List String)

namespace Value

/-- The text of a record with the given entries. -/
def recordText (entries : Named Value) : String := Datum.written (.record 0 Option.none entries)

/-- Performs a step on the entries of a record. -/
def editEntries (entries : Named Value) : RecordStep → RecordAnswer × Named Value
  | .set name value =>
    let changed := entries.put name value
    (.text (recordText changed), changed)
  | .remove name => (.removed (entries.get? name), entries.drop name)
  | .get name => (.value (ofRecord entries name), entries)
  | .names => (.names entries.names, entries)
  | .text => (.text (recordText entries), entries)
  | .describe => (.text (describedEntries entries), entries)

/-- An entry that was set is what the record answers with. -/
theorem get_after_set (entries : Named Value) (name : String) (value : Value) :
    (editEntries (editEntries entries (.set name value)).2 (.get name)).1 = .value value := by
  simp [editEntries, ofRecord]

end Value

end Stencil
