import Stencil.Host.Basic
import Stencil.Policy.Basic
import Stencil.Text.Casing
import Stencil.Text.Quoted

/-!
# Contexts

The data that a template is rendered with: a stack of scopes, innermost first,
the policies, and the directory for created files. A name is looked up from the
innermost scope outwards and is always set in the innermost one. The outermost
scope cannot be popped, so there is always an innermost one.
-/

namespace Stencil

/-- A context. Escape policies stand under normal extensions, one of which may
be active. -/
structure Context where
  inner : Named Value
  outer : List (Named Value)
  outputDirectory : Option String
  escapers : Named Escaper
  active : Option String
  spacer : Option Spacer

namespace Context

/-- A context with one empty scope and nothing else. -/
def empty : Context := ⟨[], [], none, [], none, none⟩

/-- A context whose one scope holds the given entries. -/
def ofEntries (entries : Named Value) : Context := { empty with inner := entries }

/-- Opens a scope. -/
def push (context : Context) (scope : Named Value) : Context :=
  { context with inner := scope, outer := context.inner :: context.outer }

/-- Closes the innermost scope, unless it is the only one. -/
def pop (context : Context) : Context :=
  match context.outer with
  | [] => context
  | next :: outer => { context with inner := next, outer := outer }

/-- Sets a name in the innermost scope. -/
def set (context : Context) (name : String) (value : Value) : Context :=
  { context with inner := context.inner.put name value }

/-- The scopes, innermost first. -/
def scopes (context : Context) : List (Named Value) := context.inner :: context.outer

/-- The value of a name in the innermost scope that has it. -/
def find? (context : Context) (name : String) : Option Value :=
  (context.inner :: context.outer).findSome? fun scope => scope.get? name

/-- Follows the segments of a dotted name. A segment that is the numeral of an
index is looked up as one. -/
def follow (value : Value) : List String → Hosted Value
  | [] => return value
  | segment :: rest => do
    let next := match Text.readIndex segment with
      | some index => value.element? index
      | none => value.field? segment
    match next with
    | some found => follow (← found.invoked) rest
    | none => return .none

/-- The value of a dotted name; nothing if it leads nowhere. -/
def get (context : Context) (name : String) : Hosted Value :=
  match (splitOn (· = '.') name.toList).map String.ofList with
  | [] => return .none
  | first :: rest =>
    match context.find? first with
    | some value => do follow (← value.invoked) rest
    | none => return .none

/-- The extension without leading dots, in small letters. -/
def normalExtension (extension : String) : String :=
  Text.asciiLower (String.ofList (extension.toList.dropWhile (· = '.')))

/-- Registers an escape policy for an extension. -/
def setEscapePolicy (context : Context) (extension : String) (policy : EscapePolicy) : Context :=
  { context with
    escapers := context.escapers.put (normalExtension extension) (.unused extension policy) }

/-- A policy is registered for the extension. -/
def hasPolicy (context : Context) (extension : String) : Bool :=
  context.escapers.has (normalExtension extension)

/-- Makes the policy of an extension the active one; none if it has no policy. -/
def select (context : Context) (extension : String) : Context :=
  { context with
    active := if context.hasPolicy extension then some (normalExtension extension) else none }

/-- Registers the spaceless policy. -/
def setSpaceless (context : Context) (policy : SpacelessPolicy) : Context :=
  { context with spacer := some (.unused policy) }

/-- The active policy with the extension it stands under. -/
def activeEscaper? (context : Context) : Option (String × Escaper) :=
  context.active.bind fun extension =>
    (context.escapers.get? extension).map fun escaper => (extension, escaper)

/-- Escapes a text by the active policy; without one it stays as it is. -/
def escape (context : Context) (text : String) : String × Context :=
  match context.activeEscaper? with
  | some (extension, escaper) =>
    let escaped := escaper.escape text
    (escaped.1, { context with escapers := context.escapers.put extension escaped.2 })
  | none => (text, context)

/-- Tells the active policy that tabbing is switched on or off. -/
def switchTabbing (context : Context) (on : Bool) : List Notice × Context :=
  match context.activeEscaper? with
  | some (extension, escaper) =>
    let told := escaper.switchTabbing on
    (told.1, { context with escapers := context.escapers.put extension told.2 })
  | none => ([], context)

/-- Changes the text of a spaceless region by the policy, if there is one. -/
def removeSpace (context : Context) (text : String) : String × List Notice × Context :=
  match context.spacer with
  | some spacer =>
    let removed := spacer.remove text
    (removed.1, removed.2.1, { context with spacer := some removed.2.2 })
  | none => (text, [], context)

/-- Exchanges the contents under a mark in all scopes. -/
def renew (context : Context) (mark : Nat) (contents : Datum) : Context :=
  { context with
    inner := entriesRenewed mark contents context.inner
    outer := context.outer.map (entriesRenewed mark contents) }

/-- The context, described: its scopes, outermost first, and its settings. -/
def described (context : Context) : String :=
  let scopes := (context.inner :: context.outer).reverse.map Value.describedEntries
  "Context \x7b scopes: [" ++ ", ".intercalate scopes ++ "], output_dir: "
    ++ Text.shownOption (context.outputDirectory.map Text.quote) ++ ", escapes: ["
    ++ ", ".intercalate (context.escapers.names.map Text.quote) ++ "], active_escape: "
    ++ Text.shownOption (context.active.map Text.quote) ++ ", spaceless: "
    ++ (if context.spacer.isSome then "true" else "false") ++ " \x7d"

/-- The active policy is the one that is registered under the active extension. -/
theorem activeEscaper?_eq_some {context : Context} {extension : String} {escaper : Escaper}
    (found : context.activeEscaper? = some (extension, escaper)) :
    context.active = some extension ∧ context.escapers.get? extension = some escaper := by
  obtain ⟨name, selected, here⟩ := Option.bind_eq_some_iff.mp found
  obtain ⟨own, registered, same⟩ := Option.map_eq_some_iff.mp here
  cases same
  exact ⟨selected, registered⟩

/-- A text is escaped by the active policy, which has been used then; without one there is no
change. -/
theorem escape_cases (context : Context) (text : String) :
    context.activeEscaper? = none ∧ context.escape text = (text, context) ∨
      ∃ extension escaper, context.active = some extension ∧
        context.escapers.get? extension = some escaper ∧
        context.escape text = ((escaper.escape text).1,
          { context with escapers := context.escapers.put extension (escaper.escape text).2 }) := by
  unfold escape
  cases found : context.activeEscaper? with
  | none => exact Or.inl ⟨rfl, rfl⟩
  | some active =>
    obtain ⟨extension, escaper⟩ := active
    obtain ⟨selected, registered⟩ := activeEscaper?_eq_some found
    exact Or.inr ⟨extension, escaper, selected, registered, rfl⟩

/-- So it is with what is told about tabbing. -/
theorem switchTabbing_cases (context : Context) (on : Bool) :
    context.activeEscaper? = none ∧ context.switchTabbing on = ([], context) ∨
      ∃ extension escaper, context.active = some extension ∧
        context.escapers.get? extension = some escaper ∧
        context.switchTabbing on = ((escaper.switchTabbing on).1, { context with
          escapers := context.escapers.put extension (escaper.switchTabbing on).2 }) := by
  unfold switchTabbing
  cases found : context.activeEscaper? with
  | none => exact Or.inl ⟨rfl, rfl⟩
  | some active =>
    obtain ⟨extension, escaper⟩ := active
    obtain ⟨selected, registered⟩ := activeEscaper?_eq_some found
    exact Or.inr ⟨extension, escaper, selected, registered, rfl⟩

/-- Closing the scope that was opened gives the context back. -/
@[simp] theorem pop_push (context : Context) (scope : Named Value) :
    (context.push scope).pop = context := rfl

/-- A name that was set is found. -/
@[simp] theorem find?_set_self (context : Context) (name : String) (value : Value) :
    (context.set name value).find? name = some value := by
  simp [find?, set]

/-- Setting one name does not touch another. -/
theorem find?_set_of_ne (context : Context) (name asked : String) (value : Value)
    (different : asked ≠ name) : (context.set name value).find? asked = context.find? asked := by
  simp only [find?, set, List.findSome?_cons, Named.get?_put_of_ne _ _ _ _ different]

end Context

end Stencil
