import Stencil.Proofs.Hereditary

/-!
# Harmless values

A value is harmless, with regard to a sign, if nothing in it is written without
escaping although it contains the sign, and if there is no callable in it; this
goes for the values inside of lists and records too. The main statement is that an
expression has a harmless value where all scopes hold harmless values only, if it uses
no filter but the builtin ones, and not the one that marks values as raw.
-/

namespace Stencil

/-- The sign does not occur in the text. -/
def Text.lacks (sign : Char) (text : String) : Bool := !text.toList.contains sign

namespace Text

/-- A text lacks a sign if the sign is not among its characters. -/
theorem lacks_iff (sign : Char) (text : String) : lacks sign text = true ↔ sign ∉ text.toList := by
  simp [lacks]

/-- Nothing is missing a sign in the empty text. -/
@[simp] theorem lacks_empty (sign : Char) : lacks sign "" = true := by
  simp [lacks]

/-- Two texts one after the other lack a sign if both do. -/
@[simp] theorem lacks_append (sign : Char) (first second : String) :
    lacks sign (first ++ second) = (lacks sign first && lacks sign second) := by
  simp [lacks]

end Text

namespace Value

/-- A value that is neither raw nor a callable. -/
def isPlain (value : Value) : Bool := !value.raw && !value.isCallable

/-- A value that is no callable, and that lacks the sign if it is raw. -/
def isHarmless (sign : Char) (value : Value) : Bool :=
  (!value.raw || Text.lacks sign value.written) && !value.isCallable

/-- Nothing in the value is raw, and there is no callable in it. -/
def plainThroughout (value : Value) : Bool := value.every isPlain

/-- Everything raw in the value lacks the sign, and there is no callable in it. -/
def harmless (sign : Char) (value : Value) : Bool := value.every (isHarmless sign)

variable {sign : Char} {value argument : Value}

/-- A harmless value is one by itself, and all inside of it is harmless. -/
theorem harmless_iff : value.harmless sign = true ↔
    value.isHarmless sign = true ∧ value.datum.every (isHarmless sign) = true := by
  obtain ⟨datum, raw⟩ := value
  simp [harmless, Value.every]

/-- What is plain is harmless with regard to every sign. -/
theorem harmless_of_plainThroughout (isPlain : value.plainThroughout = true) :
    value.harmless sign = true := by
  refine Value.every_weaken (fun inside plain => ?_) value isPlain
  obtain ⟨notRaw, notCallable⟩ := Bool.and_eq_true_iff.mp plain
  simp only [isHarmless, notRaw, notCallable, Bool.true_or, Bool.and_true]

/-- A harmless value that is raw lacks the sign. -/
theorem lacks_of_harmless (isHarmless : value.harmless sign = true) (raw : value.raw = true) :
    Text.lacks sign value.written = true := by
  have own := (harmless_iff.mp isHarmless).1
  simp only [Value.isHarmless, raw, Bool.not_true, Bool.false_or, Bool.and_eq_true] at own
  exact own.1

/-- A harmless value is no callable. -/
theorem not_isCallable_of_harmless (isHarmless : value.harmless sign = true) :
    value.isCallable = false := by
  have own := (harmless_iff.mp isHarmless).1
  simp only [Value.isHarmless, Bool.and_eq_true, Bool.not_eq_true'] at own
  exact own.2

/-- A text that is escaped when it is written is harmless. -/
@[simp] theorem harmless_text (text : String) : (Value.text text).harmless sign = true := rfl

/-- Nothing is harmless. -/
@[simp] theorem harmless_none : Value.none.harmless sign = true := rfl

/-- A truth value is harmless. -/
@[simp] theorem harmless_boolean (truth : Bool) : (Value.boolean truth).harmless sign = true := rfl

/-- An integer is harmless. -/
@[simp] theorem harmless_integer (number : Int64) :
    (Value.integer number).harmless sign = true := rfl

/-- A raw text is harmless if it lacks the sign. -/
theorem harmless_rawText {text : String} (lacking : Text.lacks sign text = true) :
    (Value.rawText text).harmless sign = true := by
  refine harmless_iff.mpr ⟨?_, rfl⟩
  simp [isHarmless, rawText, isCallable, Value.written, Datum.written, lacking]

/-- A list that is not raw is harmless if its elements are. -/
theorem harmless_list {mark : Nat} {items : List Value}
    (all : ∀ item ∈ items, item.harmless sign = true) :
    (plain (.list mark items)).harmless sign = true :=
  harmless_iff.mpr ⟨rfl, (itemsEvery_iff _ items).mpr all⟩

/-- A record that is not raw is harmless if its entries are. -/
theorem harmless_record {mark : Nat} {listed : Option (List String)}
    {entries : List (String × Value)} (all : ∀ entry ∈ entries, entry.2.harmless sign = true) :
    (plain (.record mark listed entries)).harmless sign = true :=
  harmless_iff.mpr ⟨rfl, (entriesEvery_iff _ entries).mpr all⟩

/-- The entries of a harmless record are harmless. -/
theorem harmless_entries {mark : Nat} {listed : Option (List String)}
    {entries : List (String × Value)} (isHarmless : value.harmless sign = true)
    (record : value.datum = .record mark listed entries) :
    ∀ entry ∈ entries, entry.2.harmless sign = true := by
  have inside := (harmless_iff.mp isHarmless).2
  rw [record] at inside
  exact (entriesEvery_iff _ entries).mp inside

/-- The elements of a harmless list are harmless. -/
theorem harmless_items {mark : Nat} {items : List Value} (isHarmless : value.harmless sign = true)
    (list : value.datum = .list mark items) : ∀ item ∈ items, item.harmless sign = true := by
  have inside := (harmless_iff.mp isHarmless).2
  rw [list] at inside
  exact (itemsEvery_iff _ items).mp inside

/-- Harmlessness is passed on. -/
theorem harmless_hereditary : Hereditary fun value => value.harmless sign = true where
  none := harmless_none
  boolean := harmless_boolean
  integer := harmless_integer
  text := harmless_text
  list := fun _ _ all => harmless_list all
  items := harmless_items
  entries := harmless_entries
  notCallable := not_isCallable_of_harmless

end Value

/-- All values in some scopes are harmless. -/
def Scopes.Harmless (sign : Char) (scopes : List (Named Value)) : Prop :=
  ∀ scope ∈ scopes, ∀ entry ∈ scope, entry.2.harmless sign = true

/-- No expression in it uses the filter that marks values as raw. -/
def Expr.usesNoRaw (expression : Expr) : Bool :=
  expression.obeys (fun _ => true) fun filter => filter ≠ "raw"

/-- Where all scopes hold harmless values only, an expression that does not mark values
as raw has a harmless value. -/
theorem Expr.harmless_evaluate {sign : Char} {context : Context}
    (scopes : Scopes.Harmless sign context.scopes) (expression : Expr)
    (obeyed : expression.usesNoRaw = true) :
    Hosted.Yields (fun value => value.harmless sign = true)
      (expression.evaluate Filter.builtins context) :=
  Expr.good_evaluate Value.harmless_hereditary (fun isRaw => by simp at isRaw) scopes expression
    obeyed

end Stencil
