import Stencil.Rendering.Evaluation
import Stencil.Proofs.Wording

/-!
# Properties of values that are passed on

A property of values is hereditary if all that is inside of a value has it, if what is
made of values with the property has it, and if no callable does. The main statement is
that then the values of expressions have the property where the values in all scopes
do, as long as no filters but the builtin ones are there. As no value in reach is a
callable, nothing is ever called. A condition that is checked of a value and of all
values inside of it is such a property, if plain data satisfy it and callables do not.
-/

namespace Stencil

mutual

/-- All values inside of a datum satisfy a condition. -/
def Datum.every (accepted : Value → Bool) : Datum → Bool
  | .record _ _ entries => entriesEvery accepted entries
  | .list _ items => itemsEvery accepted items
  | .none => true
  | .boolean _ => true
  | .integer _ => true
  | .text _ => true
  | .callable _ => true
termination_by structural datum => datum

/-- The value satisfies a condition, and so do all values inside of it. -/
def Value.every (accepted : Value → Bool) : Value → Bool
  | ⟨datum, raw⟩ => accepted ⟨datum, raw⟩ && datum.every accepted
termination_by structural value => value

/-- All elements of a list satisfy a condition throughout. -/
def itemsEvery (accepted : Value → Bool) : List Value → Bool
  | [] => true
  | item :: rest => item.every accepted && itemsEvery accepted rest
termination_by structural items => items

/-- All entries of a record satisfy a condition throughout. -/
def entriesEvery (accepted : Value → Bool) : List (String × Value) → Bool
  | [] => true
  | (_, value) :: rest => value.every accepted && entriesEvery accepted rest
termination_by structural entries => entries

end

/-- All elements satisfy the condition when each does. -/
theorem itemsEvery_iff (accepted : Value → Bool) (items : List Value) :
    itemsEvery accepted items = true ↔ ∀ item ∈ items, item.every accepted = true := by
  induction items with
  | nil => simp [itemsEvery]
  | cons item rest inductionHypothesis => simp [itemsEvery, inductionHypothesis]

/-- All entries satisfy the condition when the value of each does. -/
theorem entriesEvery_iff (accepted : Value → Bool) (entries : List (String × Value)) :
    entriesEvery accepted entries = true ↔ ∀ entry ∈ entries, entry.2.every accepted = true := by
  induction entries with
  | nil => simp [entriesEvery]
  | cons entry rest inductionHypothesis =>
    obtain ⟨name, value⟩ := entry
    simp [entriesEvery, inductionHypothesis]

mutual

/-- A condition throughout a datum may be replaced by a weaker one. -/
theorem Datum.every_weaken {strict weak : Value → Bool}
    (weaker : ∀ value, strict value = true → weak value = true) (datum : Datum)
    (holds : datum.every strict = true) : datum.every weak = true := by
  cases datum with
  | record mark listed entries => exact entriesEvery_weaken weaker entries holds
  | list mark items => exact itemsEvery_weaken weaker items holds
  | none => rfl
  | boolean truth => rfl
  | integer number => rfl
  | text content => rfl
  | callable mark => rfl
termination_by structural datum

/-- So may one throughout a value. -/
theorem Value.every_weaken {strict weak : Value → Bool}
    (weaker : ∀ value, strict value = true → weak value = true) (value : Value)
    (holds : value.every strict = true) : value.every weak = true := by
  obtain ⟨datum, raw⟩ := value
  obtain ⟨own, inside⟩ := Bool.and_eq_true_iff.mp holds
  exact Bool.and_eq_true_iff.mpr ⟨weaker _ own, Datum.every_weaken weaker datum inside⟩
termination_by structural value

/-- So may one throughout all elements. -/
theorem itemsEvery_weaken {strict weak : Value → Bool}
    (weaker : ∀ value, strict value = true → weak value = true) (items : List Value)
    (holds : itemsEvery strict items = true) : itemsEvery weak items = true := by
  cases items with
  | nil => rfl
  | cons item rest =>
    obtain ⟨own, others⟩ := Bool.and_eq_true_iff.mp holds
    exact Bool.and_eq_true_iff.mpr
      ⟨Value.every_weaken weaker item own, itemsEvery_weaken weaker rest others⟩
termination_by structural items

/-- So may one throughout all entries. -/
theorem entriesEvery_weaken {strict weak : Value → Bool}
    (weaker : ∀ value, strict value = true → weak value = true) (entries : List (String × Value))
    (holds : entriesEvery strict entries = true) : entriesEvery weak entries = true := by
  cases entries with
  | nil => rfl
  | cons entry rest =>
    obtain ⟨name, value⟩ := entry
    obtain ⟨own, others⟩ := Bool.and_eq_true_iff.mp holds
    exact Bool.and_eq_true_iff.mpr
      ⟨Value.every_weaken weaker value own, entriesEvery_weaken weaker rest others⟩
termination_by structural entries

end

/-- The property is passed on from values to what is inside of them, and from the
elements to a new list; plain data have it, and callables do not. -/
structure Value.Hereditary (good : Value → Prop) : Prop where
  none : good .none
  boolean : ∀ truth, good (.boolean truth)
  integer : ∀ number, good (.integer number)
  text : ∀ content, good (.text content)
  list : ∀ mark items, (∀ item ∈ items, good item) → good (.plain (.list mark items))
  items : ∀ {value mark items}, good value → value.datum = .list mark items →
    ∀ item ∈ items, good item
  entries : ∀ {value mark listed entries}, good value → value.datum = .record mark listed entries →
    ∀ entry ∈ entries, good entry.2
  notCallable : ∀ {value}, good value → value.isCallable = false

namespace Value.Hereditary

variable {good : Value → Prop} (hereditary : Hereditary good) {value : Value}
include hereditary

/-- The entry of a record under a name is good if all are. -/
theorem ofRecord {entries : List (String × Value)} (all : ∀ entry ∈ entries, good entry.2)
    (name : String) : good (Value.ofRecord entries name) := by
  rw [Value.ofRecord]
  cases found : Named.get? entries name with
  | none => exact hereditary.none
  | some inside => exact all (name, inside) (Named.mem_of_get? found)

/-- What a loop goes over is good if the value is. -/
theorem elements (isGood : good value) : ∀ item ∈ value.elements, good item := by
  rw [Value.elements]
  split
  · exact fun item impossible => nomatch impossible
  · rename_i mark items list
    exact hereditary.items isGood list
  · intro item member
    have same : item = value := by simpa using member
    exact same ▸ isGood

/-- A field of a good value is good. -/
theorem field {name : String} {inside : Value} (isGood : good value)
    (found : value.field? name = some inside) : good inside := by
  unfold field? at found
  split at found
  · rename_i mark listed entries record
    have same : Value.ofRecord entries name = inside := Option.some.inj found
    exact same ▸ hereditary.ofRecord (hereditary.entries isGood record) name
  · cases found

/-- An element of a good value is good. -/
theorem element {index : Nat} {inside : Value} (isGood : good value)
    (found : value.element? index = some inside) : good inside := by
  unfold element? at found
  split at found
  · rename_i mark items list
    exact hereditary.items isGood list inside (List.mem_of_getElem? found)
  · rename_i mark listed entries record
    have same : Value.ofRecord entries (Text.decimal index) = inside := Option.some.inj found
    exact same ▸ hereditary.ofRecord (hereditary.entries isGood record) _
  · cases found

/-- A good value is not called. -/
theorem invoked (isGood : good value) : value.invoked = pure value := by
  have notCallable := hereditary.notCallable isGood
  rw [Value.invoked]
  split
  · rename_i mark callable
    simp [isCallable, callable] at notCallable
  · rfl

/-- What a segment leads to from a good value is good. -/
theorem leadFrom {key : Key} {next : Value} (isGood : good value)
    (found : key.leadFrom value = some next) : good next := by
  cases key with
  | field name => exact hereditary.field isGood found
  | index number written => exact hereditary.element isGood found

end Value.Hereditary

namespace Filter

/-- A filter keeps values good if it makes a good one of a good value, whatever good
argument it is given. -/
def Keeps (good : Value → Prop) (filter : Filter) : Prop :=
  ∀ value argument, good value → (∀ given, argument = some given → good given) →
    ∀ mark, good (filter.apply value argument mark).1

section Builtins

variable {good : Value → Prop} {value argument : Value}

/-- A filter without argument keeps values good if its function does. -/
theorem keeps_plain {apply : Value → Value} (keeps : ∀ value, good value → good (apply value)) :
    (plain apply).Keeps good :=
  fun value _ isGood _ _ => keeps value isGood

/-- One with an argument does if its function does. -/
theorem keeps_withArgument {apply : Value → Value → Value}
    (keeps : ∀ value argument, good value → good argument → good (apply value argument)) :
    (withArgument apply).Keeps good := by
  intro value argument isGood given mark
  cases argument with
  | none => exact isGood
  | some argument => exact keeps value argument isGood (given argument rfl)

/-- Changing texts keeps values good if what texts are changed to is. -/
theorem good_onText {change : String → Value} (changed : ∀ s, good (change s))
    (isGood : good value) : good (onText change value) := by
  rw [onText]
  split
  · exact changed _
  · exact isGood

/-- Both a value and what it falls back to are good. -/
theorem good_fallback (isGood : good value) (given : good argument) :
    good (fallback value argument) := by
  rw [fallback]
  split
  · exact isGood
  · exact given

variable (hereditary : Value.Hereditary good)
include hereditary

/-- A sum is a number or a text; otherwise a value stays. -/
theorem good_add (isGood : good value) (given : good argument) : good (add value argument) := by
  rw [add]
  split
  · exact given
  · extract_lets sum
    cases sum with
    | some sum => exact hereditary.integer sum
    | none =>
      split
      · exact hereditary.integer _
      · exact hereditary.text _
      · exact isGood

/-- What follows the last slash is a text; otherwise a value stays. -/
theorem good_stripPath (isGood : good value) : good (stripPath value) := by
  rw [stripPath]
  split
  · simp only []
    split
    · exact isGood
    · exact hereditary.text _
  · exact isGood

/-- An argument put before a value makes a text. -/
theorem good_prepend (isGood : good value) : good (prepend value argument) := by
  rw [prepend]
  split
  · exact hereditary.text _
  · exact isGood

/-- So does one put after it. -/
theorem good_append (isGood : good value) : good (append value argument) := by
  rw [append]
  split
  · exact hereditary.text _
  · exact isGood

/-- The field that an argument names is inside of the value. -/
theorem good_field (isGood : good value) : good (field value argument) := by
  rw [field]
  split
  · rename_i mark listed entries record
    exact hereditary.ofRecord (hereditary.entries isGood record) _
  · exact hereditary.none

/-- A numeral is a text; otherwise a value stays. -/
theorem good_hex (isGood : good value) : good (hex value) := by
  rw [hex]
  split
  · exact hereditary.text _
  · exact isGood

/-- A list stays, and a list of one good value is good. -/
theorem keeps_asList : (⟨.never, fun value _ => asList value⟩ : Filter).Keeps good := by
  intro value _ isGood _ mark
  have alone : good (Value.newList [value] mark).1 := by
    refine hereditary.list _ _ ?_
    intro item member
    have same : item = value := by simpa using member
    exact same ▸ isGood
  show good (asList value mark).1
  obtain ⟨datum, raw⟩ := value
  cases datum with
  | list own items => exact isGood
  | none => exact alone
  | boolean truth => exact alone
  | integer number => exact alone
  | text content => exact alone
  | record own listed entries => exact alone
  | callable own => exact alone

/-- The number of elements or characters is an integer. -/
theorem good_length : good (length value) := by
  rw [length]
  split
  · exact hereditary.integer _
  · exact hereditary.integer _
  · exact hereditary.none

/-- Whether one number divides another is a truth value. -/
theorem good_divisibleBy : good (divisibleBy value argument) := by
  rw [divisibleBy]
  split <;> exact hereditary.boolean _

/-- Whether a text is an absolute address is a truth value. -/
theorem good_isAbsoluteAddress : good (isAbsoluteAddress value) := by
  rw [isAbsoluteAddress]
  split <;> exact hereditary.boolean _

/-- Every builtin filter keeps values good, the one that marks values as raw if that
does. -/
theorem keeps_builtins {name : String} {filter : Filter} (found : builtins.get? name = some filter)
    (marking : name = "raw" → ∀ value, good value → good (raw value)) : filter.Keeps good := by
  have listed := Named.mem_of_mem_ofPairs (Named.mem_of_get? found)
  simp only [List.mem_cons, Prod.mk.injEq, List.not_mem_nil, or_false] at listed
  rcases listed with ⟨-, rfl⟩ | ⟨-, rfl⟩ | ⟨-, rfl⟩ | ⟨-, rfl⟩ | ⟨-, rfl⟩ | ⟨-, rfl⟩ | ⟨-, rfl⟩ |
    ⟨-, rfl⟩ | ⟨isRaw, rfl⟩ | ⟨-, rfl⟩ | ⟨-, rfl⟩ | ⟨-, rfl⟩ | ⟨-, rfl⟩ | ⟨-, rfl⟩ | ⟨-, rfl⟩
  · exact keeps_withArgument fun _ _ isGood given => good_fallback isGood given
  · exact keeps_plain fun _ _ => good_length hereditary
  · exact keeps_withArgument fun _ _ isGood given => good_add hereditary isGood given
  · exact keeps_withArgument fun _ _ _ _ => good_divisibleBy hereditary
  · exact keeps_plain fun _ isGood => good_stripPath hereditary isGood
  · exact keeps_plain fun _ isGood => good_onText (fun _ => hereditary.text _) isGood
  · exact keeps_withArgument fun _ _ isGood _ => good_prepend hereditary isGood
  · exact keeps_withArgument fun _ _ isGood _ => good_append hereditary isGood
  · exact keeps_plain (marking isRaw)
  · exact keeps_plain fun _ isGood => good_onText (fun _ => hereditary.text _) isGood
  · exact keeps_plain fun _ isGood => good_onText (fun _ => hereditary.text _) isGood
  · exact keeps_plain fun _ isGood => good_hex hereditary isGood
  · exact keeps_withArgument fun _ _ isGood _ => good_field hereditary isGood
  · exact keeps_asList hereditary
  · exact keeps_plain fun _ _ => good_isAbsoluteAddress hereditary

end Builtins

end Filter

/-- Whatever the host's side is like, the action comes to a good result. -/
def Hosted.Yields {α : Type} (good : α → Prop) (action : Hosted α) : Prop :=
  ∀ host, good (action host).1

/-- A value by itself is what it is. -/
theorem Hosted.Yields.pure {α : Type} {good : α → Prop} (value : α) (isGood : good value) :
    Hosted.Yields good (Pure.pure value) :=
  fun _ => isGood

/-- A sequence comes to good results if its second action does after each good
result of the first. -/
theorem Hosted.Yields.bind {α β : Type} {middle : α → Prop} {good : β → Prop}
    {action : Hosted α} {next : α → Hosted β} (yields : Hosted.Yields middle action)
    (onward : ∀ value, middle value → Hosted.Yields good (next value)) :
    Hosted.Yields good (action >>= next) :=
  fun host => onward (action host).1 (yields host) (action host).2

/-- All values in some scopes are good. -/
def Scopes.Every (good : Value → Prop) (scopes : List (Named Value)) : Prop :=
  ∀ scope ∈ scopes, ∀ entry ∈ scope, good entry.2

namespace Scopes.Every

variable {good : Value → Prop} {context : Context}

/-- A name may be set to a good value. -/
theorem set (every : Every good context.scopes) (name : String) {value : Value}
    (isGood : good value) : Every good (context.set name value).scopes := by
  intro scope member entry inside
  rcases List.mem_cons.mp member with rfl | outside
  · rcases Named.mem_of_mem_put inside with rfl | earlier
    · exact isGood
    · exact every context.inner List.mem_cons_self entry earlier
  · exact every scope (List.mem_cons_of_mem _ outside) entry inside

/-- A scope may be opened with good values. -/
theorem push (every : Every good context.scopes) (scope : Named Value)
    (bound : ∀ entry ∈ scope, good entry.2) : Every good (context.push scope).scopes := by
  intro other member
  rcases List.mem_cons.mp member with rfl | outside
  · exact bound
  · exact every other outside

/-- A scope may be closed. -/
theorem pop (every : Every good context.scopes) : Every good context.pop.scopes := by
  rw [Context.pop]
  split
  · exact every
  · rename_i next outer isOuter
    intro scope member
    exact every scope (List.mem_cons_of_mem _ (isOuter ▸ member))

end Scopes.Every

/-- What is found under a name is one of the values in the scopes. -/
theorem Context.good_find? {good : Value → Prop} {context : Context} {name : String}
    {value : Value} (scopes : Scopes.Every good context.scopes)
    (found : context.find? name = some value) : good value := by
  obtain ⟨scope, member, here⟩ := List.exists_of_findSome?_eq_some found
  exact scopes scope member (name, value) (Named.mem_of_get? here)

section Evaluation

variable {good : Value → Prop} (hereditary : Value.Hereditary good)
include hereditary

/-- Segments lead from good values to good values. -/
theorem Path.good_follow (keys : List Key) (value : Value) (isGood : good value) :
    Hosted.Yields good (Path.follow value keys) := by
  induction keys generalizing value with
  | nil => exact Hosted.Yields.pure value isGood
  | cons key rest inductionHypothesis =>
    rw [Path.follow, hereditary.invoked isGood, pure_bind]
    cases found : key.leadFrom value with
    | some next => exact inductionHypothesis next (hereditary.leadFrom isGood found)
    | none => exact fun _ => hereditary.none

/-- A path leads to a good value where those in all scopes are. -/
theorem Path.good_resolve {context : Context} (path : Path)
    (scopes : Scopes.Every good context.scopes) : Hosted.Yields good (path.resolve context) := by
  rw [Path.resolve]
  cases found : context.find? path.head with
  | some value =>
    exact Path.good_follow hereditary path.keys value (Context.good_find? scopes found)
  | none => exact fun _ => hereditary.none

variable {accepted : String → Bool}
  (marking : accepted "raw" = true → ∀ value, good value → good (Filter.raw value))
include marking

/-- Builtin filters that are accepted make good values of good values. -/
theorem Filter.good_use {name : String} {value : Value} {argument : Option Value}
    (isAccepted : accepted name = true) (isGood : good value)
    (given : ∀ found, argument = some found → good found) :
    Hosted.Yields good (Filter.use Filter.builtins name value argument) := by
  rw [Filter.use]
  cases found : Filter.builtins.get? name with
  | some filter =>
    have keeps := Filter.keeps_builtins hereditary found fun isRaw => marking (isRaw ▸ isAccepted)
    exact fun host => keeps value argument isGood given _
  | none => exact fun _ => hereditary.none

end Evaluation

mutual

/-- The value of an expression is good where those in all scopes are. -/
theorem Expr.good_evaluate {good : Value → Prop} (hereditary : Value.Hereditary good)
    {accepted : String → Bool}
    (marking : accepted "raw" = true → ∀ value, good value → good (Filter.raw value))
    {context : Context} (scopes : Scopes.Every good context.scopes)
    (expression : Expr) (obeyed : expression.obeys (fun _ => true) accepted = true) :
    Hosted.Yields good (expression.evaluate Filter.builtins context) := by
  cases expression with
  | literal value =>
    cases value with
    | boolean truth => exact fun _ => hereditary.boolean truth
    | integer number => exact fun _ => hereditary.integer number
    | text content => exact fun _ => hereditary.text content
  | path path =>
    refine Hosted.Yields.bind (Path.good_resolve hereditary path scopes) fun found isGood => ?_
    rw [hereditary.invoked isGood]
    exact Hosted.Yields.pure found isGood
  | call path arguments =>
    refine Hosted.Yields.bind (Path.good_resolve hereditary path scopes) fun found isGood => ?_
    rw [hereditary.notCallable isGood]
    exact fun _ => hereditary.none
  | filtered receiver name argument =>
    simp only [Expr.obeys, Bool.and_eq_true] at obeyed
    obtain ⟨⟨receiverObeyed, isAccepted⟩, argumentObeyed⟩ := obeyed
    refine Hosted.Yields.bind (Expr.good_evaluate hereditary marking scopes receiver receiverObeyed)
      fun value isGood => ?_
    refine Hosted.Yields.bind
      (good_evaluateOption hereditary marking scopes argument argumentObeyed)
      fun given goodGiven => ?_
    exact Filter.good_use hereditary marking isAccepted isGood goodGiven
  | negated operand => exact fun _ => hereditary.boolean _
  | connected connective left right =>
    have evaluated : Hosted.Yields (fun _ => True) (left.evaluate Filter.builtins context) :=
      fun _ => trivial
    refine Hosted.Yields.bind evaluated fun value _ => ?_
    cases connective <;> cases value.truthy <;> exact fun _ => hereditary.boolean _
  | compared relation left right => exact fun _ => hereditary.boolean _
termination_by structural expression

/-- So is that of an argument, if it is there. -/
theorem good_evaluateOption {good : Value → Prop} (hereditary : Value.Hereditary good)
    {accepted : String → Bool}
    (marking : accepted "raw" = true → ∀ value, good value → good (Filter.raw value))
    {context : Context} (scopes : Scopes.Every good context.scopes)
    (expression : Option Expr) (obeyed : optionObeys (fun _ => true) accepted expression = true) :
    Hosted.Yields (fun value => ∀ found, value = some found → good found)
      (evaluateOption Filter.builtins context expression) := by
  cases expression with
  | none => exact Hosted.Yields.pure Option.none (fun found impossible => nomatch impossible)
  | some expression =>
    refine Hosted.Yields.bind (Expr.good_evaluate hereditary marking scopes expression obeyed)
      fun value isGood => ?_
    refine Hosted.Yields.pure (some value) ?_
    intro found same
    exact Option.some.inj same ▸ isGood
termination_by structural expression

end

end Stencil
