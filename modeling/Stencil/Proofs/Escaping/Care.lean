import Stencil.Proofs.Discipline.Statements
import Stencil.Proofs.Escaping.Harmless

/-!
# The care that escaping takes

While a rendering is guarded, everything that is written lacks a sign, and the
values in all scopes are harmless. The bodies of messages and of created files are
rendered without this care: what is written there may be anything, and may be bound
in the scopes that were opened since. Those below the floor stay harmless, so that
the care can be taken up again where the body ends. The main statement is that
this discipline is lawful.
-/

namespace Stencil

namespace Wording

/-- The expression is the literal of a text that lacks the sign. -/
def isPatternWithout (sign : Char) : Expr → Bool
  | .literal (.text content) => Text.lacks sign content
  | _ => false

/-- A wording without a sign: it is in no text and no pattern of markers, which has
to be written out, and no value is marked as raw. -/
def without (sign : Char) : Wording where
  text := Text.lacks sign
  value := Expr.usesNoRaw
  pattern := isPatternWithout sign
  block := fun _ => true
  inherit := true

end Wording

namespace Escaping

/-- The circumstances of execution: how many scopes are below the innermost one, how
many there were where the care was dropped, which policy is active, and whether
the rendering is guarded. -/
structure Care where
  floor : Nat
  depth : Nat
  active : Option String
  guarded : Bool
  level : guarded = true → floor = depth
  above : floor ≤ depth

namespace Care

/-- The circumstances in a scope that was opened. -/
def deeper (care : Care) : Care where
  floor := if care.guarded then care.depth + 1 else care.floor
  depth := care.depth + 1
  active := care.active
  guarded := care.guarded
  level := fun guarded => by simp [guarded]
  above := by
    have above := care.above
    split <;> omega

/-- There is nothing above the floor where a guarded rendering opened a scope, and one
scope more elsewhere. -/
theorem gap_deeper (care : Care) :
    care.deeper.depth - care.deeper.floor =
      if care.guarded then 0 else care.depth - care.floor + 1 := by
  have above := care.above
  show care.depth + 1 - (if care.guarded then care.depth + 1 else care.floor) = _
  cases care.guarded with
  | true => simp
  | false =>
    simp only [Bool.false_eq_true, if_false]
    omega

/-- The circumstances in which the care is dropped, under some policy. -/
def dropped (care : Care) (active : Option String) : Care where
  floor := care.floor
  depth := care.depth
  active := active
  guarded := false
  level := fun impossible => absurd impossible Bool.false_ne_true
  above := care.above

end Care

variable (sign : Char) (extension : String)

/-- What is the case whatever the circumstances are: there are the builtin filters
and no spaceless policy, and the policy of the extension escapes the sign. -/
structure Secure (world : World) : Prop where
  filters : world.catalogue.filters = Filter.builtins
  spacer : world.context.spacer = none
  escapes : ∃ escaper, world.context.escapers.get? extension = some escaper ∧
    ∀ uses text, Text.lacks sign (escaper.policy.escape uses text) = true

/-- What is the case in the given circumstances. -/
structure Upheld (care : Care) (world : World) : Prop where
  secure : Secure sign extension world
  depth : world.context.outer.length = care.depth
  scopes : Scopes.Harmless sign (world.context.scopes.drop (care.depth - care.floor))
  active : world.context.active = care.active
  policy : care.guarded = true → care.active = some extension
  written : care.guarded = true → Text.lacks sign world.sink.text = true

/-- The templates behind a station have no sign, and a guarded station escapes. -/
def Awaits (care : Care) (station : Station) : Prop :=
  (∀ handle ∈ station.derived, handle.template.obeys (Wording.without sign) = true) ∧
    (care.guarded = true → station.escaping = true)

/-- The discipline of escaping a sign by the policy of an extension. -/
def discipline : Discipline Care where
  breaks := fun _ => False
  related := fun care world other => world = other ∧ Upheld sign extension care world
  fits := fun care station => Awaits sign care station ∧
    station.template.obeys (Wording.without sign) = true
  awaits := Awaits sign
  good := fun care value => care.floor = care.depth → value.harmless sign = true
  bindable := fun care value => care.guarded = true → value.harmless sign = true
  legible := fun care text => care.guarded = true → Text.lacks sign text = true
  wording := fun _ => Wording.without sign

namespace Upheld

variable {sign extension} {care : Care} {world after : World}

/-- Only the filters, the context and the sink are of importance. -/
theorem transfer (upheld : Upheld sign extension care world)
    (filters : after.catalogue.filters = world.catalogue.filters)
    (context : after.context = world.context) (sink : after.sink = world.sink) :
    Upheld sign extension care after where
  secure := by
    obtain ⟨builtin, spacer, escapes⟩ := upheld.secure
    exact ⟨filters.trans builtin, by rw [context, spacer], by rw [context]; exact escapes⟩
  depth := by rw [context, upheld.depth]
  scopes := by rw [context]; exact upheld.scopes
  active := by rw [context, upheld.active]
  policy := upheld.policy
  written := by rw [sink]; exact upheld.written

/-- Another sink will do if it lacks the sign. -/
theorem toSink (upheld : Upheld sign extension care world) (sink : Sink)
    (written : care.guarded = true → Text.lacks sign sink.text = true) :
    Upheld sign extension care { world with sink := sink } where
  secure := ⟨upheld.secure.filters, upheld.secure.spacer, upheld.secure.escapes⟩
  depth := upheld.depth
  scopes := upheld.scopes
  active := upheld.active
  policy := upheld.policy
  written := written

/-- The policy under an extension may be used, or told about something. -/
theorem used (upheld : Upheld sign extension care world) {name : String} {escaper new : Escaper}
    (found : world.context.escapers.get? name = some escaper) (same : new.policy = escaper.policy) :
    Upheld sign extension care
      { world with
        context := { world.context with escapers := world.context.escapers.put name new } } where
  secure := by
    obtain ⟨builtin, spacer, own, registered, escapes⟩ := upheld.secure
    refine ⟨builtin, spacer, ?_⟩
    by_cases isOwn : extension = name
    · subst isOwn
      have equal : own = escaper := Option.some.inj (registered.symm.trans found)
      refine ⟨new, Named.get?_put_self _ _ _, ?_⟩
      rw [same, ← equal]
      exact escapes
    · exact ⟨own, (Named.get?_put_of_ne _ _ _ _ isOwn).trans registered, escapes⟩
  depth := upheld.depth
  scopes := upheld.scopes
  active := upheld.active
  policy := upheld.policy
  written := upheld.written

/-- All scopes are harmless where the floor has been reached. -/
theorem allHarmless (upheld : Upheld sign extension care world)
    (reached : care.floor = care.depth) :
    Scopes.Harmless sign world.context.scopes := by
  have scopes := upheld.scopes
  rw [reached, Nat.sub_self, List.drop_zero] at scopes
  exact scopes

/-- A name may be set to a value that is good there. -/
theorem set (upheld : Upheld sign extension care world) (name : String) {value : Value}
    (good : care.floor = care.depth → value.harmless sign = true) :
    Upheld sign extension care { world with context := world.context.set name value } where
  secure := ⟨upheld.secure.filters, upheld.secure.spacer, upheld.secure.escapes⟩
  depth := upheld.depth
  scopes := by
    intro scope member entry inside
    by_cases reached : care.floor = care.depth
    · rw [reached, Nat.sub_self, List.drop_zero] at member
      rcases List.mem_cons.mp member with rfl | outside
      · rcases Named.mem_of_mem_put inside with rfl | earlier
        · exact good reached
        · exact upheld.allHarmless reached _ (List.mem_cons_self ..) entry earlier
      · exact upheld.allHarmless reached scope (List.mem_cons_of_mem _ outside) entry inside
    · -- The innermost scope is above the floor.
      have above := care.above
      obtain ⟨height, counted⟩ : ∃ height, care.depth - care.floor = height + 1 :=
        ⟨care.depth - care.floor - 1, by omega⟩
      have scopes := upheld.scopes
      rw [counted] at member scopes
      exact scopes scope member entry inside
  active := upheld.active
  policy := upheld.policy
  written := upheld.written

/-- A scope may be opened with values that are harmless, if the rendering is guarded. -/
theorem push (upheld : Upheld sign extension care world) (scope : Named Value)
    (bound : ∀ entry ∈ scope, care.guarded = true → entry.2.harmless sign = true) :
    Upheld sign extension care.deeper
      { world with context := world.context.push scope } where
  secure := ⟨upheld.secure.filters, upheld.secure.spacer, upheld.secure.escapes⟩
  depth := by simp [Context.push, Care.deeper, upheld.depth]
  scopes := by
    rw [care.gap_deeper]
    cases guarded : care.guarded with
    | true =>
      intro other member entry inside
      rcases List.mem_cons.mp member with rfl | outside
      · exact bound entry inside guarded
      · exact upheld.allHarmless (care.level guarded) other outside entry inside
    | false => exact upheld.scopes
  active := upheld.active
  policy := upheld.policy
  written := upheld.written

/-- The scope may be closed again. -/
theorem pop (upheld : Upheld sign extension care.deeper world) :
    Upheld sign extension care { world with context := world.context.pop } := by
  obtain ⟨⟨catalogue, ⟨inner, outer, directory, escapers, active, spacer⟩, host⟩, turns, sink⟩ :=
    world
  have depth := upheld.depth
  cases outer with
  | nil => simp [Care.deeper] at depth
  | cons next outer =>
    refine ⟨⟨upheld.secure.filters, upheld.secure.spacer, upheld.secure.escapes⟩, ?_, ?_,
      upheld.active, upheld.policy, upheld.written⟩
    · simpa [Care.deeper, Context.pop] using depth
    · have scopes := upheld.scopes
      rw [care.gap_deeper] at scopes
      cases guarded : care.guarded with
      | true =>
        rw [guarded] at scopes
        intro other member entry inside
        exact scopes other (List.mem_cons_of_mem _ (List.mem_of_mem_drop member)) entry inside
      | false =>
        rw [guarded] at scopes
        exact scopes

/-- The care may be dropped, and another policy be selected. -/
theorem drop (upheld : Upheld sign extension care world) (active : Option String) :
    Upheld sign extension (care.dropped active)
      { world with context := { world.context with active := active } } where
  secure := ⟨upheld.secure.filters, upheld.secure.spacer, upheld.secure.escapes⟩
  depth := upheld.depth
  scopes := upheld.scopes
  active := rfl
  policy := fun impossible => absurd impossible Bool.false_ne_true
  written := fun impossible => absurd impossible Bool.false_ne_true

/-- What was written before the care was dropped can be written on. -/
theorem resume {active : Option String} (upheld : Upheld sign extension (care.dropped active) after)
    (before : Upheld sign extension care world) :
    Upheld sign extension care
      { after with
        sink := world.sink, context := { after.context with active := world.context.active } } where
  secure := ⟨upheld.secure.filters, upheld.secure.spacer, upheld.secure.escapes⟩
  depth := upheld.depth
  scopes := upheld.scopes
  active := before.active
  policy := before.policy
  written := before.written

/-- The active policy escapes the sign where the rendering is guarded. -/
theorem escape (upheld : Upheld sign extension care world) (text : String) :
    Upheld sign extension care { world with context := (world.context.escape text).2 } ∧
      (care.guarded = true → Text.lacks sign (world.context.escape text).1 = true) := by
  obtain ⟨builtin, spacer, own, registered, escapes⟩ := upheld.secure
  rcases world.context.escape_cases text with
    ⟨unused, same⟩ | ⟨name, escaper, selected, found, same⟩ <;> rw [same]
  · refine ⟨upheld, fun guarded => ?_⟩
    have selected := upheld.active.trans (upheld.policy guarded)
    simp [Context.activeEscaper?, selected, registered] at unused
  · refine ⟨upheld.used found rfl, fun guarded => ?_⟩
    obtain rfl : name = extension :=
      Option.some.inj (selected.symm.trans (upheld.active.trans (upheld.policy guarded)))
    obtain rfl : own = escaper := Option.some.inj (registered.symm.trans found)
    exact escapes own.uses text

/-- The active policy may be told about tabbing. -/
theorem switchTabbing (upheld : Upheld sign extension care world) (on : Bool) :
    Upheld sign extension care (Run.switchTabbing on world) := by
  have told : Upheld sign extension care
      { world with context := (world.context.switchTabbing on).2 } := by
    rcases world.context.switchTabbing_cases on with ⟨_, same⟩ | ⟨_, _, _, found, same⟩ <;>
      rw [same]
    · exact upheld
    · exact upheld.used found rfl
  exact told.transfer rfl rfl rfl

end Upheld

end Escaping

end Stencil
