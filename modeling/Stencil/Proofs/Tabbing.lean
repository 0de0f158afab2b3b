import Stencil.Proofs.Discipline
import Stencil.Proofs.Logic.Statements
import Stencil.Rendering

/-!
# Tabbing is switched off again

A region with tabbing tells the active policy that tabbing is on before its body, and
that it is off after it. Inside of the region nobody is told anything, whatever policy
the files that are created there have: so the policy that hears that tabbing is off is
the one that heard that it is on, and it heard nothing of tabbing in between. A sequence
of such regions tells each policy on and off by turns, also if it is cut short by a
fault.
-/

namespace Stencil

/-- Tabbing is switched on and off by turns, and is off in the end. -/
inductive Alternates : List Bool → Prop where
  | never : Alternates []
  | again {rest : List Bool} : Alternates rest → Alternates (true :: false :: rest)

namespace Alternates

variable {switches others : List Bool}

/-- Switches by turns after switches by turns are by turns. -/
theorem append (first : Alternates switches) (second : Alternates others) :
    Alternates (switches ++ others) := by
  induction first with
  | never => exact second
  | again _ inductionHypothesis => exact .again inductionHypothesis

/-- Tabbing is switched off as often as on. -/
theorem even_length (alternate : Alternates switches) : switches.length % 2 = 0 := by
  induction alternate with
  | never => rfl
  | again _ inductionHypothesis =>
    simp only [List.length_cons]
    omega

/-- The switches in even places are on, and those in odd places off. -/
theorem on_iff (alternate : Alternates switches) {index : Nat} {on : Bool}
    (here : switches[index]? = some on) : on = true ↔ index % 2 = 0 := by
  induction alternate generalizing index with
  | never => simp at here
  | again _ inductionHypothesis =>
    match index with
    | 0 => simpa using here.symm
    | 1 => simpa using here.symm
    | index + 2 =>
      have later : on = true ↔ index % 2 = 0 := inductionHypothesis (by simpa using here)
      rw [later]
      omega

/-- No switch comes twice in a row. -/
theorem differs (alternate : Alternates switches) {index : Nat} {on next : Bool}
    (here : switches[index]? = some on) (after : switches[index + 1]? = some next) :
    next = !on := by
  have parity := alternate.on_iff here
  have parityNext := alternate.on_iff after
  cases on <;> cases next <;> simp at parity parityNext ⊢ <;> omega

/-- The last switch is not on. -/
theorem getLast?_ne (alternate : Alternates switches) : switches.getLast? ≠ some true := by
  intro last
  rw [List.getLast?_eq_getElem?] at last
  have parity := alternate.on_iff last
  have even := alternate.even_length
  have bound := (List.getElem?_eq_some_iff.mp last).1
  have isEven : (switches.length - 1) % 2 = 0 := parity.mp rfl
  omega

end Alternates

namespace EscapeUse

/-- What a policy was told about tabbing, earliest first, out of its uses, which come
latest first. -/
def switches (uses : List EscapeUse) : List Bool :=
  uses.reverse.filterMap fun
    | .tabbing on => some on
    | .escaped _ => none

/-- Later uses bring later switches. -/
@[simp] theorem switches_append (later earlier : List EscapeUse) :
    switches (later ++ earlier) = switches earlier ++ switches later := by
  simp [switches]

/-- What a policy may be told where tabbing is off, or is on: where it is on already,
nothing. -/
structure Told (tabbing : Bool) (uses : List EscapeUse) : Prop where
  alternate : Alternates (switches uses)
  silent : tabbing = true → switches uses = []

variable {tabbing : Bool}

/-- A policy may be told nothing. -/
theorem told_of_silent {uses : List EscapeUse} (silent : switches uses = []) :
    Told tabbing uses :=
  ⟨silent ▸ .never, fun _ => silent⟩

/-- It may be told something more. -/
theorem Told.append {later earlier : List EscapeUse} (second : Told tabbing later)
    (first : Told tabbing earlier) : Told tabbing (later ++ earlier) := by
  refine ⟨?_, fun on => ?_⟩
  · rw [switches_append]
    exact first.alternate.append second.alternate
  · rw [switches_append, first.silent on, second.silent on]
    rfl

/-- It may be told that tabbing is on, and then that it is off, and nothing between. -/
theorem Told.region {uses : List EscapeUse} (inside : Told true uses) :
    Told false (.tabbing false :: uses ++ [.tabbing true]) := by
  have switched : switches (.tabbing false :: uses ++ [.tabbing true]) = [true, false] := by
    have silent := inside.silent rfl
    simp only [switches] at silent
    simp [switches, silent]
  exact ⟨switched ▸ .again .never, nofun⟩

end EscapeUse

/-- A policy after further uses. -/
def Escaper.after (escaper : Escaper) (uses : List EscapeUse) : Escaper :=
  { escaper with uses := uses ++ escaper.uses }

/-- The policies of a context were used further, and were told what they may be told
about tabbing; the active one is the same. -/
structure Context.Used (tabbing : Bool) (before after : Context) : Prop where
  active : after.active = before.active
  told : ∀ extension, ∃ uses, EscapeUse.Told tabbing uses ∧
    after.escapers.get? extension =
      (before.escapers.get? extension).map fun escaper => escaper.after uses

namespace Context.Used

variable {tabbing : Bool} {before middle after : Context}

/-- Policies that are left alone are not told anything. -/
theorem of_same (active : after.active = before.active)
    (escapers : after.escapers = before.escapers) : Used tabbing before after := by
  refine ⟨active, fun extension => ⟨[], EscapeUse.told_of_silent rfl, ?_⟩⟩
  simp [escapers, Escaper.after]

/-- Policies that were used further twice were used further. -/
theorem trans (first : Used tabbing before middle) (second : Used tabbing middle after) :
    Used tabbing before after := by
  refine ⟨second.active.trans first.active, fun extension => ?_⟩
  obtain ⟨earlier, told, found⟩ := first.told extension
  obtain ⟨later, toldToo, foundToo⟩ := second.told extension
  refine ⟨later ++ earlier, toldToo.append told, ?_⟩
  rw [foundToo, found, Option.map_map]
  simp [Function.comp_def, Escaper.after]

/-- The active policy is used, and the others are not. -/
theorem of_put {extension : String} {escaper : Escaper} {uses : List EscapeUse}
    (found : before.activeEscaper? = some (extension, escaper))
    (told : EscapeUse.Told tabbing uses) :
    Used tabbing before
      { before with escapers := before.escapers.put extension (escaper.after uses) } := by
  refine ⟨rfl, fun asked => ?_⟩
  have registered := (Context.activeEscaper?_eq_some found).2
  by_cases isThis : asked = extension
  · subst isThis
    exact ⟨uses, told, by rw [Named.get?_put_self, registered, Option.map_some]⟩
  · refine ⟨[], EscapeUse.told_of_silent rfl, ?_⟩
    rw [Named.get?_put_of_ne _ _ _ _ isThis]
    simp [Escaper.after]

/-- Escaping a text tells nobody about tabbing. -/
theorem escape (context : Context) (text : String) :
    Used tabbing context (context.escape text).2 := by
  unfold Context.escape
  split
  · rename_i extension escaper found
    have told : EscapeUse.Told tabbing [.escaped text] := EscapeUse.told_of_silent rfl
    exact of_put found told
  · exact of_same rfl rfl

/-- Changing the text of a spaceless region tells nobody. -/
theorem removeSpace (context : Context) (text : String) :
    Used tabbing context (context.removeSpace text).2.2 := by
  unfold Context.removeSpace
  split <;> exact of_same rfl rfl

/-- Nobody is told anything where tabbing is on, so nobody is told too much. -/
theorem weaken (used : Used true before after) : Used tabbing before after := by
  refine ⟨used.active, fun extension => ?_⟩
  obtain ⟨uses, told, found⟩ := used.told extension
  exact ⟨uses, EscapeUse.told_of_silent (told.silent rfl), found⟩

/-- The active policy is the same one, after further uses. -/
theorem activeEscaper? (used : Used tabbing before after) {extension : String}
    {escaper : Escaper} (found : before.activeEscaper? = some (extension, escaper)) :
    ∃ uses, EscapeUse.Told tabbing uses ∧
      after.activeEscaper? = some (extension, escaper.after uses) := by
  obtain ⟨active, registered⟩ := Context.activeEscaper?_eq_some found
  obtain ⟨uses, told, foundToo⟩ := used.told extension
  refine ⟨uses, told, ?_⟩
  simp [Context.activeEscaper?, used.active, active, foundToo, registered]

/-- If there is no active policy then there is none afterwards. -/
theorem activeEscaper?_none (used : Used tabbing before after)
    (none : before.activeEscaper? = none) : after.activeEscaper? = .none := by
  cases active : before.active with
  | none => simp [Context.activeEscaper?, used.active, active]
  | some extension =>
    obtain ⟨uses, -, found⟩ := used.told extension
    have unregistered : before.escapers.get? extension = .none := by
      simpa [Context.activeEscaper?, active] using none
    simp [Context.activeEscaper?, used.active, active, found, unregistered]

/-- Around uses that tell nobody about tabbing, the active policy may be told that
tabbing is on and off. -/
theorem region {context : Context} (inside : Used true (context.switchTabbing true).2 after) :
    Used false context (after.switchTabbing false).2 := by
  cases found : context.activeEscaper? with
  | none =>
    have entered : (context.switchTabbing true).2 = context := by
      simp [Context.switchTabbing, found]
    rw [entered] at inside
    have left : (after.switchTabbing false).2 = after := by
      simp [Context.switchTabbing, inside.activeEscaper?_none found]
    rw [left]
    exact inside.weaken
  | some pair =>
    obtain ⟨extension, escaper⟩ := pair
    have entered : (context.switchTabbing true).2 = { context with
        escapers := context.escapers.put extension (escaper.after [.tabbing true]) } := by
      simp [Context.switchTabbing, found, Escaper.switchTabbing, Escaper.after]
    obtain ⟨active, registered⟩ := Context.activeEscaper?_eq_some found
    have switched : (context.switchTabbing true).2.activeEscaper? =
        some (extension, escaper.after [.tabbing true]) := by
      rw [entered]
      simp [Context.activeEscaper?, active]
    -- Whoever is active after the body is the policy that was told that tabbing is on.
    obtain ⟨uses, told, foundToo⟩ := inside.activeEscaper? switched
    rw [entered] at inside
    have left : (after.switchTabbing false).2 = { after with
        escapers := after.escapers.put extension
          (escaper.after (.tabbing false :: uses ++ [.tabbing true])) } := by
      simp [Context.switchTabbing, foundToo, Escaper.switchTabbing, Escaper.after]
    rw [left]
    refine ⟨inside.active, fun asked => ?_⟩
    by_cases isThis : asked = extension
    · subst isThis
      exact ⟨_, told.region, by rw [Named.get?_put_self, registered, Option.map_some]⟩
    · obtain ⟨others, toldOther, foundOther⟩ := inside.told asked
      refine ⟨others, EscapeUse.told_of_silent (toldOther.silent rfl), ?_⟩
      rw [Named.get?_put_of_ne _ _ _ _ isThis, foundOther, Named.get?_put_of_ne _ _ _ _ isThis]

end Context.Used

/-- An action uses policies as it may where tabbing is off, or is on, and comes to good
values. -/
def Run.Tells {α : Type} (tabbing : Bool) (isGood : α → Prop) (action : Run α) : Prop :=
  ∀ world, Context.Used tabbing world.context (action world).2.context ∧
    ∀ value, (action world).1 = .ok value → isGood value

namespace Run.Tells

variable {α β : Type} {tabbing : Bool} {isGood : α → Prop}

/-- An action that leaves the policies alone tells nobody about tabbing. -/
theorem of_same {action : Run α}
    (active : ∀ world, (action world).2.context.active = world.context.active)
    (escapers : ∀ world, (action world).2.context.escapers = world.context.escapers) :
    Tells tabbing (fun _ => True) action :=
  fun world => ⟨.of_same (active world) (escapers world), fun _ _ => trivial⟩

/-- A sequence tells what its parts tell. -/
theorem bind {middle : α → Prop} {isGood : β → Prop} {action : Run α} {next : α → Run β}
    (first : Tells tabbing middle action)
    (onward : ∀ value, middle value → Tells tabbing isGood (next value)) :
    Tells tabbing isGood (action >>= next) := by
  intro world
  obtain ⟨used, good⟩ := first world
  rw [Run.bind_apply]
  rcases done : action world with ⟨halt | value, after⟩
  · rw [done] at used
    exact ⟨used, nofun⟩
  · rw [done] at used good
    obtain ⟨usedToo, goodToo⟩ := onward value (good value rfl) after
    exact ⟨used.trans usedToo, goodToo⟩

/-- Around an action anything may be changed but the uses of the policies, if the active
policy is changed back. -/
theorem around {action : Run α} {other : Run β} (inside : Tells tabbing isGood action)
    (enter : World → World)
    (entered : ∀ world, (enter world).context.escapers = world.context.escapers)
    (left : ∀ world, (other world).2.context.escapers =
      (action (enter world)).2.context.escapers)
    (active : ∀ world, (action (enter world)).2.context.active = (enter world).context.active →
      (other world).2.context.active = world.context.active) :
    Tells tabbing (fun _ => True) other := by
  intro world
  have used := (inside (enter world)).1
  refine ⟨⟨active world used.active, fun extension => ?_⟩, fun _ _ => trivial⟩
  obtain ⟨uses, told, found⟩ := used.told extension
  exact ⟨uses, told, by rw [left, found, entered]⟩

/-- Catching the text of an action tells nobody more. -/
theorem capture {action : Run Unit} (inside : Tells tabbing (fun _ => True) action) :
    Tells tabbing (fun _ => True) (Run.capture action) :=
  inside.around (fun world => { world with sink := .buffer "" }) (fun _ => rfl) (fun _ => rfl)
    fun _ same => same

/-- Neither does a scope, which is closed again. -/
theorem inScope {action : Run Unit} (scope : Named Value)
    (inside : Tells tabbing (fun _ => True) action) :
    Tells tabbing (fun _ => True) (Run.inScope scope action) := by
  have popped : ∀ context : Context,
      context.pop.active = context.active ∧ context.pop.escapers = context.escapers := by
    intro context
    unfold Context.pop
    split <;> exact ⟨rfl, rfl⟩
  exact inside.around (fun world => { world with context := world.context.push scope })
    (fun _ => rfl) (fun _ => (popped _).2) fun _ same => (popped _).1.trans same

/-- Neither does another policy, since the one that was active is active again. -/
theorem underPolicy {action : Run α} (extension : String)
    (inside : Tells tabbing (fun _ => True) action) :
    Tells tabbing (fun _ => True) (Run.underPolicy extension action) :=
  inside.around (fun world => { world with context := world.context.select extension })
    (fun _ => rfl) (fun _ => rfl) fun _ _ => rfl

/-- A region with tabbing tells the active policy on and off, where tabbing was off. -/
theorem tabbed {action : Run Unit} (inside : Tells true (fun _ => True) action) :
    Tells false (fun _ => True) (Run.tabbed action) :=
  fun world => ⟨((inside (Run.switchTabbing true world)).1).region, fun _ _ => trivial⟩

/-- A tag that leads to a template tells nobody about tabbing, apart from what the
template does. -/
theorem visit {station : Station} {body : Handle → Station → Run Unit} (span : Span)
    (name : String) (inside : ∀ handle entered, entered.tabbing = station.tabbing →
      Tells tabbing (fun _ => True) (body handle entered)) :
    Tells tabbing (fun _ => True) (station.load span name >>= fun handle =>
      Run.releasing handle (station.enter span >>= body handle)) := by
  have loads : Tells tabbing (fun _ => True) (station.load span name) := by
    refine .of_same (fun world => ?_) (fun world => ?_) <;>
    · rw [Station.load_apply]
      split <;> rfl
  have enters : Tells tabbing (fun entered => entered.tabbing = station.tabbing)
      (station.enter span) := by
    intro world
    rw [Station.enter_apply]
    refine ⟨.of_same rfl rfl, fun entered found => ?_⟩
    simp only at found
    split at found
    · cases found
      rfl
    · cases found
  refine loads.bind fun handle _ => ?_
  exact (enters.bind (inside handle)).around id (fun _ => rfl) (fun _ => rfl) fun _ same => same

end Run.Tells

open Run in
/-- The logic of what policies are told. The circumstance is whether tabbing is on, as
the station of a statement says. -/
def telling : Logic Bool where
  keeps tabbing isGood action _ := Tells tabbing isGood action
  admits tabbing station _ := station.tabbing = tabbing
  asks tabbing station _ := station.tabbing = tabbing
  good _ _ := True
  bindable _ _ := True
  legible _ _ := True
  opens tabbing inner := inner = tabbing
  catches tabbing inner := inner = tabbing
  files tabbing inner := inner = tabbing
  arrives tabbing inner station _ entered :=
    inner = tabbing ∧ entered.tabbing = station.tabbing

open Run in
/-- All actions of a rendering tell the policies on and off by turns. -/
theorem telling_sound : telling.Sound where
  pure value good := fun _ => ⟨.of_same rfl rfl, fun _ same => Except.ok.inj same ▸ good⟩
  bind first onward := Tells.bind first onward
  level admitted _ _ := admitted
  nested admitted opened _ _ := admitted.trans opened.symm
  caught admitted catching _ _ := admitted.trans catching.symm
  reference admitted := admitted
  tree admitted _ := admitted
  extended arrived admitted := arrived.2.trans (admitted.trans arrived.1.symm)
  inserted arrived admitted opened :=
    arrived.2.trans (admitted.trans (opened.trans arrived.1).symm)
  created arrived admitted filed :=
    arrived.2.trans (admitted.trans (filed.trans arrived.1).symm)
  toScrupulous :=
    Logic.Careless.scrupulous ⟨fun _ _ => trivial, fun _ _ => trivial, fun _ _ => trivial⟩
  evaluate _ _ := .of_same (fun _ => rfl) fun _ => rfl
  pattern _ := fun _ => ⟨.of_same rfl rfl, fun _ _ _ _ => trivial⟩
  record _ _ := .of_same (fun _ => rfl) fun _ => rfl
  enclosing := fun _ => ⟨.of_same rfl rfl, fun _ _ _ _ => trivial⟩
  emit := by
    intro tabbing station statement value _ _
    have writes : ∀ text, Tells tabbing (fun _ => True) (Run.write text) :=
      fun text => .of_same (fun _ => rfl) fun _ => rfl
    have escapes : Tells tabbing (fun _ => True) (Run.escape value.written) :=
      fun world => ⟨.escape world.context _, fun _ _ => trivial⟩
    show Tells tabbing (fun _ => True) (station.emit value)
    rw [Station.emit]
    split
    · exact writes _
    · exact escapes.bind fun text _ => writes text
  write _ := .of_same (fun _ => rfl) fun _ => rfl
  removeSpace _ := fun world => ⟨.removeSpace world.context _, fun _ _ => trivial⟩
  assign _ _ := .of_same (fun _ => rfl) fun _ => rfl
  turn _ := .of_same (fun _ => rfl) fun _ => rfl
  note _ := .of_same (fun _ => rfl) fun _ => rfl
  directory := .of_same (fun _ => rfl) fun _ => rfl
  noDirectory _ _ _ := .of_same (fun _ => rfl) fun _ => rfl
  writeFile := by
    intro tabbing _ station _ _ span path text _
    refine .of_same (fun world => ?_) (fun world => ?_) <;>
    · obtain ⟨result, host, applied⟩ := station.writeFile_apply span path text world.host
      rw [applied world rfl]
  scope scope _ inside := Tells.inScope scope (inside _ rfl)
  capture inside := Tells.capture (inside _ rfl)
  mute admitted inside := Tells.capture (inside _ fun _ _ => admitted)
  tabbed admitted off inside := by
    cases admitted.symm.trans off
    exact Tells.tabbed (inside true fun _ _ => rfl)
  file extension inside := Tells.underPolicy extension (Tells.capture (inside _ rfl))
  visit span name _ inside :=
    Tells.visit span name fun handle entered same => inside _ handle entered ⟨rfl, same⟩

/-- The pursuit of a goal comes to nothing but what its station says about tabbing. -/
theorem telling_provides (tabbing : Bool) (station : Station) (goal : Goal)
    (told : station.tabbing = tabbing) : telling.Provides tabbing station goal := by
  have block : ∀ name definitions, telling.ProvidesBlock tabbing station name definitions :=
    fun _ _ => ⟨fun _ _ _ _ _ opened _ _ => told.trans opened.symm,
      fun _ _ catching => told.trans catching.symm⟩
  cases goal with
  | whole => exact fun _ _ => told
  | reference name => exact block name _
  | block name definitions => exact block name definitions
  | tree nodes body =>
    refine ⟨fun _ _ => trivial, fun _ opened _ _ => told.trans opened.symm, fun node _ => ?_⟩
    have asked : ∀ (value : Value) (inner : Bool), telling.catches tabbing inner →
        telling.asks inner station (.tree value.elements body) :=
      fun _ _ catching => told.trans catching.symm
    unfold Value.children
    split <;> exact fun world => ⟨.of_same rfl rfl, fun value _ => asked value⟩

/-- So do all goals, however deep they lie inside one another. -/
theorem tells_expand (depth : Nat) (station : Station) (goal : Goal) :
    Run.Tells station.tabbing (fun _ => True) (expand depth station goal) :=
  telling_sound.follows_expand (fun _ => .of_same (fun _ => rfl) fun _ => rfl) telling_provides
    depth station.tabbing station goal rfl

namespace Workshop

/-- A rendering, also one that halts, uses the policies that are registered, and neither
adds nor removes one. What each of them is told about tabbing meanwhile is on and off by
turns: as often off as on, never twice the same in a row, and off in the end. -/
theorem renderInto_alternates (shop : Workshop) (limit : Nat) (handle : Handle) (sink : Sink)
    (extension : String) :
    ∃ uses, (shop.renderInto limit handle sink).2.context.escapers.get? extension =
        (shop.context.escapers.get? extension).map (fun escaper => escaper.after uses) ∧
      Alternates (EscapeUse.switches uses) ∧
      (EscapeUse.switches uses).length % 2 = 0 ∧
      (∀ index on next, (EscapeUse.switches uses)[index]? = some on →
        (EscapeUse.switches uses)[index + 1]? = some next → next = !on) ∧
      (EscapeUse.switches uses).getLast? ≠ some true := by
  have used := (tells_expand limit (.start handle) .whole
    { shop with turns := [], sink := sink }).1
  obtain ⟨uses, told, found⟩ := used.told extension
  exact ⟨uses, found, told.alternate, told.alternate.even_length,
    fun _ _ _ here after => told.alternate.differs here after, told.alternate.getLast?_ne⟩

end Workshop

end Stencil
