import Stencil.Proofs.Chronicle.Emissions
import Stencil.Proofs.Safety.WellFormed

/-!
# Extending takes effect

A template names at most one parent. If the tag that does so stands outside of all other tags
then rendering the template comes down to rendering the parent, with the template as the least
of those that extend it; only names are set before and after that, and nothing else is
written. A tag that stands inside of another one has no effect: nothing is rendered then.
-/

namespace Stencil

/-- The statement names the parent of the template. -/
def Stmt.isInherit : Stmt → Bool
  | .inherit .. => true
  | _ => false

/-- The statement sets a name. -/
def Stmt.isAssign : Stmt → Bool
  | .assign _ => true
  | _ => false

/-- What is said is that there is a parent. -/
def Content.isInherit : Content → Bool
  | .tag (.inherit _) => true
  | _ => false

/-- Statements are among the parts that they have. -/
theorem sublist_partsAll (statements : List Stmt) :
    statements.Sublist (partsAll statements) := by
  induction statements with
  | nil => exact .slnil
  | cons statement rest inductionHypothesis =>
    rw [partsAll]
    exact (inductionHypothesis.trans (List.sublist_append_right _ _)).cons_cons _

namespace Template

variable {arity? : String → Option Arity} {name : Option String} {source : String}
  {template : Template}

/-- A template that was compiled has one tag that names a parent, or none. -/
theorem countP_isInherit_of_compile (compiled : compile arity? name source = .ok template) :
    template.parts.countP Stmt.isInherit = if template.inherits then 1 else 0 := by
  obtain ⟨pieces, nesting, read, -, -⟩ := nested_of_compile compiled
  obtain ⟨⟨⟨cycles, nests⟩, -, -⟩, parents⟩ := wellNested_of_compile read compiled
  rw [← parents, Piece.parents]
  calc template.parts.countP Stmt.isInherit
      = (template.parts.map Stmt.said).countP fun said => said.1.isInherit := by
        rw [List.countP_map]
        refine List.countP_congr fun part _ => ?_
        cases part <;> rfl
    _ = (pieces.filterMap Piece.said?).countP fun said => said.1.isInherit :=
        nests.said_perm.countP_eq _
    _ = pieces.countP Piece.inherits := by
        rw [List.countP_filterMap]
        refine List.countP_congr fun piece _ => ?_
        cases piece with
        | tag tag span => cases tag <;> rfl
        | _ => rfl

/-- Where such a tag stands outside of all others, there is none before it and none after. -/
theorem split_of_inherit (compiled : compile arity? name source = .ok template)
    {target : Expr} {span : Span} (top : Stmt.inherit target span ∈ template.body) :
    template.inherits = true ∧ ∃ before later,
      template.body = before ++ .inherit target span :: later ∧
        (∀ statement ∈ before, statement.isInherit = false) ∧
          ∀ statement ∈ later, statement.isInherit = false := by
  have counted := countP_isInherit_of_compile compiled
  have among : template.body.Sublist template.parts :=
    (sublist_partsAll template.body).trans (List.sublist_append_left _ _)
  have atMost : template.body.countP Stmt.isInherit ≤ template.parts.countP Stmt.isInherit :=
    among.countP_le
  obtain ⟨before, later, isBody⟩ := List.append_of_mem top
  have bodyCount : template.body.countP Stmt.isInherit =
      before.countP Stmt.isInherit + (later.countP Stmt.isInherit + 1) := by
    rw [isBody, List.countP_append, List.countP_cons_of_pos rfl]
  cases inherits : template.inherits with
  | false =>
    simp only [inherits, Bool.false_eq_true, if_false] at counted
    omega
  | true =>
    simp only [inherits, if_true] at counted
    refine ⟨rfl, before, later, isBody, ?_, ?_⟩
    · have none : before.countP Stmt.isInherit = 0 := by omega
      simpa using List.countP_eq_zero.mp none
    · have none : later.countP Stmt.isInherit = 0 := by omega
      simpa using List.countP_eq_zero.mp none

/-- The heads of a template are the tags that name a parent and those that set names. -/
theorem heads_eq (template : Template) :
    template.heads = template.body.filter fun statement =>
      statement.isInherit || statement.isAssign := by
  refine List.filter_congr fun statement _ => ?_
  cases statement <;> rfl

end Template

namespace Run

/-- A sequence that comes to a value went on with a value of its first part. -/
theorem of_bind_ok {α β : Type} {first : Run α} {next : α → Run β} {value : β}
    {world after : World} (done : (first >>= next) world = (.ok value, after)) :
    ∃ middle between, first world = (.ok middle, between) ∧
      next middle between = (.ok value, after) := by
  rw [bind_apply] at done
  cases begun : first world with
  | mk result between =>
    rw [begun] at done
    cases result with
    | error halt => cases done
    | ok middle => exact ⟨middle, between, rfl, done⟩

end Run

/-- Statements may be executed in two parts. -/
theorem executeAll_append (expand : Expansion) (station : Station) (first rest : List Stmt) :
    executeAll expand station (first ++ rest) =
      (do executeAll expand station first; executeAll expand station rest) := by
  induction first with
  | nil => rfl
  | cons statement others inductionHypothesis =>
    rw [List.cons_append, executeAll, executeAll, inductionHypothesis, bind_assoc]

/-- Setting names goes well, writes nothing and loads no template. -/
theorem executeAll_of_assigns (expand : Expansion) (station : Station) {statements : List Stmt}
    (assigns : ∀ statement ∈ statements, statement.isAssign = true) (world : World) :
    ∃ after, executeAll expand station statements world = (.ok (), after) ∧
      after.sink = world.sink ∧ after.catalogue = world.catalogue := by
  induction statements generalizing world with
  | nil => exact ⟨world, rfl, rfl, rfl⟩
  | cons statement rest inductionHypothesis =>
    obtain ⟨isSet, others⟩ := List.forall_mem_cons.mp assigns
    cases statement with
    | assign binding =>
      let between : World := { (world.valueOf binding.value).2 with
        context := world.context.set binding.name (world.valueOf binding.value).1 }
      obtain ⟨after, done, sink, catalogue⟩ := inductionHypothesis others between
      exact ⟨after, done, sink, catalogue⟩
    | _ => cases isSet

namespace Station

variable {station : Station} {arity? : String → Option Arity} {name : Option String}
  {source : String} {depth : Nat} {world after : World}

/-- Of a template with a parent the heads are executed. -/
theorem expand_whole_of_inherits (inherits : station.template.inherits = true) :
    expand (depth + 1) station .whole =
      executeAll (expand depth) station station.template.heads := by
  show station.renderWhole (expand depth) = _
  rw [renderWhole, if_pos inherits]

/-- What comes to its end for a tag that names a parent is that the parent was loaded and
rendered, and given back. -/
theorem of_inherit_ok {expand : Expansion} {target : Expr} {span : Span}
    (done : station.inherit expand target span world = (.ok (), after)) :
    ∃ base loaded finished,
      station.load span (world.valueOf target).1.written (world.valueOf target).2 =
        (.ok base, loaded) ∧
      expand (({ station with sites := station.sites ++ [station.site span] }).into base
        (station.derived ++ [station.handle])) .whole loaded = (.ok (), finished) ∧
      after = { finished with catalogue := finished.catalogue.release base } := by
  obtain ⟨named, evaluated, evaluates, rest⟩ := Run.of_bind_ok done
  cases evaluates
  obtain ⟨base, loaded, loads, rest⟩ := Run.of_bind_ok rest
  let rendering : Run Unit := do
    let inner ← station.enter span
    expand (inner.into base (station.derived ++ [station.handle])) .whole
  have ended : ((rendering loaded).1,
      { (rendering loaded).2 with catalogue := (rendering loaded).2.catalogue.release base }) =
      (.ok (), after) := rest
  obtain ⟨isOk, isAfter⟩ := Prod.mk.inj ended
  have finished : rendering loaded = (.ok (), (rendering loaded).2) := Prod.ext isOk rfl
  obtain ⟨inner, entered, enters, rendered⟩ := Run.of_bind_ok finished
  rw [enter_apply] at enters
  split at enters <;> cases enters
  exact ⟨base, loaded, _, loads, rendered, isAfter.symm⟩

/-- If the tag that names the parent of a template stands outside of all other tags, then a
rendering of the template that comes to its end sets the names that are set before the tag,
loads and renders the template that the tag names, with this template as the least derived
of those that extend it, and sets the names that are set behind the tag. Nothing is written
but what the parent writes. -/
theorem renders_parent
    (compiled : Template.compile arity? name source = .ok station.template)
    {target : Expr} {span : Span} (top : Stmt.inherit target span ∈ station.template.body)
    (rendered : expand (depth + 1) station .whole world = (.ok (), after)) :
    ∃ before later atTag base loaded finished,
      station.template.body = before ++ .inherit target span :: later ∧
      executeAll (expand depth) station (before.filter Stmt.isAssign) world = (.ok (), atTag) ∧
      station.load span (atTag.valueOf target).1.written (atTag.valueOf target).2 =
        (.ok base, loaded) ∧
      expand depth (({ station with sites := station.sites ++ [station.site span] }).into base
        (station.derived ++ [station.handle])) .whole loaded = (.ok (), finished) ∧
      executeAll (expand depth) station (later.filter Stmt.isAssign)
        { finished with catalogue := finished.catalogue.release base } = (.ok (), after) ∧
      loaded.sink = world.sink ∧ after.sink = finished.sink := by
  obtain ⟨inherits, before, later, isBody, noneBefore, noneLater⟩ :=
    Template.split_of_inherit compiled top
  have heads : station.template.heads = before.filter Stmt.isAssign ++
      .inherit target span :: later.filter Stmt.isAssign := by
    have lone : ∀ {statements : List Stmt},
        (∀ statement ∈ statements, statement.isInherit = false) →
        statements.filter (fun statement => statement.isInherit || statement.isAssign) =
          statements.filter Stmt.isAssign := fun none =>
      List.filter_congr fun statement member => by rw [none statement member, Bool.false_or]
    rw [Template.heads_eq, isBody, List.filter_append, lone noneBefore,
      List.filter_cons_of_pos rfl, lone noneLater]
  rw [expand_whole_of_inherits inherits, heads, executeAll_append] at rendered
  obtain ⟨_, atTag, setBefore, rest⟩ := Run.of_bind_ok rendered
  obtain ⟨_, left, inherited, setLater⟩ := Run.of_bind_ok rest
  obtain ⟨base, loaded, finished, loads, renders, rfl⟩ := of_inherit_ok inherited
  have areAssigns : ∀ statements : List Stmt,
      ∀ statement ∈ statements.filter Stmt.isAssign, statement.isAssign = true :=
    fun _ _ member => (List.mem_filter.mp member).2
  obtain ⟨_, silentBefore, sinkBefore, -⟩ :=
    executeAll_of_assigns (expand depth) station (areAssigns before) world
  obtain ⟨_, silentLater, sinkLater, -⟩ :=
    executeAll_of_assigns (expand depth) station (areAssigns later)
      { finished with catalogue := finished.catalogue.release base }
  cases setBefore.symm.trans silentBefore
  cases setLater.symm.trans silentLater
  refine ⟨before, later, atTag, base, loaded, finished, isBody, setBefore, loads, renders,
    setLater, ?_, sinkLater⟩
  have sinkLoaded : loaded.sink = atTag.sink := by
    rw [load_apply] at loads
    split at loads <;> cases loads
    rfl
  exact sinkLoaded.trans sinkBefore

/-- If it stands inside of another tag then nothing is written, and no template is loaded. -/
theorem renders_nothing (inherits : station.template.inherits = true)
    (nested : ∀ statement ∈ station.template.body, statement.isInherit = false) :
    ∃ after, expand (depth + 1) station .whole world = (.ok (), after) ∧
      after.sink = world.sink ∧ after.catalogue = world.catalogue := by
  rw [expand_whole_of_inherits inherits, Template.heads_eq]
  refine executeAll_of_assigns (expand depth) station (fun statement member => ?_) world
  obtain ⟨inBody, isHead⟩ := List.mem_filter.mp member
  rwa [nested statement inBody, Bool.false_or] at isHead

end Station

namespace Session

/-- A source with a tag that names a parent, and with a text and a name that is set on
both sides of it. -/
def extendingSource : String :=
  "a" ++ Source.tag "set x='1'" ++ Source.tag "extend 'base'" ++ Source.tag "set x='2'" ++ "b"

/-- The world of a session with the parent, which writes the name. -/
def extendedWorld : World :=
  { (Session.empty.prepare [.addTemplate "base" (Source.hole "x")]).2.shop with
    turns := [], sink := .buffer "" }

/-- Rendering the template comes down to rendering the parent, which writes the name as it
was set before the tag. -/
theorem extending_renders_parent : ∃ (template : Template) (base : Handle)
    (loaded finished after : World),
    Template.compile (fun _ => none) none extendingSource = .ok template ∧
      (∃ station : Station, expand 3 station .whole loaded = (.ok (), finished) ∧
        station.handle = base ∧ station.derived = [⟨1, template⟩]) ∧
      expand 4 (.start ⟨1, template⟩) .whole extendedWorld = (.ok (), after) ∧
      after.sink = finished.sink ∧ after.sink.text = "1" := by
  have circumstances : (Template.compile (fun _ => none) none extendingSource).toOption.map
      (fun template => (template.body.any Stmt.isInherit,
        (expand 4 (.start ⟨1, template⟩) .whole extendedWorld).1,
        (expand 4 (.start ⟨1, template⟩) .whole extendedWorld).2.sink.text)) =
      some (true, .ok (), "1") := by
    decide +kernel
  obtain ⟨template, made, same⟩ := Option.map_eq_some_iff.mp circumstances
  simp only [Prod.mk.injEq] at same
  obtain ⟨isTop, isOk, text⟩ := same
  have compiled : Template.compile (fun _ => none) none extendingSource = .ok template :=
    eq_ok_of_toOption made
  obtain ⟨statement, top, isInherit⟩ := List.any_eq_true.mp isTop
  cases statement with
  | inherit target span =>
    obtain ⟨_, _, _, base, loaded, finished, _, _, _, renders, _, _, sink⟩ :=
      Station.renders_parent
        (show Template.compile _ _ _ = .ok (Station.start ⟨1, template⟩).template from compiled) top
        (Prod.ext isOk rfl : expand 4 (.start ⟨1, template⟩) .whole extendedWorld = (.ok (), _))
    exact ⟨template, base, loaded, finished, _, compiled, ⟨_, renders, rfl, rfl⟩,
      Prod.ext isOk rfl, sink, text⟩
  | _ => cases isInherit

/-- A page whose tag that names a parent stands inside of another tag. -/
def extendingNested : List Step := [
  .addTemplate "base" "B",
  .addTemplate "page" (Source.tag "if true" ++ Source.tag "extend 'base'" ++ Source.tag "endif")]

/-- The text that the page of a session is rendered to. -/
def textOf (steps : List Step) : Option String :=
  match ((Session.empty.prepare steps).2.render (.name "page" none)).1 with
  | .text shown => some shown
  | _ => none

/-- The page has a parent, and is rendered without a fault to nothing. -/
theorem extendingNested_ineffective :
    (page? extendingNested).map (fun given => given.1.template.inherits) = some true ∧
      textOf extendingNested = some "" := by
  decide +kernel

end Session

end Stencil
