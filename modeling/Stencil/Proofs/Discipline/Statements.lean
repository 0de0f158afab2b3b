import Stencil.Proofs.Discipline.Tags
import Stencil.Proofs.Logic.Statements

/-!
# Statements respect a discipline

A discipline is a logic: a statement may be executed where a station fits and the
statement obeys the wording of its template. If the discipline is lawful then the
logic is sound, so every list of statements respects the discipline. The last
statements are about goals, so that a way of expanding goals may be shown to respect a
discipline level by level.
-/

namespace Stencil

/-- The expressions in the head of a region that obeys a wording are accepted. -/
theorem Region.value_of_obeys {wording : Wording} {region : Region}
    (obeyed : region.obeys wording = true) {expression : Expr}
    (here : expression ∈ region.expressions) : wording.value expression = true := by
  cases region with
  | binding bindings =>
    obtain ⟨binding, member, rfl⟩ := List.mem_map.mp here
    exact List.all_eq_true.mp obeyed binding member
  | tree nodes => exact List.mem_singleton.mp here ▸ obeyed
  | markers name items pattern =>
    exact List.mem_singleton.mp here ▸ (Bool.and_eq_true_iff.mp obeyed).1
  | range name first last down step =>
    simp only [Region.obeys, Bool.and_eq_true] at obeyed
    obtain ⟨⟨firstWorded, lastWorded⟩, stepWorded⟩ := obeyed
    simp only [Region.expressions, List.mem_cons, Option.mem_toList] at here
    rcases here with rfl | rfl | rfl
    · exact firstWorded
    · exact lastWorded
    · exact stepWorded
  | spaceless => cases here
  | message => cases here
  | tabbing => cases here

namespace Stmt

variable {wording : Wording} {statement : Stmt}

/-- The expressions in the head of a statement that obeys a wording are accepted. -/
theorem value_of_obeys (obeyed : statement.obeys wording = true) {expression : Expr}
    (here : expression ∈ statement.expressions) : wording.value expression = true := by
  cases statement with
  | text content => cases here
  | output value => exact List.mem_singleton.mp here ▸ obeyed
  | branch condition yes no =>
    simp only [obeys, Bool.and_eq_true] at obeyed
    exact List.mem_singleton.mp here ▸ obeyed.1.1
  | each loop body empty =>
    simp only [obeys, Bool.and_eq_true] at obeyed
    exact List.mem_singleton.mp here ▸ obeyed.1.1
  | within region body => exact Region.value_of_obeys (Bool.and_eq_true_iff.mp obeyed).1 here
  | block name => cases here
  | inherit target span => exact List.mem_singleton.mp here ▸ (Bool.and_eq_true_iff.mp obeyed).2
  | insert target bindings span =>
    obtain ⟨worded, bound⟩ := Bool.and_eq_true_iff.mp obeyed
    rcases List.mem_cons.mp here with rfl | inBinding
    · exact worded
    · obtain ⟨binding, member, rfl⟩ := List.mem_map.mp inBinding
      exact List.all_eq_true.mp bound binding member
  | create target template span =>
    simpa [expressions, obeys, or_imp, forall_and] using
      (show ∀ item ∈ [target, template], wording.value item = true by
        simpa [obeys] using obeyed) expression here
  | cycle number first others =>
    have all : ∀ item ∈ first :: others, wording.value item = true := by
      simpa [obeys] using obeyed
    exact all expression here
  | assign binding => exact List.mem_singleton.mp here ▸ obeyed

/-- The statements of a region that obeys a wording obey it. -/
theorem obeys_body {region : Region} {body : List Stmt}
    (obeyed : (within region body).obeys wording = true) :
    ∀ part ∈ body, part.obeys wording = true := by
  simp only [obeys, Bool.and_eq_true, allObey_iff] at obeyed
  exact obeyed.2

/-- What is executed where the statement stands obeys the wording. -/
theorem obeys_level (obeyed : statement.obeys wording = true) :
    ∀ part ∈ statement.level, part.obeys wording = true := by
  cases statement with
  | branch condition yes no =>
    simp only [obeys, Bool.and_eq_true, allObey_iff] at obeyed
    intro part member
    rcases List.mem_append.mp member with inYes | inNo
    · exact obeyed.1.2 part inYes
    · exact obeyed.2 part inNo
  | each loop body empty =>
    simp only [obeys, Bool.and_eq_true, allObey_iff] at obeyed
    exact obeyed.2
  | within region body =>
    cases region with
    | tabbing => exact obeys_body obeyed
    | _ =>
      intro part impossible
      cases impossible
  | _ =>
    intro part impossible
    cases impossible

/-- So does what is executed in scopes of its own. -/
theorem obeys_nested (obeyed : statement.obeys wording = true) :
    ∀ part ∈ statement.nested, part.obeys wording = true := by
  cases statement with
  | each loop body empty =>
    simp only [obeys, Bool.and_eq_true, allObey_iff] at obeyed
    exact obeyed.1.2
  | within region body =>
    intro part member
    by_cases opened : region.opensScope = true
    · exact obeys_body obeyed part (by simpa [nested, opened] using member)
    · simp [nested, opened] at member
  | _ =>
    intro part impossible
    cases impossible

end Stmt

namespace Discipline

variable {Circumstance : Type} (discipline : Discipline Circumstance)
  {circumstance : Circumstance} {station : Station} {first second : Expansion}

/-- What a discipline expects of goals. -/
def Asks (circumstance : Circumstance) (station : Station) : Goal → Prop
  | .whole => discipline.awaits circumstance station
  | .reference name => discipline.fits circumstance station ∧
      (discipline.wording station.template).block name = true
  | .block name definitions => discipline.fits circumstance station ∧
      discipline.Supplies circumstance station name definitions
  | .tree nodes body => discipline.fits circumstance station ∧
      (∀ node ∈ nodes, discipline.good circumstance node) ∧
      allObey (discipline.wording station.template) body = true

/-- The logic of a discipline. -/
def logic : Logic Circumstance where
  keeps := discipline.Keeps
  admits := fun circumstance station statement => discipline.fits circumstance station ∧
    statement.obeys (discipline.wording station.template) = true
  asks := discipline.Asks
  good := discipline.good
  bindable := discipline.bindable
  legible := discipline.legible
  opens := discipline.Within
  catches := discipline.Within
  files := discipline.Within
  arrives := fun outer inner station handle entered =>
    discipline.Arrival outer inner station handle ∧
      ∃ sites, entered = { station with sites := sites }

variable {discipline}

/-- Ways to expand goals that respect the discipline respect its logic. -/
theorem Follows.asked (follows : discipline.Follows first second) :
    discipline.logic.Follows first second := by
  intro circumstance station goal asked
  cases goal with
  | whole => exact follows.whole asked
  | reference name => exact follows.reference name asked.1 asked.2
  | block name definitions => exact follows.block name definitions asked.1 asked.2
  | tree nodes body => exact follows.tree nodes body asked.1 asked.2.1 asked.2.2

/-- The logic of a lawful discipline is sound. -/
theorem Lawful.sound (lawful : discipline.Lawful) : discipline.logic.Sound where
  pure := fun value isGood => Run.Lockstep.pure value isGood
  bind := fun started onward => Run.Lockstep.bind started onward
  level := fun admitted part member => ⟨admitted.1, Stmt.obeys_level admitted.2 part member⟩
  nested := fun admitted within part member =>
    ⟨within.fits _ admitted.1, Stmt.obeys_nested admitted.2 part member⟩
  caught := fun admitted within part member =>
    ⟨within.fits _ admitted.1, Stmt.obeys_body admitted.2 part member⟩
  reference := fun admitted => admitted
  tree := fun admitted good =>
    ⟨admitted.1, good, (allObey_iff _ _).mpr (Stmt.obeys_body admitted.2)⟩
  extended := by
    rintro _ _ _ _ _ _ _ ⟨arrival, sites, rfl⟩ admitted
    exact arrival.extended (Bool.and_eq_true_iff.mp admitted.2).1 sites
  inserted := by
    rintro _ _ _ _ _ _ _ _ _ ⟨arrival, sites, rfl⟩ _ within
    exact within.awaits _ (arrival.alone sites)
  created := by
    rintro _ _ _ _ _ _ _ _ _ ⟨arrival, sites, rfl⟩ _ within
    exact within.awaits _ (arrival.alone sites)
  text := fun admitted => lawful.text admitted.1 admitted.2
  elements := lawful.elements
  carried := fun arrived good => arrived.1.good _ good
  bindable := lawful.bindable
  bindableNone := lawful.bindableNone
  bindableBoolean := lawful.bindableBoolean
  bindableInteger := lawful.bindableInteger
  bindableText := lawful.bindableText
  evaluate := fun admitted here =>
    lawful.evaluate admitted.1 (Stmt.value_of_obeys admitted.2 here)
  pattern := by
    rintro circumstance station name items pattern body ⟨fits, obeyed⟩
    have head := (Bool.and_eq_true_iff.mp obeyed).1
    exact lawful.pattern fits (Bool.and_eq_true_iff.mp head).2
  record := fun entries bound => lawful.record entries fun entry member => (bound entry member).2
  enclosing := lawful.enclosing
  emit := fun admitted good => lawful.emit admitted.1 good
  write := lawful.write
  removeSpace := lawful.removeSpace
  assign := fun _ good => lawful.assign _ good
  turn := lawful.turn
  note := lawful.note
  directory := fun world other near =>
    Or.inr ⟨congrArg Except.ok (lawful.outputDirectory near), near, fun _ _ => trivial⟩
  noDirectory := fun _ _ _ => Run.Lockstep.halt _
  writeFile := fun span path text arrived => lawful.writeFile span path text arrived.1.fits
  scope := fun scope bound body => lawful.inScope scope bound body
  capture := lawful.captured
  mute := by
    rintro circumstance station body first second ⟨fits, obeyed⟩ inside
    exact lawful.mute.keepsText (fun _ _ same => ⟨same, trivial⟩) fun inner fitting =>
      inside inner fun part member => ⟨fitting station fits, Stmt.obeys_body obeyed part member⟩
  tabbed := by
    rintro circumstance station body first second ⟨fits, obeyed⟩ _ inside
    exact lawful.tabbed.keeps fun inner fitting =>
      inside inner fun part member => ⟨fitting station fits, Stmt.obeys_body obeyed part member⟩
  file := lawful.filed
  visit := by
    rintro circumstance station statement first second span name ⟨fits, _⟩ body
    refine lawful.visit fits fun inner handle arrival => ?_
    refine Run.Lockstep.bind (lawful.enter span) fun entered found => ?_
    exact body inner handle entered ⟨arrival, found⟩

section Goals

variable (lawful : discipline.Lawful) (follows : discipline.Follows first second)
include lawful follows

/-- Executing statements that obey their wording respects the discipline. -/
theorem Lawful.executeAll (statements : List Stmt) (circumstance : Circumstance)
    (station : Station) (fits : discipline.fits circumstance station)
    (obeyed : allObey (discipline.wording station.template) statements = true) :
    discipline.Keeps circumstance (fun _ => True) (Stencil.executeAll first station statements)
      (Stencil.executeAll second station statements) :=
  lawful.sound.executeAll follows.asked statements circumstance station fun part member =>
    ⟨fits, (allObey_iff _ statements).mp obeyed part member⟩

/-- The first definition of a block, with the next one rendered before it. -/
theorem Lawful.renderBlock {name : String} {definitions : List Handle}
    (fits : discipline.fits circumstance station)
    (supplied : discipline.Supplies circumstance station name definitions) :
    discipline.Keeps circumstance (fun _ => True) (station.renderBlock first name definitions)
      (station.renderBlock second name definitions) := by
  refine lawful.sound.renderBlock follows.asked ?_ ?_
  · intro definition body isFirst defined inner within part member
    obtain ⟨fitting, obeyed⟩ := supplied definition (List.mem_of_mem_head? isFirst)
    exact ⟨within.fits _ fitting, (allObey_iff _ body).mp (obeyed body defined) part member⟩
  · intro _ inner within
    refine ⟨within.fits station fits, fun other member => ?_⟩
    obtain ⟨fitting, obeyed⟩ := supplied other (List.mem_of_mem_tail member)
    exact ⟨within.fits _ fitting, obeyed⟩

/-- A tree whose nodes' body respects the discipline. -/
theorem Lawful.renderTree {nodes : List Value} {body : List Stmt}
    (fits : discipline.fits circumstance station)
    (good : ∀ node ∈ nodes, discipline.good circumstance node)
    (obeyed : allObey (discipline.wording station.template) body = true) :
    discipline.Keeps circumstance (fun _ => True) (station.pursue first (.tree nodes body))
      (station.pursue second (.tree nodes body)) := by
  -- What a value of a node offers a tree: its items are good wherever a text is caught.
  have offers : ∀ value : Value, (∀ item ∈ value.elements, discipline.good circumstance item) →
      ∀ inner, discipline.logic.catches circumstance inner →
        discipline.logic.asks inner station (.tree value.elements body) :=
    fun value goodItems inner within => ⟨within.fits station fits,
      fun item member => within.good item (goodItems item member), obeyed⟩
  suffices provided : discipline.logic.Provides circumstance station (.tree nodes body) from
    lawful.sound.pursue follows.asked provided
  refine ⟨good, ?_, ?_⟩
  · exact fun inner within part member =>
      ⟨within.fits station fits, (allObey_iff _ body).mp obeyed part member⟩
  · intro node member
    unfold Value.children
    cases found : node.field? "children" with
    | none =>
      exact Run.Lockstep.pure Value.none (offers _ fun item impossible => nomatch impossible)
    | some value =>
      exact Run.Lockstep.weaken (lawful.children (good node member) found) fun value isGood =>
        offers value (lawful.elements isGood)

/-- A whole template that fits and obeys its wording. -/
theorem Lawful.renderWhole (fits : discipline.fits circumstance station)
    (obeyed : station.template.obeys (discipline.wording station.template) = true) :
    discipline.Keeps circumstance (fun _ => True) (station.pursue first .whole)
      (station.pursue second .whole) :=
  lawful.executeAll follows _ circumstance station fits
    (station.template.obeys_executed _ obeyed)

end Goals

end Discipline

end Stencil
