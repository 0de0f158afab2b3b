import Stencil.Proofs.Logic.Statements
import Stencil.Proofs.Still

/-!
# Contracts of execution

A contract is a logic of single actions: in each circumstance something is upheld, and
an action either comes to a good value or halts for a reason that is tolerated. What is
upheld may depend on nothing but what primitive actions leave alone, so all of them
honour the contract as soon as setting a name, opening a scope and selecting a policy
do. The main statement is that the logic of an honest contract is sound.
-/

namespace Stencil

/-- What is upheld in each circumstance, the reasons to halt that are tolerated, the
values that are good, and what goes along with it: the statements that may be executed,
the goals that may be asked for, and the circumstances in a new scope, under another
policy, and where a tag has led to a template. -/
structure Contract (Circumstance : Type) where
  upheld : Circumstance → World → Prop
  tolerates : Halt → Prop
  good : Value → Prop
  admits : Circumstance → Station → Stmt → Prop
  asks : Circumstance → Station → Goal → Prop
  opens : Circumstance → Circumstance → Prop
  files : Circumstance → Circumstance → Prop
  arrives : Circumstance → Station → Station → Prop

namespace Contract

variable {Circumstance : Type} {α β : Type} (contract : Contract Circumstance)

/-- The result is a good value, or a reason to halt that is tolerated. -/
def Accepts (isGood : α → Prop) : Except Halt α → Prop
  | .ok value => isGood value
  | .error halt => contract.tolerates halt

/-- The action upholds what the contract says, and its result is accepted. -/
def Upholds (circumstance : Circumstance) (isGood : α → Prop) (action : Run α) : Prop :=
  ∀ world, contract.upheld circumstance world →
    contract.upheld circumstance (action world).2 ∧ contract.Accepts isGood (action world).1

/-- The logic of a contract. -/
def logic : Logic Circumstance where
  keeps := fun circumstance isGood action _ => contract.Upholds circumstance isGood action
  admits := contract.admits
  asks := contract.asks
  good := fun _ => contract.good
  bindable := fun _ => contract.good
  legible := fun _ _ => True
  opens := contract.opens
  catches := fun outer inner => inner = outer
  files := contract.files
  arrives := fun outer inner station _ entered => inner = outer ∧ contract.arrives outer station entered

/-- What the contract says can be kept: it concerns nothing that primitive actions
change, and is kept where names are set, scopes are opened and policies selected. -/
structure Honest : Prop where
  still : ∀ {circumstance world after}, world.Still after → contract.upheld circumstance world →
    contract.upheld circumstance after
  faults : ∀ fault, contract.tolerates (.fault fault)
  -- What is expected of statements and goals.
  level : ∀ {circumstance station statement}, contract.admits circumstance station statement →
    ∀ part ∈ statement.level, contract.admits circumstance station part
  nested : ∀ {circumstance inner station statement},
    contract.admits circumstance station statement → contract.opens circumstance inner →
    ∀ part ∈ statement.nested, contract.admits inner station part
  inside : ∀ {circumstance station region body},
    contract.admits circumstance station (.within region body) → region.opensScope = false →
    ∀ escaping tabbing, ∀ part ∈ body,
      contract.admits circumstance { station with escaping := escaping, tabbing := tabbing } part
  reference : ∀ {circumstance station name}, contract.admits circumstance station (.block name) →
    contract.asks circumstance station (.reference name)
  tree : ∀ {circumstance station nodes body items},
    contract.admits circumstance station (.within (.tree nodes) body) →
    (∀ item ∈ items, contract.good item) → contract.asks circumstance station (.tree items body)
  extended : ∀ {circumstance station entered target span} (handle : Handle),
    contract.arrives circumstance station entered →
    contract.admits circumstance station (.inherit target span) →
    contract.asks circumstance (entered.into handle (station.derived ++ [station.handle])) .whole
  inserted : ∀ {circumstance inner station entered target bindings span} (handle : Handle),
    contract.arrives circumstance station entered →
    contract.admits circumstance station (.insert target bindings span) →
    contract.opens circumstance inner → contract.asks inner (entered.into handle []) .whole
  created : ∀ {circumstance inner station entered target template span} (handle : Handle),
    contract.arrives circumstance station entered →
    contract.admits circumstance station (.create target template span) →
    contract.files circumstance inner → contract.asks inner (entered.into handle []) .whole
  -- What is expected of values.
  none : contract.good .none
  boolean : ∀ truth, contract.good (.boolean truth)
  integer : ∀ number, contract.good (.integer number)
  rawText : ∀ text, contract.good (.rawText text)
  elements : ∀ {value}, contract.good value → ∀ item ∈ value.elements, contract.good item
  record : ∀ entries : List (String × Value),
    (∀ entry ∈ entries, entry.1 ≠ "children" ∧ contract.good entry.2) →
    ∀ mark, contract.good (Value.newRecord entries mark).1
  -- What is upheld where something is done.
  evaluate : ∀ {circumstance station statement expression world},
    contract.admits circumstance station statement → expression ∈ statement.expressions →
    contract.upheld circumstance world →
    contract.good (expression.evaluate world.catalogue.filters world.context world.host).1
  enclosing : ∀ {circumstance world value}, contract.upheld circumstance world →
    world.context.find? "forloop" = some value → contract.good value
  assign : ∀ {circumstance station binding value world},
    contract.admits circumstance station (.assign binding) → contract.good value →
    contract.upheld circumstance world →
    contract.upheld circumstance
      { world with context := world.context.set binding.name value }
  scope : ∀ {circumstance world} (scope : Named Value), (∀ entry ∈ scope, contract.good entry.2) →
    contract.upheld circumstance world → ∃ inner, contract.opens circumstance inner ∧
      contract.upheld inner { world with context := world.context.push scope } ∧
      ∀ after, contract.upheld inner after →
        contract.upheld circumstance { after with context := after.context.pop }
  select : ∀ {circumstance world} (extension : String), contract.upheld circumstance world →
    ∃ inner, contract.files circumstance inner ∧
      contract.upheld inner { world with context := world.context.select extension } ∧
      ∀ after, contract.upheld inner after → contract.upheld circumstance
        { after with context := { after.context with active := world.context.active } }
  arrive : ∀ {circumstance station statement world} (span : Span),
    contract.admits circumstance station statement → contract.upheld circumstance world →
    station.sites.length < world.catalogue.depthLimit →
    contract.arrives circumstance station
      { station with sites := station.sites ++ [station.site span] }

namespace Upholds

variable {contract} {circumstance : Circumstance} {isGood : α → Prop}

/-- A value by itself changes nothing. -/
theorem pure (value : α) (accepted : isGood value) :
    contract.Upholds circumstance isGood (Pure.pure value) :=
  fun _ upheld => ⟨upheld, accepted⟩

/-- A sequence upholds what its parts do. -/
theorem bind {middle : α → Prop} {isGood : β → Prop} {action : Run α} {next : α → Run β}
    (upholds : contract.Upholds circumstance middle action)
    (onward : ∀ value, middle value → contract.Upholds circumstance isGood (next value)) :
    contract.Upholds circumstance isGood (action >>= next) := by
  intro world before
  obtain ⟨upheld, accepted⟩ := upholds world before
  rw [Run.bind_apply]
  cases done : action world with
  | mk result after =>
    rw [done] at upheld accepted
    cases result with
    | error halt => exact ⟨upheld, accepted⟩
    | ok value => exact onward value accepted after upheld

/-- An action in brackets upholds what is restored after it. -/
theorem bracket (enter : World → World) (leave : World → World → World) {action : Run α}
    (passage : ∀ world, contract.upheld circumstance world → ∃ inner,
      contract.Upholds inner isGood action ∧ contract.upheld inner (enter world) ∧
      ∀ after, contract.upheld inner after → contract.upheld circumstance (leave world after)) :
    contract.Upholds circumstance isGood
      (fun world => ((action (enter world)).1, leave world (action (enter world)).2)) := by
  intro world before
  obtain ⟨inner, upholds, entered, left⟩ := passage world before
  obtain ⟨upheld, accepted⟩ := upholds (enter world) entered
  exact ⟨left _ upheld, accepted⟩

/-- The text that an action writes is as good as any. -/
theorem captured (enter : World → World) (leave : World → World → World) {action : Run Unit}
    (upholds : contract.Upholds circumstance (fun _ => True)
      (fun world => ((action (enter world)).1, leave world (action (enter world)).2))) :
    contract.Upholds circumstance (fun _ : String => True)
      (fun world => ((action (enter world)).1.map fun _ => (action (enter world)).2.sink.text,
        leave world (action (enter world)).2)) := by
  intro world before
  obtain ⟨upheld, accepted⟩ := upholds world before
  refine ⟨upheld, ?_⟩
  show contract.Accepts _ ((action (enter world)).1.map _)
  have result : contract.Accepts (fun _ => True) (action (enter world)).1 := accepted
  cases found : (action (enter world)).1 with
  | ok value => trivial
  | error halt =>
    rw [found] at result
    exact result

end Upholds

namespace Honest

variable {contract} (honest : contract.Honest) {circumstance : Circumstance} {isGood : α → Prop}
include honest

/-- Where the output goes is of no importance. -/
theorem toSink {world : World} (upheld : contract.upheld circumstance world) (sink : Sink) :
    contract.upheld circumstance { world with sink := sink } := by
  have still : world.Still { world with sink := sink } := .of_context rfl rfl rfl
  exact honest.still still upheld

/-- An action upholds everything if it leaves alone what it should, and its result is
accepted. -/
theorem upholds {action : Run α} (still : ∀ world : World, world.Still (action world).2)
    (accepted : ∀ world, contract.upheld circumstance world →
      contract.Accepts isGood (action world).1) :
    contract.Upholds circumstance isGood action :=
  fun world upheld => ⟨honest.still (still world) upheld, accepted world upheld⟩

/-- So does an action that needs the host's side only. -/
theorem upholds_hosted {action : Hosted α} (accepted : ∀ host, isGood (action host).1) :
    contract.Upholds circumstance isGood (Run.hosted action) :=
  honest.upholds (fun _ => .of_context rfl rfl rfl) fun world _ => accepted world.host

/-- Writing a text may be refused, which is tolerated. -/
theorem upholds_write (text : String) :
    contract.Upholds circumstance (fun _ => True) (Run.write text) := by
  refine honest.upholds (fun _ => .of_context rfl rfl rfl) fun world _ => ?_
  unfold Run.write
  rcases world.sink.write text with ⟨taken, sink⟩
  cases taken with
  | true => trivial
  | false => exact honest.faults _

/-- A value may be written, escaped or not. -/
theorem upholds_emit (station : Station) (value : Value) :
    contract.Upholds circumstance (fun _ => True) (station.emit value) := by
  rw [Station.emit]
  split
  · exact honest.upholds_write _
  · have escaped : contract.Upholds circumstance (fun _ => True) (Run.escape value.written) :=
      honest.upholds (fun world => .escape world _) fun _ _ => trivial
    exact Upholds.bind escaped fun text _ => honest.upholds_write text

/-- A file may be written, or refused. -/
theorem upholds_writeFile (station : Station) (span : Span) (path text : String) :
    contract.Upholds circumstance (fun _ => True) (station.writeFile span path text) := by
  refine honest.upholds (fun world => ?_) fun world _ => ?_
  · obtain ⟨result, host, applied⟩ := station.writeFile_apply span path text world.host
    rw [applied world rfl]
    exact .of_context rfl rfl rfl
  · rw [Station.writeFile, Run.get_apply]
    rcases world.host.files.create path text.toUTF8 with ⟨cause | _, files⟩
    · exact honest.faults _
    · trivial

/-- A template that a tag leads to is loaded and given back, unless it cannot be. -/
theorem upholds_visit {station : Station} {statement : Stmt} {body : Handle → Station → Run Unit}
    (span : Span) (name : String) (admitted : contract.admits circumstance station statement)
    (upholds : ∀ handle entered, contract.arrives circumstance station entered →
      contract.Upholds circumstance (fun _ => True) (body handle entered)) :
    contract.Upholds circumstance (fun _ => True)
      (station.load span name >>= fun handle =>
        Run.releasing handle (station.enter span >>= body handle)) := by
  have loads : contract.Upholds circumstance (fun _ => True) (station.load span name) := by
    refine honest.upholds (fun world => .load station span name world) fun world _ => ?_
    rw [Station.load_apply]
    cases world.catalogue.load world.host.files name (some (station.template.line span)) with
    | ok loaded => trivial
    | error fault => exact honest.faults _
  have enters : contract.Upholds circumstance (contract.arrives circumstance station)
      (station.enter span) := by
    intro world upheld
    rw [Station.enter_apply]
    by_cases shallow : station.sites.length < world.catalogue.depthLimit
    · simp only [shallow, if_true]
      exact ⟨upheld, honest.arrive span admitted upheld shallow⟩
    · simp only [shallow, if_false]
      exact ⟨upheld, honest.faults _⟩
  refine Upholds.bind loads fun handle _ => ?_
  refine Upholds.bracket id
    (fun _ after => { after with catalogue := after.catalogue.release handle })
    fun world upheld => ⟨circumstance, ?_, upheld, ?_⟩
  · exact Upholds.bind enters fun entered arrived => upholds handle entered arrived
  · exact fun after later => honest.still (.release after handle) later

/-- What is below a node is in its field, or nothing. -/
theorem upholds_children {node : Value} {isBelow : Value → Prop}
    (absent : node.field? "children" = .none → isBelow .none)
    (present : ∀ value, node.field? "children" = some value →
      ∀ host, isBelow (value.invoked host).1) :
    contract.Upholds circumstance isBelow node.children := by
  unfold Value.children
  cases found : node.field? "children" with
  | none => exact Upholds.pure Value.none (absent found)
  | some value => exact honest.upholds_hosted (present value found)

/-- Changing the sink for a time changes nothing that is upheld. -/
theorem upholds_capture {action : Run Unit}
    (upholds : contract.Upholds circumstance (fun _ => True) action) :
    contract.Upholds circumstance (fun _ => True) (Run.capture action) := by
  refine Upholds.captured Discipline.emptied Discipline.resink
    (Upholds.bracket _ _ fun world upheld => ⟨circumstance, upholds, ?_, ?_⟩)
  · exact honest.toSink upheld _
  · exact fun after later => honest.toSink later _

/-- The logic of an honest contract is sound. -/
theorem sound : contract.logic.Sound where
  pure := fun value accepted => Upholds.pure value accepted
  bind := fun upholds onward => Upholds.bind upholds onward
  level := honest.level
  nested := honest.nested
  caught := by
    rintro circumstance _ station body admitted rfl part member
    exact honest.inside admitted rfl station.escaping station.tabbing part member
  reference := honest.reference
  tree := honest.tree
  extended := by
    rintro _ _ _ handle _ _ _ ⟨rfl, arrived⟩ admitted
    exact honest.extended handle arrived admitted
  inserted := by
    rintro _ _ _ _ handle _ _ _ _ ⟨rfl, arrived⟩ admitted opened
    exact honest.inserted handle arrived admitted opened
  created := by
    rintro _ _ _ _ handle _ _ _ _ ⟨rfl, arrived⟩ admitted filed
    exact honest.created handle arrived admitted filed
  text := fun _ => trivial
  elements := honest.elements
  carried := fun _ isGood => isGood
  bindable := fun isGood => isGood
  bindableNone := honest.none
  bindableBoolean := honest.boolean
  bindableInteger := honest.integer
  bindableText := fun _ => honest.rawText _
  evaluate := fun admitted here =>
    honest.upholds (fun _ => .of_context rfl rfl rfl) fun _ upheld =>
      honest.evaluate admitted here upheld
  pattern := fun _ =>
    honest.upholds (fun _ => .of_context rfl rfl rfl) fun _ _ _ _ => trivial
  record := fun entries bound =>
    honest.upholds_hosted fun host => honest.record entries bound host.unused
  enclosing := honest.upholds (fun _ => .of_context rfl rfl rfl) fun _ upheld _ found =>
    honest.enclosing upheld found
  emit := fun _ _ => honest.upholds_emit _ _
  write := fun _ => honest.upholds_write _
  removeSpace := fun _ => honest.upholds (fun world => .removeSpace world _) fun _ _ => trivial
  assign := fun admitted isGood _ upheld => ⟨honest.assign admitted isGood upheld, trivial⟩
  turn := fun _ => honest.upholds (fun _ => .of_context rfl rfl rfl) fun _ _ => trivial
  note := fun _ => honest.upholds_hosted fun _ => trivial
  directory := honest.upholds (fun _ => .of_context rfl rfl rfl) fun _ _ => trivial
  noDirectory := fun _ _ _ _ upheld => ⟨upheld, honest.faults _⟩
  writeFile := fun span path text _ => honest.upholds_writeFile _ span path text
  scope := by
    intro circumstance first second scope bound body
    refine Upholds.bracket (fun world => { world with context := world.context.push scope })
      (fun _ after => { after with context := after.context.pop }) fun world upheld => ?_
    obtain ⟨inner, opened, entered, left⟩ := honest.scope scope bound upheld
    exact ⟨inner, body inner opened, entered, left⟩
  capture := fun body => honest.upholds_capture (body _ rfl)
  mute := fun {_ station _ _ _} admitted body =>
    honest.upholds_capture (body _ (honest.inside admitted rfl false station.tabbing))
  tabbed := by
    intro circumstance station body first second admitted _ upholds
    have inside := upholds circumstance (honest.inside admitted rfl station.escaping true)
    refine Upholds.bracket (Run.switchTabbing true) (fun _ after => Run.switchTabbing false after)
      fun world upheld => ⟨circumstance, inside, ?_, ?_⟩
    · exact honest.still (.switchTabbing true world) upheld
    · exact fun after later => honest.still (.switchTabbing false after) later
  file := by
    intro circumstance first second extension body
    refine Upholds.captured (Discipline.filing extension) Discipline.filed
      (Upholds.bracket _ _ fun world upheld => ?_)
    obtain ⟨inner, filed, entered, left⟩ := honest.select extension upheld
    refine ⟨inner, body inner filed, honest.toSink entered _, ?_⟩
    exact fun after later => honest.toSink (left after later) _
  visit := fun span name admitted body =>
    honest.upholds_visit span name admitted fun handle entered arrived =>
      body _ handle entered ⟨rfl, arrived⟩

end Honest

end Contract

end Stencil
