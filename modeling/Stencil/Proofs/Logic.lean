import Stencil.Rendering.Execution

/-!
# Logics of execution

Most of what is true of a rendering is true because each primitive action respects
it, and because every change for a time is changed back. A logic names such a
property of pairs of actions, one for each circumstance that they may be performed
in, with what it expects of values, texts, statements and goals. Actions that are
compared with themselves have a property of their own. A logic is sound if the
primitive actions respect it and if what it expects of a statement covers the
statements inside.
-/

namespace Stencil

/-- The expressions in the head of a region whose values are taken as they are. -/
def Region.expressions : Region → List Expr
  | .binding bindings => bindings.map (·.value)
  | .tree nodes => [nodes]
  | .markers _ items _ => [items]
  | .range _ first last _ step => first :: last :: step.toList
  | .spaceless => []
  | .message => []
  | .tabbing => []

/-- The expressions in the head of a statement whose values are taken as they are. -/
def Stmt.expressions : Stmt → List Expr
  | .text _ => []
  | .output value => [value]
  | .branch condition _ _ => [condition]
  | .each loop _ _ => [loop.items]
  | .within region _ => region.expressions
  | .block _ => []
  | .inherit target _ => [target]
  | .insert target bindings _ => target :: bindings.map (·.value)
  | .create target template _ => [target, template]
  | .cycle _ first others => first :: others
  | .assign binding => [binding.value]

/-- A region whose body is executed in a scope of its own. -/
def Region.opensScope : Region → Bool
  | .binding _ => true
  | .tree _ => true
  | .markers .. => true
  | .range .. => true
  | .spaceless => false
  | .message => false
  | .tabbing => false

/-- The statements inside of a statement that are executed in scopes of their own. -/
def Stmt.nested : Stmt → List Stmt
  | .each _ body _ => body
  | .within region body => if region.opensScope then body else []
  | _ => []

/-- The statements inside of a statement that are executed where it stands. -/
def Stmt.level : Stmt → List Stmt
  | .branch _ yes no => yes ++ no
  | .each _ _ empty => empty
  | .within .tabbing body => body
  | _ => []

/-- The statements that are executed when the template is rendered. -/
def Template.executed (template : Template) : List Stmt :=
  if template.inherits then template.heads else template.body

/-- The output directory that the context names. -/
def Run.directory : Run (Option String) := return (← get).context.outputDirectory

/-- The value in the field of a node for the nodes below it. -/
def Value.children (node : Value) : Run Value :=
  match node.field? "children" with
  | some value => Run.hosted value.invoked
  | Option.none => pure .none

/-- Each node of a tree takes its turn after the nodes below it. -/
theorem eachNode_cons (below : List Value → Run Unit) (body : Run Unit) (node : Value)
    (rest : List Value) :
    eachNode below body (node :: rest) = (do
      let children ← node.children
      let text ← Run.capture (below children.elements)
      Run.inScope (Named.ofPairs [("node", node), ("children", .rawText text)]) body
      eachNode below body rest) := by
  simp only [eachNode, Value.children]
  cases node.field? "children" <;> rfl

/-- A file is created below the output directory, if there is one. -/
theorem Station.create_eq (station : Station) (expand : Expansion) (target template : Expr)
    (span : Span) :
    station.create expand target template span = (do
      let target ← Run.evaluateText target
      let name ← Run.evaluateText template
      match ← Run.directory with
      | none => Run.fail (station.locate span (.ofCause (.noOutputDirectory target)))
      | some directory =>
        let path := FilePath.join directory (TemplateName.normal target)
        let handle ← station.load span name
        Run.releasing handle do
          let inner ← station.enter span
          let text ← Run.underPolicy (FilePath.extension path)
            (Run.capture (expand (inner.into handle []) .whole))
          station.writeFile span path text) := rfl

/-- A property of pairs of actions for each circumstance, with what goes along with
it: the statements that may be executed, the goals that may be asked for, the values
that expressions may have, those that may be bound in a scope, the texts that may be
written, and the circumstances in a new scope, where a text is caught, where a file
is rendered, and where a tag has led to a template. -/
structure Logic (Circumstance : Type) where
  keeps : {α : Type} → Circumstance → (α → Prop) → Run α → Run α → Prop
  admits : Circumstance → Station → Stmt → Prop
  asks : Circumstance → Station → Goal → Prop
  good : Circumstance → Value → Prop
  bindable : Circumstance → Value → Prop
  legible : Circumstance → String → Prop
  opens : Circumstance → Circumstance → Prop
  catches : Circumstance → Circumstance → Prop
  files : Circumstance → Circumstance → Prop
  arrives : Circumstance → Circumstance → Station → Handle → Station → Prop

namespace Logic

variable {Circumstance : Type} (logic : Logic Circumstance)

/-- The logic is kept by sequences of actions that keep it. -/
structure Sequential : Prop where
  pure : ∀ {α : Type} {circumstance} {isGood : α → Prop} (value : α), isGood value →
    logic.keeps circumstance isGood (Pure.pure value) (Pure.pure value)
  bind : ∀ {α β : Type} {circumstance} {middle : α → Prop} {isGood : β → Prop}
    {first second : Run α} {next following : α → Run β},
    logic.keeps circumstance middle first second →
    (∀ value, middle value →
      logic.keeps circumstance isGood (next value) (following value)) →
    logic.keeps circumstance isGood (first >>= next) (second >>= following)

/-- What is expected of a statement is passed on to the statements inside, and to the
goals that it asks for. -/
structure Expectant : Prop where
  level : ∀ {circumstance station statement}, logic.admits circumstance station statement →
    ∀ part ∈ statement.level, logic.admits circumstance station part
  nested : ∀ {circumstance inner station statement},
    logic.admits circumstance station statement → logic.opens circumstance inner →
    ∀ part ∈ statement.nested, logic.admits inner station part
  caught : ∀ {circumstance inner station body},
    logic.admits circumstance station (.within .spaceless body) →
    logic.catches circumstance inner → ∀ part ∈ body, logic.admits inner station part
  reference : ∀ {circumstance station name}, logic.admits circumstance station (.block name) →
    logic.asks circumstance station (.reference name)
  tree : ∀ {circumstance station nodes body items},
    logic.admits circumstance station (.within (.tree nodes) body) →
    (∀ item ∈ items, logic.good circumstance item) →
    logic.asks circumstance station (.tree items body)
  extended : ∀ {circumstance inner station handle entered target span},
    logic.arrives circumstance inner station handle entered →
    logic.admits circumstance station (.inherit target span) →
    logic.asks inner (entered.into handle (station.derived ++ [station.handle])) .whole
  inserted : ∀ {circumstance inner deeper station handle entered target bindings span},
    logic.arrives circumstance inner station handle entered →
    logic.admits circumstance station (.insert target bindings span) →
    logic.opens inner deeper → logic.asks deeper (entered.into handle []) .whole
  created : ∀ {circumstance inner deeper station handle entered target template span},
    logic.arrives circumstance inner station handle entered →
    logic.admits circumstance station (.create target template span) →
    logic.files inner deeper → logic.asks deeper (entered.into handle []) .whole

/-- What is expected of values and texts is passed on. -/
structure Scrupulous : Prop where
  text : ∀ {circumstance station content},
    logic.admits circumstance station (.text content) → logic.legible circumstance content
  elements : ∀ {circumstance value}, logic.good circumstance value →
    ∀ item ∈ value.elements, logic.good circumstance item
  carried : ∀ {circumstance inner station handle entered value},
    logic.arrives circumstance inner station handle entered →
    logic.good circumstance value → logic.good inner value
  bindable : ∀ {circumstance value}, logic.good circumstance value →
    logic.bindable circumstance value
  bindableNone : ∀ {circumstance}, logic.bindable circumstance .none
  bindableBoolean : ∀ {circumstance} (value : Bool), logic.bindable circumstance (.boolean value)
  bindableInteger : ∀ {circumstance} (value : Int64), logic.bindable circumstance (.integer value)
  bindableText : ∀ {circumstance text}, logic.legible circumstance text →
    logic.bindable circumstance (.rawText text)

/-- Nothing is expected of values and texts. -/
structure Careless : Prop where
  good : ∀ circumstance value, logic.good circumstance value
  bindable : ∀ circumstance value, logic.bindable circumstance value
  legible : ∀ circumstance text, logic.legible circumstance text

/-- Nothing is expected of statements and goals, either. -/
structure Indifferent : Prop extends Careless logic where
  admits : ∀ circumstance station statement, logic.admits circumstance station statement
  asks : ∀ circumstance station goal, logic.asks circumstance station goal

section Unexpectant

variable {logic}

/-- Where nothing is expected of values and texts it is passed on. -/
theorem Careless.scrupulous (careless : logic.Careless) : logic.Scrupulous where
  text _ := careless.legible _ _
  elements _ _ _ := careless.good _ _
  carried _ _ := careless.good _ _
  bindable _ := careless.bindable _ _
  bindableNone := careless.bindable _ _
  bindableBoolean _ := careless.bindable _ _
  bindableInteger _ := careless.bindable _ _
  bindableText _ := careless.bindable _ _

/-- And so it is for statements and goals. -/
theorem Indifferent.expectant (indifferent : logic.Indifferent) : logic.Expectant where
  level _ _ _ := indifferent.admits _ _ _
  nested _ _ _ _ := indifferent.admits _ _ _
  caught _ _ _ _ := indifferent.admits _ _ _
  reference _ := indifferent.asks _ _ _
  tree _ _ := indifferent.asks _ _ _
  extended _ _ := indifferent.asks _ _ _
  inserted _ _ _ := indifferent.asks _ _ _
  created _ _ _ := indifferent.asks _ _ _

end Unexpectant

/-- The logic is kept by the primitive actions. -/
structure Primitive : Prop where
  evaluate : ∀ {circumstance station statement expression},
    logic.admits circumstance station statement → expression ∈ statement.expressions →
    logic.keeps circumstance (logic.good circumstance) (Run.evaluate expression)
      (Run.evaluate expression)
  pattern : ∀ {circumstance station name items pattern body},
    logic.admits circumstance station (.within (.markers name items pattern) body) →
    logic.keeps circumstance
      (fun text => ∀ content, .text content ∈ PatternPart.parts text.toList →
        logic.legible circumstance (String.ofList content))
      (Run.evaluateText pattern) (Run.evaluateText pattern)
  record : ∀ {circumstance} (entries : List (String × Value)),
    (∀ entry ∈ entries, entry.1 ≠ "children" ∧ logic.bindable circumstance entry.2) →
    logic.keeps circumstance (logic.bindable circumstance)
      (Run.hosted (Host.fresh (Value.newRecord entries)))
      (Run.hosted (Host.fresh (Value.newRecord entries)))
  enclosing : ∀ {circumstance}, logic.keeps circumstance
    (fun found => ∀ value, found = some value → logic.bindable circumstance value)
    (Run.lookUp "forloop") (Run.lookUp "forloop")
  emit : ∀ {circumstance station statement value}, logic.admits circumstance station statement →
    logic.good circumstance value →
    logic.keeps circumstance (fun _ => True) (station.emit value) (station.emit value)
  write : ∀ {circumstance text}, logic.legible circumstance text →
    logic.keeps circumstance (fun _ => True) (Run.write text) (Run.write text)
  removeSpace : ∀ {circumstance text}, logic.legible circumstance text →
    logic.keeps circumstance (logic.legible circumstance) (Run.removeSpace text)
      (Run.removeSpace text)
  assign : ∀ {circumstance station binding value},
    logic.admits circumstance station (.assign binding) → logic.good circumstance value →
    logic.keeps circumstance (fun _ => True) (Run.assign binding.name value)
      (Run.assign binding.name value)
  turn : ∀ {circumstance} (tag : CycleTag),
    logic.keeps circumstance (fun _ => True) (Run.turn tag) (Run.turn tag)
  note : ∀ {circumstance} (record : Record),
    logic.keeps circumstance (fun _ => True) (Run.note record) (Run.note record)
  directory : ∀ {circumstance},
    logic.keeps circumstance (fun _ => True) Run.directory Run.directory
  noDirectory : ∀ {circumstance} (station : Station) (span : Span) (target : String),
    logic.keeps circumstance (fun _ => True)
      (Run.fail (station.locate span (.ofCause (.noOutputDirectory target))) : Run Unit)
      (Run.fail (station.locate span (.ofCause (.noOutputDirectory target))))
  writeFile : ∀ {circumstance inner station handle entered} (span : Span) (path text : String),
    logic.arrives circumstance inner station handle entered →
    logic.keeps inner (fun _ => True) (station.writeFile span path text)
      (station.writeFile span path text)

/-- The logic is kept by changes for a time, if what is done meanwhile keeps it. -/
structure Restored : Prop where
  scope : ∀ {circumstance} {first second : Run Unit} (scope : Named Value),
    (∀ entry ∈ scope, logic.bindable circumstance entry.2) →
    (∀ inner, logic.opens circumstance inner →
      logic.keeps inner (fun _ => True) first second) →
    logic.keeps circumstance (fun _ => True) (Run.inScope scope first) (Run.inScope scope second)
  capture : ∀ {circumstance} {first second : Run Unit},
    (∀ inner, logic.catches circumstance inner →
      logic.keeps inner (fun _ => True) first second) →
    logic.keeps circumstance (logic.legible circumstance) (Run.capture first) (Run.capture second)
  mute : ∀ {circumstance station body} {first second : Run Unit},
    logic.admits circumstance station (.within .message body) →
    (∀ inner, (∀ part ∈ body, logic.admits inner { station with escaping := false } part) →
      logic.keeps inner (fun _ => True) first second) →
    logic.keeps circumstance (fun _ => True) (Run.capture first) (Run.capture second)
  tabbed : ∀ {circumstance station body} {first second : Run Unit},
    logic.admits circumstance station (.within .tabbing body) → station.tabbing = false →
    (∀ inner, (∀ part ∈ body, logic.admits inner { station with tabbing := true } part) →
      logic.keeps inner (fun _ => True) first second) →
    logic.keeps circumstance (fun _ => True) (Run.tabbed first) (Run.tabbed second)
  file : ∀ {circumstance} {first second : Run Unit} (extension : String),
    (∀ inner, logic.files circumstance inner →
      logic.keeps inner (fun _ => True) first second) →
    logic.keeps circumstance (fun _ => True) (Run.underPolicy extension (Run.capture first))
      (Run.underPolicy extension (Run.capture second))
  visit : ∀ {circumstance station statement} {first second : Handle → Station → Run Unit}
    (span : Span) (name : String), logic.admits circumstance station statement →
    (∀ inner handle entered, logic.arrives circumstance inner station handle entered →
      logic.keeps inner (fun _ => True) (first handle entered) (second handle entered)) →
    logic.keeps circumstance (fun _ => True)
      (station.load span name >>= fun handle =>
        Run.releasing handle (station.enter span >>= first handle))
      (station.load span name >>= fun handle =>
        Run.releasing handle (station.enter span >>= second handle))

/-- The logic is sound. -/
structure Sound : Prop extends Sequential logic, Expectant logic, Scrupulous logic,
  Primitive logic, Restored logic

/-- Two ways of expanding goals respect the logic. -/
def Follows (first second : Expansion) : Prop :=
  ∀ circumstance station goal, logic.asks circumstance station goal →
    logic.keeps circumstance (fun _ => True) (first station goal) (second station goal)

namespace Sound

variable {logic} (sound : logic.Sound) {circumstance : Circumstance} {α β : Type}
include sound

/-- An action on each element of a list, with its index. -/
theorem forEach {fit : β → Prop} {first second : Nat → β → Run Unit}
    (each : ∀ index item, fit item →
      logic.keeps circumstance (fun _ => True) (first index item) (second index item))
    (items : List β) (index : Nat) (fitting : ∀ item ∈ items, fit item) :
    logic.keeps circumstance (fun _ => True) (Run.forEach first index items)
      (Run.forEach second index items) := by
  induction items generalizing index with
  | nil => exact sound.pure () trivial
  | cons item rest inductionHypothesis =>
    refine sound.bind (each index item (fitting item (by simp))) fun _ _ => ?_
    exact inductionHypothesis (index + 1) fun other member => fitting other (by simp [member])

/-- An action for each of so many indices. -/
theorem forIndices {first second : Nat → Run Unit}
    (each : ∀ index, logic.keeps circumstance (fun _ => True) (first index) (second index))
    (remaining index : Nat) :
    logic.keeps circumstance (fun _ => True) (Run.forIndices first index remaining)
      (Run.forIndices second index remaining) := by
  induction remaining generalizing index with
  | zero => exact sound.pure () trivial
  | succ remaining inductionHypothesis =>
    exact sound.bind (each index) fun _ _ => inductionHypothesis (index + 1)

/-- The values of an action on each element of a list. -/
theorem mapM {isGood : β → Prop} {first second : α → Run β} (items : List α)
    (each : ∀ item ∈ items, logic.keeps circumstance isGood (first item) (second item)) :
    logic.keeps circumstance (fun values => ∀ value ∈ values, isGood value)
      (items.mapM first) (items.mapM second) := by
  induction items with
  | nil => exact sound.pure [] (by simp)
  | cons item rest inductionHypothesis =>
    rw [List.mapM_cons, List.mapM_cons]
    refine sound.bind (each item (by simp)) fun value isGood => ?_
    refine sound.bind (inductionHypothesis fun other member => each other (by simp [member]))
      fun values allGood => ?_
    refine sound.pure (value :: values) ?_
    intro found member
    rcases List.mem_cons.mp member with rfl | among
    · exact isGood
    · exact allGood found among

end Sound

end Logic

end Stencil
