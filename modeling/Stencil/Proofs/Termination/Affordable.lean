import Stencil.Proofs.Termination.Measures
import Stencil.Proofs.Throughout

/-!
# What can be afforded with some depth

How deep a rendering expands goals inside one another is bounded in terms of the
templates, of the depth limit and of the data, as long as no block refers to itself
through others. A tag that leads to another template needs what is reserved for the
tags that may follow it, a reference to a block needs a stride for each rank, and a tree
needs a level for each node above one another. That no more is ever needed is a contract:
what can be afforded leads to nothing that cannot.
-/

namespace Stencil

/-- How large everything is that a rendering may come to: the names of the blocks that
templates define, how many trees they walk inside one another, how many tags may lead
to other templates, and how high the data are. -/
structure Extent where
  names : List String
  trees : Nat
  limit : Nat
  height : Nat

/-- The template is no larger than the extent. -/
structure Template.Within (extent : Extent) (template : Template) : Prop where
  names : ∀ block ∈ template.blocks, block.1 ∈ extent.names
  body : treesAll template.body ≤ extent.trees
  blocks : ∀ block ∈ template.blocks, treesAll block.2 ≤ extent.trees

/-- Whether a template is no larger than an extent can be decided. -/
instance (extent : Extent) (template : Template) : Decidable (template.Within extent) :=
  decidable_of_iff ((∀ block ∈ template.blocks, block.1 ∈ extent.names) ∧
      treesAll template.body ≤ extent.trees ∧
      ∀ block ∈ template.blocks, treesAll block.2 ≤ extent.trees)
    ⟨fun ⟨names, body, blocks⟩ => ⟨names, body, blocks⟩,
      fun within => ⟨within.names, within.body, within.blocks⟩⟩

namespace Extent

variable (extent : Extent)

/-- The extent of some templates, with a depth limit and data of some height. -/
def ofTemplates (templates : List Template) (limit height : Nat) : Extent where
  names := templates.flatMap fun template => template.blocks.map (·.1)
  trees := treesAll (templates.flatMap fun template =>
    template.body ++ template.blocks.flatMap (·.2))
  limit := limit
  height := height

/-- None of the templates is larger. -/
theorem within_ofTemplates {templates : List Template} {template : Template}
    (member : template ∈ templates) (limit height : Nat) :
    template.Within (ofTemplates templates limit height) where
  names block isBlock :=
    List.mem_flatMap.mpr ⟨template, member, List.mem_map_of_mem isBlock⟩
  body := by
    refine treesAll_le_iff.mpr fun statement isPart => trees_le_treesAll ?_
    exact List.mem_flatMap.mpr ⟨template, member, List.mem_append_left _ isPart⟩
  blocks block isBlock := by
    refine treesAll_le_iff.mpr fun statement isPart => trees_le_treesAll ?_
    have inBlocks : statement ∈ template.blocks.flatMap (·.2) :=
      List.mem_flatMap.mpr ⟨block, isBlock, isPart⟩
    exact List.mem_flatMap.mpr ⟨template, member, List.mem_append_right _ inBlocks⟩

/-- How deep a reference to a block may lead before its body refers to another one:
through the definitions of a line, and down the trees in a body. -/
def stride : Nat := (extent.limit + 1) + extent.trees * (extent.height + 2)

/-- How deep a template may lead before a tag leads to another one. -/
def reach : Nat := extent.stride * (extent.names.length + 2)

/-- How deep a rendering may lead. -/
def depth : Nat := extent.reach * (extent.limit + 1)

/-- What is reserved for the tags that may follow. -/
def reserve (station : Station) : Nat := extent.reach * (extent.limit - station.sites.length)

/-- A station that a rendering comes to: no more tags led there than may, and all
templates that extend this one were reached through them. -/
structure Stands (station : Station) : Prop where
  shallow : station.sites.length ≤ extent.limit
  extended : station.derived.length ≤ station.sites.length
  within : ∀ handle ∈ station.line, handle.template.Within extent

/-- The depth is enough for statements with the given references and trees. -/
structure Affords (depth : Nat) (station : Station) (references : List String) (trees : Nat) :
    Prop where
  stands : extent.Stands station
  ranked : ∃ rank above, Ranks station.line rank ∧ (∀ name ∈ references, rank name < above) ∧
    extent.stride * above + trees * (extent.height + 2) + extent.reserve station ≤ depth

/-- The depth is enough for the definitions of a block, each a level below the one
before. -/
def AffordsBlock (depth : Nat) (station : Station) (name : String) (definitions : List Handle) :
    Prop :=
  ∃ rest, definitions.length + rest ≤ depth ∧ ∀ definition ∈ definitions,
    ∀ body, definition.template.block? name = some body →
      extent.Affords rest { station with handle := definition } (referencesAll body)
        (treesAll body)

/-- The depth is enough for a tree, with a level for each node above one another. -/
def AffordsTree (depth : Nat) (station : Station) (nodes : List Value) (body : List Stmt) : Prop :=
  ∃ count rest, count + 1 + rest ≤ depth ∧
    (∀ node ∈ nodes, node.Bounded extent.height ∧ node.height < count) ∧
    extent.Affords rest station (referencesAll body) (treesAll body)

/-- The depth is enough for a goal. -/
def AffordsGoal (depth : Nat) (station : Station) : Goal → Prop
  | .whole => station.sites.length ≤ extent.limit ∧
      station.derived.length ≤ station.sites.length ∧
      extent.reserve station + extent.reach ≤ depth
  | .reference name => extent.Affords depth station [name] 0
  | .block name definitions =>
    definitions ≠ [] ∧ extent.AffordsBlock depth station name definitions
  | .tree nodes body => extent.AffordsTree depth station nodes body

/-- The contract that no goal is expanded deeper than can be afforded. -/
def contract (depth : Nat) : Contract Unit where
  upheld _ world := world.catalogue.filters = Filter.builtins ∧
    world.catalogue.depthLimit = extent.limit ∧
    Scopes.Every (Value.Bounded extent.height) world.context.scopes
  tolerates halt := halt ≠ .exhausted
  good := Value.Bounded extent.height
  admits _ station statement := extent.Affords depth station statement.references statement.trees
  asks _ station goal := extent.AffordsGoal depth station goal
  opens _ _ := True
  files _ _ := True
  arrives _ station entered := station.sites.length < extent.limit ∧
    entered.sites.length = station.sites.length + 1

variable {extent} {depth : Nat} {station : Station} {references : List String} {trees : Nat}

/-- The definitions of a block are no more than the templates of the line, and all of
them are from the line. -/
theorem definitions_of_stands (stands : extent.Stands station) (name : String) :
    (station.definitions name).length ≤ extent.limit + 1 ∧
      station.definitions name ⊆ station.line := by
  constructor
  · have short := Nat.le_trans stands.extended stands.shallow
    have fewer : (station.derived.filter fun handle =>
        (handle.template.block? name).isSome).length ≤ station.derived.length :=
      List.length_filter_le _ _
    simp only [Station.definitions]
    split
    · omega
    · rw [List.length_append, List.length_singleton]
      omega
  · intro definition member
    rcases Station.mem_definitions member with extends_ | isOwn
    · exact List.mem_append_left _ extends_
    · exact List.mem_append_right _ (List.mem_singleton.mpr isOwn)

/-- At another template of the line a rendering stands as well, in part of the line. -/
theorem line_subset {definition : Handle} (member : definition ∈ station.line) :
    ({ station with handle := definition } : Station).line ⊆ station.line := by
  intro handle inLine
  rcases List.mem_append.mp inLine with extends_ | isOwn
  · exact List.mem_append_left _ extends_
  · exact List.mem_singleton.mp isOwn ▸ member

namespace Affords

/-- What is enough for some statements is enough for part of them, and more is enough,
too. -/
theorem mono (affords : extent.Affords depth station references trees) {larger fewer : Nat}
    {part : List String} (enough : depth ≤ larger) (isPart : part ⊆ references)
    (isFewer : fewer ≤ trees) : extent.Affords larger station part fewer := by
  obtain ⟨stands, rank, above, ranks, below, affordable⟩ := affords
  refine ⟨stands, rank, above, ranks, fun name member => below name (isPart member), ?_⟩
  have walked : fewer * (extent.height + 2) ≤ trees * (extent.height + 2) :=
    Nat.mul_le_mul_right _ isFewer
  omega

/-- What is enough for a list of statements is enough for each. -/
theorem part {statements : List Stmt} {statement : Stmt}
    (affords : extent.Affords depth station (referencesAll statements) (treesAll statements))
    (member : statement ∈ statements) :
    extent.Affords depth station statement.references statement.trees :=
  affords.mono (Nat.le_refl _) (references_subset_referencesAll member) (trees_le_treesAll member)

/-- What is enough for a statement is enough for those inside of it. -/
theorem inside {statement part : Stmt}
    (affords : extent.Affords depth station statement.references statement.trees)
    (isPart : part ∈ statement.inside) :
    extent.Affords depth station part.references part.trees :=
  affords.mono (Nat.le_refl _) (Stmt.references_subset_of_inside isPart)
    (Stmt.trees_le_of_inside isPart)

/-- What is enough for a reference is enough for the definitions of the block. -/
theorem block {name : String} (affords : extent.Affords depth station [name] 0) :
    extent.AffordsBlock depth station name (station.definitions name) := by
  obtain ⟨stands, rank, above, ranks, below, affordable⟩ := affords
  obtain ⟨few, inLine⟩ := definitions_of_stands stands name
  have isBelow : rank name + 1 ≤ above := below name (List.mem_singleton_self name)
  have step : extent.stride * (rank name + 1) ≤ extent.stride * above :=
    Nat.mul_le_mul_left _ isBelow
  refine ⟨extent.stride * rank name + extent.trees * (extent.height + 2) + extent.reserve station,
    ?_, ?_⟩
  · rw [Nat.mul_succ] at step
    have stride : extent.stride =
        (extent.limit + 1) + extent.trees * (extent.height + 2) := rfl
    omega
  · intro definition member body defined
    have here : definition ∈ station.line := inLine member
    have part := line_subset here
    have walked : treesAll body * (extent.height + 2) ≤ extent.trees * (extent.height + 2) :=
      Nat.mul_le_mul_right _
        ((stands.within definition here).blocks _ (Template.mem_blocks defined))
    refine ⟨⟨stands.shallow, stands.extended,
        fun handle member => stands.within handle (part member)⟩,
      rank, rank name, ranks.mono part, ?_, ?_⟩
    · intro inner referred
      exact ranks name inner ⟨definition, here, body, defined, referred⟩
    · show _ + _ + extent.reserve station ≤ _
      omega

/-- What is enough for a tag that walks a tree is enough for the tree. -/
theorem tree {nodes : Expr} {body : List Stmt} {items : List Value}
    (affords : extent.Affords depth station (Stmt.within (.tree nodes) body).references
      (Stmt.within (.tree nodes) body).trees)
    (good : ∀ item ∈ items, item.Bounded extent.height) :
    extent.AffordsTree depth station items body := by
  obtain ⟨stands, rank, above, ranks, below, affordable⟩ := affords
  refine ⟨extent.height + 1, extent.stride * above + treesAll body * (extent.height + 2) +
    extent.reserve station, ?_, ?_, stands, rank, above, ranks, below, Nat.le_refl _⟩
  · rw [Stmt.trees, Nat.succ_mul] at affordable
    omega
  · exact fun item member => ⟨good item member, Nat.lt_succ_of_le (good item member).height⟩

/-- What is enough for a statement is enough for a template that it leads to. -/
theorem whole (affords : extent.Affords depth station references trees) {entered : Station}
    (shallow : station.sites.length < extent.limit)
    (deeper : entered.sites.length = station.sites.length + 1) (handle : Handle)
    {derived : List Handle} (short : derived.length ≤ station.derived.length + 1) :
    extent.AffordsGoal depth (entered.into handle derived) .whole := by
  obtain ⟨stands, rank, above, ranks, below, affordable⟩ := affords
  have extended := stands.extended
  have oneLess : extent.reserve (entered.into handle derived) + extent.reach =
      extent.reserve station := by
    have remaining : extent.limit - station.sites.length =
        extent.limit - entered.sites.length + 1 := by omega
    rw [reserve, reserve, remaining, Nat.mul_succ]
    rfl
  refine ⟨?_, ?_, ?_⟩
  · show entered.sites.length ≤ extent.limit
    omega
  · show derived.length ≤ entered.sites.length
    omega
  · omega

end Affords

/-- What is enough for a template is enough for its statements, if it is no larger than
the extent and no block refers to itself. -/
theorem affords_executed (affords : extent.AffordsGoal (depth + 1) station .whole)
    (within : ∀ handle ∈ station.line, handle.template.Within extent)
    (acyclic : Acyclic station.line) {statement : Stmt}
    (member : statement ∈ station.template.executed) :
    extent.Affords depth station statement.references statement.trees := by
  obtain ⟨shallow, extended, affordable⟩ := affords
  obtain ⟨rank, ranks, bounded⟩ :=
    acyclic.exists_ranks fun handle inLine => (within handle inLine).names
  have own := within station.handle (List.mem_append_right _ (List.mem_singleton_self _))
  have walks : statement.trees ≤ extent.trees := by
    refine treesAll_le_iff.mp own.body statement ?_
    rw [Template.executed] at member
    split at member
    · exact (List.mem_filter.mp member).1
    · exact member
  refine ⟨⟨shallow, extended, within⟩, rank, extent.names.length + 1, ranks,
    fun name _ => Nat.lt_succ_of_le (bounded name), ?_⟩
  have walked : statement.trees * (extent.height + 2) ≤ extent.trees * (extent.height + 2) :=
    Nat.mul_le_mul_right _ walks
  have stride : extent.stride = (extent.limit + 1) + extent.trees * (extent.height + 2) := rfl
  have reach : extent.reach = extent.stride * (extent.names.length + 1) + extent.stride :=
    Nat.mul_succ _ _
  omega

/-- The contract is honest. -/
theorem honest (depth : Nat) : (extent.contract depth).Honest where
  still := by
    rintro _ world after still ⟨filters, limit, scopes⟩
    have same : after.context.scopes = world.context.scopes := by
      rw [Context.scopes, Context.scopes, still.inner, still.outer]
    exact ⟨still.filters.trans filters, still.depthLimit.trans limit, same ▸ scopes⟩
  faults _ impossible := by cases impossible
  level affords part isPart := affords.inside (Stmt.level_subset_inside _ isPart)
  nested affords _ part isPart := affords.inside (Stmt.nested_subset_inside _ isPart)
  inside := by
    intro _ station region body affords _ escaping tabbing part isPart
    obtain ⟨stands, ranked⟩ := affords.inside isPart
    exact ⟨⟨stands.shallow, stands.extended, stands.within⟩, ranked⟩
  reference affords := affords
  tree affords good := affords.tree good
  extended := by
    rintro _ station entered target span handle ⟨shallow, deeper⟩ affords
    exact affords.whole shallow deeper handle (by simp)
  inserted := by
    rintro _ _ station entered target bindings span handle ⟨shallow, deeper⟩ affords _
    exact affords.whole shallow deeper handle (by simp)
  created := by
    rintro _ _ station entered target template span handle ⟨shallow, deeper⟩ affords _
    exact affords.whole shallow deeper handle (by simp)
  none := (Value.bounded_hereditary _).none
  boolean := (Value.bounded_hereditary _).boolean
  integer := (Value.bounded_hereditary _).integer
  rawText _ := ⟨rfl, Nat.zero_le _⟩
  elements bounded := (Value.bounded_hereditary _).elements bounded
  record _ all mark := Value.bounded_newRecord all mark
  evaluate := by
    rintro _ station statement expression world _ _ ⟨filters, _, scopes⟩
    rw [filters]
    exact Expr.good_evaluate (Value.bounded_hereditary _) (fun _ _ => Value.bounded_raw) scopes
      expression (Expr.obeys_all expression) world.host
  enclosing upheld found := Context.good_find? upheld.2.2 found
  assign := by
    rintro _ station binding value world _ bounded ⟨filters, limit, scopes⟩
    exact ⟨filters, limit, scopes.set binding.name bounded⟩
  scope := by
    rintro _ world scope bounded ⟨filters, limit, scopes⟩
    refine ⟨(), trivial, ⟨filters, limit, scopes.push scope bounded⟩, ?_⟩
    rintro after ⟨filters, limit, scopes⟩
    exact ⟨filters, limit, scopes.pop⟩
  select := by
    rintro _ world extension ⟨filters, limit, scopes⟩
    refine ⟨(), trivial, ⟨filters, limit, scopes⟩, ?_⟩
    rintro after ⟨filters, limit, scopes⟩
    exact ⟨filters, limit, scopes⟩
  arrive := by
    rintro _ station statement world span _ ⟨_, limit, _⟩ shallow
    exact ⟨limit ▸ shallow, by simp⟩

/-- The definitions of a block that can be afforded provide for what they come to. -/
theorem providesBlock_of_affords {name : String} {definitions : List Handle}
    (affords : extent.AffordsBlock (depth + 1) station name definitions) :
    (extent.contract depth).logic.ProvidesBlock () station name definitions := by
  obtain ⟨rest, enough, each⟩ := affords
  refine ⟨?_, ?_⟩
  · intro definition body isFirst defined inner _ part member
    have here : definition ∈ definitions := List.mem_of_head? isFirst
    have some : 0 < definitions.length := List.length_pos_of_mem here
    exact ((each definition here body defined).part member).mono (by omega)
      (List.Subset.refl _) (Nat.le_refl _)
  · -- The next definition is a level below this one, and there is one definition less.
    intro more inner _
    refine ⟨more, rest, ?_, fun definition member =>
      each definition (List.mem_of_mem_tail member)⟩
    have some : definitions ≠ [] := fun none => more (by rw [none]; rfl)
    have fewer := List.length_tail ▸ Nat.sub_lt (List.length_pos_of_ne_nil some) Nat.one_pos
    omega

/-- The nodes below a bounded node are bounded, and lower than the node. -/
theorem lower_of_children {node value : Value} (bounded : node.Bounded extent.height)
    (found : node.field? "children" = some value) (host : Host) :
    ∀ item ∈ (value.invoked host).1.elements,
      item.Bounded extent.height ∧ item.height < node.height := by
  have hereditary := Value.bounded_hereditary extent.height
  have isBounded := hereditary.field bounded found
  rw [hereditary.invoked isBounded]
  intro item member
  refine ⟨hereditary.elements isBounded item member, ?_⟩
  rcases Value.height_of_children found with lower | isNone
  · exact Nat.lt_of_le_of_lt (Value.height_of_mem_elements member) lower
  · rw [isNone] at member
    cases member

/-- So does a tree. -/
theorem providesTree_of_affords {nodes : List Value} {body : List Stmt}
    (affords : extent.AffordsTree (depth + 1) station nodes body) :
    (extent.contract depth).logic.ProvidesTree () station nodes body := by
  obtain ⟨count, rest, enough, good, inside⟩ := affords
  refine ⟨fun node member => (good node member).1, ?_, fun node member => ?_⟩
  · exact fun _ _ statement member =>
      (inside.part member).mono (by omega) (List.Subset.refl _) (Nat.le_refl _)
  · obtain ⟨bounded, low⟩ := good node member
    -- The nodes below are lower, so the tree of them needs one level less.
    have deeper : ∀ value : Value,
        (∀ item ∈ value.elements, item.Bounded extent.height ∧ item.height < node.height) →
        extent.AffordsTree depth station value.elements body := by
      refine fun value lower => ⟨count - 1, rest, by omega, fun item isItem => ?_, inside⟩
      obtain ⟨bounded, isLower⟩ := lower item isItem
      exact ⟨bounded, by omega⟩
    refine (honest depth).upholds_children (fun _ _ _ => deeper _ fun _ none => nomatch none) ?_
    exact fun value found host _ _ => deeper _ (lower_of_children bounded found host)

/-- What can be afforded with one level more is pursued as the contract says, if goals
inside of it are expanded so. -/
theorem upholds_pursue {expand : Expansion}
    (follows : (extent.contract depth).logic.Follows expand expand)
    {goal : Goal} (affords : extent.AffordsGoal (depth + 1) station goal)
    (whole : goal = .whole → Acyclic station.line ∧
      ∀ handle ∈ station.line, handle.template.Within extent) :
    (extent.contract depth).Upholds () (fun _ => True) (station.pursue expand goal) := by
  refine (honest depth).sound.pursue follows ?_
  cases goal with
  | whole =>
    obtain ⟨acyclic, within⟩ := whole rfl
    exact fun statement member => affords_executed affords within acyclic member
  | reference name => exact providesBlock_of_affords (Affords.block affords)
  | block name definitions => exact providesBlock_of_affords affords.2
  | tree nodes body => exact providesTree_of_affords affords

/-- Nothing can be afforded without depth. -/
theorem pos_of_affordsGoal {goal : Goal} (affords : extent.AffordsGoal depth station goal) :
    0 < depth := by
  have stride : 0 < extent.stride := Nat.add_pos_left (Nat.succ_pos _) _
  cases goal with
  | whole =>
    have reach : 0 < extent.reach := Nat.mul_pos stride (Nat.succ_pos _)
    exact Nat.lt_of_lt_of_le reach (Nat.le_trans (Nat.le_add_left _ _) affords.2.2)
  | reference name =>
    obtain ⟨_, rank, above, _, below, affordable⟩ := affords
    have isBelow : 0 < above := Nat.zero_lt_of_lt (below name (List.mem_singleton_self name))
    have needs : 0 < extent.stride * above := Nat.mul_pos stride isBelow
    omega
  | block name definitions =>
    obtain ⟨some, rest, enough, _⟩ := affords
    have needs : 0 < definitions.length := List.length_pos_of_ne_nil some
    omega
  | tree nodes body =>
    obtain ⟨count, rest, enough, _⟩ := affords
    omega

variable (extent) in
/-- The templates of a station's line are no larger than the extent, and no block of the
line refers to itself. -/
structure Bounds (station : Station) (_ : World) : Prop where
  acyclic : Acyclic station.line
  within : ∀ handle ∈ station.line, handle.template.Within extent

/-- Whether a station is in bounds by the given ranks of blocks. -/
def isBoundedBy (extent : Extent) (rank : String → Nat) (station : Station) : Bool :=
  station.line.all fun handle => decide (handle.template.Within extent) &&
    handle.template.blocks.all fun block =>
      (referencesAll block.2).all fun inner => rank inner < rank block.1

/-- A station that is, is in bounds. -/
theorem bounds_of_isBoundedBy {rank : String → Nat} (world : World)
    (isBounded : extent.isBoundedBy rank station = true) : extent.Bounds station world := by
  simp only [isBoundedBy, List.all_eq_true, Bool.and_eq_true, decide_eq_true_eq] at isBounded
  have ranks : Ranks station.line rank := by
    rintro name inner ⟨handle, member, body, defined, referred⟩
    exact (isBounded handle member).2 (name, body) (Template.mem_blocks defined) inner referred
  exact ⟨ranks.acyclic, fun handle member => (isBounded handle member).1⟩

/-- What can be afforded is expanded as the contract says, as long as the line of each
template is in bounds. -/
theorem upholds_expandWhile {reason : Halt} (tolerated : reason ≠ .exhausted) (depth : Nat)
    (station : Station) (goal : Goal) (affords : extent.AffordsGoal depth station goal) :
    (extent.contract depth).Upholds () (fun _ => True)
      (expandWhile extent.Bounds reason depth station goal) := by
  -- The induction is on the depth: what a level leads to needs one level less.
  induction depth generalizing station goal with
  | zero => exact absurd (pos_of_affordsGoal affords) (Nat.lt_irrefl 0)
  | succ depth inductionHypothesis =>
    refine Contract.Upholds.while tolerated fun world _ bounds => ?_
    exact upholds_pursue (fun _ station goal => inductionHypothesis station goal) affords
      fun isWhole => ⟨(bounds isWhole).acyclic, (bounds isWhole).within⟩

end Extent

end Stencil
