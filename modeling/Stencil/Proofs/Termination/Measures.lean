import Mathlib.Data.Finset.Card
import Mathlib.Logic.Relation
import Stencil.Proofs.Hereditary
import Stencil.Proofs.Logic

/-!
# What the depth of a rendering depends on

Three things make a rendering go deeper than one template: the trees that it walks
down, the blocks that refer to one another, and the tags that lead to other templates.
How deep the trees in the data are is the height of a value, how many of them are walked
inside one another is read off the statements. The blocks of an extend chain have a rank
each, above the ranks of those that they refer to, unless one of them refers to itself
through others.
-/

namespace Stencil

section Data

mutual

/-- How many nodes lie above one another in a datum, each in the field of the one above
it for the nodes below. -/
def Datum.height : Datum → Nat
  | .record _ _ entries => entriesHeight entries
  | .list _ items => itemsHeight items
  | .none => 0
  | .boolean _ => 0
  | .integer _ => 0
  | .text _ => 0
  | .callable _ => 0
termination_by structural datum => datum

/-- How many lie above one another in a value. -/
def Value.height : Value → Nat
  | ⟨datum, _⟩ => datum.height
termination_by structural value => value

/-- The greatest height of the elements of a list. -/
def itemsHeight : List Value → Nat
  | [] => 0
  | item :: rest => max item.height (itemsHeight rest)
termination_by structural items => items

/-- The greatest height of the entries of a record, where the nodes below count one
more. -/
def entriesHeight : List (String × Value) → Nat
  | [] => 0
  | (name, value) :: rest =>
    max (if name = "children" then value.height + 1 else value.height) (entriesHeight rest)
termination_by structural entries => entries

end

/-- A list is no higher than a bound if no element is. -/
theorem itemsHeight_le_iff {items : List Value} {bound : Nat} :
    itemsHeight items ≤ bound ↔ ∀ item ∈ items, item.height ≤ bound := by
  induction items with
  | nil => simp [itemsHeight]
  | cons item rest inductionHypothesis => simp [itemsHeight, inductionHypothesis]

/-- A record is no higher than a bound if no entry is, and the nodes below are lower. -/
theorem entriesHeight_le_iff {entries : List (String × Value)} {bound : Nat} :
    entriesHeight entries ≤ bound ↔ ∀ entry ∈ entries,
      (if entry.1 = "children" then entry.2.height + 1 else entry.2.height) ≤ bound := by
  induction entries with
  | nil => simp [entriesHeight]
  | cons entry rest inductionHypothesis =>
    obtain ⟨name, value⟩ := entry
    simp [entriesHeight, inductionHypothesis]

namespace Value

variable {value : Value} {bound : Nat}

/-- There is no callable in the value. -/
def isData (value : Value) : Bool := value.every fun inside => !inside.isCallable

/-- A value without callables that is no higher than a bound. -/
structure Bounded (bound : Nat) (value : Value) : Prop where
  isData : value.isData = true
  height : value.height ≤ bound

/-- Data are not callable, and all that is inside of them are data. -/
theorem isData_iff : value.isData = true ↔
    value.isCallable = false ∧ value.datum.every (fun inside => !inside.isCallable) = true := by
  obtain ⟨datum, raw⟩ := value
  simp [isData, Value.every]

/-- The height is that of the datum. -/
theorem height_eq (value : Value) : value.height = value.datum.height := by
  obtain ⟨datum, raw⟩ := value
  rfl

/-- What a loop goes over is no higher than the value. -/
theorem height_of_mem_elements {item : Value} (member : item ∈ value.elements) :
    item.height ≤ value.height := by
  rw [elements] at member
  split at member
  · cases member
  · rename_i mark items list
    rw [height_eq value, list]
    exact itemsHeight_le_iff.mp (Nat.le_refl _) item member
  · have same : item = value := by simpa using member
    rw [same]

/-- A node is higher than those below it. -/
theorem height_of_children {node inside : Value} (found : node.field? "children" = some inside) :
    inside.height < node.height ∨ inside = .none := by
  unfold field? at found
  split at found
  · rename_i mark listed entries record
    have same : Value.ofRecord entries "children" = inside := Option.some.inj found
    rw [Value.ofRecord] at same
    cases here : Named.get? entries "children" with
    | none =>
      rw [here] at same
      exact Or.inr same.symm
    | some below =>
      rw [here] at same
      subst same
      have lower : below.height + 1 ≤ entriesHeight entries := by
        simpa using entriesHeight_le_iff.mp (Nat.le_refl _) ("children", below)
          (Named.mem_of_get? here)
      rw [height_eq node, record]
      exact Or.inl lower
  · cases found

/-- To be bounded is passed on. -/
theorem bounded_hereditary (bound : Nat) : Hereditary (Bounded bound) where
  none := ⟨rfl, Nat.zero_le _⟩
  boolean _ := ⟨rfl, Nat.zero_le _⟩
  integer _ := ⟨rfl, Nat.zero_le _⟩
  text _ := ⟨rfl, Nat.zero_le _⟩
  list _ items all := by
    refine ⟨isData_iff.mpr ⟨rfl, (itemsEvery_iff _ items).mpr fun item member => ?_⟩, ?_⟩
    · exact (all item member).isData
    · exact itemsHeight_le_iff.mpr fun item member => (all item member).height
  items := by
    intro value mark items bounded list item member
    have inside := (isData_iff.mp bounded.isData).2
    have height := bounded.height
    rw [height_eq] at height
    rw [list] at inside height
    exact ⟨(itemsEvery_iff _ items).mp inside item member,
      itemsHeight_le_iff.mp height item member⟩
  entries := by
    intro value mark listed entries bounded record entry member
    have inside := (isData_iff.mp bounded.isData).2
    have height := bounded.height
    rw [height_eq] at height
    rw [record] at inside height
    refine ⟨(entriesEvery_iff _ entries).mp inside entry member, ?_⟩
    have own := entriesHeight_le_iff.mp height entry member
    split at own
    · exact Nat.le_of_succ_le own
    · exact own
  notCallable bounded := (isData_iff.mp bounded.isData).1

/-- A value that is marked as raw is as bounded as before. -/
theorem bounded_raw (bounded : value.Bounded bound) : (Filter.raw value).Bounded bound := by
  obtain ⟨isData, height⟩ := bounded
  obtain ⟨datum, raw⟩ := value
  exact ⟨isData, height⟩

/-- A new record is bounded if its entries are, and none of them is for nodes below. -/
theorem bounded_newRecord {entries : List (String × Value)}
    (all : ∀ entry ∈ entries, entry.1 ≠ "children" ∧ entry.2.Bounded bound) (mark : Nat) :
    (newRecord entries mark).1.Bounded bound := by
  have each : ∀ entry ∈ Named.ofPairs entries, entry.1 ≠ "children" ∧ entry.2.Bounded bound :=
    fun entry member => all entry (Named.mem_of_mem_ofPairs member)
  refine ⟨isData_iff.mpr ⟨rfl, (entriesEvery_iff _ _).mpr fun entry member => ?_⟩, ?_⟩
  · exact (each entry member).2.isData
  · refine entriesHeight_le_iff.mpr fun entry member => ?_
    rw [if_neg (each entry member).1]
    exact (each entry member).2.height

end Value

/-- The greatest height of a value in some scopes. -/
def Scopes.height (scopes : List (Named Value)) : Nat :=
  itemsHeight (scopes.flatMap fun scope => scope.map (·.2))

/-- No data in some scopes are higher than that. -/
theorem Scopes.every_bounded {scopes : List (Named Value)}
    (data : Scopes.Every (fun value => value.isData = true) scopes) :
    Scopes.Every (Value.Bounded (Scopes.height scopes)) scopes := by
  intro scope member entry inside
  refine ⟨data scope member entry inside, itemsHeight_le_iff.mp (Nat.le_refl _) entry.2 ?_⟩
  exact List.mem_flatMap.mpr ⟨scope, member, List.mem_map_of_mem inside⟩

end Data

section Statements

mutual

/-- How many trees the statement walks inside one another. -/
def Stmt.trees : Stmt → Nat
  | .branch _ yes no => max (treesAll yes) (treesAll no)
  | .each _ body empty => max (treesAll body) (treesAll empty)
  | .within (.tree _) body => treesAll body + 1
  | .within _ body => treesAll body
  | _ => 0
termination_by structural statement => statement

/-- The most that a statement of a list does. -/
def treesAll : List Stmt → Nat
  | [] => 0
  | statement :: rest => max statement.trees (treesAll rest)
termination_by structural statements => statements

end

mutual

/-- The names of the blocks that the statement refers to, with all that stands inside of
it. -/
def Stmt.references : Stmt → List String
  | .branch _ yes no => referencesAll yes ++ referencesAll no
  | .each _ body empty => referencesAll body ++ referencesAll empty
  | .within _ body => referencesAll body
  | .block name => [name]
  | _ => []
termination_by structural statement => statement

/-- Those that the statements of a list refer to. -/
def referencesAll : List Stmt → List String
  | [] => []
  | statement :: rest => statement.references ++ referencesAll rest
termination_by structural statements => statements

end

/-- The statements walk no more trees than a bound if none of them does. -/
theorem treesAll_le_iff {statements : List Stmt} {bound : Nat} :
    treesAll statements ≤ bound ↔ ∀ statement ∈ statements, statement.trees ≤ bound := by
  induction statements with
  | nil => simp [treesAll]
  | cons statement rest inductionHypothesis => simp [treesAll, inductionHypothesis]

/-- A statement of a list walks no more trees than the list. -/
theorem trees_le_treesAll {statement : Stmt} {statements : List Stmt}
    (member : statement ∈ statements) : statement.trees ≤ treesAll statements :=
  treesAll_le_iff.mp (Nat.le_refl _) statement member

/-- What the statements refer to, one of them does. -/
theorem mem_referencesAll {name : String} {statements : List Stmt} :
    name ∈ referencesAll statements ↔ ∃ statement ∈ statements, name ∈ statement.references := by
  induction statements with
  | nil => simp [referencesAll]
  | cons statement rest inductionHypothesis => simp [referencesAll, inductionHypothesis]

/-- A statement of a list refers to what the list does. -/
theorem references_subset_referencesAll {statement : Stmt} {statements : List Stmt}
    (member : statement ∈ statements) : statement.references ⊆ referencesAll statements :=
  fun _ named => mem_referencesAll.mpr ⟨statement, member, named⟩

namespace Stmt

variable {part statement : Stmt}

/-- The statements inside of a statement. -/
def inside : Stmt → List Stmt
  | .branch _ yes no => yes ++ no
  | .each _ body empty => body ++ empty
  | .within _ body => body
  | _ => []

/-- What is executed where a statement stands is inside of it. -/
theorem level_subset_inside (statement : Stmt) : statement.level ⊆ statement.inside := by
  intro part member
  cases statement with
  | branch condition yes no => exact member
  | each loop body empty => exact List.mem_append_right body member
  | within region body =>
    cases region with
    | tabbing => exact member
    | _ => cases member
  | _ => cases member

/-- So is what is executed in scopes of its own. -/
theorem nested_subset_inside (statement : Stmt) : statement.nested ⊆ statement.inside := by
  intro part member
  cases statement with
  | each loop body empty => exact List.mem_append_left empty member
  | within region body =>
    simp only [nested] at member
    split at member
    · exact member
    · cases member
  | _ => cases member

/-- A statement refers to all that is referred to inside of it. -/
theorem references_subset_of_inside (isPart : part ∈ statement.inside) :
    part.references ⊆ statement.references := by
  cases statement with
  | branch condition yes no =>
    rcases List.mem_append.mp isPart with inYes | inNo
    · exact List.subset_append_of_subset_left _ (references_subset_referencesAll inYes)
    · exact List.subset_append_of_subset_right _ (references_subset_referencesAll inNo)
  | each loop body empty =>
    rcases List.mem_append.mp isPart with inBody | inEmpty
    · exact List.subset_append_of_subset_left _ (references_subset_referencesAll inBody)
    · exact List.subset_append_of_subset_right _ (references_subset_referencesAll inEmpty)
  | within region body => exact references_subset_referencesAll isPart
  | _ => cases isPart

/-- A statement walks as many trees as any that is inside of it. -/
theorem trees_le_of_inside (isPart : part ∈ statement.inside) : part.trees ≤ statement.trees := by
  cases statement with
  | branch condition yes no =>
    rcases List.mem_append.mp isPart with inYes | inNo
    · exact Nat.le_trans (trees_le_treesAll inYes) (Nat.le_max_left _ _)
    · exact Nat.le_trans (trees_le_treesAll inNo) (Nat.le_max_right _ _)
  | each loop body empty =>
    rcases List.mem_append.mp isPart with inBody | inEmpty
    · exact Nat.le_trans (trees_le_treesAll inBody) (Nat.le_max_left _ _)
    · exact Nat.le_trans (trees_le_treesAll inEmpty) (Nat.le_max_right _ _)
  | within region body =>
    have within : part.trees ≤ treesAll body := trees_le_treesAll isPart
    cases region with
    | tree nodes => exact Nat.le_succ_of_le within
    | _ => exact within
  | _ => cases isPart

end Stmt

end Statements

section Blocks

/-- The templates that a station's blocks may come from: its own, and those that extend
it. -/
def Station.line (station : Station) : List Handle := station.derived ++ [station.handle]

/-- In a line of templates some definition of the first block refers to the second. -/
def Leads (line : List Handle) (name inner : String) : Prop :=
  ∃ handle ∈ line, ∃ body, handle.template.block? name = some body ∧ inner ∈ referencesAll body

/-- No block of the line refers to itself, not even through others. -/
def Acyclic (line : List Handle) : Prop := ∀ name, ¬Relation.TransGen (Leads line) name name

/-- Each block of the line has a higher rank than those that it refers to. -/
def Ranks (line : List Handle) (rank : String → Nat) : Prop :=
  ∀ name inner, Leads line name inner → rank inner < rank name

/-- Blocks with ranks do not refer to themselves. -/
theorem Ranks.acyclic {line : List Handle} {rank : String → Nat} (ranks : Ranks line rank) :
    Acyclic line := by
  have lower : ∀ name inner, Relation.TransGen (Leads line) name inner →
      rank inner < rank name := by
    intro name inner path
    induction path with
    | single leads => exact ranks _ _ leads
    | tail _ leads inductionHypothesis => exact Nat.lt_trans (ranks _ _ leads) inductionHypothesis
  exact fun name path => Nat.lt_irrefl _ (lower name name path)

/-- Part of a line has the same ranks. -/
theorem Ranks.mono {line larger : List Handle} {rank : String → Nat} (ranks : Ranks larger rank)
    (isPart : line ⊆ larger) : Ranks line rank := by
  rintro name inner ⟨handle, member, leads⟩
  exact ranks name inner ⟨handle, isPart member, leads⟩

open Classical in
/-- If no block refers to itself there are ranks, and none is higher than there are
names. The rank of a block is the number of blocks that can be reached from it. -/
theorem Acyclic.exists_ranks {line : List Handle} (acyclic : Acyclic line) {names : List String}
    (named : ∀ handle ∈ line, ∀ block ∈ handle.template.blocks, block.1 ∈ names) :
    ∃ rank, Ranks line rank ∧ ∀ name, rank name ≤ names.length := by
  let reached (name : String) : Finset String :=
    names.toFinset.filter (Relation.ReflTransGen (Leads line) name)
  refine ⟨fun name => (reached name).card, ?_, ?_⟩
  · intro name inner leads
    have here : name ∈ names := by
      obtain ⟨handle, member, body, defined, _⟩ := leads
      exact named handle member (name, body) (Template.mem_blocks defined)
    refine Finset.card_lt_card (Finset.ssubset_iff_of_subset ?_ |>.mpr ⟨name, ?_, ?_⟩)
    · intro other member
      obtain ⟨isName, path⟩ := Finset.mem_filter.mp member
      exact Finset.mem_filter.mpr ⟨isName, .head leads path⟩
    · exact Finset.mem_filter.mpr ⟨List.mem_toFinset.mpr here, .refl⟩
    · intro member
      obtain ⟨_, back⟩ := Finset.mem_filter.mp member
      exact acyclic name (.head' leads back)
  · intro name
    exact Nat.le_trans (Finset.card_filter_le _ _) (List.toFinset_card_le names)

end Blocks

end Stencil
