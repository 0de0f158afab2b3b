import Stencil.Proofs.Nests.Walk

/-!
# The parts of a template

All statements of a template, those inside of others and those in the bodies of its named blocks
included. What a statement says by itself, and the place of its tag if it keeps one, it has from
one piece of the source, and every piece that says something leaves one statement. The cycle tags
among the statements bear the numbers from zero up, each once.
-/

namespace Stencil

mutual

/-- The statements inside of a statement. -/
def Stmt.contained : Stmt → List Stmt
  | .branch _ yes no => partsAll yes ++ partsAll no
  | .each _ body empty => partsAll body ++ partsAll empty
  | .within _ body => partsAll body
  | _ => []
termination_by structural statement => statement

/-- Statements with those inside of them. -/
def partsAll : List Stmt → List Stmt
  | [] => []
  | statement :: rest => statement :: (statement.contained ++ partsAll rest)
termination_by structural statements => statements

end

/-- Statements and the bodies of named blocks, with the statements inside of them. -/
def Bodies.parts (statements : List Stmt) (blocks : Bodies) : List Stmt :=
  partsAll statements ++ blocks.flatMap fun block => partsAll block.2

/-- All statements of a template. -/
def Template.parts (template : Template) : List Stmt :=
  Bodies.parts template.body template.blocks

/-- What a statement says by itself. -/
def Stmt.content : Stmt → Content
  | .text content => .text content
  | .output value => .output value
  | .branch condition _ _ => .tag (.condition condition)
  | .each loop _ _ => .tag (.loop loop)
  | .within region _ => .tag (.region region)
  | .block name => .tag (.block name)
  | .inherit target _ => .tag (.inherit target)
  | .insert target bindings _ => .tag (.insert target bindings)
  | .create target template _ => .tag (.create target template)
  | .cycle _ first others => .tag (.cycle first others)
  | .assign binding => .tag (.assign binding)

/-- The place of its tag that a statement keeps. -/
def Stmt.span? : Stmt → Option Span
  | .inherit _ span => some span
  | .insert _ _ span => some span
  | .create _ _ span => some span
  | _ => none

/-- The number and the items of a cycle tag. -/
def Stmt.cycle? : Stmt → Option (Nat × List Expr)
  | .cycle number first others => some (number, first :: others)
  | _ => none

/-- What a statement says, with the place that it keeps. -/
def Stmt.said (statement : Stmt) : Content × Option Span := (statement.content, statement.span?)

/-- The place of a tag that leads to another template. -/
def Piece.span? : Piece → Option Span
  | .tag (.inherit _) span => some span
  | .tag (.insert ..) span => some span
  | .tag (.create ..) span => some span
  | _ => none

/-- What a piece says, with the place that is kept. -/
def Piece.said? (piece : Piece) : Option (Content × Option Span) :=
  piece.content?.map fun content => (content, piece.span?)

/-- A piece that is a statement by itself says what that says, and nothing is inside of it. -/
theorem said_of_alone {piece : Piece} {cycles : Nat} {statement : Stmt}
    (stands : piece.alone? cycles = some statement) :
    piece.said? = some statement.said ∧ statement.contained = [] := by
  unfold Piece.alone? at stands
  split at stands <;> cases stands <;> exact ⟨rfl, rfl⟩

section Tally

variable {β : Type} (tell : Stmt → Option β)

/-- What is told of the parts, in any order. -/
def Bodies.tally (statements : List Stmt) (blocks : Bodies) : Multiset β :=
  (Bodies.parts statements blocks).filterMap tell

/-- Nothing is told where there is nothing. -/
@[simp] theorem Bodies.tally_nil : Bodies.tally tell ([] : List Stmt) [] = 0 := rfl

/-- The statements and the blocks may be told apart. -/
theorem Bodies.tally_apart (statements : List Stmt) (blocks : Bodies) :
    Bodies.tally tell statements blocks = ((partsAll statements).filterMap tell : List β) +
      ((blocks.flatMap fun block => partsAll block.2).filterMap tell : List β) := by
  simp [tally, parts, Multiset.coe_add]

/-- What is told of a statement, of two lists of statements inside of it with their blocks, and
of the statements after it with theirs. -/
theorem Bodies.tally_cons {statement : Stmt} {body more : List Stmt}
    (contained : statement.contained = partsAll body ++ partsAll more) (rest : List Stmt)
    (within further blocks : Bodies) :
    Bodies.tally tell (statement :: rest) (within ++ (further ++ blocks)) =
      (tell statement).toList + (Bodies.tally tell body within +
        (Bodies.tally tell more further + Bodies.tally tell rest blocks)) := by
  have first : (((partsAll (statement :: rest)).filterMap tell : List β) : Multiset β) =
      (tell statement).toList + (((partsAll body).filterMap tell : List β) +
        (((partsAll more).filterMap tell : List β) +
          ((partsAll rest).filterMap tell : List β))) := by
    cases told : tell statement <;> simp [partsAll, contained, told, Multiset.coe_add]
  simp only [tally_apart, first, List.flatMap_append, List.filterMap_append, ← Multiset.coe_add]
  abel

/-- What is told of a named block, of its body, and of the statements after it. -/
theorem Bodies.tally_block (name : String) (body rest : List Stmt) (within blocks : Bodies) :
    Bodies.tally tell (.block name :: rest) (within ++ (name, body) :: blocks) =
      (tell (.block name)).toList +
        (Bodies.tally tell body within + Bodies.tally tell rest blocks) := by
  have first : (((partsAll (.block name :: rest)).filterMap tell : List β) : Multiset β) =
      (tell (.block name)).toList + ((partsAll rest).filterMap tell : List β) := by
    cases told : tell (.block name) <;> simp [partsAll, Stmt.contained, told]
  simp only [tally_apart, first, List.flatMap_append, List.flatMap_cons, List.filterMap_append,
    ← Multiset.coe_add]
  abel

end Tally

section Told

variable {β : Type}

/-- What is told of pieces in order, given the number of earlier cycle tags. -/
def Piece.told (spoken : Nat → Piece → Option β) : Nat → List Piece → List β
  | _, [] => []
  | cycles, piece :: rest =>
    (spoken cycles piece).toList ++ told spoken (cycles + piece.turns) rest

/-- How many cycle tags there are among pieces. -/
def Piece.turnsAll (pieces : List Piece) : Nat := (pieces.map turns).sum

/-- One piece comes before the others. -/
@[simp] theorem Piece.turnsAll_cons (piece : Piece) (rest : List Piece) :
    turnsAll (piece :: rest) = piece.turns + turnsAll rest := rfl

/-- The cycle tags of both parts. -/
@[simp] theorem Piece.turnsAll_append (first second : List Piece) :
    turnsAll (first ++ second) = turnsAll first + turnsAll second := by
  simp [turnsAll]

/-- What is told of both parts. -/
theorem Piece.told_append (spoken : Nat → Piece → Option β) (first second : List Piece)
    (cycles : Nat) :
    told spoken cycles (first ++ second) =
      told spoken cycles first ++ told spoken (cycles + turnsAll first) second := by
  induction first generalizing cycles with
  | nil => rfl
  | cons piece rest inductionHypothesis =>
    simp [told, turnsAll, inductionHypothesis, Nat.add_assoc]

/-- The same is told of a statement as of the piece that it comes from. -/
structure Piece.Tells (tell : Stmt → Option β) (spoken : Nat → Piece → Option β) : Prop where
  alone : ∀ {piece cycles statement}, piece.alone? cycles = some statement →
    tell statement = spoken cycles piece
  region : ∀ region body cycles opens,
    tell (.within region body) = spoken cycles (.tag (.region region) opens)
  block : ∀ name cycles opens, tell (.block name) = spoken cycles (.tag (.block name) opens)
  loop : ∀ loop body empty cycles opens,
    tell (.each loop body empty) = spoken cycles (.tag (.loop loop) opens)
  condition : ∀ condition yes no cycles opens,
    tell (.branch condition yes no) = spoken cycles (.tag (.condition condition) opens)
  otherwiseIf : ∀ condition yes no cycles opens,
    tell (.branch condition yes no) = spoken cycles (.tag (.otherwiseIf condition) opens)
  otherwise : ∀ cycles opens, spoken cycles (.tag .otherwise opens) = none
  empty : ∀ cycles opens, spoken cycles (.tag .empty opens) = none
  close : ∀ kind cycles closes, spoken cycles (.tag (.close kind) closes) = none

/-- All that is told of what nests is told of its pieces. -/
theorem Nests.tally_eq {tell : Stmt → Option β} {spoken : Nat → Piece → Option β}
    (tells : Piece.Tells tell spoken) {phrase : Phrase} {first last : Nat} {pieces : List Piece}
    {statements : List Stmt} {blocks : Bodies}
    (nests : Nests phrase first pieces statements blocks last) :
    last = first + Piece.turnsAll pieces ∧
      Bodies.tally tell statements blocks = Piece.told spoken first pieces := by
  induction nests with
  | nothing | noFallback | noAlternative => exact ⟨rfl, rfl⟩
  | @alone _ _ _ statement _ _ _ stands rest restTold =>
    obtain ⟨count, told⟩ := restTold
    have single : statement.contained = partsAll [] ++ partsAll [] := (said_of_alone stands).2
    refine ⟨by rw [count, Piece.turnsAll_cons, Nat.add_assoc], ?_⟩
    refine (Bodies.tally_cons tell single _ [] [] _).trans ?_
    rw [told, tells.alone stands, Piece.told, ← Multiset.coe_add]
    simp [Bodies.tally_nil]
  | @region first _ _ region opens _ _ _ body _ _ _ inside rest insideTold restTold =>
    obtain ⟨count, told⟩ := insideTold
    obtain ⟨countRest, toldRest⟩ := restTold
    subst count
    refine ⟨by simp [countRest, Piece.turns, Nat.add_assoc], ?_⟩
    have single : (Stmt.within region body).contained = partsAll body ++ partsAll [] :=
      (List.append_nil _).symm
    refine (Bodies.tally_cons tell single _ _ [] _).trans ?_
    rw [told, toldRest, tells.region _ _ first opens]
    simp [Piece.told, Piece.told_append, Piece.turns, tells.close, Multiset.coe_add]
  | @block first _ _ _ opens _ _ _ _ _ _ _ inside rest insideTold restTold =>
    obtain ⟨count, told⟩ := insideTold
    obtain ⟨countRest, toldRest⟩ := restTold
    subst count
    refine ⟨by simp [countRest, Piece.turns, Nat.add_assoc], ?_⟩
    rw [Bodies.tally_block, told, toldRest, tells.block _ first opens]
    simp [Piece.told, Piece.told_append, Piece.turns, tells.close, Multiset.coe_add]
  | @loop first _ _ _ _ opens _ _ _ _ _ _ _ _ _ _ inside otherwise rest insideTold otherwiseTold
      restTold =>
    obtain ⟨count, told⟩ := insideTold
    obtain ⟨countMore, toldMore⟩ := otherwiseTold
    obtain ⟨countRest, toldRest⟩ := restTold
    subst count countMore
    refine ⟨by simp [countRest, Piece.turns, Nat.add_assoc], ?_⟩
    rw [Bodies.tally_cons tell rfl, told, toldMore, toldRest, tells.loop _ _ _ first opens]
    simp [Piece.told, Piece.told_append, Piece.turns, tells.close, Multiset.coe_add]
  | @condition first _ _ _ _ opens _ _ _ _ _ _ _ _ _ _ inside otherwise rest insideTold
      otherwiseTold restTold =>
    obtain ⟨count, told⟩ := insideTold
    obtain ⟨countMore, toldMore⟩ := otherwiseTold
    obtain ⟨countRest, toldRest⟩ := restTold
    subst count countMore
    refine ⟨by simp [countRest, Piece.turns, Nat.add_assoc], ?_⟩
    rw [Bodies.tally_cons tell rfl, told, toldMore, toldRest, tells.condition _ _ _ first opens]
    simp [Piece.told, Piece.told_append, Piece.turns, tells.close, Multiset.coe_add]
  | fallback inside insideTold =>
    obtain ⟨count, told⟩ := insideTold
    refine ⟨by simp [count, Piece.turns], ?_⟩
    simpa [Piece.told, Piece.turns, tells.empty] using told
  | otherwise inside insideTold =>
    obtain ⟨count, told⟩ := insideTold
    refine ⟨by simp [count, Piece.turns], ?_⟩
    simpa [Piece.told, Piece.turns, tells.otherwise] using told
  | @otherwiseIf first _ _ condition opens _ _ body no within further inside otherwise insideTold
      otherwiseTold =>
    obtain ⟨count, told⟩ := insideTold
    obtain ⟨countMore, toldMore⟩ := otherwiseTold
    subst count
    refine ⟨by simp [countMore, Piece.turns, Nat.add_assoc], ?_⟩
    have split : (Stmt.branch condition body no).contained = partsAll body ++ partsAll no := rfl
    have whole := Bodies.tally_cons tell split [] within further []
    rw [List.append_nil] at whole
    rw [whole, told, toldMore, tells.otherwiseIf _ _ _ first opens]
    simp [Piece.told, Piece.told_append, Piece.turns, Multiset.coe_add]

end Told

section Nested

variable {phrase : Phrase} {first last : Nat} {pieces : List Piece} {statements : List Stmt}
  {blocks : Bodies}

/-- Statements say what the pieces say that they come from, each once. -/
theorem Nests.said_perm (nests : Nests phrase first pieces statements blocks last) :
    ((Bodies.parts statements blocks).map Stmt.said).Perm (pieces.filterMap Piece.said?) := by
  have tells : Piece.Tells (fun statement => some statement.said) fun _ piece => piece.said? := by
    constructor
    case alone => exact fun stands => (said_of_alone stands).1.symm
    all_goals
      intros
      rfl
  have told : ∀ (pieces : List Piece) (cycles : Nat),
      Piece.told (fun _ piece => piece.said?) cycles pieces = pieces.filterMap Piece.said? := by
    intro pieces
    induction pieces with
    | nil => exact fun _ => rfl
    | cons piece rest inductionHypothesis =>
      intro cycles
      rw [Piece.told, inductionHypothesis, List.filterMap_cons]
      cases piece.said? <;> rfl
  have same := (nests.tally_eq tells).2
  rw [told, Bodies.tally] at same
  simpa using Multiset.coe_eq_coe.mp same

/-- The number of a cycle tag. -/
def Stmt.cycleNumber? (statement : Stmt) : Option Nat := statement.cycle?.map Prod.fst

/-- The cycle tags are numbered from the first number up, each with a number of its own. -/
theorem Nests.cycleNumbers_perm (nests : Nests phrase first pieces statements blocks last) :
    ((Bodies.parts statements blocks).filterMap Stmt.cycleNumber?).Perm
      (List.range' first (last - first)) := by
  let spoken : Nat → Piece → Option Nat := fun cycles piece =>
    if piece.turns = 1 then some cycles else none
  have tells : Piece.Tells Stmt.cycleNumber? spoken := by
    constructor
    case alone =>
      intro piece cycles statement stands
      unfold Piece.alone? at stands
      split at stands <;> cases stands <;> rfl
    all_goals
      intros
      rfl
  have told : ∀ (pieces : List Piece) (cycles : Nat),
      Piece.told spoken cycles pieces = List.range' cycles (Piece.turnsAll pieces) := by
    intro pieces
    induction pieces with
    | nil => exact fun _ => rfl
    | cons piece rest inductionHypothesis =>
      intro cycles
      rw [Piece.told, inductionHypothesis, Piece.turnsAll_cons]
      have either : piece.turns = 0 ∨ piece.turns = 1 := by
        unfold Piece.turns
        split <;> simp
      rcases either with none | one
      · simp [spoken, none]
      · simp [spoken, one, Nat.add_comm 1, List.range'_succ]
  obtain ⟨count, same⟩ := nests.tally_eq tells
  rw [told] at same
  rw [count, Nat.add_sub_cancel_left]
  exact Multiset.coe_eq_coe.mp same

end Nested

end Stencil
