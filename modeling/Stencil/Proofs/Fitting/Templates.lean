import Stencil.Proofs.Compiled
import Stencil.Proofs.Fitting.Pieces

/-!
# Templates that fit

Nesting pieces adds nothing to what is written in them and drops nothing of it: a template
obeys a wording if the pieces do that it was nested from. So a template that was compiled
with some filters fits them; with other filters the same source gives the same template if
that fits, and is flawed otherwise.
-/

namespace Stencil

variable {wording : Wording}

/-- What an open block has gathered obeys a wording. -/
def Gathered.obeys (wording : Wording) : Gathered → Bool
  | condition clauses current =>
    (clauses.all fun clause => wording.value clause.1 && allObey wording clause.2) &&
      wording.value current
  | otherwise clauses => clauses.all fun clause => wording.value clause.1 && allObey wording clause.2
  | loop head => wording.value head.items
  | empty head body => wording.value head.items && allObey wording body
  | block name => wording.block name
  | region head => head.obeys wording

namespace Nesting

/-- All that was built so far obeys a wording. -/
def obeys (wording : Wording) (nesting : Nesting) : Bool :=
  allObey wording nesting.body && (nesting.blocks.all fun block => allObey wording block.2) &&
    nesting.opened.all fun inner => inner.gathered.obeys wording && allObey wording inner.body

variable {nesting next : Nesting}

/-- A statement that is added has to obey, too. -/
theorem obeys_add (wording : Wording) (nesting : Nesting) (statement : Stmt) :
    (nesting.add statement).obeys wording = (nesting.obeys wording && statement.obeys wording) := by
  unfold add
  split
  · simp only [obeys, allObey, Bool.and_assoc, Bool.and_comm, Bool.and_left_comm]
  · rename_i inner outer opened
    simp only [obeys, opened, allObey, List.all_cons, Bool.and_assoc, Bool.and_comm,
      Bool.and_left_comm]

/-- So have several. -/
theorem obeys_addAll (wording : Wording) (nesting : Nesting) (statements : List Stmt) :
    (statements.foldl add nesting).obeys wording =
      (nesting.obeys wording && allObey wording statements) := by
  induction statements generalizing nesting with
  | nil => simp [allObey]
  | cons statement rest inductionHypothesis =>
    rw [List.foldl_cons, inductionHypothesis, obeys_add, allObey, Bool.and_assoc]

/-- A block that is opened has to obey. -/
theorem obeys_enter (wording : Wording) (nesting : Nesting) (gathered : Gathered) (span : Span) :
    (nesting.enter gathered span).obeys wording =
      (nesting.obeys wording && gathered.obeys wording) := by
  simp only [obeys, enter, allObey, List.all_cons, Bool.true_and, Bool.and_assoc, Bool.and_comm,
    Bool.and_left_comm]

/-- Clauses around a last alternative obey if each of them does. -/
theorem obeys_branches (wording : Wording) (clauses : List (Expr × List Stmt)) (last : List Stmt) :
    allObey wording (branches clauses last) =
      ((clauses.all fun clause => wording.value clause.1 && allObey wording clause.2) &&
        allObey wording last) := by
  induction clauses generalizing last with
  | nil => simp [branches]
  | cons clause rest inductionHypothesis =>
    have step : branches (clause :: rest) last = branches rest [.branch clause.1 clause.2 last] :=
      rfl
    rw [step, inductionHypothesis]
    simp only [allObey, Stmt.obeys, List.all_cons, Bool.true_and, Bool.and_assoc, Bool.and_comm]

/-- What a closed block leaves, if that is not a name of its own, obeys if the block did. -/
theorem obeys_leave (wording : Wording) {gathered : Gathered} (body : List Stmt)
    (unnamed : ∀ name, gathered ≠ .block name) :
    allObey wording (leave gathered body) =
      (gathered.obeys wording && allObey wording body) := by
  cases gathered with
  | condition clauses current =>
    simp only [leave, obeys_branches, Gathered.obeys, allObey, List.all_cons, Bool.true_and,
      Bool.and_assoc, Bool.and_comm]
  | otherwise clauses => simp only [leave, obeys_branches, Gathered.obeys]
  | loop head => simp only [leave, allObey, Stmt.obeys, Gathered.obeys, Bool.and_true]
  | empty head main => simp only [leave, allObey, Stmt.obeys, Gathered.obeys, Bool.and_true]
  | block name => exact absurd rfl (unnamed name)
  | region head => simp only [leave, allObey, Stmt.obeys, Gathered.obeys, Bool.and_true]

/-- The end of a block adds nothing to what is written. -/
theorem obeys_close (wording : Wording) {kind : BlockKind} {span : Span}
    (placed : nesting.close kind span = .ok next) : next.obeys wording = nesting.obeys wording := by
  unfold Nesting.close at placed
  cases opened : nesting.opened with
  | nil =>
    rw [opened] at placed
    cases placed
  | cons inner outer =>
    rw [opened] at placed
    simp only [] at placed
    have parts : nesting.obeys wording =
        (({ nesting with opened := outer } : Nesting).obeys wording &&
        (inner.gathered.obeys wording && allObey wording inner.body.reverse)) := by
      rw [allObey_reverse]
      simp only [obeys, opened, List.all_cons, Bool.and_assoc, Bool.and_comm, Bool.and_left_comm]
    split at placed
    · cases placed
    · split at placed
      · rename_i name named
        split at placed
        · cases placed
        · cases placed
          rw [parts, obeys_add, named]
          simp only [obeys, Stmt.obeys, Gathered.obeys, List.all_append, List.all_cons,
            List.all_nil, Bool.true_and, Bool.and_assoc, Bool.and_comm, Bool.and_left_comm]
      · rename_i unnamed
        cases placed
        rw [parts, obeys_addAll, obeys_leave _ _ fun name same => unnamed name same]

/-- A new clause adds what it holds itself. -/
theorem obeys_advance (wording : Wording) {word : String} {span : Span} {own : Bool}
    {onward : Gathered → List Stmt → Option Gathered}
    (adds : ∀ gathered body more, onward gathered body = some more →
      more.obeys wording = (gathered.obeys wording && allObey wording body && own))
    (placed : nesting.advance word span onward = .ok next) :
    next.obeys wording = (nesting.obeys wording && own) := by
  unfold Nesting.advance at placed
  cases opened : nesting.opened with
  | nil =>
    rw [opened] at placed
    cases placed
  | cons inner outer =>
    rw [opened] at placed
    simp only [] at placed
    split at placed
    · rename_i gathered going
      cases placed
      have clause := adds inner.gathered _ gathered going
      rw [allObey_reverse] at clause
      simp only [obeys, opened, List.all_cons, clause, allObey, Bool.true_and, Bool.and_assoc,
        Bool.and_comm, Bool.and_left_comm]
    · cases placed

/-- A tag adds what is written in it. -/
theorem obeys_placeTag (wording : Wording) {tag : Tag} {span : Span}
    (placed : nesting.placeTag tag span = .ok next) :
    next.obeys wording = (nesting.obeys wording && tag.obeys wording) := by
  cases tag with
  | condition test =>
    cases placed
    exact obeys_enter wording nesting _ span
  | loop head =>
    cases placed
    exact obeys_enter wording nesting _ span
  | block name =>
    cases placed
    exact obeys_enter wording nesting _ span
  | region head =>
    cases placed
    exact obeys_enter wording nesting _ span
  | otherwiseIf test =>
    simp only [Nesting.placeTag] at placed
    refine obeys_advance wording (fun gathered body more going => ?_) placed
    split at going
    · cases going
      simp only [Gathered.obeys, Tag.obeys, List.all_cons, Bool.and_assoc, Bool.and_comm,
        Bool.and_left_comm]
    · cases going
  | otherwise =>
    simp only [Nesting.placeTag] at placed
    refine obeys_advance wording (fun gathered body more going => ?_) placed
    split at going
    · cases going
      simp only [Gathered.obeys, Tag.obeys, List.all_cons, Bool.true_and, Bool.and_assoc,
        Bool.and_comm]
    · cases going
  | empty =>
    simp only [Nesting.placeTag] at placed
    refine obeys_advance wording (fun gathered body more going => ?_) placed
    split at going
    · cases going
      simp only [Gathered.obeys, Tag.obeys, Bool.and_true]
    · cases going
  | close kind => rw [obeys_close wording placed, Tag.obeys, Bool.and_true]
  | inherit target =>
    simp only [Nesting.placeTag] at placed
    split at placed
    · cases placed
    · cases placed
      exact obeys_add wording { nesting with inherits := true } _
  | insert target given =>
    cases placed
    exact obeys_add wording nesting _
  | create target template =>
    cases placed
    exact obeys_add wording nesting _
  | cycle first others =>
    cases placed
    exact obeys_add wording { nesting with cycles := nesting.cycles + 1 } _
  | assign given =>
    cases placed
    exact obeys_add wording nesting _

/-- So does every piece. -/
theorem obeys_place (wording : Wording) {piece : Piece} (placed : nesting.place piece = .ok next) :
    next.obeys wording = (nesting.obeys wording && piece.obeys wording) := by
  cases piece with
  | text content =>
    cases placed
    exact obeys_add wording nesting _
  | output value =>
    cases placed
    exact obeys_add wording nesting _
  | tag tag span => exact obeys_placeTag wording placed

/-- All pieces together add what is written in them. -/
theorem obeys_placeAll (wording : Wording) (pieces : List Piece)
    (placed : pieces.foldlM place nesting = .ok next) :
    next.obeys wording = (nesting.obeys wording && pieces.all (Piece.obeys wording)) := by
  induction pieces generalizing nesting with
  | nil =>
    cases placed
    simp
  | cons piece rest inductionHypothesis =>
    rw [List.foldlM_cons] at placed
    cases first : nesting.place piece with
    | error flaw =>
      rw [first] at placed
      cases placed
    | ok middle =>
      rw [first] at placed
      rw [inductionHypothesis placed, obeys_place wording first, List.all_cons, Bool.and_assoc]

/-- What is nested from pieces obeys a wording if they do. -/
theorem obeys_ofPieces (wording : Wording) {pieces : List Piece}
    (nested : ofPieces pieces none = .ok next) :
    (allObey wording next.body && next.blocks.all fun block => allObey wording block.2) =
      pieces.all (Piece.obeys wording) := by
  unfold ofPieces at nested
  cases placed : pieces.foldlM Nesting.place Nesting.empty with
  | error found =>
    rw [placed] at nested
    cases nested
  | ok nesting =>
    rw [placed] at nested
    have finished : nesting.finish = .ok next := nested
    unfold finish at finished
    split at finished
    · cases finished
    · rename_i unopened
      cases finished
      have all := obeys_placeAll wording pieces placed
      rw [List.getLast?_eq_none_iff] at unopened
      simpa [obeys, unopened, empty, allObey] using all

/-- Pieces that end in a flaw are not nested. -/
theorem ofPieces_of_flaw (pieces : List Piece) (flaw : Flaw) :
    ∃ found, ofPieces pieces (some flaw) = .error found := by
  unfold ofPieces
  cases pieces.foldlM Nesting.place Nesting.empty with
  | error found => exact ⟨found, rfl⟩
  | ok nesting => exact ⟨flaw, rfl⟩

end Nesting

namespace Template

/-- The filters in a template fit: they are known, and have an argument or not as their
arities say. -/
def fits (arity? : String → Option Arity) (template : Template) : Bool :=
  template.obeys (Wording.fitting arity?)

/-- A template that was compiled is nested from the pieces of its source, which has no flaw. -/
theorem nested_of_compile {arity? : String → Option Arity} {name : Option String}
    {source : String} {template : Template}
    (compiled : compile arity? name source = .ok template) :
    ∃ found nesting, pieces arity? source = (found, none) ∧
      Nesting.ofPieces found none = .ok nesting ∧
        template = ⟨name, source, nesting.body.reverse, nesting.blocks, nesting.inherits⟩ := by
  obtain ⟨nesting, nested, made⟩ := nesting_of_compile compiled
  cases read : pieces arity? source with | mk found flaw
  rw [read] at nested
  cases flaw with
  | some flaw =>
    obtain ⟨other, fails⟩ := Nesting.ofPieces_of_flaw found flaw
    cases fails.symm.trans nested
  | none => exact ⟨found, nesting, rfl, nested, made⟩

/-- A template that was compiled with some filters fits them. With other filters its source
gives the same template if that fits, and is flawed otherwise. -/
theorem compile_cases {known : String → Option Arity} {name : Option String} {source : String}
    {template : Template} (compiled : compile known name source = .ok template)
    (others : String → Option Arity) :
    template.fits known = true ∧
      (compile others name source = .ok template ∨
        (∃ flaw, compile others name source = .error flaw) ∧ template.fits others = false) := by
  obtain ⟨found, nesting, unflawed, nested, rfl⟩ := nested_of_compile compiled
  have obeyed : ∀ arity?, fits arity?
      ⟨name, source, nesting.body.reverse, nesting.blocks, nesting.inherits⟩ =
        found.all (Piece.obeys (Wording.fitting arity?)) := by
    intro arity?
    rw [← Nesting.obeys_ofPieces (Wording.fitting arity?) nested, fits, Template.obeys,
      allObey_reverse]
  obtain ⟨fitting, again⟩ :=
    Piece.parseUpTo_cases _ (setting known source _) _ known others _ unflawed
  simp only [obeyed]
  refine ⟨fitting, ?_⟩
  rcases again with same | ⟨⟨earlier, flaw, fails⟩, unfit⟩
  · have samePieces : pieces others source = (found, none) := same
    refine Or.inl ?_
    simp only [compile, samePieces, nested]
    rfl
  · have otherPieces : pieces others source = (earlier, some flaw) := fails
    obtain ⟨other, flawed⟩ := Nesting.ofPieces_of_flaw earlier flaw
    refine Or.inr ⟨⟨other, ?_⟩, by simpa using unfit⟩
    simp only [compile, otherPieces, flawed]
    rfl

end Template

end Stencil
