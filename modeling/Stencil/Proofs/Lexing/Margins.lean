import Stencil.Proofs.Fitting.Templates
import Stencil.Proofs.Guards.Boundaries
import Stencil.Proofs.Lexing
import Stencil.Proofs.Lexing.Enclosures

/-!
# What stands beside a tag on its line

A tag that has its lines for itself leaves nothing of them: neither the indentation before it nor
the blanks and the line feed behind it are in any lexeme, if no string in it holds its closing
delimiter. What is not in a text and not between the delimiters of a tag stands beside a tag that
has its lines for itself, so no other tag costs a character.
-/

namespace Stencil

/-- A position is in a lexeme. -/
def Lexeme.Covers (lexeme : Lexeme) (position : Nat) : Prop :=
  lexeme.span.start ≤ position ∧ position < lexeme.span.stop

namespace Enclosure

/-- A position is within the tag, its delimiters included. -/
def Spans (tag : Enclosure) (position : Nat) : Prop :=
  tag.opening.span.start ≤ position ∧ position < tag.closing.span.stop

/-- A tag or comment has its lines for itself: from the start of the line where it opens to the end
of the line where it closes there are only blanks besides it. -/
structure Lone (source : List Char) (tag : Enclosure) : Prop where
  silent : tag.delimiter ≠ .output
  before : ∀ c ∈ Lexer.lastLine (source.take tag.opening.span.start), c = ' ' ∨ c = '\t' ∨ c = '\r'
  behind : ∀ c ∈ (source.drop tag.closing.span.stop).takeWhile (· ≠ '\n'),
    c = ' ' ∨ c = '\t' ∨ c = '\r'

/-- A position is beside the tag: before it on the line where it opens, or behind it on the line
where it closes, the line feed included. -/
def Beside (source : List Char) (tag : Enclosure) (position : Nat) : Prop :=
  position < tag.opening.span.start ∧
      '\n' ∉ (Span.mk position tag.opening.span.start).slice source ∨
    tag.closing.span.stop ≤ position ∧
      '\n' ∉ (Span.mk tag.closing.span.stop position).slice source

/-- What stands before a tag that has its lines for itself is blank. -/
theorem Lone.isBlank_before {source : List Char} {tag : Enclosure} (lone : tag.Lone source) :
    (Lexer.lastLine (source.take tag.opening.span.start)).all Text.isBlank = true := by
  rw [List.all_eq_true]
  intro c member
  rcases lone.before c member with rfl | rfl | rfl <;> decide

/-- Its lexemes among others, from its opening delimiter on. -/
theorem among_opening (tag : Enclosure) {before after : List Lexeme} :
    before ++ tag.lexemes ++ after =
      before ++ tag.opening :: (tag.inner ++ tag.closing :: after) := by
  simp [lexemes]

/-- Its lexemes among others, up to its closing delimiter. -/
theorem among_closing (tag : Enclosure) {before after : List Lexeme} :
    before ++ tag.lexemes ++ after =
      (before ++ tag.opening :: tag.inner) ++ tag.closing :: after := by
  simp [lexemes]

/-- An opening delimiter among its lexemes is its own. -/
theorem opening_of_mem {tag : Enclosure} {lexeme : Lexeme} {delimiter : Delimiter}
    (member : lexeme ∈ tag.lexemes) (opens : lexeme.token = .opening delimiter) :
    tag.opening = lexeme ∧ tag.delimiter = delimiter := by
  rcases List.mem_cons.mp member with rfl | later
  · have same := tag.opens.symm.trans opens
    cases same
    exact ⟨rfl, rfl⟩
  · rcases List.mem_append.mp later with inner | closing
    · have plain := tag.within lexeme inner
      rw [opens] at plain
      cases plain
    · rw [List.mem_singleton.mp closing, tag.closes] at opens
      cases opens

end Enclosure

/-- Among lexemes, one is a text or belongs to a tag. -/
def Lexeme.Placed (lexemes : List Lexeme) (lexeme : Lexeme) : Prop :=
  lexeme.token = .text ∨ ∃ tag : Enclosure, tag.lexemes <:+: lexemes ∧ lexeme ∈ tag.lexemes

/-- So it is among more lexemes. -/
theorem Lexeme.Placed.mono {lexemes more : List Lexeme} {lexeme : Lexeme}
    (placed : lexeme.Placed lexemes) (suffix : lexemes <:+ more) : lexeme.Placed more :=
  placed.imp_right fun ⟨tag, among, member⟩ => ⟨tag, among.trans suffix.isInfix, member⟩

namespace Lexer

variable {source : List Char} {position : Nat} {tag : Enclosure}

/-- The blanks at the start of a line of blanks are all of it. -/
theorem takeWhile_of_blankLine {rest : List Char} (blank : BlankLine rest) :
    (rest.takeWhile fun c => c = ' ' || c = '\t' || c = '\r') = rest.takeWhile (· ≠ '\n') := by
  induction rest with
  | nil => rfl
  | cons c rest inductionHypothesis =>
    by_cases feed : c = '\n'
    · simp [feed]
    · simp only [BlankLine, List.takeWhile_cons, feed, ne_eq, not_false_eq_true, decide_true,
        if_true, List.all_cons, Bool.and_eq_true] at blank
      have one : (c = ' ' || c = '\t' || c = '\r') = true := by
        simpa [Text.isBlank, feed] using blank.1
      have goesOn : decide (c ≠ '\n') = true := decide_eq_true feed
      simp only [List.takeWhile_cons, one, goesOn, if_true, inductionHypothesis blank.2]

/-- A line of blanks is skipped with its line feed, unless it is the last one. -/
theorem skipLineEnd_of_blankLine {rest : List Char} (blank : BlankLine rest) :
    (skipLineEnd rest).2.2 = [] ∨ ∃ line after, rest = line ++ '\n' :: after ∧
      skipLineEnd rest = (true, line.length + 1, after) := by
  have whole : rest.takeWhile (· ≠ '\n') ++ rest.dropWhile (· ≠ '\n') = rest :=
    List.takeWhile_append_dropWhile
  have left : rest.drop (rest.takeWhile (· ≠ '\n')).length = rest.dropWhile (· ≠ '\n') := by
    refine List.append_cancel_left (Eq.trans ?_ whole.symm)
    exact List.prefix_iff_eq_append.mp (List.takeWhile_prefix _)
  have ends := List.head?_dropWhile_not (fun c => decide (c ≠ '\n')) rest
  unfold skipLineEnd
  dsimp only
  rw [takeWhile_of_blankLine blank, left]
  cases isRest : rest.dropWhile (· ≠ '\n') with
  | nil => exact Or.inl rfl
  | cons c after =>
    rw [isRest] at ends whole
    obtain rfl : c = '\n' := by simpa using ends
    exact Or.inr ⟨_, after, whole.symm, rfl⟩

/-- Nothing is read before the place of the lexer. -/
theorem Move.starts {state next : State} {found : List Lexeme} (move : Move state found next) :
    state.position ≤ next.position ∧ ∀ lexeme ∈ found, state.position ≤ lexeme.span.start := by
  have pair {position : Nat} {text : List Char} {delimiter : Lexeme}
      (after : position ≤ delimiter.span.start) :
      ∀ lexeme ∈ textThen position text delimiter, position ≤ lexeme.span.start := by
    unfold textThen
    split
    · simpa using after
    · simpa [lexeme] using after
  induction move with
  | text | token | closing | remark =>
    refine ⟨Nat.le_add_right _ _, fun lexeme member => ?_⟩
    rw [List.mem_singleton.mp member]
    exact Nat.le_refl _
  | opening _ isOpened =>
    subst isOpened
    refine ⟨by dsimp only; omega, pair (by simp [lexeme])⟩
  | skipping _ inductionHypothesis =>
    refine ⟨Nat.le_trans (Nat.le_add_right _ _) inductionHypothesis.1, fun lexeme member => ?_⟩
    exact Nat.le_trans (Nat.le_add_right _ _) (inductionHypothesis.2 lexeme member)
  | remarkEnd => exact ⟨by dsimp only; omega, pair (by simp [lexeme])⟩

/-- Nothing is read before the place of the lexer, however far it reads. -/
theorem Reads.starts {state last : State} {found : List Lexeme} (reads : Reads state found last) :
    ∀ lexeme ∈ found, state.position ≤ lexeme.span.start := by
  induction reads with
  | nothing => exact List.forall_mem_nil _
  | more taken _ inductionHypothesis =>
    have starts := (move_of_step taken).starts
    intro lexeme member
    rcases List.mem_append.mp member with now | later
    · exact starts.2 lexeme now
    · exact Nat.le_trans starts.1 (inductionHypothesis lexeme later)

/-- Behind a tag that is taken to be alone nothing is read of its line. -/
theorem Reads.skipped {rest : List Char} {last : State} {after : List Lexeme}
    (reads : Reads ⟨.outside false true, position, rest⟩ after last)
    (there : source.drop position = rest) (blank : BlankLine rest) {between : Nat}
    (behind : position ≤ between) (sameLine : '\n' ∉ (Span.mk position between).slice source) :
    ∀ lexeme ∈ after, between < lexeme.span.start := by
  have skips : (skipLineEnd rest).2.2 ≠ [] → between < position + (skipLineEnd rest).2.1 := by
    intro goesOn
    rcases skipLineEnd_of_blankLine blank with nothing | ⟨line, after, whole, skipped⟩
    · exact absurd nothing goesOn
    · rw [skipped]
      dsimp only
      rcases Nat.lt_or_ge between (position + (line.length + 1)) with near | far
      · exact near
      · -- the line feed stands before the position
        obtain ⟨more, same⟩ : ∃ more, between - position = line.length + (more + 1) :=
          ⟨between - position - line.length - 1, by omega⟩
        refine absurd ?_ sameLine
        simp only [Span.slice, there, whole, same, List.take_length_add_append, List.take_succ_cons]
        simp
  cases reads with
  | nothing => exact List.forall_mem_nil _
  | more taken later =>
    cases move_of_step taken with
    | skipping move =>
      have goesOn : (skipLineEnd rest).2.2 ≠ [] := by
        intro nothing
        have shrinks := move.shrinks
        rw [nothing] at shrinks
        exact absurd shrinks (Nat.not_lt_zero _)
      have near := skips goesOn
      have starts := move.starts
      have laterStarts := later.starts
      intro lexeme member
      rcases List.mem_append.mp member with now | after
      · have first := starts.2 lexeme now
        dsimp only at first
        omega
      · have first := starts.1
        have second := laterStarts lexeme after
        dsimp only at first
        omega

/-- How a tag among the lexemes of a source was read. Where it opened it was taken to be alone
exactly if the look-ahead says so, and then nothing of its indentation is in a lexeme before it. If
the look-ahead says so, only blanks follow it on the line; of a plain tag it says so if they do. -/
structure Lexed (source : List Char) (before : List Lexeme) (tag : Enclosure) (after : List Lexeme)
    (last : State) (alone : Bool) : Prop where
  decided : alone = true ↔ StandsAlone source tag.delimiter tag.opening.span.start
  unindented : alone = true → Unindented source before tag.opening
  ends : StandsAlone source tag.delimiter tag.opening.span.start →
    BlankLine (source.drop tag.closing.span.stop)
  sees : tag.Plain → BlankLine (source.drop tag.closing.span.stop) →
    aloneAfter tag.delimiter (source.drop (tag.opening.span.start + 2)) = true
  reads : Reads ⟨.outside false alone, tag.closing.span.stop,
    source.drop tag.closing.span.stop⟩ after last

/-- Every tag among the lexemes was read like that. -/
theorem Reads.lexed {before after : List Lexeme} {last : State}
    (reads : Reads (start source) (before ++ tag.lexemes ++ after) last) :
    ∃ alone, Lexed source before tag after last alone := by
  obtain ⟨earlier, middle, first, second, next, later, soFar, step, goesOn, rfl, same⟩ :=
    reads.at tag.among_opening
  have track : OnTrack source earlier middle :=
    soFar.preserves OnTrack.move [] (onTrack_start source)
  have aligned : Aligned source middle := (aligned_start source).reads soFar
  obtain ⟨alone, decided, unindented, rfl, opened, rfl⟩ := (move_of_step step).opened aligned
    (fun lexeme member => (track.faithful.stands lexeme member).2) rfl tag.opens
  rw [List.nil_append] at same
  rw [← same] at goesOn
  obtain ⟨text, behind, there, stop, reads, ends, sees⟩ := goesOn.closed
  have rest : behind = source.drop tag.closing.span.stop := by
    rw [stop, drop_behind (drop_behind there).symm]
    rfl
  rw [rest] at reads ends sees
  rw [opened] at ends sees
  exact ⟨alone, decided, unindented, fun stands => ends stands.after, sees, reads⟩

/-- Blanks on a line are blanks other than line feeds. -/
theorem blankLine_iff {rest : List Char} : BlankLine rest ↔
    ∀ c ∈ rest.takeWhile (· ≠ '\n'), c = ' ' ∨ c = '\t' ∨ c = '\r' := by
  rw [BlankLine, List.all_eq_true]
  constructor
  · intro blank c member
    have notFeed : c ≠ '\n' := by
      simpa using List.all_eq_true.mp List.all_takeWhile c member
    have isBlank := blank c member
    simp only [Text.isBlank, Bool.or_eq_true, decide_eq_true_eq] at isBlank
    tauto
  · intro blank c member
    rcases blank c member with rfl | rfl | rfl <;> decide

/-- Whether a tag has its lines for itself can be seen. -/
instance (source : List Char) (tag : Enclosure) : Decidable (tag.Lone source) :=
  decidable_of_iff (tag.delimiter ≠ .output ∧
      (lastLine (source.take tag.opening.span.start)).all Text.isBlank = true ∧
      ((source.drop tag.closing.span.stop).takeWhile (· ≠ '\n')).all Text.isBlank = true)
    ⟨fun ⟨silent, before, behind⟩ =>
      ⟨silent, blank_of_mem_lastLine before, blankLine_iff.mp behind⟩,
    fun lone => ⟨lone.silent, lone.isBlank_before, blankLine_iff.mpr lone.behind⟩⟩

/-- And whether a position is beside it. -/
instance (source : List Char) (tag : Enclosure) (position : Nat) :
    Decidable (tag.Beside source position) :=
  inferInstanceAs (Decidable (_ ∧ _ ∨ _ ∧ _))

/-- A tag that the look-ahead takes to be alone has its lines for itself. -/
theorem Lexed.lone {before after : List Lexeme} {last : State} {alone : Bool}
    (lexed : Lexed source before tag after last alone)
    (stands : StandsAlone source tag.delimiter tag.opening.span.start) : tag.Lone source where
  silent := stands.silent
  before := blank_of_mem_lastLine stands.before
  behind := blankLine_iff.mp (lexed.ends stands)

/-- The look-ahead takes a plain tag that has its lines for itself to be alone. -/
theorem Lexed.standsAlone {before after : List Lexeme} {last : State} {alone : Bool}
    (lexed : Lexed source before tag after last alone) (lone : tag.Lone source)
    (plain : tag.Plain) : StandsAlone source tag.delimiter tag.opening.span.start where
  silent := lone.silent
  before := lone.isBlank_before
  after := lexed.sees plain (blankLine_iff.mpr lone.behind)

section

variable {before rest lexemes : List Lexeme} {one lexeme : Lexeme} {reached : Nat}

/-- A lexeme and those after it begin no earlier than it. -/
theorem Faithful.starts_of_mem (faithful : Faithful source (before ++ one :: rest) reached)
    (member : lexeme ∈ one :: rest) : one.span.start ≤ lexeme.span.start := by
  rcases List.mem_cons.mp member with rfl | later
  · exact Nat.le_refl _
  · have nonempty := (faithful.stands one (by simp)).1.nonempty
    have ordered := (List.pairwise_append.mp faithful.ordered).2.1
    have order := (List.pairwise_cons.mp ordered).1 lexeme later
    omega

/-- A lexeme and those before it end no later than it. -/
theorem Faithful.stops_of_mem (faithful : Faithful source (before ++ one :: rest) reached)
    (member : lexeme ∈ before ++ [one]) : lexeme.span.stop ≤ one.span.stop := by
  rcases List.mem_append.mp member with earlier | same
  · have nonempty := (faithful.stands one (by simp)).1.nonempty
    have order := (List.pairwise_append.mp faithful.ordered).2.2 lexeme earlier one (by simp)
    omega
  · exact Nat.le_of_eq (by rw [List.mem_singleton.mp same])

/-- What a lexeme of a tag covers is within the tag. -/
theorem Faithful.spans (faithful : Faithful source lexemes reached)
    (among : tag.lexemes <:+: lexemes) (part : lexeme ∈ tag.lexemes)
    (covers : lexeme.Covers position) : tag.Spans position := by
  obtain ⟨before, after, rfl⟩ := among
  constructor
  · rw [tag.among_opening] at faithful
    have later : lexeme ∈ tag.opening :: (tag.inner ++ tag.closing :: after) := by
      simp only [Enclosure.lexemes, List.mem_cons, List.mem_append, List.not_mem_nil,
        or_false] at part ⊢
      tauto
    exact Nat.le_trans (faithful.starts_of_mem later) covers.1
  · rw [tag.among_closing] at faithful
    have earlier : lexeme ∈ (before ++ tag.opening :: tag.inner) ++ [tag.closing] := by
      simp only [Enclosure.lexemes, List.mem_cons, List.mem_append, List.not_mem_nil,
        or_false] at part ⊢
      tauto
    exact Nat.lt_of_lt_of_le covers.2 (faithful.stops_of_mem earlier)

end

/-- Nothing beside a plain tag that has its lines for itself is in a lexeme. -/
theorem Reads.not_covers {lexemes : List Lexeme} {last : State}
    (reads : Reads (start source) lexemes last) (among : tag.lexemes <:+: lexemes)
    (lone : tag.Lone source) (plain : tag.Plain) (beside : tag.Beside source position) :
    ∀ lexeme ∈ lexemes, ¬ lexeme.Covers position := by
  have track : OnTrack source lexemes last :=
    reads.preserves OnTrack.move [] (onTrack_start source)
  have faithful := track.faithful
  obtain ⟨before, after, rfl⟩ := among
  obtain ⟨alone, lexed⟩ := reads.lexed
  obtain rfl : alone = true := lexed.decided.mpr (lexed.standsAlone lone plain)
  rintro lexeme member ⟨low, high⟩
  rcases beside with ⟨isBefore, sameLine⟩ | ⟨isBehind, sameLine⟩
  · -- the tag, and whatever is read after it, begins no earlier than its opening delimiter
    rw [tag.among_opening] at faithful member
    rcases List.mem_append.mp member with old | new
    · have missed := lexed.unindented rfl position isBefore sameLine lexeme old
      omega
    · have begins : tag.opening.span.start ≤ lexeme.span.start := faithful.starts_of_mem new
      omega
  · -- the tag, and whatever is read before it, ends no later than its closing delimiter
    rw [tag.among_closing] at faithful member
    rw [List.append_cons] at member
    rcases List.mem_append.mp member with old | new
    · have ends := faithful.stops_of_mem old
      omega
    · have skipped := lexed.reads.skipped rfl (lexed.ends (lexed.standsAlone lone plain)) isBehind
        sameLine lexeme new
      omega

/-- What was passed over stands beside a tag that has its lines for itself, if all tags are
closed. -/
theorem PassedOver.beside {lexemes : List Lexeme} {last : State}
    (reads : Reads (start source) lexemes last) (passed : PassedOver source lexemes position)
    (placed : ∀ lexeme ∈ lexemes, lexeme.Placed lexemes) :
    ∃ tag : Enclosure, tag.lexemes <:+: lexemes ∧ tag.Lone source ∧ tag.Beside source position := by
  have lone {tag : Enclosure} (among : tag.lexemes <:+: lexemes)
      (stands : StandsAlone source tag.delimiter tag.opening.span.start) : tag.Lone source := by
    obtain ⟨before, after, rfl⟩ := among
    obtain ⟨alone, lexed⟩ := reads.lexed
    exact lexed.lone stands
  have sameLine {first stop : Nat} (blank : BlankBetween source first stop) :
      '\n' ∉ (Span.mk first stop).slice source := fun member => by simpa using blank _ member
  cases passed with
  | @indentation opening delimiter found opens stands before blank =>
    rcases placed opening found with isText | ⟨tag, among, member⟩
    · rw [opens] at isText
      cases isText
    · obtain ⟨rfl, rfl⟩ := tag.opening_of_mem member opens
      exact ⟨tag, among, lone among stands, Or.inl ⟨before, sameLine blank⟩⟩
  | @lineEnd earlier inner later opening closing delimiter found opens closes within stands behind
      blank =>
    have among : (Enclosure.mk delimiter opening inner closing opens closes within).lexemes <:+:
        lexemes := ⟨earlier, later, by simp [Enclosure.lexemes, found]⟩
    exact ⟨_, among, lone among stands, Or.inr ⟨behind, sameLine blank⟩⟩

end Lexer

namespace Mode

/-- Between delimiters one stays there, or the closing one leads outside. -/
theorem after_enclosed {opened : Delimiter} {token : Token} {next : Mode}
    (stands : after (some opened) token = some next) :
    next = some opened ∧ token.isDelimiter = false ∨ next = none ∧ token = .closing opened := by
  cases opened <;> cases token
  all_goals first
    | cases stands; done
    | (cases stands; exact Or.inl ⟨rfl, rfl⟩)
    | (rename_i delimiter
       cases delimiter <;> cases stands
       exact Or.inr ⟨rfl, rfl⟩)

/-- Outside one stays there, or an opening delimiter leads behind it. -/
theorem after_outside {token : Token} {next : Mode} (stands : after none token = some next) :
    next = none ∧ token = .text ∨ ∃ opened, next = some opened ∧ token = .opening opened := by
  cases token <;> cases stands
  · exact Or.inl ⟨rfl, rfl⟩
  · exact Or.inr ⟨_, rfl, rfl⟩

/-- What one passes on the way outside are texts and tags, behind what is left of the tag where one
stands. -/
theorem placed_of_through {lexemes : List Lexeme} :
    (through none lexemes = some none → ∀ lexeme ∈ lexemes, lexeme.Placed lexemes) ∧
      ∀ opened, through (some opened) lexemes = some none → ∃ inner closing rest,
        lexemes = inner ++ closing :: rest ∧ closing.token = .closing opened ∧
          (∀ lexeme ∈ inner, lexeme.token.isDelimiter = false) ∧
            ∀ lexeme ∈ rest, lexeme.Placed rest := by
  induction lexemes with
  | nil => exact ⟨fun _ => List.forall_mem_nil _, fun _ impossible => by cases impossible⟩
  | cons first rest inductionHypothesis =>
    obtain ⟨outside, enclosed⟩ := inductionHypothesis
    simp only [through, List.foldlM_cons, Option.bind_eq_bind, Option.bind_eq_some_iff]
    constructor
    · rintro ⟨next, stands, later⟩ lexeme member
      rcases after_outside stands with ⟨rfl, isText⟩ | ⟨opened, rfl, opens⟩
      · rcases List.mem_cons.mp member with rfl | behind
        · exact Or.inl isText
        · exact (outside later lexeme behind).mono (List.suffix_cons _ _)
      · -- the tag that opens here is closed, and what is behind it is placed
        obtain ⟨inner, closing, left, rfl, closes, within, placed⟩ := enclosed opened later
        obtain ⟨tag, whole⟩ : ∃ tag : Enclosure,
            first :: (inner ++ closing :: left) = tag.lexemes ++ left :=
          ⟨⟨opened, first, inner, closing, opens, closes, within⟩, by simp [Enclosure.lexemes]⟩
        rw [whole] at member ⊢
        rcases List.mem_append.mp member with here | behind
        · exact Or.inr ⟨tag, (List.prefix_append _ _).isInfix, here⟩
        · exact (placed lexeme behind).mono (List.suffix_append _ _)
    · rintro opened ⟨next, stands, later⟩
      rcases after_enclosed stands with ⟨rfl, plain⟩ | ⟨rfl, closes⟩
      · obtain ⟨inner, closing, left, rfl, closes, within, placed⟩ := enclosed opened later
        exact ⟨first :: inner, closing, left, rfl, closes,
          List.forall_mem_cons.mpr ⟨plain, within⟩, placed⟩
      · exact ⟨[], first, rest, rfl, closes, List.forall_mem_nil _, outside later⟩

end Mode

/-- Pieces lead from outside to outside. -/
theorem Piece.Spelt.through {setting : Setting} {lexemes : List Lexeme} {pieces : List Piece}
    (spelt : Spelt setting lexemes pieces) : Mode.through none lexemes = some none := by
  induction spelt with
  | nothing => rfl
  | next begins _ inductionHypothesis =>
    obtain ⟨taken, rfl, takes⟩ := begins.taken
    rw [Mode.through_append, takes.through]
    exact inductionHypothesis

namespace Template

variable {arity? : String → Option Arity} {name : Option String} {source : String}
  {template : Template}

/-- The lexemes of a source that compiles have no flaw, and lead outside. -/
theorem through_of_compile (compiled : compile arity? name source = .ok template) :
    (Lexer.lexemes source.toList).2 = none ∧
      Mode.through none (Lexer.lexemes source.toList).1 = some none := by
  obtain ⟨found, _, read, _, _⟩ := nested_of_compile compiled
  obtain ⟨unflawed, spelt⟩ := Piece.parseAll_eq_iff.mp read
  obtain ⟨mode, leads⟩ := Lexer.leads_lexemes source.toList
  -- the pieces are read from the lexemes without blanks, which lead no other way
  have filtered := Mode.through_filter leads
  rw [spelt.through] at filtered
  cases filtered
  exact ⟨unflawed, leads⟩

/-- What a source that compiles loses to its tags. Nothing beside a plain tag or comment that has
its lines for itself is in a lexeme: neither the blanks around it nor the line feed behind it.
Every position is in a text, or within a tag, or beside a tag that has its lines for itself; so no
other tag, and no output, costs a character. -/
theorem lone_tags_take_their_lines (compiled : compile arity? name source = .ok template) :
    (∀ tag : Enclosure, tag.lexemes <:+: (Lexer.lexemes source.toList).1 →
      tag.Lone source.toList → tag.Plain → ∀ position, tag.Beside source.toList position →
        ∀ lexeme ∈ (Lexer.lexemes source.toList).1, ¬ lexeme.Covers position) ∧
    ∀ position < source.toList.length,
      (∃ lexeme ∈ (Lexer.lexemes source.toList).1,
        lexeme.token = .text ∧ lexeme.Covers position) ∨
      (∃ tag : Enclosure, tag.lexemes <:+: (Lexer.lexemes source.toList).1 ∧ tag.Spans position) ∨
      ∃ tag : Enclosure, tag.lexemes <:+: (Lexer.lexemes source.toList).1 ∧
        tag.Lone source.toList ∧ tag.Beside source.toList position := by
  obtain ⟨last, reads, stops⟩ := Lexer.lexemes_stops source.toList
  obtain ⟨unflawed, leads⟩ := through_of_compile compiled
  constructor
  · intro tag among lone plain position beside
    exact reads.not_covers among lone plain beside
  · intro position inside
    have placed := Mode.placed_of_through.1 leads
    have track : Lexer.OnTrack source.toList (Lexer.lexemes source.toList).1 last :=
      reads.preserves Lexer.OnTrack.move [] (Lexer.onTrack_start _)
    have ended : Lexer.step last = .finished := by
      rcases stops with ⟨ended, _⟩ | ⟨flaw, _, some⟩
      · exact ended
      · rw [unflawed] at some
        cases some
    have faithful := track.faithful_of_finished ended
    rcases faithful.covered position inside with ⟨lexeme, member, covers⟩ | passed
    · rcases placed lexeme member with isText | ⟨tag, among, part⟩
      · exact Or.inl ⟨lexeme, member, isText, covers⟩
      · exact Or.inr (Or.inl ⟨tag, among, faithful.spans among part covers⟩)
    · exact Or.inr (Or.inr (passed.beside reads placed))

end Template

namespace Margins

/-- A line that sets a name to a number, between others. -/
def plainSource : String := "a\n \x7b% set x=1 %\x7d \nb"

/-- The tag on that line. -/
def plainTag : Enclosure where
  delimiter := .tag
  opening := ⟨.opening .tag, "\x7b%", ⟨3, 5⟩⟩
  inner := [⟨.blank, " ", ⟨5, 6⟩⟩, ⟨.name, "set", ⟨6, 9⟩⟩, ⟨.blank, " ", ⟨9, 10⟩⟩,
    ⟨.name, "x", ⟨10, 11⟩⟩, ⟨.assign, "=", ⟨11, 12⟩⟩, ⟨.number, "1", ⟨12, 13⟩⟩,
    ⟨.blank, " ", ⟨13, 14⟩⟩]
  closing := ⟨.closing .tag, "%\x7d", ⟨14, 16⟩⟩
  opens := rfl
  closes := rfl
  within := by decide

/-- Its line is left out: the blank before it, and the blank and the line feed behind it. -/
theorem plainTag_takes_its_line :
    (Template.compile (fun _ => none) none plainSource).isOk = true ∧
      plainTag.lexemes <:+: (Lexer.lexemes plainSource.toList).1 ∧
      plainTag.Lone plainSource.toList ∧ plainTag.Plain ∧
      ∀ position ∈ [2, 16, 17], plainTag.Beside plainSource.toList position ∧
        ∀ lexeme ∈ (Lexer.lexemes plainSource.toList).1, ¬ lexeme.Covers position := by
  have isOk : (Template.compile (fun _ => none) none plainSource).isOk = true := by decide +kernel
  have read : (Lexer.lexemes plainSource.toList).1 =
      [⟨.text, "a\n", ⟨0, 2⟩⟩] ++ plainTag.lexemes ++ [⟨.text, "b", ⟨18, 19⟩⟩] := by decide +kernel
  have among : plainTag.lexemes <:+: (Lexer.lexemes plainSource.toList).1 := ⟨_, _, read.symm⟩
  have lone : plainTag.Lone plainSource.toList := by decide +kernel
  have unquoted : ∀ word ∈ plainTag.inner, word.token ≠ .quoted := by decide
  have plain : plainTag.Plain := fun word member isQuoted => absurd isQuoted (unquoted word member)
  have beside : ∀ position ∈ [2, 16, 17], plainTag.Beside plainSource.toList position := by
    decide +kernel
  refine ⟨isOk, among, lone, plain, fun position member => ⟨beside position member, ?_⟩⟩
  cases compiled : Template.compile (fun _ => none) none plainSource with
  | error flaw =>
    rw [compiled] at isOk
    cases isOk
  | ok template =>
    exact (Template.lone_tags_take_their_lines compiled).1 plainTag among lone plain position
      (beside position member)

/-- A line that sets a name to a string that holds the closing delimiter. -/
def quotingSource : String := "\x7b% set x='%\x7d' %\x7d\n"

/-- The tag on that line. -/
def quotingTag : Enclosure where
  delimiter := .tag
  opening := ⟨.opening .tag, "\x7b%", ⟨0, 2⟩⟩
  inner := [⟨.blank, " ", ⟨2, 3⟩⟩, ⟨.name, "set", ⟨3, 6⟩⟩, ⟨.blank, " ", ⟨6, 7⟩⟩,
    ⟨.name, "x", ⟨7, 8⟩⟩, ⟨.assign, "=", ⟨8, 9⟩⟩, ⟨.quoted, "'%\x7d'", ⟨9, 13⟩⟩,
    ⟨.blank, " ", ⟨13, 14⟩⟩]
  closing := ⟨.closing .tag, "%\x7d", ⟨14, 16⟩⟩
  opens := rfl
  closes := rfl
  within := by decide

/-- It has its line for itself, but the look-ahead ends in the string, so its line feed is a
text. -/
theorem quotingTag_keeps_its_line :
    (Template.compile (fun _ => none) none quotingSource).isOk = true ∧
      (Lexer.lexemes quotingSource.toList).1 =
        quotingTag.lexemes ++ [⟨.text, "\n", ⟨16, 17⟩⟩] ∧
      quotingTag.Lone quotingSource.toList ∧ quotingTag.Beside quotingSource.toList 16 := by
  decide +kernel

end Margins

end Stencil
