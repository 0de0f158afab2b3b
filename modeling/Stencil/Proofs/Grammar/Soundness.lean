import Stencil.Proofs.Grammar

/-!
# What is read is written so

Whatever the parser accepts as an expression, the lexemes that it took are a way to write
that expression.
-/

namespace Stencil

namespace Parser

variable {α β : Type} {setting : Setting} {ahead : List Lexeme}

/-- What a parser accepts of the lexemes ahead are the first of them, and they and the value
that was read are as described. -/
def Yields (parser : Parser α) (setting : Setting) (ahead : List Lexeme)
    (found : List Lexeme → α → Prop) : Prop :=
  ∀ value rest, parser setting ahead = .ok (value, rest) →
    ∃ taken, ahead = taken ++ rest ∧ found taken value

namespace Yields

variable {found : List Lexeme → α → Prop}

/-- A weaker description does as well. -/
theorem imp {parser : Parser α} {other : List Lexeme → α → Prop}
    (yields : parser.Yields setting ahead found)
    (weaker : ∀ taken value, found taken value → other taken value) :
    parser.Yields setting ahead other := by
  intro value rest accepted
  obtain ⟨taken, same, holds⟩ := yields value rest accepted
  exact ⟨taken, same, weaker taken value holds⟩

/-- A value takes no lexeme. -/
theorem pure {value : α} (holds : found [] value) :
    (Pure.pure value : Parser α).Yields setting ahead found := by
  intro other rest accepted
  cases accepted
  exact ⟨[], rfl, holds⟩

/-- A failure accepts nothing. -/
theorem fail (cause : Malformed) (span : Span) :
    (Parser.fail cause span : Parser α).Yields setting ahead found := by
  intro value rest accepted
  cases accepted

/-- A sequence takes what its parts take. -/
theorem bind {first : Parser α} {next : α → Parser β} {middle : List Lexeme → α → Prop}
    {found : List Lexeme → β → Prop} (begins : first.Yields setting ahead middle)
    (onward : ∀ taken value rest, ahead = taken ++ rest → middle taken value →
      (next value).Yields setting rest fun later => found (taken ++ later)) :
    (first >>= next).Yields setting ahead found := by
  intro value rest accepted
  obtain ⟨between, left, begun, going⟩ := of_bind_ok accepted
  obtain ⟨taken, same, holds⟩ := begins between left begun
  obtain ⟨later, sameLater, result⟩ := onward taken between left same holds value rest going
  exact ⟨taken ++ later, by rw [same, sameLater, List.append_assoc], result⟩

/-- Looking at the next lexeme takes none. -/
theorem peek : Parser.peek.Yields setting ahead fun taken found =>
    taken = [] ∧ found = ahead.head? := by
  intro found rest accepted
  unfold Parser.peek at accepted
  split at accepted <;> cases accepted <;> exact ⟨[], rfl, rfl, rfl⟩

/-- Taking the next lexeme takes one. -/
theorem next (wanted : Expected) :
    (Parser.next wanted).Yields setting ahead fun taken found => taken = [found] := by
  intro found rest accepted
  unfold Parser.next at accepted
  split at accepted <;> cases accepted
  exact ⟨_, rfl, rfl⟩

/-- Taking a lexeme of a token takes one of that token. -/
theorem expect (token : Token) : (Parser.expect token).Yields setting ahead fun taken found =>
    taken = [found] ∧ found.token = token := by
  refine (next _).bind fun taken found rest _ one => ?_
  split
  · exact .pure (by simp_all)
  · exact .fail _ _

/-- Asking for a token takes no lexeme. -/
theorem isNext (token : Token) : (Parser.isNext token).Yields setting ahead fun taken found =>
    taken = [] ∧ found = ahead.head?.any fun first => first.token = token := by
  refine peek.bind fun taken found rest _ none => .pure ?_
  obtain ⟨rfl, rfl⟩ := none
  exact ⟨rfl, rfl⟩

/-- Taking a token if it is there takes one of that token, or none. -/
theorem takes (token : Token) : (Parser.takes token).Yields setting ahead fun taken found =>
    if found then ∃ first, taken = [first] ∧ first.token = token else taken = [] := by
  refine (isNext token).bind fun taken found rest _ none => ?_
  obtain ⟨rfl, _⟩ := none
  split
  · refine (expect token).bind fun taken first rest _ one => .pure ?_
    simp [one]
  · exact .pure rfl

/-- Steps that are taken as long as there is one take what each of them takes. -/
theorem iterate {step : α → Parser (Option α)} (taken : List Lexeme) (value : α)
    (start : found taken value)
    (steps : ∀ taken value ahead, found taken value →
      (step value).Yields setting ahead fun later result =>
        found (taken ++ later) (result.getD value)) (bound : Nat) :
    (Parser.iterate step bound value).Yields setting ahead fun later =>
      found (taken ++ later) := by
  induction bound generalizing taken value ahead with
  | zero => exact .pure (by simpa using start)
  | succ bound inductionHypothesis =>
    rw [iterate_succ]
    refine (steps taken value ahead start).bind fun later result rest _ holds => ?_
    cases result with
    | none => exact .pure (by simpa using holds)
    | some result =>
      simpa only [List.append_assoc] using inductionHypothesis (taken ++ later) result holds

/-- So do steps of which each takes a lexeme. -/
theorem repeatedly {step : α → Parser (Option α)} {value : α} (start : found [] value)
    (steps : ∀ taken value ahead, found taken value →
      (step value).Yields setting ahead fun later result =>
        found (taken ++ later) (result.getD value)) :
    (Parser.repeatedly step value).Yields setting ahead found :=
  iterate [] value start steps (ahead.length + 1)

end Yields

end Parser

namespace Expr.Parser

open Stencil.Parser Grammar

variable {setting : Setting} {ahead : List Lexeme}

/-- A segment of a path is read from one lexeme. -/
theorem yields_key : key.Yields setting ahead fun taken found =>
    ∃ one : Lexeme, taken = [one] ∧ found.2 = one.span ∧
      ∀ dot : Lexeme, dot.token = .dot → Segment.Spelled ⟨dot, one, found.1⟩ := by
  refine (Yields.next _).bind fun taken one rest _ same => ?_
  subst same
  split
  · rename_i isIndex
    simp only []
    split
    · rename_i fits
      exact .pure ⟨one, rfl, rfl, fun _ dotted => ⟨dotted, .inl ⟨isIndex, fits, rfl⟩⟩⟩
    · exact .fail _ _
  · split
    · rename_i isName
      exact .pure ⟨one, rfl, rfl, fun _ dotted => ⟨dotted, .inr ⟨isName, rfl⟩⟩⟩
    · exact .fail _ _

/-- A path is read from the lexemes it is written with. -/
theorem yields_path {first : Lexeme} (named : first.token = .name) :
    (path first).Yields setting ahead fun taken found =>
      SpellsPath setting.source (first :: taken) found.1 := by
  have walked : (repeatedly (fun (keys : List (Located Key)) => do
      if ← takes .dot then return some ((← key) :: keys) else return none) []).Yields
        setting ahead fun taken keys => ∃ segments : List Segment,
          taken = segments.flatMap Segment.lexemes ∧ (∀ segment ∈ segments, segment.Spelled) ∧
            keys = (segments.map fun segment => (segment.key, segment.found.span)).reverse := by
    refine .repeatedly ⟨[], rfl, by simp, rfl⟩ fun taken keys rest soFar => ?_
    refine (Yields.takes _).bind fun dots isDotted rest _ dotted => ?_
    split
    · obtain ⟨dot, rfl, isDot⟩ : ∃ dot : Lexeme, dots = [dot] ∧ dot.token = .dot := by
        simp_all
      refine yields_key.bind fun taken found rest _ one => .pure ?_
      obtain ⟨lexeme, rfl, stands, spelled⟩ := one
      obtain ⟨segments, rfl, all, rfl⟩ := soFar
      refine ⟨segments ++ [⟨dot, lexeme, found.1⟩], ?_, ?_, ?_⟩
      · simp [Segment.lexemes]
      · simpa [or_imp, forall_and] using ⟨all, spelled dot isDot⟩
      · simp [← stands]
    · have none : dots = [] := by simp_all
      exact .pure (by simpa [none] using soFar)
  refine walked.bind fun taken keys rest _ soFar => ?_
  obtain ⟨segments, rfl, all, rfl⟩ := soFar
  have spelled : SpellsPath setting.source _ _ := .path first segments named all
  intro found rest accepted
  cases accepted
  refine ⟨[], rfl, ?_⟩
  rcases segments.eq_nil_or_concat with rfl | ⟨others, last, rfl⟩
  · simpa [pathSpan] using spelled
  · simpa [pathSpan, Function.comp_def] using spelled

/-- A parser of expressions takes lexemes that are a way to write what it reads, where an
expression of the rank is asked for. -/
def Sound (setting : Setting) (rank : Rank) (parser : Parser (Located Expr)) : Prop :=
  ∀ ahead, parser.Yields setting ahead fun taken found => Spells setting rank taken found.1

variable {whole : Parser (Located Expr)}

/-- Lexemes are a way to write the arguments of a call. -/
def SpellsArguments (setting : Setting) (taken : List Lexeme) (arguments : List Expr) : Prop :=
  (taken = [] ∧ arguments = []) ∨
    ∃ inside value, ∃ others : List Argument, taken = inside ++ others.flatMap Argument.all ∧
      arguments = value :: others.map Argument.value ∧ Spells setting .disjunction inside value ∧
      ∀ argument ∈ others, argument.comma.token = .comma ∧
        Spells setting .disjunction argument.lexemes argument.value

/-- Arguments are read from the lexemes they are written with. -/
theorem yields_arguments (sound : Sound setting .disjunction whole) :
    (arguments whole).Yields setting ahead (SpellsArguments setting) := by
  refine (Yields.isNext _).bind fun taken closes rest _ none => ?_
  obtain ⟨rfl, _⟩ := none
  split
  · exact .pure (.inl ⟨rfl, rfl⟩)
  · refine (sound _).bind fun inside value rest _ first => ?_
    have gathered : (repeatedly (fun (found : List Expr) => do
        if ← takes .comma then return some ((← whole).1 :: found) else return none)
          [value.1]).Yields setting rest fun taken found => ∃ others : List Argument,
            taken = others.flatMap Argument.all ∧
              found.reverse = value.1 :: others.map Argument.value ∧
              ∀ argument ∈ others, argument.comma.token = .comma ∧
                Spells setting .disjunction argument.lexemes argument.value := by
      refine .repeatedly ⟨[], rfl, rfl, by simp⟩ fun taken found rest soFar => ?_
      refine (Yields.takes _).bind fun commas isParted rest _ parted => ?_
      split
      · obtain ⟨comma, rfl, isComma⟩ : ∃ comma : Lexeme, commas = [comma] ∧
            comma.token = .comma := by
          simp_all
        refine (sound _).bind fun lexemes value rest _ spelled => .pure ?_
        obtain ⟨others, rfl, gathered, all⟩ := soFar
        refine ⟨others ++ [⟨comma, lexemes, value.1⟩], ?_, ?_, ?_⟩
        · simp [Argument.all]
        · simp [gathered]
        · simpa [or_imp, forall_and] using
            ⟨⟨fun a m => (all a m).1, isComma⟩, fun a m => (all a m).2, spelled⟩
      · have none : commas = [] := by simp_all
        exact .pure (by simpa [none] using soFar)
    refine gathered.bind fun taken found rest _ soFar => .pure ?_
    obtain ⟨others, rfl, gathered, all⟩ := soFar
    exact .inr ⟨inside, value.1, others, by simp, gathered, first, all⟩

/-- An integer is read from its digits. -/
theorem yields_integerLiteral (negative : Bool) (digits : String) (span : Span) :
    (integerLiteral negative digits span).Yields setting ahead fun taken found =>
      taken = [] ∧ ∃ value, found = .integer value ∧ Text.toWord? (if negative then
        -(Text.digitsValue digits.toList : Int) else Text.digitsValue digits.toList) =
          some value := by
  unfold integerLiteral
  simp only []
  split
  · rename_i value fits
    exact .pure ⟨rfl, value, rfl, fits⟩
  · exact .fail _ _

/-- A text is read from a string. -/
theorem yields_textLiteral (string : Lexeme) :
    (textLiteral string).Yields setting ahead fun taken found =>
      taken = [] ∧ ∃ content, found = .text (String.ofList content) ∧
        unescape (string.span.start + 1) (string.text.toList.drop 1).dropLast = .ok content := by
  unfold textLiteral
  simp only []
  split
  · rename_i content plain
    exact .pure ⟨rfl, content, rfl, plain⟩
  · exact .fail _ _

/-- A primary is read from the lexemes it is written with. -/
theorem sound_primary (sound : Sound setting .disjunction whole) :
    Sound setting .primary (primary whole) := by
  intro ahead
  refine (Yields.next _).bind fun taken found rest _ one => ?_
  subst one
  split
  · rename_i token
    exact .pure (.truth found token)
  · rename_i token
    exact .pure (.falsehood found token)
  · exact .fail _ _
  · rename_i sign
    refine (Yields.expect _).bind fun _ digits rest _ isNumber => ?_
    obtain ⟨rfl, token⟩ := isNumber
    refine (yields_integerLiteral _ _ _).bind fun _ value rest _ isInteger => .pure ?_
    obtain ⟨rfl, value, rfl, fits⟩ := isInteger
    exact .opposite found digits value sign token (by simpa using fits)
  · rename_i token
    refine (yields_integerLiteral _ _ _).bind fun _ value rest _ isInteger => .pure ?_
    obtain ⟨rfl, value, rfl, fits⟩ := isInteger
    exact .number found value token (by simpa using fits)
  · rename_i token
    refine (yields_textLiteral _).bind fun _ value rest _ isText => .pure ?_
    obtain ⟨rfl, content, rfl, plain⟩ := isText
    exact .text found content token plain
  · rename_i opens
    refine (sound _).bind fun inside value rest _ inner => ?_
    refine (Yields.expect _).bind fun _ closed rest _ isClosed => .pure ?_
    obtain ⟨rfl, closes⟩ := isClosed
    simpa using Spells.parens found closed opens closes inner
  · rename_i named
    refine (yields_path named).bind fun taken path rest _ spelled => ?_
    refine (Yields.takes _).bind fun parens isOpened rest _ opening => ?_
    split
    · obtain ⟨opened, rfl, opens⟩ : ∃ opened : Lexeme, parens = [opened] ∧
          opened.token = .leftParen := by
        simp_all
      refine (yields_arguments sound).bind fun given arguments rest _ argued => ?_
      refine (Yields.expect _).bind fun _ closed rest _ isClosed => .pure ?_
      obtain ⟨rfl, closes⟩ := isClosed
      rcases argued with ⟨rfl, rfl⟩ | ⟨inside, value, others, rfl, rfl, first, all⟩
      · simpa using Spells.call opened closed spelled opens closes
      · simpa using Spells.callWith opened closed others spelled opens closes first
          (fun argument mem => (all argument mem).1) fun argument mem => (all argument mem).2
    · have none : parens = [] := by simp_all
      exact .pure (by simpa [none] using Spells.path spelled)
  · exact .fail _ _

/-- A filter is checked without a lexeme, and is admitted. -/
theorem yields_checkFilter (filter : Lexeme) (hasArgument : Bool) (span : Span) :
    (checkFilter filter hasArgument span).Yields setting ahead fun taken _ =>
      taken = [] ∧ (setting.arity? filter.text).any (·.admits hasArgument) = true := by
  intro value rest accepted
  obtain ⟨flaw, checked⟩ := checkFilter_apply filter hasArgument span setting ahead
  rw [checked] at accepted
  split at accepted
  · rename_i admitted
    cases accepted
    exact ⟨[], rfl, rfl, admitted⟩
  · cases accepted

/-- A filter that follows is read from the lexemes that it adds. -/
theorem yields_filterStep (sound : Sound setting .disjunction whole) {taken : List Lexeme}
    {receiver : Located Expr} (inner : Spells setting .filtered taken receiver.1) :
    (filterStep whole receiver).Yields setting ahead fun later found =>
      Spells setting .filtered (taken ++ later) (found.getD receiver).1 := by
  refine (Yields.takes _).bind fun pipes isPiped rest _ piping => ?_
  split
  · obtain ⟨pipe, rfl, piped⟩ : ∃ pipe : Lexeme, pipes = [pipe] ∧ pipe.token = .pipe := by
      simp_all
    refine (Yields.expect _).bind fun _ name rest _ isNamed => ?_
    obtain ⟨rfl, named⟩ := isNamed
    refine (Yields.takes _).bind fun colons isParted rest _ parting => ?_
    split
    · obtain ⟨colon, rfl, parted⟩ : ∃ colon : Lexeme, colons = [colon] ∧
          colon.token = .colon := by
        simp_all
      refine (sound_primary sound _).bind fun given argument rest _ argued => ?_
      refine (yields_checkFilter _ _ _).bind fun _ _ rest _ checked => .pure ?_
      obtain ⟨rfl, admitted⟩ := checked
      simpa using Spells.filterWith pipe name colon piped named rfl parted admitted inner argued
    · have none : colons = [] := by simp_all
      subst none
      refine (yields_checkFilter _ _ _).bind fun _ _ rest _ checked => .pure ?_
      obtain ⟨rfl, admitted⟩ := checked
      simpa using Spells.filter pipe name piped named rfl admitted inner
  · have none : pipes = [] := by simp_all
    exact .pure (by simpa [none] using inner)

/-- A chain of filters is read from the lexemes it is written with. -/
theorem sound_filtered (sound : Sound setting .disjunction whole) :
    Sound setting .filtered (filtered whole) := by
  intro ahead
  refine (sound_primary sound _).bind fun taken first rest _ primary => ?_
  refine .repeatedly ?_ fun more value rest inner => ?_
  · simpa using Spells.looser primary
  · simpa using yields_filterStep sound inner

/-- So is a comparison. -/
theorem sound_comparison (sound : Sound setting .disjunction whole) :
    Sound setting .comparison (comparison whole) := by
  intro ahead
  refine (sound_filtered sound _).bind fun before left rest _ first => ?_
  refine Yields.peek.bind fun taken found here same peeked => ?_
  obtain ⟨rfl, rfl⟩ := peeked
  obtain rfl : rest = here := same
  split
  · rename_i relation following
    refine (Yields.next _).bind fun _ operator rest same one => ?_
    subst one
    have token : operator.token = .relation relation := by simpa [same] using following
    refine (sound_filtered sound _).bind fun after right rest _ second => .pure ?_
    simpa using Spells.compared relation operator token first second
  · exact .pure (by simpa using Spells.looser first)

/-- So is a negation. -/
theorem sound_negation (sound : Sound setting .disjunction whole) :
    Sound setting .negation (negation whole) := by
  intro ahead
  have marked : (repeatedly (fun (marks : List Span) => do
      if ← isNext (.keyword .negation) then
        return some ((← next .anything).span :: marks)
      else return none) []).Yields setting ahead fun taken marks =>
        ∀ lexemes operand, Spells setting .negation lexemes operand.1 →
          Spells setting .negation (taken ++ lexemes) (marks.foldl (fun inner mark =>
            (.negated inner.1, mark.cover inner.2)) operand : Located Expr).1 := by
    refine .repeatedly (fun lexemes operand spelled => spelled) fun taken marks rest soFar => ?_
    refine (Yields.isNext _).bind fun none isMarked here same marking => ?_
    obtain ⟨rfl, rfl⟩ := marking
    obtain rfl : rest = here := same
    split
    · rename_i isMark
      refine (Yields.next _).bind fun _ mark rest same one => .pure ?_
      subst one
      have token : mark.token = .keyword .negation := by simpa [same] using isMark
      intro lexemes operand spelled
      simpa using soFar (mark :: lexemes) (.negated operand.1, mark.span.cover operand.2)
        (.negated mark token spelled)
    · exact .pure (by simpa using soFar)
  refine marked.bind fun taken marks rest _ soFar => ?_
  refine (sound_comparison sound _).bind fun lexemes operand rest _ spelled => .pure ?_
  simpa using soFar lexemes operand (.looser spelled)

/-- So are operands joined by a connective. -/
theorem sound_connected (connective : Connective) {operand : Parser (Located Expr)}
    (sound : Sound setting connective.rank.tighter operand) :
    Sound setting connective.rank (connected connective connective.keyword operand) := by
  intro ahead
  refine (sound _).bind fun taken first rest _ spelled => ?_
  refine .repeatedly ?_ fun more left rest inner => ?_
  · simpa using Spells.looser spelled
  · refine (Yields.takes _).bind fun operators isJoined rest _ joining => ?_
    split
    · obtain ⟨operator, rfl, token⟩ : ∃ operator : Lexeme, operators = [operator] ∧
          operator.token = .keyword connective.keyword := by
        simp_all
      refine (sound _).bind fun after right rest _ second => .pure ?_
      simpa using Spells.connected connective operator token inner second
    · have none : operators = [] := by simp_all
      exact .pure (by simpa [none] using inner)

/-- So are whole expressions, however deep they are nested. -/
theorem sound_bounded (bound : Nat) : Sound setting .disjunction (bounded bound) := by
  induction bound with
  | zero => exact fun ahead => (Yields.next _).bind fun _ _ _ _ _ => .fail _ _
  | succ bound inductionHypothesis =>
    exact sound_connected .either (sound_connected .both (sound_negation inductionHypothesis))

end Expr.Parser

/-- What is read as an expression is written with the lexemes that are taken. -/
theorem Expr.yields_parse (setting : Setting) (ahead : List Lexeme) :
    Expr.parse.Yields setting ahead fun taken found =>
      Grammar.Spells setting .disjunction taken found := by
  intro value rest accepted
  simp only [Expr.parse, bind, Except.bind] at accepted
  cases read : Parser.bounded (ahead.length + 1) setting ahead with
  | error flaw =>
    rw [read] at accepted
    cases accepted
  | ok found =>
    rw [read] at accepted
    cases accepted
    exact Parser.sound_bounded (ahead.length + 1) ahead found.1 found.2 read

end Stencil
