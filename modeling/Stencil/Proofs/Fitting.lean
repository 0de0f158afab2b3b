import Stencil.Proofs.Parsing
import Stencil.Proofs.Wording

/-!
# Filters that fit

The filters that are known, and whether they take arguments, decide about nothing but
whether an expression is accepted. Where it is, all filters in it fit: they are known, and
have an argument or not as their arity says. With other filters it is accepted again, and
is the same, if all filters in it fit, and is a flaw otherwise.
-/

namespace Stencil

/-- A filter of the arity may have an argument, or may not have one. -/
def Arity.admits : Arity → Bool → Bool
  | never, hasArgument => !hasArgument
  | optional, _ => true
  | required, hasArgument => hasArgument

mutual

/-- Every filter in the expression is known, and has an argument or not as its arity
says. -/
def Expr.fits (arity? : String → Option Arity) : Expr → Bool
  | .literal _ => true
  | .path _ => true
  | .call _ arguments => exprsFit arity? arguments
  | .filtered receiver filter argument =>
    receiver.fits arity? && ((arity? filter).any (·.admits argument.isSome)) &&
      optionFits arity? argument
  | .negated operand => operand.fits arity?
  | .connected _ left right => left.fits arity? && right.fits arity?
  | .compared _ left right => left.fits arity? && right.fits arity?
termination_by structural expression => expression

/-- The same for all expressions of a list. -/
def exprsFit (arity? : String → Option Arity) : List Expr → Bool
  | [] => true
  | expression :: rest => expression.fits arity? && exprsFit arity? rest
termination_by structural expressions => expressions

/-- The same for an expression that need not be there. -/
def optionFits (arity? : String → Option Arity) : Option Expr → Bool
  | none => true
  | some expression => expression.fits arity?
termination_by structural expression => expression

end

/-- All expressions of a list fit. -/
theorem exprsFit_eq_all (arity? : String → Option Arity) (expressions : List Expr) :
    exprsFit arity? expressions = expressions.all (Expr.fits arity?) := by
  induction expressions with
  | nil => rfl
  | cons expression rest inductionHypothesis =>
    simp only [exprsFit, List.all_cons, inductionHypothesis]

/-- The setting with other filters. -/
def Setting.withArities (setting : Setting) (arity? : String → Option Arity) : Setting :=
  { setting with arity? := arity? }

namespace Parser

variable {α β : Type}

/-- A parser that does not ask which filters there are. -/
def Steady (parser : Parser α) : Prop :=
  ∀ (setting : Setting) (arity? : String → Option Arity) (ahead : List Lexeme),
    parser (setting.withArities arity?) ahead = parser setting ahead

/-- What a parser accepts with some filters fits them, if what was read before does. With
other filters it comes to the same value, or it fails where they do not fit. -/
def Reads (before : (String → Option Arity) → Prop) (parser : Parser α)
    (after : (String → Option Arity) → α → Prop) : Prop :=
  ∀ (setting : Setting) (ahead : List Lexeme) (known others : String → Option Arity) (value : α)
    (rest : List Lexeme), before known →
    parser (setting.withArities known) ahead = .ok (value, rest) →
    after known value ∧ (after others value → before others) ∧
      (parser (setting.withArities others) ahead = .ok (value, rest) ∨
        (∃ flaw, parser (setting.withArities others) ahead = .error flaw) ∧ ¬after others value)

variable {before : (String → Option Arity) → Prop}

/-- Where no filter is asked for, what was read fits as before. -/
theorem Steady.reads {parser : Parser α} (steady : parser.Steady) :
    parser.Reads before fun arity? _ => before arity? := by
  intro setting ahead known others value rest fits accepted
  refine ⟨fits, fun fitting => fitting, Or.inl ?_⟩
  rw [steady] at accepted ⊢
  exact accepted

/-- The same, said in other words. -/
theorem Reads.congr {parser : Parser α} {earlier : (String → Option Arity) → Prop}
    {after other : (String → Option Arity) → α → Prop} (reads : parser.Reads before after)
    (first : ∀ arity?, earlier arity? ↔ before arity?)
    (same : ∀ arity? value, after arity? value ↔ other arity? value) :
    parser.Reads earlier other := by
  intro setting ahead known others value rest fits accepted
  obtain ⟨fitting, backward, again⟩ :=
    reads setting ahead known others value rest ((first known).mp fits) accepted
  rw [same] at fitting backward again
  exact ⟨fitting, fun fitsAll => (first others).mpr (backward fitsAll), again⟩

/-- A value that is not read fits if what was read before does. -/
theorem Reads.pure {value : α} {after : (String → Option Arity) → α → Prop}
    (same : ∀ arity?, before arity? ↔ after arity? value) :
    (Pure.pure value : Parser α).Reads before after := by
  intro setting ahead known others found rest fits accepted
  cases accepted
  exact ⟨(same known).mp fits, (same others).mpr, Or.inl rfl⟩

/-- Nothing is accepted by failing. -/
theorem Reads.fail (cause : Malformed) (span : Span)
    (after : (String → Option Arity) → α → Prop) :
    (Parser.fail cause span : Parser α).Reads before after := by
  intro setting ahead known others found rest fits accepted
  cases accepted

/-- In a sequence what is read first fits if all does. -/
theorem Reads.bind {first : Parser α} {next : α → Parser β}
    {middle : (String → Option Arity) → α → Prop} {after : (String → Option Arity) → β → Prop}
    (begins : first.Reads before middle)
    (onward : ∀ value, (next value).Reads (middle · value) after) :
    (first >>= next).Reads before after := by
  intro setting ahead known others value rest fits accepted
  obtain ⟨between, left, begun, going⟩ := of_bind_ok accepted
  obtain ⟨fitsBetween, earlier, again⟩ := begins setting ahead known others between left fits begun
  obtain ⟨fitting, backward, goesOn⟩ :=
    onward between setting left known others value rest fitsBetween going
  refine ⟨fitting, fun fitsAll => earlier (backward fitsAll), ?_⟩
  rw [bind_apply]
  rcases again with same | ⟨⟨flaw, fails⟩, unfit⟩
  · rw [same]
    exact goesOn
  · rw [fails]
    exact Or.inr ⟨⟨flaw, rfl⟩, fun fitsAll => unfit (backward fitsAll)⟩

/-- Steps that are taken as long as there is one each fit if the result does. -/
theorem Reads.iterate {step : α → Parser (Option α)} {fitting : (String → Option Arity) → α → Prop}
    (steps : ∀ value, (step value).Reads (fitting · value) fun arity? later =>
      fitting arity? (later.getD value)) (bound : Nat) (value : α) :
    (Parser.iterate step bound value).Reads (fitting · value) fitting := by
  induction bound generalizing value with
  | zero => exact .pure fun _ => Iff.rfl
  | succ bound inductionHypothesis =>
    rw [iterate_succ]
    refine (steps value).bind fun later => ?_
    cases later with
    | none => exact .pure fun _ => Iff.rfl
    | some later => exact inductionHypothesis later

/-- So do steps of which each takes a lexeme. -/
theorem Reads.repeatedly {step : α → Parser (Option α)}
    {fitting : (String → Option Arity) → α → Prop}
    (steps : ∀ value, (step value).Reads (fitting · value) fun arity? later =>
      fitting arity? (later.getD value)) (value : α) :
    (Parser.repeatedly step value).Reads (fitting · value) fitting :=
  fun setting ahead => Reads.iterate steps (ahead.length + 1) value setting ahead

/-- Items that are gathered one by one, latest first, fit if each of them does. -/
theorem Reads.gather {step : List α → Parser (Option (List α))}
    {fits : (String → Option Arity) → α → Bool}
    (steps : ∀ found, (step found).Reads
      (fun arity? => before arity? ∧ found.all (fits arity?) = true) fun arity? later =>
        before arity? ∧ (later.getD found).all (fits arity?) = true) (start : List α) :
    (Parser.repeatedly step start >>= fun found => Pure.pure found.reverse).Reads
      (fun arity? => before arity? ∧ start.all (fits arity?) = true) fun arity? found =>
        before arity? ∧ found.all (fits arity?) = true := by
  refine Reads.bind (.repeatedly steps start) fun found => .pure fun arity? => ?_
  rw [List.all_reverse]

/-- One more item fits if it is accepted. -/
theorem Reads.another {item : Parser β} {content : β → α}
    {fits : (String → Option Arity) → α → Bool}
    (reads : ∀ before, item.Reads before fun arity? found =>
      before arity? ∧ fits arity? (content found) = true) (found : List α) :
    (item >>= fun next => Pure.pure (some (content next :: found))).Reads
      (fun arity? => before arity? ∧ found.all (fits arity?) = true) fun arity? later =>
        before arity? ∧ (later.getD found).all (fits arity?) = true := by
  refine (reads _).bind fun next => .pure fun arity? => ?_
  simp only [Option.getD_some, List.all_cons, Bool.and_eq_true]
  exact ⟨fun ⟨⟨earlier, others⟩, own⟩ => ⟨earlier, own, others⟩,
    fun ⟨earlier, own, others⟩ => ⟨⟨earlier, others⟩, own⟩⟩

/-- What is done to a value that was read changes nothing if it fits as the value does. -/
theorem Reads.map {parser : Parser α} {after : (String → Option Arity) → α → Prop}
    {later : (String → Option Arity) → β → Prop} {change : α → β}
    (reads : parser.Reads before after)
    (same : ∀ arity? value, after arity? value ↔ later arity? (change value)) :
    (change <$> parser).Reads before later := by
  have shape : change <$> parser = parser >>= fun value => Pure.pure (change value) := by
    funext setting ahead
    rw [map_apply, bind_apply]
    cases parser setting ahead <;> rfl
  rw [shape]
  exact reads.bind fun value => .pure fun arity? => same arity? value

namespace Steady

/-- A value is steady. -/
theorem pure (value : α) : (Pure.pure value : Parser α).Steady := fun _ _ _ => rfl

/-- So is a failure. -/
theorem fail (cause : Malformed) (span : Span) : (Parser.fail cause span : Parser α).Steady :=
  fun _ _ _ => rfl

/-- Looking at a lexeme is. -/
theorem peek : Parser.peek.Steady := fun _ _ _ => rfl

/-- So is taking one. -/
theorem next (wanted : Expected) : (Parser.next wanted).Steady := fun _ _ _ => rfl

/-- A sequence is steady if all of it is. -/
theorem bind {first : Parser α} {next : α → Parser β} (begins : first.Steady)
    (onward : ∀ value, (next value).Steady) : (first >>= next).Steady := by
  intro setting arity? ahead
  rw [bind_apply, bind_apply, begins]
  cases first setting ahead with
  | error flaw => rfl
  | ok found => exact onward found.1 setting arity? found.2

/-- Steps are steady if each of them is. -/
theorem iterate {step : α → Parser (Option α)} (steps : ∀ value, (step value).Steady)
    (bound : Nat) (value : α) : (Parser.iterate step bound value).Steady := by
  induction bound generalizing value with
  | zero => exact pure value
  | succ bound inductionHypothesis =>
    rw [iterate_succ]
    refine (steps value).bind fun later => ?_
    cases later with
    | none => exact pure value
    | some later => exact inductionHypothesis later

/-- So are steps of which each takes a lexeme. -/
theorem repeatedly {step : α → Parser (Option α)} (steps : ∀ value, (step value).Steady)
    (value : α) : (Parser.repeatedly step value).Steady :=
  fun setting arity? ahead => iterate steps (ahead.length + 1) value setting arity? ahead

/-- Taking a lexeme of a token is steady. -/
theorem expect (token : Token) : (Parser.expect token).Steady := by
  refine (next _).bind fun found => ?_
  split
  · exact pure found
  · exact fail _ _

/-- So is asking for one. -/
theorem isNext (token : Token) : (Parser.isNext token).Steady :=
  peek.bind fun _ => pure _

/-- And taking one if it is there. -/
theorem takes (token : Token) : (Parser.takes token).Steady := by
  refine (isNext token).bind fun found => ?_
  split
  · exact (expect token).bind fun _ => pure true
  · exact pure false

/-- And taking a word if it is there. -/
theorem takesWord (word : String) : (Parser.takesWord word).Steady := by
  refine peek.bind fun found => ?_
  split
  · split
    · exact (next _).bind fun _ => pure true
    · exact pure false
  · exact pure false

/-- And taking a word. -/
theorem expectWord (word : String) : (Parser.expectWord word).Steady := by
  refine (next _).bind fun found => ?_
  split
  · exact pure ()
  · exact fail _ _

end Steady

end Parser

namespace Expr.Parser

open Stencil.Parser

variable {before : (String → Option Arity) → Prop}

/-- Strings are read without filters. -/
theorem steady_textLiteral (found : Lexeme) : (textLiteral found).Steady := by
  unfold textLiteral
  simp only []
  split
  · exact .pure _
  · exact .fail _ _

/-- So are integers. -/
theorem steady_integerLiteral (negative : Bool) (digits : String) (span : Span) :
    (integerLiteral negative digits span).Steady := by
  unfold integerLiteral
  simp only []
  split
  · exact .pure _
  · exact .fail _ _

/-- So are segments of paths. -/
theorem steady_key : key.Steady := by
  refine (Steady.next _).bind fun found => ?_
  split
  · simp only []
    split
    · exact .pure _
    · exact .fail _ _
  · split
    · exact .pure _
    · exact .fail _ _

/-- So are paths. -/
theorem steady_path (first : Lexeme) : (path first).Steady := by
  refine Steady.bind (.repeatedly (fun keys => ?_) []) fun keys _ _ _ => rfl
  refine (Steady.takes _).bind fun taken => ?_
  split
  · exact steady_key.bind fun _ => .pure _
  · exact .pure _

/-- A filter is accepted if it fits. -/
theorem checkFilter_apply (filter : Lexeme) (hasArgument : Bool) (span : Span) (setting : Setting)
    (ahead : List Lexeme) : ∃ flaw, checkFilter filter hasArgument span setting ahead =
      if (setting.arity? filter.text).any (·.admits hasArgument) = true then .ok ((), ahead)
      else .error flaw := by
  rw [checkFilter, bind_of_ok (read_apply setting ahead)]
  cases setting.arity? filter.text with
  | none => exact ⟨_, rfl⟩
  | some arity =>
    -- Where the filter is accepted there is no flaw; any will do.
    cases arity <;> cases hasArgument <;>
      first
        | exact ⟨⟨.indexRange, span⟩, rfl⟩
        | exact ⟨_, rfl⟩

/-- A filter that was checked fits. -/
theorem reads_checkFilter (filter : Lexeme) (hasArgument : Bool) (span : Span) :
    (checkFilter filter hasArgument span).Reads before fun arity? _ =>
      before arity? ∧ (arity? filter.text).any (·.admits hasArgument) = true := by
  intro setting ahead known others value rest fits accepted
  obtain ⟨flaw, first⟩ :=
    checkFilter_apply filter hasArgument span (setting.withArities known) ahead
  obtain ⟨other, second⟩ :=
    checkFilter_apply filter hasArgument span (setting.withArities others) ahead
  rw [first] at accepted
  rw [second]
  split at accepted
  · rename_i isFit
    cases accepted
    refine ⟨⟨fits, isFit⟩, And.left, ?_⟩
    split
    · exact Or.inl rfl
    · rename_i unfit
      exact Or.inr ⟨⟨other, rfl⟩, fun both => unfit both.2⟩
  · cases accepted

/-- What is read of an expression fits with it. -/
def fitting (before : (String → Option Arity) → Prop) (arity? : String → Option Arity)
    (found : Located Expr) : Prop :=
  before arity? ∧ found.1.fits arity? = true

/-- A way to read expressions of which the filters fit. -/
def Fitting (parser : Parser (Located Expr)) : Prop :=
  ∀ before, parser.Reads before (fitting before)

variable {whole : Parser (Located Expr)}

/-- The arguments of a call fit if each of them does. -/
theorem reads_arguments (isFitting : Fitting whole) :
    (arguments whole).Reads before fun arity? found =>
      before arity? ∧ found.all (Expr.fits arity?) = true := by
  refine (Steady.isNext _).reads.bind fun closes => ?_
  split
  · exact .pure fun arity? => by simp
  · refine (isFitting before).bind fun first => ?_
    refine (Reads.gather (fun found => ?_) [first.1]).congr ?_ fun _ _ => Iff.rfl
    · refine (Steady.takes _).reads.bind fun taken => ?_
      split
      · exact .another isFitting found
      · exact .pure fun arity? => Iff.rfl
    · simp [fitting]

/-- A primary fits if the expressions inside of it do. -/
theorem fitting_primary (isFitting : Fitting whole) : Fitting (primary whole) := by
  intro before
  refine (Steady.next _).reads.bind fun found => ?_
  split
  · exact .pure fun arity? => by simp [fitting, Expr.fits]
  · exact .pure fun arity? => by simp [fitting, Expr.fits]
  · exact .fail _ _ _
  · refine (Steady.expect _).reads.bind fun digits => ?_
    refine (steady_integerLiteral _ _ _).reads.bind fun value => ?_
    exact .pure fun arity? => by simp [fitting, Expr.fits]
  · refine (steady_integerLiteral _ _ _).reads.bind fun value => ?_
    exact .pure fun arity? => by simp [fitting, Expr.fits]
  · refine (steady_textLiteral _).reads.bind fun value => ?_
    exact .pure fun arity? => by simp [fitting, Expr.fits]
  · refine (isFitting before).bind fun inner => ?_
    exact (Steady.expect _).reads.bind fun close => .pure fun arity? => Iff.rfl
  · refine (steady_path _).reads.bind fun named => ?_
    refine (Steady.takes _).reads.bind fun taken => ?_
    split
    · refine (reads_arguments isFitting).bind fun given => ?_
      refine (Steady.expect _).reads.bind fun close => ?_
      exact .pure fun arity? => by simp [fitting, Expr.fits, exprsFit_eq_all]
    · exact .pure fun arity? => by simp [fitting, Expr.fits]
  · exact .fail _ _ _

/-- A filter that follows fits if it is accepted. -/
theorem reads_filterStep (isFitting : Fitting whole) (receiver : Located Expr) :
    (filterStep whole receiver).Reads (fitting before · receiver) fun arity? later =>
      fitting before arity? (later.getD receiver) := by
  refine (Steady.takes _).reads.bind fun taken => ?_
  split
  · refine (Steady.expect _).reads.bind fun filter => ?_
    refine (Steady.takes _).reads.bind fun colon => ?_
    split
    · refine (fitting_primary isFitting _).bind fun argument => ?_
      refine (reads_checkFilter _ _ _).bind fun _ => .pure fun arity? => ?_
      simp only [fitting, Option.getD_some, Expr.fits, optionFits, Option.isSome_some,
        Bool.and_eq_true, and_assoc, and_comm, and_left_comm]
    · refine (reads_checkFilter _ _ _).bind fun _ => .pure fun arity? => ?_
      simp only [fitting, Option.getD_some, Expr.fits, optionFits, Option.isSome_none,
        Bool.and_eq_true, and_true, and_assoc]
  · exact .pure fun arity? => Iff.rfl

/-- A chain of filters fits if each of them is accepted. -/
theorem fitting_filtered (isFitting : Fitting whole) : Fitting (filtered whole) := by
  intro before
  exact (fitting_primary isFitting before).bind fun first =>
    Reads.repeatedly (reads_filterStep isFitting) first

/-- A comparison fits if its operands do. -/
theorem fitting_comparison (isFitting : Fitting whole) : Fitting (comparison whole) := by
  intro before
  refine (fitting_filtered isFitting before).bind fun left => ?_
  refine Steady.peek.reads.bind fun following => ?_
  split
  · refine (Steady.next _).reads.bind fun _ => ?_
    refine (fitting_filtered isFitting _).bind fun right => .pure fun arity? => ?_
    simp [fitting, Expr.fits, and_assoc]
  · exact .pure fun arity? => Iff.rfl

/-- A negation fits if its operand does. -/
theorem fitting_negation (isFitting : Fitting whole) : Fitting (negation whole) := by
  intro before
  refine (Steady.repeatedly (fun marks => ?_) []).reads.bind fun marks => ?_
  · refine (Steady.isNext _).bind fun found => ?_
    split
    · exact (Steady.next _).bind fun _ => .pure _
    · exact .pure _
  · refine (fitting_comparison isFitting before).bind fun operand => .pure fun arity? => ?_
    have negated : ∀ (operand : Located Expr), (marks.foldl (fun inner mark =>
        (Expr.negated inner.1, mark.cover inner.2)) operand).1.fits arity? =
          operand.1.fits arity? := by
      induction marks with
      | nil => exact fun operand => rfl
      | cons mark rest inductionHypothesis => exact fun operand => inductionHypothesis _
    simp only [fitting, negated]

/-- Operands joined by a connective fit if each of them does. -/
theorem fitting_connected {operand : Parser (Located Expr)} (connective : Connective)
    (keyword : Keyword) (isFitting : Fitting operand) :
    Fitting (connected connective keyword operand) := by
  intro before
  refine (isFitting before).bind fun first => Reads.repeatedly (fun left => ?_) first
  refine (Steady.takes _).reads.bind fun taken => ?_
  split
  · refine (isFitting _).bind fun right => .pure fun arity? => ?_
    simp [fitting, Expr.fits, and_assoc]
  · exact .pure fun arity? => Iff.rfl

/-- Whole expressions fit, however deep they are nested. -/
theorem fitting_bounded (bound : Nat) : Fitting (bounded bound) := by
  induction bound with
  | zero =>
    intro before
    exact (Steady.next _).reads.bind fun found => .fail _ _ _
  | succ bound inductionHypothesis =>
    exact fitting_connected _ _ (fitting_connected _ _ (fitting_negation inductionHypothesis))

end Expr.Parser

/-- What is read as an expression fits if it is accepted. -/
theorem Expr.reads_parse (before : (String → Option Arity) → Prop) :
    Expr.parse.Reads before fun arity? found => before arity? ∧ found.fits arity? = true := by
  have shape : Expr.parse = (fun setting ahead =>
      Parser.bounded (ahead.length + 1) setting ahead : Stencil.Parser (Located Expr)) >>=
        fun found => pure found.1 := by
    funext setting ahead
    rw [Parser.bind_apply]
    simp only [Expr.parse, bind, Except.bind]
    cases Parser.bounded (ahead.length + 1) setting ahead <;> rfl
  have whole : Parser.Fitting (fun setting ahead =>
      Parser.bounded (ahead.length + 1) setting ahead) := fun before setting ahead =>
    Parser.fitting_bounded (ahead.length + 1) before setting ahead
  rw [shape]
  exact (whole before).bind fun found => .pure fun arity? => Iff.rfl

end Stencil
