import Stencil.Proofs.Grammar.Soundness
import Stencil.Proofs.Lexing.Tracking
import Stencil.Template.Compile

/-!
# How pieces are spelt

Which lexemes are read as a piece. Between its delimiters a tag draws on words: its names are
among their texts, and its expressions are written with some of them. A comment that is closed
leaves no piece. The lexemes of a template are read as pieces one after the other, without a
flaw if the lexer found none and each of them is read by itself.
-/

namespace Stencil

/-- The names in the head of a region. -/
def Region.names : Region → List String
  | .binding bindings => bindings.map (·.name)
  | .markers name .. => [name]
  | .range name .. => [name]
  | _ => []

/-- The expressions written in the head of a region. -/
def Region.written : Region → List Expr
  | .binding bindings => bindings.map (·.value)
  | .tree nodes => [nodes]
  | .markers _ items pattern => [items, pattern]
  | .range _ first last _ step => first :: last :: step.toList
  | _ => []

/-- The names in a tag. -/
def Tag.names : Tag → List String
  | .loop head => [head.name]
  | .block name => [name]
  | .region head => head.names
  | .insert _ bindings => bindings.map (·.name)
  | .assign binding => [binding.name]
  | _ => []

/-- The expressions written in a tag. -/
def Tag.written : Tag → List Expr
  | .condition test => [test]
  | .otherwiseIf test => [test]
  | .loop head => [head.items]
  | .region head => head.written
  | .inherit target => [target]
  | .insert target bindings => target :: bindings.map (·.value)
  | .create target template => [target, template]
  | .cycle first others => first :: others
  | .assign binding => [binding.value]
  | _ => []

namespace Grammar

variable {setting : Setting} {rank : Rank} {lexemes : List Lexeme}

/-- A path is written with words. -/
theorem SpellsPath.words {source : List Char} {path : Path}
    (spelled : SpellsPath source lexemes path) :
    ∀ lexeme ∈ lexemes, lexeme.token.isWord = true := by
  obtain ⟨first, segments, named, all⟩ := spelled
  intro lexeme member
  rcases List.mem_cons.mp member with rfl | later
  · rw [named]
    rfl
  · obtain ⟨segment, among, part⟩ := List.mem_flatMap.mp later
    obtain ⟨dotted, ⟨token, _⟩ | ⟨token, _⟩⟩ := all segment among
    all_goals
      simp only [Segment.lexemes, List.mem_cons, List.not_mem_nil, or_false] at part
      rcases part with rfl | rfl
      · rw [dotted]
        rfl
      · rw [token]
        rfl

/-- An expression is written with words. -/
theorem Spells.words {value : Expr} (spelled : Spells setting rank lexemes value) :
    ∀ lexeme ∈ lexemes, lexeme.token.isWord = true := by
  induction spelled with
  | truth found token | falsehood found token | number found _ token | text found _ token =>
    simp [token, Token.isWord]
  | opposite minus digits value sign token => simp [sign, token, Token.isWord]
  | path spelled => exact spelled.words
  | call opened closed spelled opens closes =>
    simp only [List.forall_mem_append]
    exact ⟨spelled.words, by simp [opens, closes, Token.isWord]⟩
  | callWith opened closed others spelled opens closes first commas rest firstWords restWords =>
    simp only [List.forall_mem_append, List.forall_mem_cons]
    refine ⟨spelled.words, by simp [opens, Token.isWord], firstWords, ?_,
      by simp [closes, Token.isWord]⟩
    intro lexeme member
    obtain ⟨argument, among, part⟩ := List.mem_flatMap.mp member
    rcases List.mem_cons.mp part with rfl | later
    · rw [commas argument among]
      rfl
    · exact restWords argument among lexeme later
  | parens opened closed opens closes inner inductionHypothesis =>
    simp only [List.forall_mem_cons, List.forall_mem_append]
    exact ⟨by simp [opens, Token.isWord], inductionHypothesis, by simp [closes, Token.isWord]⟩
  | filter pipe name piped named spelled admitted inner inductionHypothesis =>
    simp only [List.forall_mem_append]
    exact ⟨inductionHypothesis, by simp [piped, named, Token.isWord]⟩
  | filterWith pipe name colon piped named spelled parted admitted inner argued innerWords
      arguedWords =>
    simp only [List.forall_mem_append, List.forall_mem_cons]
    exact ⟨innerWords, by simp [piped, Token.isWord], by simp [named, Token.isWord],
      by simp [parted, Token.isWord], arguedWords⟩
  | compared relation operator token first second firstWords secondWords =>
    simp only [List.forall_mem_append, List.forall_mem_cons]
    exact ⟨firstWords, by simp [token, Token.isWord], secondWords⟩
  | negated mark token inner inductionHypothesis =>
    simp only [List.forall_mem_cons]
    exact ⟨by simp [token, Token.isWord], inductionHypothesis⟩
  | connected connective operator token first second firstWords secondWords =>
    simp only [List.forall_mem_append, List.forall_mem_cons]
    exact ⟨firstWords, by simp [token, Token.isWord], secondWords⟩
  | looser inner inductionHypothesis => exact inductionHypothesis

end Grammar

/-- What was taken between delimiters are words, the names are texts of names among them, and the
expressions are written with some of them that follow each other. -/
structure Drawn (setting : Setting) (taken : List Lexeme) (names : List String)
    (expressions : List Expr) : Prop where
  words : ∀ lexeme ∈ taken, lexeme.token.isWord = true
  names : ∀ name ∈ names, ∃ lexeme ∈ taken, lexeme.token = .name ∧ lexeme.text = name
  expressions : ∀ expression ∈ expressions, ∃ part, part <:+: taken ∧
    Grammar.Spells setting .disjunction part expression

namespace Drawn

variable {setting : Setting} {taken later : List Lexeme} {names others : List String}
  {expressions more : List Expr}

/-- Nothing is drawn from nothing. -/
theorem nothing : Drawn setting [] [] [] := ⟨nofun, nofun, nofun⟩

/-- What is drawn from two parts. -/
theorem append (first : Drawn setting taken names expressions)
    (second : Drawn setting later others more) :
    Drawn setting (taken ++ later) (names ++ others) (expressions ++ more) where
  words := List.forall_mem_append.mpr ⟨first.words, second.words⟩
  names := by
    intro name member
    rcases List.mem_append.mp member with earlier | after
    · obtain ⟨lexeme, among, is⟩ := first.names name earlier
      exact ⟨lexeme, List.mem_append_left _ among, is⟩
    · obtain ⟨lexeme, among, is⟩ := second.names name after
      exact ⟨lexeme, List.mem_append_right _ among, is⟩
  expressions := by
    intro expression member
    rcases List.mem_append.mp member with earlier | after
    · obtain ⟨part, among, spelled⟩ := first.expressions expression earlier
      exact ⟨part, among.trans (List.prefix_append _ _).isInfix, spelled⟩
    · obtain ⟨part, among, spelled⟩ := second.expressions expression after
      exact ⟨part, among.trans (List.suffix_append _ _).isInfix, spelled⟩

/-- What is drawn may be listed in another order. -/
theorem reorder (drawn : Drawn setting taken names expressions) (sameNames : others ⊆ names)
    (sameExpressions : more ⊆ expressions) : Drawn setting taken others more where
  words := drawn.words
  names := fun name member => drawn.names name (sameNames member)
  expressions := fun expression member => drawn.expressions expression (sameExpressions member)

/-- A word by itself. -/
theorem word {lexeme : Lexeme} (isWord : lexeme.token.isWord = true) :
    Drawn setting [lexeme] [] [] := ⟨by simpa using isWord, nofun, nofun⟩

/-- A name. -/
theorem name {lexeme : Lexeme} (isName : lexeme.token = .name) :
    Drawn setting [lexeme] [lexeme.text] [] :=
  ⟨by simp [isName, Token.isWord], by simp [isName], nofun⟩

/-- An expression. -/
theorem expression {value : Expr} (spelled : Grammar.Spells setting .disjunction taken value) :
    Drawn setting taken [] [value] where
  words := spelled.words
  names := nofun
  expressions := by
    intro expression member
    rw [List.mem_singleton.mp member]
    exact ⟨taken, List.infix_refl _, spelled⟩

/-- A word, or nothing. -/
theorem atMostOne {token : Token} {found : Bool}
    (taking : if found then ∃ first, taken = [first] ∧ first.token = token else taken = [])
    (isWord : token.isWord = true) : Drawn setting taken [] [] := by
  cases found with
  | false =>
    obtain rfl : taken = [] := taking
    exact nothing
  | true =>
    obtain ⟨first, rfl, isToken⟩ := taking
    exact word (by rw [isToken]; exact isWord)

end Drawn

namespace Parser

variable {setting : Setting} {ahead : List Lexeme}

/-- What is done to a value takes no lexeme. -/
theorem Yields.map {α β : Type} {parser : Parser α} {change : α → β}
    {found : List Lexeme → α → Prop} (yields : parser.Yields setting ahead found) :
    (change <$> parser).Yields setting ahead fun taken result =>
      ∃ value, found taken value ∧ result = change value := by
  intro result rest accepted
  rw [map_apply] at accepted
  cases read : parser setting ahead with
  | error flaw =>
    rw [read] at accepted
    cases accepted
  | ok reached =>
    rw [read] at accepted
    cases accepted
    obtain ⟨taken, same, holds⟩ := yields _ _ read
    exact ⟨taken, same, reached.1, holds, rfl⟩

/-- Taking the next lexeme if it is a word of some spelling takes a name, or nothing. -/
theorem Yields.takesWord (word : String) :
    (takesWord word).Yields setting ahead fun taken _ => Drawn setting taken [] [] := by
  refine peek.bind fun taken found rest same none => ?_
  obtain ⟨rfl, rfl⟩ := none
  split
  · rename_i found ahead
    split
    · rename_i isWord
      refine (next _).bind fun taken first later isRest one => .pure ?_
      subst one
      rw [same, isRest] at ahead
      cases ahead
      simp only [Bool.and_eq_true, decide_eq_true_eq] at isWord
      exact .word (by rw [isWord.1]; rfl)
    · exact .pure .nothing
  · exact .pure .nothing

/-- Taking a lexeme that has to be a word of some spelling takes a name. -/
theorem Yields.expectWord (word : String) :
    (expectWord word).Yields setting ahead fun taken _ => Drawn setting taken [] [] := by
  refine (next _).bind fun taken found rest _ one => ?_
  split
  · rename_i isWord
    simp only [Bool.and_eq_true, decide_eq_true_eq] at isWord
    apply Yields.pure
    rw [one]
    exact .word (by rw [isWord.1]; rfl)
  · exact .fail _ _

end Parser

namespace Tag

open Stencil.Parser

variable {setting : Setting} {ahead : List Lexeme}

/-- A binding is written with a name, an equals sign and an expression. -/
theorem yields_binding : binding.Yields setting ahead fun taken found =>
    Drawn setting taken [found.name] [found.value] := by
  refine (Yields.expect _).bind fun taken name rest _ isName => ?_
  refine (Yields.expect _).bind fun second assign rest _ isAssign => ?_
  refine (Expr.yields_parse _ _).bind fun third value rest _ spelled => .pure ?_
  rw [isName.1, isAssign.1]
  have drawn : Drawn setting ([name] ++ ([assign] ++ (third ++ []))) [name.text] [value] :=
    (Drawn.name isName.2).append ((Drawn.word (by rw [isAssign.2]; rfl)).append
      ((Drawn.expression spelled).append .nothing))
  exact drawn

/-- A further binding goes before those that were found. -/
theorem yields_furtherBinding {taken commas : List Lexeme} {found : List Binding}
    (soFar : Drawn setting taken (found.map (·.name)) (found.map (·.value)))
    (parted : Drawn setting commas [] []) :
    (binding >>= fun one => pure (some (one :: found))).Yields setting ahead fun later result =>
      Drawn setting (taken ++ (commas ++ later)) ((result.getD found).map (·.name))
        ((result.getD found).map (·.value)) := by
  apply yields_binding.bind
  intro later one rest _ drawn
  apply Yields.pure
  have more := soFar.append (parted.append drawn)
  rw [List.append_nil]
  apply more.reorder
  · simp
  · simp

/-- Bindings are written with theirs. -/
theorem yields_bindings : bindings.Yields setting ahead fun taken found =>
    Drawn setting taken (found.map (·.name)) (found.map (·.value)) := by
  refine yields_binding.bind fun taken first rest _ drawn => ?_
  have gathered : (repeatedly (fun (found : List Binding) => do
      if ← takes .comma then return some ((← binding) :: found)
      else if ← isNext .name then return some ((← binding) :: found)
      else return none) [first]).Yields setting rest fun later found =>
        Drawn setting (taken ++ later) (found.map (·.name)) (found.map (·.value)) := by
    refine .repeatedly (by simpa using drawn) fun later found rest soFar => ?_
    refine (Yields.takes _).bind fun commas isParted rest _ parted => ?_
    simp only [← List.append_assoc taken later] at soFar ⊢
    split
    · exact yields_furtherBinding soFar (.atMostOne parted rfl)
    · refine (Yields.isNext _).bind fun nothing isNamed rest _ none => ?_
      obtain ⟨rfl, _⟩ := none
      split
      · exact yields_furtherBinding soFar (.atMostOne parted rfl)
      · refine .pure ?_
        simpa using soFar.append (.atMostOne parted rfl)
  refine gathered.bind fun later all rest _ drawn => .pure ?_
  rw [List.append_nil]
  apply drawn.reorder
  · simp
  · simp

/-- A further item goes before those that were found. -/
theorem yields_furtherItem {taken commas : List Lexeme} {found : List Expr}
    (soFar : Drawn setting taken [] found) (parted : Drawn setting commas [] []) :
    (Expr.parse >>= fun one => pure (some (one :: found))).Yields setting ahead
      fun later result => Drawn setting (taken ++ (commas ++ later)) [] (result.getD found) := by
  apply (Expr.yields_parse _ _).bind
  intro later one rest _ spelled
  apply Yields.pure
  have more := soFar.append (parted.append (.expression spelled))
  rw [List.append_nil]
  apply more.reorder
  · simp
  · simp

/-- The items of a cycle are written with theirs. -/
theorem yields_items : items.Yields setting ahead fun taken found =>
    Drawn setting taken [] found := by
  have gathered : (repeatedly (fun (found : List Expr) => do
      if ← takes .comma then return some ((← Expr.parse) :: found)
      else if ← isNext (.closing .tag) then return none
      else return some ((← Expr.parse) :: found)) []).Yields setting ahead fun taken found =>
        Drawn setting taken [] found := by
    refine .repeatedly .nothing fun taken found rest soFar => ?_
    refine (Yields.takes _).bind fun commas isParted rest _ parted => ?_
    split
    · exact yields_furtherItem soFar (.atMostOne parted rfl)
    · refine (Yields.isNext _).bind fun nothing isOver rest _ none => ?_
      obtain ⟨rfl, _⟩ := none
      split
      · refine .pure ?_
        simpa using soFar.append (.atMostOne parted rfl)
      · exact yields_furtherItem soFar (.atMostOne parted rfl)
  refine gathered.bind fun taken all rest _ drawn => .pure ?_
  rw [List.append_nil]
  apply drawn.reorder
  · simp
  · simp

/-- The direction of a range is a word. -/
theorem yields_direction : direction.Yields setting ahead fun taken _ =>
    Drawn setting taken [] [] := by
  refine (Yields.next _).bind fun taken found rest _ one => ?_
  have drawn : found.token = .name → Drawn setting (taken ++ []) [] [] := by
    intro isName
    rw [one]
    exact .word (by rw [isName]; rfl)
  split
  · rename_i isTo
    simp only [Bool.and_eq_true, decide_eq_true_eq] at isTo
    exact .pure (drawn isTo.1)
  · split
    · rename_i isDown
      simp only [Bool.and_eq_true, decide_eq_true_eq] at isDown
      exact .pure (drawn isDown.1)
    · exact .fail _ _

/-- The head of a range is written with its name and its expressions. -/
theorem yields_range : range.Yields setting ahead fun taken found =>
    Drawn setting taken found.names found.written := by
  refine (Yields.expect _).bind fun _ name rest _ isName => ?_
  refine (Yields.expectWord _).bind fun _ _ rest _ from_ => ?_
  refine (Expr.yields_parse _ _).bind fun _ first rest _ begins => ?_
  refine yields_direction.bind fun _ down rest _ direction => ?_
  refine (Expr.yields_parse _ _).bind fun _ last rest _ ends => ?_
  refine (Yields.takesWord _).bind fun _ stepped rest _ word => ?_
  have whole : ∀ (taken : List Lexeme) (step : Option Expr), Drawn setting taken [] step.toList →
      Drawn setting _ [name.text] (first :: last :: step.toList) := fun _ _ stepping =>
    (Drawn.name isName.2).append (from_.append ((Drawn.expression begins).append
      (direction.append ((Drawn.expression ends).append (word.append stepping)))))
  rw [isName.1]
  simp only []
  split
  · refine (Expr.yields_parse _ _).map.bind fun taken step rest _ steps => .pure ?_
    obtain ⟨size, spelled, rfl⟩ := steps
    rw [List.append_nil]
    exact whole taken (some size) (.expression spelled)
  · have skipped : (pure none : Parser (Option Expr)).Yields setting rest fun taken step =>
        taken = [] ∧ step = none := .pure ⟨rfl, rfl⟩
    refine skipped.bind fun taken step rest _ none => .pure ?_
    obtain ⟨rfl, rfl⟩ := none
    exact whole [] none .nothing

/-- The head of a loop is written with its name and its expression. -/
theorem yields_loopHead : loopHead.Yields setting ahead fun taken found =>
    Drawn setting taken [found.name] [found.items] := by
  refine (Yields.expect _).bind fun _ name rest _ isName => ?_
  refine (Yields.expectWord _).bind fun _ _ rest _ in_ => ?_
  refine (Expr.yields_parse _ _).bind fun _ items rest _ spelled => ?_
  refine (Yields.takesWord _).bind fun _ reversed rest _ word => .pure ?_
  rw [isName.1]
  exact (Drawn.name isName.2).append
    (in_.append ((Drawn.expression spelled).append (word.append .nothing)))

/-- The head of a markers region is written with its name and its expressions. -/
theorem yields_markers : markers.Yields setting ahead fun taken found =>
    Drawn setting taken found.names found.written := by
  refine (Yields.expect _).bind fun _ name rest _ isName => ?_
  refine (Yields.expectWord _).bind fun _ _ rest _ in_ => ?_
  refine (Expr.yields_parse _ _).bind fun _ items rest _ listed => ?_
  refine (Yields.expectWord _).bind fun _ _ rest _ with_ => ?_
  refine (Expr.yields_parse _ _).bind fun _ pattern rest _ spelled => .pure ?_
  rw [isName.1]
  exact (Drawn.name isName.2).append (in_.append ((Drawn.expression listed).append
    (with_.append ((Drawn.expression spelled).append .nothing))))

/-- What a word starts that is not an end word. -/
theorem yields_ofWord {word : String} {tag : Parser Tag} (known : ofWord? word = some tag) :
    tag.Yields setting ahead fun taken found => Drawn setting taken found.names found.written := by
  have expressed {change : Expr → Tag} (unnamed : ∀ value, (change value).names = [])
      (written : ∀ value, (change value).written = [value]) :
      (change <$> Expr.parse).Yields setting ahead fun taken found =>
        Drawn setting taken found.names found.written := by
    refine (Expr.yields_parse _ _).map.imp ?_
    rintro taken found ⟨value, spelled, rfl⟩
    rw [unnamed, written]
    exact .expression spelled
  unfold ofWord? at known
  split at known
  all_goals cases known
  · exact expressed (fun _ => rfl) fun _ => rfl
  · exact expressed (fun _ => rfl) fun _ => rfl
  · exact .pure .nothing
  · refine yields_loopHead.map.imp ?_
    rintro taken found ⟨head, drawn, rfl⟩
    exact drawn
  · exact .pure .nothing
  · refine (Yields.expect _).bind fun taken name rest _ isName => .pure ?_
    rw [isName.1]
    exact .name isName.2
  · exact expressed (fun _ => rfl) fun _ => rfl
  · refine (Expr.yields_parse _ _).bind fun taken target rest _ spelled => ?_
    refine (Yields.takesWord _).bind fun word bound rest _ drawn => ?_
    simp only []
    split
    · refine yields_bindings.bind fun later bindings rest _ bound => .pure ?_
      rw [List.append_nil]
      exact (Drawn.expression spelled).append (drawn.append bound)
    · refine .pure ?_
      exact (Drawn.expression spelled).append (drawn.append .nothing)
  · refine yields_bindings.bind fun taken bindings rest _ drawn => .pure ?_
    rw [List.append_nil]
    exact drawn
  · exact .pure .nothing
  · refine (Expr.yields_parse _ _).bind fun taken first rest _ spelled => ?_
    refine yields_items.bind fun later others rest _ drawn => .pure ?_
    rw [List.append_nil]
    exact (Drawn.expression spelled).append drawn
  · refine (Expr.yields_parse _ _).bind fun taken target rest _ spelled => ?_
    refine (Yields.expectWord _).bind fun from_ _ rest _ drawn => ?_
    refine (Expr.yields_parse _ _).bind fun later template rest _ written => .pure ?_
    rw [List.append_nil]
    exact (Drawn.expression spelled).append (drawn.append (.expression written))
  · refine (Expr.yields_parse _ _).bind fun taken nodes rest _ spelled => .pure ?_
    rw [List.append_nil]
    exact .expression spelled
  · refine yields_markers.map.imp ?_
    rintro taken found ⟨head, drawn, rfl⟩
    exact drawn
  · exact .pure .nothing
  · refine yields_binding.map.imp ?_
    rintro taken found ⟨head, drawn, rfl⟩
    exact drawn
  · refine yields_range.map.imp ?_
    rintro taken found ⟨head, drawn, rfl⟩
    exact drawn
  · exact .pure .nothing

/-- A tag is written with its names and its expressions. -/
theorem yields_parse : Tag.parse.Yields setting ahead fun taken found =>
    Drawn setting taken found.names found.written := by
  refine (Yields.expect _).bind fun taken word rest _ isWord => ?_
  rw [isWord.1]
  split
  · rename_i tag known
    refine (yields_ofWord known).imp ?_
    intro later found drawn
    exact (Drawn.word (by rw [isWord.2]; rfl)).append drawn
  · refine (Yields.takes _).bind fun later named rest _ taking => .pure ?_
    rw [List.append_nil]
    exact (Drawn.word (by rw [isWord.2]; rfl)).append (.atMostOne taking rfl)
  · exact .pure (.word (by rw [isWord.2]; rfl))
  · exact .fail _ _

end Tag

end Stencil
