import Mathlib
import Stencil.Proofs.Guards.Reports
import Stencil.Proofs.Safety.Parts
import Stencil.Proofs.Safety.Slices

/-!
# What is cut out of the source

The paths and the names of filters that an expression mentions, and the names and texts of the
statements, are shown by the source: each is the text of a lexeme, or of the span from one lexeme
to another. So each can be cut out of the source again where a rendering needs it.
-/

namespace Stencil

/-- What an expression mentions: a path, or the name of a filter. -/
inductive Mention where
  | path (path : Path)
  | filter (name : String)

/-- The texts of a path or the name of a filter, as they are looked up or reported. -/
def Mention.texts : Mention → List String
  | .path p => p.written :: p.head :: p.keys.map Key.text
  | .filter name => [name]

mutual

/-- What an expression mentions. -/
def Expr.mentions : Expr → List Mention
  | .literal _ => []
  | .path path => [.path path]
  | .call path arguments => .path path :: mentionsAll arguments
  | .filtered receiver name argument =>
    .filter name :: (receiver.mentions ++ optionMentions argument)
  | .negated operand => operand.mentions
  | .connected _ left right => left.mentions ++ right.mentions
  | .compared _ left right => left.mentions ++ right.mentions
termination_by structural expression => expression

/-- What expressions mention. -/
def mentionsAll : List Expr → List Mention
  | [] => []
  | expression :: rest => expression.mentions ++ mentionsAll rest
termination_by structural expressions => expressions

/-- What an expression mentions that need not be there. -/
def optionMentions : Option Expr → List Mention
  | none => []
  | some expression => expression.mentions
termination_by structural expression => expression

end

/-- What one of several expressions mentions. -/
theorem mem_mentionsAll {expressions : List Expr} {mention : Mention} :
    mention ∈ mentionsAll expressions ↔
      ∃ expression ∈ expressions, mention ∈ expression.mentions := by
  induction expressions with
  | nil => simp [mentionsAll]
  | cons expression rest inductionHypothesis => simp [mentionsAll, inductionHypothesis]

/-- What is mentioned is written with some of the lexemes that follow each other: a path with a
name and the segments behind it, the name of a filter with that name. -/
def Mention.WrittenWith (source : List Char) (lexemes : List Lexeme) : Mention → Prop
  | .path p => ∃ part, part <:+: lexemes ∧ Grammar.SpellsPath source part p
  | .filter name => ∃ lexeme ∈ lexemes, lexeme.token = .name ∧ lexeme.text = name

/-- What is written with some lexemes is written with more. -/
theorem Mention.WrittenWith.mono {source : List Char} {some more : List Lexeme} {mention : Mention}
    (written : mention.WrittenWith source some) (within : some <:+: more) :
    mention.WrittenWith source more := by
  cases mention with
  | path path =>
    obtain ⟨part, among, spelled⟩ := written
    exact ⟨part, among.trans within, spelled⟩
  | filter name =>
    obtain ⟨lexeme, member, named⟩ := written
    exact ⟨lexeme, within.subset member, named⟩

namespace Grammar

variable {setting : Setting} {rank : Rank} {lexemes : List Lexeme} {value : Expr}

/-- What an expression mentions is written with its lexemes. -/
theorem Spells.mentions (spelled : Spells setting rank lexemes value) :
    ∀ mention ∈ value.mentions, mention.WrittenWith setting.source lexemes := by
  induction spelled with
  | truth | falsehood | number | opposite | text => simp [Expr.mentions]
  | path spelled =>
    intro mention member
    rw [List.mem_singleton.mp member]
    exact ⟨_, List.infix_refl _, spelled⟩
  | @call lexemes _ opened closed spelled =>
    intro mention member
    rw [List.mem_singleton.mp member]
    exact ⟨lexemes, (List.prefix_append _ _).isInfix, spelled⟩
  | @callWith lexemes inside path value opened closed others spelled _ _ _ _ _ firstWritten
      restWritten =>
    intro mention member
    rcases List.mem_cons.mp member with rfl | argued
    · exact ⟨lexemes, (List.prefix_append _ _).isInfix, spelled⟩
    · obtain ⟨expression, among, mentioned⟩ := mem_mentionsAll.mp argued
      rcases List.mem_cons.mp among with rfl | later
      · exact (firstWritten mention mentioned).mono ⟨lexemes ++ [opened], _, by simp; rfl⟩
      · obtain ⟨argument, isOther, rfl⟩ := List.mem_map.mp later
        obtain ⟨before, after, rfl⟩ := List.append_of_mem isOther
        refine (restWritten argument isOther mention mentioned).mono
          ⟨lexemes ++ opened :: (inside ++ (before.flatMap Argument.all ++ [argument.comma])),
            after.flatMap Argument.all ++ [closed], ?_⟩
        simp [Argument.all]
  | @parens inside value opened closed _ _ inner innerWritten =>
    intro mention member
    exact (innerWritten mention member).mono ⟨[opened], [closed], rfl⟩
  | @filter lexemes receiver _ pipe name _ named spelled _ inner innerWritten =>
    intro mention member
    rcases List.mem_cons.mp member with rfl | received
    · exact ⟨name, by simp, named, spelled⟩
    · have inner : mention ∈ receiver.mentions := by simpa [optionMentions] using received
      exact (innerWritten mention inner).mono (List.prefix_append _ _).isInfix
  | @filterWith lexemes given receiver argument _ pipe name colon _ named spelled _ _ inner argued
      innerWritten arguedWritten =>
    intro mention member
    rcases List.mem_cons.mp member with rfl | later
    · exact ⟨name, by simp, named, spelled⟩
    · rcases List.mem_append.mp later with received | given
      · exact (innerWritten mention received).mono (List.prefix_append _ _).isInfix
      · exact (arguedWritten mention given).mono ⟨lexemes ++ [pipe, name, colon], [], by simp⟩
  | @compared before after _ _ _ operator _ first second firstWritten secondWritten
  | @connected before after _ _ _ operator _ first second firstWritten secondWritten =>
    intro mention member
    rcases List.mem_append.mp member with left | right
    · exact (firstWritten mention left).mono (List.prefix_append _ _).isInfix
    · exact (secondWritten mention right).mono ⟨before ++ [operator], [], by simp⟩
  | @negated _ _ mark _ inner innerWritten =>
    intro mention member
    exact (innerWritten mention member).mono (List.suffix_cons _ _).isInfix
  | looser inner innerWritten => exact innerWritten

end Grammar

section Shown

variable {source text : String}

/-- The spans of a source that cover one lexeme or several. -/
def Lexeme.spansOf (source : String) : List Span :=
  (Template.visible source).flatMap fun first =>
    (Template.visible source).map fun last => first.span.cover last.span

/-- One of these spans shows the text. -/
def Lexeme.Shows (source text : String) : Prop :=
  ∃ span ∈ spansOf source, span.text source.toList = text

/-- Cuts a text out of the source at one of these spans that shows it. -/
def Lexeme.cutOut (source text : String) : Except Mishap String :=
  match (spansOf source).find? fun span => span.text source.toList = text with
  | some span => span.cut source
  | none => .error .cut

/-- The lexemes that the parser sees stand in the source. -/
theorem Lexeme.standsIn_of_visible {lexeme : Lexeme} (member : lexeme ∈ Template.visible source) :
    lexeme.StandsIn source.toList :=
  (Lexer.lexemes_stand source.toList).1 lexeme (List.mem_filter.mp member).1

/-- A span that covers lexemes is one of characters of the source. -/
theorem Lexeme.inBounds_of_mem_spansOf {span : Span} (member : span ∈ spansOf source) :
    span.InBounds source.toList := by
  obtain ⟨first, isFirst, covers⟩ := List.mem_flatMap.mp member
  obtain ⟨last, isLast, rfl⟩ := List.mem_map.mp covers
  exact (standsIn_of_visible isFirst).inBounds.cover (standsIn_of_visible isLast).inBounds

/-- A text that is shown can be cut out of the source. -/
theorem Lexeme.cutOut_eq (shows : Shows source text) : cutOut source text = .ok text := by
  obtain ⟨span, member, same⟩ := shows
  rw [cutOut]
  split
  · rename_i found isFound
    have isText : found.text source.toList = text := by simpa using List.find?_some isFound
    rw [(inBounds_of_mem_spansOf (List.mem_of_find?_eq_some isFound)).cut_eq, isText]
  · rename_i missing
    have never := List.find?_eq_none.mp missing span member
    exact absurd (decide_eq_true same) never

/-- The span from one lexeme to another shows its text. -/
theorem Lexeme.shows_cover {first last : Lexeme} (isFirst : first ∈ Template.visible source)
    (isLast : last ∈ Template.visible source) :
    Shows source ((first.span.cover last.span).text source.toList) :=
  ⟨_, List.mem_flatMap.mpr ⟨first, isFirst, List.mem_map_of_mem isLast⟩, rfl⟩

/-- The span of a lexeme shows its text. -/
theorem Lexeme.shows_text {lexeme : Lexeme} (member : lexeme ∈ Template.visible source) :
    Shows source lexeme.text := by
  have itself : lexeme.span.cover lexeme.span = lexeme.span := by simp [Span.cover]
  have shows := shows_cover member member
  rw [itself, ← (standsIn_of_visible member).text] at shows
  exact shows

/-- What is mentioned is shown by the source that it is written in. -/
theorem Mention.WrittenWith.shows {mention : Mention}
    (written : mention.WrittenWith source.toList (Template.visible source)) :
    ∀ text ∈ mention.texts, Lexeme.Shows source text := by
  intro text member
  cases mention with
  | filter name =>
    obtain ⟨lexeme, isVisible, _, rfl⟩ := written
    rw [List.mem_singleton.mp member]
    exact Lexeme.shows_text isVisible
  | path p =>
    obtain ⟨part, among, first, segments, named, spelled⟩ := written
    have isFirst : first ∈ Template.visible source := among.subset List.mem_cons_self
    have isFound : ∀ segment ∈ segments, segment.found ∈ Template.visible source := by
      intro segment isSegment
      refine among.subset (List.mem_cons_of_mem _ (List.mem_flatMap.mpr ⟨segment, isSegment, ?_⟩))
      simp [Grammar.Segment.lexemes]
    simp only [texts, List.mem_cons] at member
    rcases member with rfl | rfl | key
    · rw [Grammar.pathSpan]
      split
      · rw [← (Lexeme.standsIn_of_visible isFirst).text]
        exact Lexeme.shows_text isFirst
      · rename_i last isLast
        exact Lexeme.shows_cover isFirst (isFound last (List.mem_of_getLast? isLast))
    · exact Lexeme.shows_text isFirst
    · obtain ⟨found, isKey, rfl⟩ := List.mem_map.mp key
      obtain ⟨segment, isSegment, rfl⟩ := List.mem_map.mp isKey
      have shown : segment.key.text = segment.found.text := by
        rcases (spelled segment isSegment).shown with ⟨_, _, same⟩ | ⟨_, same⟩
        · rw [same]
          rfl
        · rw [same]
          rfl
      rw [shown]
      exact Lexeme.shows_text (isFound segment isSegment)

end Shown

end Stencil
