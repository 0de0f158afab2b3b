import Stencil.Proofs.Guards.Lexemes

/-!
# What the look-ahead for a closing delimiter sees

Whether a tag is alone on its line is decided where it opens: its first closing delimiter is
looked for as text, and only blanks may follow it on the line. The words of the tag have not been
read by then, and a string among them may hold the delimiter. But such a string goes on behind it
on the same line, up to its quote, so the look-ahead sees more than blanks there. Where it says
that the tag is alone, it has therefore found the end of the tag; it says so of every tag that is
alone, unless a string in it holds the delimiter.
-/

namespace Stencil.Lexer

variable {first second : Char} {text before after : List Char} {delimiter : Delimiter}

/-- Only blanks stand on the line that starts here. -/
def BlankLine (rest : List Char) : Prop := (rest.takeWhile (· ≠ '\n')).all Text.isBlank = true

/-- The first pair stays the first one when more follows. -/
theorem splitPair_of_some (found : splitPair first second text = some (before, after))
    (more : List Char) : splitPair first second (text ++ more) = some (before, after ++ more) := by
  fun_induction splitPair first second text generalizing before with
  | case1 c d rest matched =>
    cases found
    simp [splitPair, matched]
  | case2 c d rest other inductionHypothesis =>
    obtain ⟨⟨start, left⟩, later, same⟩ := Option.map_eq_some_iff.mp found
    cases same
    simp only [List.cons_append] at inductionHypothesis ⊢
    rw [splitPair, if_neg other, inductionHypothesis later]
    rfl
  | case3 => cases found

/-- A text without the pair is passed over, unless it ends in the first character of one. -/
theorem splitPair_of_none (none : splitPair first second text = none)
    (ends : text.getLast? ≠ some first) (more : List Char) :
    splitPair first second (text ++ more) =
      (splitPair first second more).map fun split => (text ++ split.1, split.2) := by
  fun_induction splitPair first second text with
  | case1 => cases none
  | case2 c d rest other inductionHypothesis =>
    have later := inductionHypothesis (Option.map_eq_none_iff.mp none)
      (by rwa [List.getLast?_cons_cons] at ends)
    simp only [List.cons_append] at later ⊢
    rw [splitPair, if_neg other, later, Option.map_map]
    rfl
  | case3 rest short =>
    cases rest with
    | nil => simp
    | cons c rest =>
      cases rest with
      | cons d rest => exact absurd rfl (short c d rest)
      | nil =>
        have other : c ≠ first := by simpa using ends
        cases more with
        | nil => rfl
        | cons d more => simp [splitPair, other]

/-- A text that holds the pair is split. -/
theorem infix_of_splitPair (found : splitPair first second text = some (before, after)) :
    [first, second] <:+: text :=
  ⟨before, after, by simp [splitPair_append _ _ _ _ _ found]⟩

/-- A word of a tag as the look-ahead sees it: it does not end where a closing delimiter begins, and
behind one that it holds something follows on the line that is no blank. Only strings hold one. -/
structure Evident (delimiter : Delimiter) (token : Token) (word : List Char) : Prop where
  ends : word.getLast? ≠ some delimiter.closer
  shows : ∀ before after, splitPair delimiter.closer '\x7d' word = some (before, after) →
    '\n' ∉ after ∧ ∃ c ∈ after, Text.isBlank c = false
  quoted : delimiter.closer ∈ word → token = .quoted

/-- A word without the first character of a closing delimiter. -/
theorem evident_of_not_mem {token : Token} {word : List Char} (absent : delimiter.closer ∉ word) :
    Evident delimiter token word where
  ends := fun last => absent (List.mem_of_getLast? last)
  shows := by
    intro before after found
    have held := (infix_of_splitPair found).subset List.mem_cons_self
    exact absurd held absent
  quoted := fun held => absurd held absent

/-- No closing delimiter begins with a character of a kind that holds of none of the three. -/
theorem closer_not_mem {kind : Char → Bool} {word : List Char}
    (other : kind delimiter.closer = false) (all : word.all kind = true) :
    delimiter.closer ∉ word := by
  intro member
  have holds := List.all_eq_true.mp all _ member
  rw [other] at holds
  cases holds

/-- Operators are evident. -/
theorem operatorAt_evident {rest : List Char} {token : Token} {length : Nat}
    (operator : operatorAt rest = some (token, length)) :
    Evident delimiter token (rest.take length) := by
  apply evident_of_not_mem
  unfold operatorAt at operator
  split at operator <;> cases operator
  all_goals
    simp only [List.take_succ_cons, List.take_zero]
    cases delimiter <;> decide

/-- No line ends within a string. -/
theorem noFeed_of_quotedLength {quote : Char} {escaped : Bool} {rest : List Char} {length : Nat}
    (closed : quotedLength quote escaped rest = .ok length) : '\n' ∉ rest.take length := by
  fun_induction quotedLength quote escaped rest generalizing length with
  | case1 | case2 => cases closed
  | case3 escaped c rest notFeed =>
    cases closed
    simp only [List.take_succ_cons, List.take_zero, List.mem_singleton]
    rintro rfl
    simp at notFeed
  | case4 escaped c rest notFeed _ inner later inductionHypothesis =>
    cases closed
    simp only [List.take_succ_cons, List.mem_cons, not_or]
    refine ⟨?_, inductionHypothesis later⟩
    rintro rfl
    simp at notFeed
  | case5 => cases closed

/-- Strings are evident: they end in their quote, on the line where they begin. -/
theorem quoted_evident {quote : Char} {rest : List Char} {length : Nat}
    (isQuote : quote = '"' ∨ quote = '\x27')
    (closed : quotedLength quote false rest = .ok length) :
    Evident delimiter .quoted (quote :: rest.take length) := by
  have last : (quote :: rest.take length).getLast? = some quote := by
    rw [List.getLast?_cons, getLast_of_quotedLength closed]
    rfl
  have sameLine : '\n' ∉ quote :: rest.take length := by
    simp only [List.mem_cons, not_or]
    exact ⟨by rcases isQuote with rfl | rfl <;> decide, noFeed_of_quotedLength closed⟩
  refine ⟨?_, ?_, fun _ => rfl⟩
  · rw [last]
    rcases isQuote with rfl | rfl <;> cases delimiter <;> decide
  · intro before after found
    have whole := splitPair_append _ _ _ _ _ found
    refine ⟨fun member => sameLine ?_, quote, ?_, ?_⟩
    · rw [whole]
      simp [member]
    · -- the quote at the end stands behind the delimiter, which does not end in one
      rw [whole] at last
      cases after with
      | nil =>
        rw [List.getLast?_append] at last
        simp only [List.getLast?_cons_cons, List.getLast?_singleton, Option.some_or,
          Option.some.injEq] at last
        rcases isQuote with rfl | rfl <;> cases last
      | cons c after =>
        rw [List.getLast?_append, List.getLast?_cons_cons, List.getLast?_cons_cons] at last
        cases ending : (c :: after).getLast? with
        | none => simp at ending
        | some found =>
          rw [ending] at last
          cases last
          exact List.mem_of_getLast? ending
    · rcases isQuote with rfl | rfl <;> decide

/-- All words of a tag are evident. -/
theorem tokenAt_evident {inPath : Bool} {c : Char} {rest : List Char} {token : Token}
    {length : Nat} (read : tokenAt inPath c rest = .ok (token, length)) :
    Evident delimiter token ((c :: rest).take length) := by
  have run {kind : Char → Bool} {token : Token} (first : kind c = true)
      (other : kind delimiter.closer = false) :
      Evident delimiter token ((c :: rest).take ((rest.takeWhile kind).length + 1)) := by
    rw [List.take_succ_cons, ← List.prefix_iff_eq_take.mp (List.takeWhile_prefix kind)]
    apply evident_of_not_mem
    apply closer_not_mem other
    rw [List.all_cons, first, List.all_takeWhile]
    rfl
  unfold tokenAt at read
  split at read
  · rename_i operator
    cases read
    exact operatorAt_evident operator
  · split at read
    · rename_i quote
      split at read
      · rename_i closed
        cases read
        exact quoted_evident (by simpa using quote) closed
      · cases read
    · split at read
      · rename_i digit
        cases read
        exact run digit (by cases delimiter <;> decide)
      · split at read
        · rename_i blank
          cases read
          exact run blank (by cases delimiter <;> decide)
        · split at read
          · rename_i start
            have continues : Text.isNameContinue delimiter.closer = false := by
              cases delimiter <;> decide
            dsimp only at read
            split at read <;> cases read
            all_goals exact run (Text.isNameContinue_of_isNameStart c start) continues
          · cases read

/-- Where characters follow on the line that are not all blank, the line is not. -/
theorem not_blankLine {shown more : List Char} (sameLine : '\n' ∉ shown)
    (visible : ∃ c ∈ shown, Text.isBlank c = false) : ¬ BlankLine (shown ++ more) := by
  intro blank
  obtain ⟨c, member, notBlank⟩ := visible
  have through : ∀ c ∈ shown, decide (c ≠ '\n') = true := by
    intro c member
    rw [decide_eq_true_eq]
    rintro rfl
    exact sameLine member
  have seen : c ∈ (shown ++ more).takeWhile fun c => decide (c ≠ '\n') := by
    rw [List.takeWhile_append_of_pos through]
    exact List.mem_append_left _ member
  have isBlank := List.all_eq_true.mp blank c seen
  rw [notBlank] at isBlank
  cases isBlank

/-- The characters of lexemes, one after the other. -/
def characters (lexemes : List Lexeme) : List Char :=
  lexemes.flatMap fun lexeme => lexeme.text.toList

/-- Those of the first lexeme come first. -/
@[simp] theorem characters_cons (first : Lexeme) (rest : List Lexeme) :
    characters (first :: rest) = first.text.toList ++ characters rest := List.flatMap_cons

/-- Behind evident words the look-ahead finds the delimiter that closes the tag, or one in a string
that more than blanks follow. -/
theorem splitPair_words {words : List Lexeme}
    (evident : ∀ word ∈ words, Evident delimiter word.token word.text.toList) (rest : List Char) :
    splitPair delimiter.closer '\x7d' (characters words ++ (delimiter.closing ++ rest)) =
        some (characters words, rest) ∨
      (∃ word ∈ words, word.token = .quoted ∧ delimiter.closing <:+: word.text.toList) ∧
        ∃ before after, splitPair delimiter.closer '\x7d'
          (characters words ++ (delimiter.closing ++ rest)) = some (before, after) ∧
            ¬ BlankLine after := by
  induction words with
  | nil =>
    left
    simp [Delimiter.closing, splitPair, characters]
  | cons word words inductionHypothesis =>
    rw [List.forall_mem_cons] at evident
    rw [characters_cons, List.append_assoc]
    cases found : splitPair delimiter.closer '\x7d' word.text.toList with
    | some split =>
      right
      have held : delimiter.closing <:+: word.text.toList := infix_of_splitPair found
      have isQuoted := evident.1.quoted (held.subset List.mem_cons_self)
      obtain ⟨sameLine, visible⟩ := evident.1.shows _ _ found
      exact ⟨⟨word, List.mem_cons_self, isQuoted, held⟩, _, _, splitPair_of_some found _,
        not_blankLine sameLine visible⟩
    | none =>
      rw [splitPair_of_none found evident.1.ends]
      rcases inductionHypothesis evident.2 with
        ends | ⟨⟨other, member, held⟩, before, after, inside, shown⟩
      · left
        rw [ends]
        rfl
      · right
        refine ⟨⟨other, List.mem_cons_of_mem _ member, held⟩, word.text.toList ++ before, after, ?_,
          shown⟩
        rw [inside]
        rfl

/-- The look-ahead decides by what follows the delimiter that it finds. -/
theorem aloneAfter_of_splitPair {rest : List Char}
    (found : splitPair delimiter.closer '\x7d' rest = some (before, after)) :
    aloneAfter delimiter rest = true ↔ BlankLine after := by
  rw [aloneAfter, found]
  rfl

section

variable {words : List Lexeme} {rest : List Char}

/-- A tag of evident words that the look-ahead takes to be alone has only blanks behind it on the
line where it closes. -/
theorem blankLine_of_aloneAfter
    (evident : ∀ word ∈ words, Evident delimiter word.token word.text.toList)
    (alone : aloneAfter delimiter (characters words ++ (delimiter.closing ++ rest)) = true) :
    BlankLine rest := by
  rcases splitPair_words evident rest with ends | ⟨_, before, after, inside, shown⟩
  · exact (aloneAfter_of_splitPair ends).mp alone
  · exact absurd ((aloneAfter_of_splitPair inside).mp alone) shown

/-- If no string in it holds its closing delimiter, the look-ahead takes it to be alone where only
blanks are behind it. -/
theorem aloneAfter_of_blankLine
    (evident : ∀ word ∈ words, Evident delimiter word.token word.text.toList)
    (plain : ∀ word ∈ words, word.token = .quoted → ¬ delimiter.closing <:+: word.text.toList)
    (blank : BlankLine rest) :
    aloneAfter delimiter (characters words ++ (delimiter.closing ++ rest)) = true := by
  rcases splitPair_words evident rest with ends | ⟨⟨word, member, isQuoted, held⟩, _⟩
  · exact (aloneAfter_of_splitPair ends).mpr blank
  · exact absurd held (plain word member isQuoted)

end

end Stencil.Lexer
