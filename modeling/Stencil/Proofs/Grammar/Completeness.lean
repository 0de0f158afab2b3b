import Stencil.Proofs.Grammar.Soundness

/-!
# What is written so is read

The other direction: lexemes that are a way to write an expression are read as that
expression, whatever follows them that is no part of it. A chain of operands is read from
the left: where the first of them were read, the others are left to be read.
-/

namespace Stencil

namespace Grammar

/-- A lexeme of the token after an expression of the rank is no part of it. -/
def Rank.ends (rank : Rank) : Token → Bool
  | .dot | .leftParen | .colon => false
  | .pipe => rank = .primary
  | .relation _ => rank = .primary || rank = .filtered
  | .keyword .conjunction => rank ≠ .conjunction && rank ≠ .disjunction
  | .keyword .disjunction => rank ≠ .disjunction
  | _ => true

/-- A lexeme of the token after an operand of a chain of the rank is no part of that operand.
What does not come in chains is its own operand. -/
def Rank.operandEnds (rank : Rank) : Token → Bool :=
  match rank with
  | .disjunction => Rank.ends .conjunction
  | .conjunction => Rank.ends .negation
  | .filtered => Rank.ends .primary
  | _ => rank.ends

/-- What ends an expression ends one that binds tighter. -/
theorem Rank.ends_tighter {rank : Rank} {token : Token} (ends : rank.ends token = true) :
    rank.tighter.ends token = true := by
  unfold Rank.ends at ends ⊢
  split <;> cases rank <;> simp_all [Rank.tighter]

/-- What ends a chain ends its operands. -/
theorem Rank.operandEnds_of_ends {rank : Rank} {token : Token} (ends : rank.ends token = true) :
    rank.operandEnds token = true := by
  cases rank with
  | disjunction | conjunction | filtered => exact ends_tighter ends
  | negation | comparison | primary => exact ends

/-- An expression of the rank may begin with a lexeme of the token. -/
def Rank.begins (rank : Rank) : Token → Bool
  | .keyword .truth | .keyword .falsehood => true
  | .minus | .number | .quoted | .leftParen | .name => true
  | .keyword .negation => rank = .disjunction || rank = .conjunction || rank = .negation
  | _ => false

/-- What begins an expression that binds tighter begins one. -/
theorem Rank.begins_of_tighter {rank : Rank} {token : Token}
    (begins : rank.tighter.begins token = true) : rank.begins token = true := by
  unfold Rank.begins at begins ⊢
  split <;> simp_all
  cases rank <;> simp_all [Rank.tighter]

/-- An expression begins with a lexeme that may begin one. -/
theorem Spells.begins {setting : Setting} {rank : Rank} {lexemes : List Lexeme} {value : Expr}
    (spelled : Spells setting rank lexemes value) :
    ∃ first rest, lexemes = first :: rest ∧ rank.begins first.token = true := by
  have named : ∀ {source : List Char} {lexemes : List Lexeme} {path : Path},
      SpellsPath source lexemes path →
        ∃ first rest, lexemes = first :: rest ∧ Rank.begins .primary first.token = true := by
    rintro source lexemes path ⟨first, segments, isName, _⟩
    exact ⟨first, _, rfl, by simp [Rank.begins, isName]⟩
  induction spelled with
  | truth found token => exact ⟨found, [], rfl, by simp [Rank.begins, token]⟩
  | falsehood found token => exact ⟨found, [], rfl, by simp [Rank.begins, token]⟩
  | number digits value token => exact ⟨digits, [], rfl, by simp [Rank.begins, token]⟩
  | opposite minus digits value sign => exact ⟨minus, [digits], rfl, by simp [Rank.begins, sign]⟩
  | text found content token => exact ⟨found, [], rfl, by simp [Rank.begins, token]⟩
  | path spelled => exact named spelled
  | call opened closed spelled =>
    obtain ⟨first, rest, rfl, begins⟩ := named spelled
    exact ⟨first, _, rfl, begins⟩
  | callWith opened closed others spelled =>
    obtain ⟨first, rest, rfl, begins⟩ := named spelled
    exact ⟨first, _, rfl, begins⟩
  | parens opened closed opens => exact ⟨opened, _, rfl, by simp [Rank.begins, opens]⟩
  | negated mark token => exact ⟨mark, _, rfl, by simp [Rank.begins, token]⟩
  | filter _ _ _ _ _ _ _ inductionHypothesis | filterWith _ _ _ _ _ _ _ _ _ _ inductionHypothesis _ =>
    obtain ⟨first, rest, rfl, begins⟩ := inductionHypothesis
    exact ⟨first, _, rfl, begins⟩
  | compared _ _ _ _ _ inductionHypothesis _ =>
    obtain ⟨first, rest, rfl, begins⟩ := inductionHypothesis
    exact ⟨first, _, rfl, (Rank.begins_of_tighter begins : Rank.begins .comparison _ = true)⟩
  | connected connective _ _ _ _ inductionHypothesis _ =>
    obtain ⟨first, rest, rfl, begins⟩ := inductionHypothesis
    exact ⟨first, _, rfl, begins⟩
  | looser _ inductionHypothesis =>
    obtain ⟨first, rest, same, begins⟩ := inductionHypothesis
    exact ⟨first, rest, same, Rank.begins_of_tighter begins⟩

end Grammar

namespace Parser

variable {α : Type} {setting : Setting}

/-- A step takes a lexeme if it is not there without one. -/
theorem advances_of_yields {step : α → Parser (Option α)}
    (yields : ∀ value ahead, (step value).Yields setting ahead fun taken later =>
      later.isSome = true → taken ≠ []) : Advances step setting := by
  intro value ahead later rest stepped
  obtain ⟨taken, rfl, nonempty⟩ := yields value ahead (some later) rest stepped
  have long := List.length_pos_iff.mpr (nonempty rfl)
  simp only [List.length_append]
  omega

/-- A step that is taken after a lexeme of some token takes that. -/
theorem advances_of_takes {token : Token} {step : α → Parser (Option α)}
    (takesFirst : ∀ value, ∃ body : Parser (Option α),
      step value = (takes token >>= fun found => if found then body else pure none) ∧
        ∀ ahead, body.Yields setting ahead fun _ _ => True) : Advances step setting := by
  refine advances_of_yields fun value ahead => ?_
  obtain ⟨body, same, leaves⟩ := takesFirst value
  rw [same]
  refine (Yields.takes _).bind fun taken isTaken rest _ taking => ?_
  split
  · obtain ⟨first, rfl, _⟩ : ∃ first : Lexeme, taken = [first] ∧ first.token = token := by
      simp_all
    exact (leaves _).imp fun _ _ _ _ => by simp
  · exact .pure (by simp)

end Parser

namespace Expr.Parser

open Stencil.Parser Grammar

variable {setting : Setting} {whole : Parser (Located Expr)} {stop : Lexeme} {more : List Lexeme}

/-- One more segment of a path, latest first, if a dot follows. -/
def keyStep (keys : List (Located Key)) : Parser (Option (List (Located Key))) := do
  if ← takes .dot then return some ((← key) :: keys) else return none

/-- One more argument of a call, latest first, if a comma follows. -/
def argumentStep (whole : Parser (Located Expr)) (found : List Expr) :
    Parser (Option (List Expr)) := do
  if ← takes .comma then return some ((← whole).1 :: found) else return none

/-- One more `not`, if one follows. -/
def markStep (marks : List Span) : Parser (Option (List Span)) := do
  if ← isNext (.keyword .negation) then
    return some ((← next .anything).span :: marks)
  else return none

/-- One more operand joined by a connective, if its keyword follows. -/
def joinStep (connective : Connective) (operand : Parser (Located Expr)) (left : Located Expr) :
    Parser (Option (Located Expr)) := do
  if ← takes (.keyword connective.keyword) then
    let right ← operand
    return some (.connected connective left.1 right.1, left.2.cover right.2)
  else return none

/-- Each of these takes a lexeme. -/
theorem advances_keyStep : Advances keyStep setting :=
  advances_of_takes fun _ => ⟨_, rfl, fun _ => yields_key.bind fun _ _ _ _ _ => .pure trivial⟩

/-- So does an argument. -/
theorem advances_argumentStep (sound : Sound setting .disjunction whole) :
    Advances (argumentStep whole) setting :=
  advances_of_takes fun _ => ⟨_, rfl, fun _ => (sound _).bind fun _ _ _ _ _ => .pure trivial⟩

/-- So does a `not`. -/
theorem advances_markStep : Advances markStep setting := by
  refine advances_of_yields fun marks ahead => ?_
  refine (Yields.isNext _).bind fun taken isMarked rest _ _ => ?_
  split
  · refine (Yields.next _).bind fun taken mark rest _ one => .pure ?_
    simp [one]
  · exact .pure (by simp)

/-- So does an operand. -/
theorem advances_joinStep (connective : Connective) {rank : Rank} {operand : Parser (Located Expr)}
    (sound : Sound setting rank operand) : Advances (joinStep connective operand) setting :=
  advances_of_takes fun _ => ⟨_, rfl, fun _ => (sound _).bind fun _ _ _ _ _ => .pure trivial⟩

/-- So does a filter. -/
theorem advances_filterStep (sound : Sound setting .disjunction whole) :
    Advances (filterStep whole) setting := by
  refine advances_of_takes fun receiver => ⟨_, rfl, fun ahead => ?_⟩
  refine (Yields.expect _).bind fun _ name _ _ _ => ?_
  refine (Yields.takes _).bind fun _ isParted _ _ _ => ?_
  split
  · refine (sound_primary sound _).bind fun _ argument _ _ _ => ?_
    exact (yields_checkFilter _ _ _).bind fun _ _ _ _ _ => .pure trivial
  · exact (yields_checkFilter _ _ _).bind fun _ _ _ _ _ => .pure trivial

/-- A segment of a path is read from the lexeme it is written with. -/
theorem key_of_spelled {segment : Segment} (spelled : segment.Spelled) :
    key setting (segment.found :: more) = .ok ((segment.key, segment.found.span), more) := by
  rw [key, bind_apply, next_cons]
  rcases spelled.shown with ⟨token, fits, same⟩ | ⟨token, same⟩
  · simp [token, fits, same]
  · simp [token, same]

/-- The segments of a path are read to the last. -/
theorem repeatedly_keyStep (segments : List Segment)
    (spelled : ∀ segment ∈ segments, segment.Spelled) (ends : stop.token ≠ .dot)
    (keys : List (Located Key)) :
    repeatedly keyStep keys setting (segments.flatMap Segment.lexemes ++ stop :: more) =
      .ok ((segments.map fun segment => (segment.key, segment.found.span)).reverse ++ keys,
        stop :: more) := by
  induction segments generalizing keys with
  | nil =>
    refine repeatedly_of_none ?_
    simp [keyStep, bind_apply, takes_cons, ends]
  | cons segment rest inductionHypothesis =>
    have own := spelled segment (.head _)
    have stepped : keyStep keys setting
        (segment.dot :: segment.found :: (rest.flatMap Segment.lexemes ++ stop :: more)) =
          .ok (some ((segment.key, segment.found.span) :: keys),
            rest.flatMap Segment.lexemes ++ stop :: more) := by
      simp [keyStep, bind_apply, takes_cons, own.dotted, map_apply, key_of_spelled own, Except.map]
    simp only [List.flatMap_cons, Segment.lexemes, List.cons_append, List.nil_append]
    rw [repeatedly_of_some advances_keyStep stepped,
      inductionHypothesis fun other mem => spelled other (.tail _ mem)]
    simp

/-- Where a path stands, given its first name and its later segments, the last first. -/
def keysSpan (first : Lexeme) : List (Located Key) → Span
  | [] => first.span
  | last :: _ => first.span.cover last.2

/-- A path goes on after its first name for as many segments as there are. -/
theorem path_eq (first : Lexeme) : path first = repeatedly keyStep [] >>= fun keys => do
    return (⟨first.text, keys.reverse.map Prod.fst, (keysSpan first keys).text (← read).source⟩,
      keysSpan first keys) := rfl

/-- A path is read from the lexemes it is written with. -/
theorem path_of_spelled {lexemes : List Lexeme} {named : Path}
    (spelled : SpellsPath setting.source lexemes named) (ends : stop.token ≠ .dot)
    (more : List Lexeme) : ∃ first rest, lexemes = first :: rest ∧ first.token = .name ∧ ∃ span,
      path first setting (rest ++ stop :: more) = .ok ((named, span), stop :: more) := by
  obtain ⟨first, segments, isName, all⟩ := spelled
  refine ⟨first, _, rfl, isName, pathSpan first segments, ?_⟩
  rw [path_eq, bind_apply, repeatedly_keyStep segments all ends]
  rcases segments.eq_nil_or_concat with rfl | ⟨others, last, rfl⟩
  · rfl
  · simp [pathSpan, keysSpan, bind_apply, Function.comp_def]

/-- Marks that were read before stay where they are. -/
theorem repeatedly_markStep (marks : List Span) (ahead : List Lexeme) :
    repeatedly markStep marks setting ahead =
      (repeatedly markStep [] setting ahead).map fun found => (found.1 ++ marks, found.2) := by
  have stepped : ∀ (marks : List Span) (ahead : List Lexeme), markStep marks setting ahead =
      (markStep [] setting ahead).map fun found => (found.1.map (· ++ marks), found.2) := by
    intro marks ahead
    cases ahead with
    | nil =>
      cases missing : setting.flaw <;>
        simp [markStep, isNext, bind_apply, map_apply, peek, missing, Except.map]
    | cons first rest =>
      by_cases isMark : first.token = .keyword .negation <;>
        simp [markStep, bind_apply, map_apply, isMark, Except.map]
  have iterated : ∀ (bound : Nat) (marks : List Span) (ahead : List Lexeme),
      iterate markStep bound marks setting ahead =
        (iterate markStep bound [] setting ahead).map fun found => (found.1 ++ marks, found.2) := by
    intro bound
    induction bound with
    | zero => exact fun marks ahead => rfl
    | succ bound inductionHypothesis =>
      intro marks ahead
      rw [iterate_succ, iterate_succ, bind_apply, bind_apply, stepped]
      cases taken : markStep [] setting ahead with
      | error flaw => rfl
      | ok found =>
        obtain ⟨result, rest⟩ := found
        cases result with
        | none => rfl
        | some later =>
          simp only [Except.map, Option.map_some]
          rw [inductionHypothesis (later ++ marks), inductionHypothesis later]
          cases iterate markStep bound [] setting rest <;> simp [Except.map]
  exact iterated _ marks ahead

/-- A negation is a `not` and a negation. -/
theorem negation_of_mark {mark : Lexeme} (token : mark.token = .keyword .negation)
    (rest : List Lexeme) : negation whole setting (mark :: rest) =
      (negation whole >>= fun inner =>
        pure (.negated inner.1, mark.span.cover inner.2)) setting rest := by
  have shape : negation whole = repeatedly markStep [] >>= fun marks => comparison whole >>=
      fun operand => pure (marks.foldl (fun inner mark =>
        (.negated inner.1, mark.cover inner.2)) operand) := rfl
  have stepped : markStep [] setting (mark :: rest) = .ok (some [mark.span], rest) := by
    simp [markStep, bind_apply, map_apply, token, Except.map]
  rw [bind_apply, shape, bind_apply, bind_apply, repeatedly_of_some advances_markStep stepped,
    repeatedly_markStep]
  cases repeatedly markStep [] setting rest with
  | error flaw => rfl
  | ok found =>
    obtain ⟨marks, later⟩ := found
    simp only [Except.map, bind_apply]
    cases comparison whole setting later with
    | error flaw => rfl
    | ok found => simp [List.foldl_append]

/-- Or it is a comparison. -/
theorem negation_of_other {first : Lexeme} (token : first.token ≠ .keyword .negation)
    (rest : List Lexeme) :
    negation whole setting (first :: rest) = comparison whole setting (first :: rest) := by
  have shape : negation whole = repeatedly markStep [] >>= fun marks => comparison whole >>=
      fun operand => pure (marks.foldl (fun inner mark =>
        (.negated inner.1, mark.cover inner.2)) operand) := rfl
  have stepped : markStep [] setting (first :: rest) = .ok (none, first :: rest) := by
    simp [markStep, bind_apply, token]
  rw [shape, bind_apply, repeatedly_of_none stepped]
  simp only [bind_apply]
  cases comparison whole setting (first :: rest) <;> rfl

/-- Reads an expression of a rank. -/
def ofRank (whole : Parser (Located Expr)) : Rank → Parser (Located Expr)
  | .disjunction => level whole
  | .conjunction => Parser.connected .both .conjunction (negation whole)
  | .negation => negation whole
  | .comparison => comparison whole
  | .filtered => filtered whole
  | .primary => primary whole

/-- Reads on where the first operand of a chain was read. What does not come in chains is
all that there is. -/
def onward (whole : Parser (Located Expr)) : Rank → Located Expr → Parser (Located Expr)
  | .disjunction => repeatedly (joinStep .either (ofRank whole .conjunction))
  | .conjunction => repeatedly (joinStep .both (ofRank whole .negation))
  | .filtered => repeatedly (filterStep whole)
  | _ => pure

/-- Expressions of every rank are written with the lexemes they are read from. -/
theorem sound_ofRank (sound : Sound setting .disjunction whole) (rank : Rank) :
    Sound setting rank (ofRank whole rank) := by
  cases rank with
  | disjunction => exact sound_connected .either (sound_connected .both (sound_negation sound))
  | conjunction => exact sound_connected .both (sound_negation sound)
  | negation => exact sound_negation sound
  | comparison => exact sound_comparison sound
  | filtered => exact sound_filtered sound
  | primary => exact sound_primary sound

/-- The lexemes are read as the value, up to what ends an expression of the rank. -/
def Finds (setting : Setting) (rank : Rank) (parser : Parser (Located Expr))
    (lexemes : List Lexeme) (value : Expr) : Prop :=
  ∀ (stop : Lexeme) (more : List Lexeme), rank.ends stop.token = true →
    ∃ span, parser setting (lexemes ++ stop :: more) = .ok ((value, span), stop :: more)

/-- The lexemes are read as the value, and what follows as the rest of the chain that the
value begins. -/
def Begins (setting : Setting) (rank : Rank) (whole : Parser (Located Expr))
    (lexemes : List Lexeme) (value : Expr) : Prop :=
  ∀ (stop : Lexeme) (more : List Lexeme), rank.operandEnds stop.token = true →
    ∃ span, ofRank whole rank setting (lexemes ++ stop :: more) =
      onward whole rank (value, span) setting (stop :: more)

/-- A chain does not go on with what ends it. -/
theorem onward_of_ends {rank : Rank} (ends : rank.ends stop.token = true) (found : Located Expr) :
    onward whole rank found setting (stop :: more) = .ok (found, stop :: more) := by
  cases rank with
  | disjunction =>
    have other : stop.token ≠ .keyword .disjunction := by
      rintro same
      simp [Rank.ends, same] at ends
    exact repeatedly_of_none (by simp [joinStep, bind_apply, takes_cons, Connective.keyword, other])
  | conjunction =>
    have other : stop.token ≠ .keyword .conjunction := by
      rintro same
      simp [Rank.ends, same] at ends
    exact repeatedly_of_none (by simp [joinStep, bind_apply, takes_cons, Connective.keyword, other])
  | filtered =>
    have other : stop.token ≠ .pipe := by
      rintro same
      simp [Rank.ends, same] at ends
    exact repeatedly_of_none (by simp [filterStep, bind_apply, takes_cons, other])
  | negation | comparison | primary => rfl

/-- A chain that is ended is the value that it begins. -/
theorem Begins.finds {rank : Rank} {lexemes : List Lexeme} {value : Expr}
    (begins : Begins setting rank whole lexemes value) :
    Finds setting rank (ofRank whole rank) lexemes value := by
  intro stop more ends
  obtain ⟨span, read⟩ := begins stop more (Rank.operandEnds_of_ends ends)
  exact ⟨span, by rw [read, onward_of_ends ends]⟩

variable {lexemes before after : List Lexeme} {value left right : Expr}

/-- A chain begins with an expression that binds tighter. -/
theorem Finds.begins {rank : Rank}
    (finds : Finds setting rank.tighter (ofRank whole rank.tighter) lexemes value)
    (chain : ofRank whole rank = ofRank whole rank.tighter >>= onward whole rank)
    (same : rank.operandEnds = rank.tighter.ends) :
    Begins setting rank whole lexemes value := by
  intro stop more ends
  obtain ⟨span, read⟩ := finds stop more (same ▸ ends)
  exact ⟨span, by rw [chain, bind_apply, read]⟩

/-- One value is read where a comparison is asked for. -/
theorem comparison_of_finds {span : Span}
    (read : filtered whole setting (lexemes ++ stop :: more) = .ok ((value, span), stop :: more))
    (ends : Rank.comparison.ends stop.token = true) :
    comparison whole setting (lexemes ++ stop :: more) = .ok ((value, span), stop :: more) := by
  rw [comparison, bind_apply, read]
  simp only [bind_apply, peek_cons, Option.map_some]
  cases token : stop.token with
  | relation relation => simp [Rank.ends, token] at ends
  | _ => rfl

/-- Two values are read where a comparison is asked for. -/
theorem Finds.compared {relation : Relation} {operator : Lexeme}
    (first : Finds setting .filtered (filtered whole) before left)
    (token : operator.token = .relation relation)
    (second : Finds setting .filtered (filtered whole) after right) :
    Begins setting .comparison whole (before ++ operator :: after)
      (.compared relation left right) := by
  intro stop more ends
  obtain ⟨span, read⟩ := first operator (after ++ stop :: more) (by simp [token, Rank.ends])
  obtain ⟨spanAfter, readAfter⟩ :=
    second stop more (Rank.ends_tighter (ends : Rank.comparison.ends stop.token = true))
  refine ⟨span.cover spanAfter, ?_⟩
  simp only [List.append_assoc, List.cons_append, ofRank, comparison, bind_apply, read, peek_cons,
    Option.map_some, token, next_cons, readAfter]
  rfl

/-- An expression that binds tighter is read where one of the rank is asked for. -/
theorem Begins.looser {rank : Rank} (begins : Begins setting rank.tighter whole lexemes value)
    (starts : ∃ first rest, lexemes = first :: rest ∧
      rank.tighter.begins first.token = true) :
    Begins setting rank whole lexemes value := by
  have finds := begins.finds
  cases rank with
  | disjunction => exact finds.begins rfl rfl
  | conjunction => exact finds.begins rfl rfl
  | filtered => exact finds.begins rfl rfl
  | primary => exact begins
  | negation =>
    intro stop more ends
    obtain ⟨first, rest, rfl, startsTighter⟩ := starts
    have other : first.token ≠ .keyword .negation := by
      intro same
      rw [same] at startsTighter
      cases startsTighter
    obtain ⟨span, read⟩ :=
      finds stop more (Rank.ends_tighter (ends : Rank.negation.ends stop.token = true))
    exact ⟨span, (negation_of_other other _).trans read⟩
  | comparison =>
    intro stop more ends
    obtain ⟨span, read⟩ :=
      finds stop more (Rank.ends_tighter (ends : Rank.comparison.ends stop.token = true))
    exact ⟨span, comparison_of_finds read ends⟩

/-- A `not` is read with its operand. -/
theorem Finds.negated {mark : Lexeme} (token : mark.token = .keyword .negation)
    (finds : Finds setting .negation (negation whole) lexemes value) :
    Begins setting .negation whole (mark :: lexemes) (.negated value) := by
  intro stop more ends
  obtain ⟨span, read⟩ := finds stop more ends
  refine ⟨mark.span.cover span, ?_⟩
  rw [List.cons_append, ofRank, negation_of_mark token, bind_apply, read]
  rfl

/-- After a chain and a connective another operand is read. -/
theorem Begins.connected (connective : Connective) {operator : Lexeme}
    (sound : Sound setting .disjunction whole)
    (first : Begins setting connective.rank whole before left)
    (token : operator.token = .keyword connective.keyword)
    (second : Finds setting connective.rank.tighter (ofRank whole connective.rank.tighter)
      after right) :
    Begins setting connective.rank whole (before ++ operator :: after)
      (.connected connective left right) := by
  have onwardStep : onward whole connective.rank =
      repeatedly (joinStep connective (ofRank whole connective.rank.tighter)) := by
    cases connective <;> rfl
  have operandEnds : connective.rank.operandEnds = connective.rank.tighter.ends := by
    cases connective <;> rfl
  have joins : connective.rank.operandEnds operator.token = true := by
    rw [token]
    cases connective <;> rfl
  intro stop more ends
  obtain ⟨span, read⟩ := first operator (after ++ stop :: more) joins
  obtain ⟨spanAfter, readAfter⟩ := second stop more (operandEnds ▸ ends)
  have stepped : joinStep connective (ofRank whole connective.rank.tighter) (left, span) setting
      (operator :: (after ++ stop :: more)) =
        .ok (some (.connected connective left right, span.cover spanAfter), stop :: more) := by
    simp [joinStep, bind_apply, map_apply, takes_cons, token, readAfter, Except.map]
  refine ⟨span.cover spanAfter, ?_⟩
  rw [List.append_assoc, List.cons_append, read, onwardStep,
    repeatedly_of_some (advances_joinStep connective (sound_ofRank sound _)) stepped]

/-- A filter that is admitted is checked. -/
theorem checkFilter_of_admitted {filter : Lexeme} {hasArgument : Bool}
    (admitted : (setting.arity? filter.text).any (·.admits hasArgument) = true) (span : Span) :
    checkFilter filter hasArgument span setting more = .ok ((), more) := by
  obtain ⟨flaw, checked⟩ := checkFilter_apply filter hasArgument span setting more
  rw [checked, if_pos admitted]

/-- After a chain a filter is read. -/
theorem Begins.filter {pipe name : Lexeme} (sound : Sound setting .disjunction whole)
    (inner : Begins setting .filtered whole lexemes value) (piped : pipe.token = .pipe)
    (named : name.token = .name)
    (admitted : (setting.arity? name.text).any (·.admits false) = true) :
    Begins setting .filtered whole (lexemes ++ [pipe, name]) (.filtered value name.text none) := by
  intro stop more ends
  have other : stop.token ≠ .colon := by
    intro same
    rw [same] at ends
    cases ends
  obtain ⟨span, read⟩ := inner pipe (name :: stop :: more) (by rw [piped]; rfl)
  have stepped : filterStep whole (value, span) setting (pipe :: name :: stop :: more) =
      .ok (some (.filtered value name.text none, span.cover name.span), stop :: more) := by
    simp [filterStep, bind_apply, map_apply, takes_cons, piped, expect_cons named, other,
      checkFilter_of_admitted admitted, Except.map]
  refine ⟨span.cover name.span, ?_⟩
  simpa [onward] using read.trans (repeatedly_of_some (advances_filterStep sound) stepped)

/-- Also one with an argument. -/
theorem Begins.filterWith {pipe name colon : Lexeme} {given : List Lexeme} {argument : Expr}
    (sound : Sound setting .disjunction whole)
    (inner : Begins setting .filtered whole lexemes value) (piped : pipe.token = .pipe)
    (named : name.token = .name) (parted : colon.token = .colon)
    (admitted : (setting.arity? name.text).any (·.admits true) = true)
    (argued : Finds setting .primary (primary whole) given argument) :
    Begins setting .filtered whole (lexemes ++ pipe :: name :: colon :: given)
      (.filtered value name.text (some argument)) := by
  intro stop more ends
  obtain ⟨span, read⟩ := inner pipe (name :: colon :: (given ++ stop :: more)) (by rw [piped]; rfl)
  obtain ⟨spanGiven, readGiven⟩ := argued stop more ends
  have stepped : filterStep whole (value, span) setting
      (pipe :: name :: colon :: (given ++ stop :: more)) =
        .ok (some (.filtered value name.text (some argument), span.cover spanGiven),
          stop :: more) := by
    simp [filterStep, bind_apply, map_apply, takes_cons, piped, expect_cons named, parted,
      readGiven, checkFilter_of_admitted admitted, Except.map]
  refine ⟨span.cover spanGiven, ?_⟩
  simpa [onward] using read.trans (repeatedly_of_some (advances_filterStep sound) stepped)

/-- After an argument comes the comma of the next one, or the end of the call. -/
theorem follows_argument {others : List Argument}
    (commas : ∀ argument ∈ others, argument.comma.token = .comma)
    (closes : stop.token = .rightParen) (more : List Lexeme) :
    ∃ next after, others.flatMap Argument.all ++ stop :: more = next :: after ∧
      Rank.disjunction.ends next.token = true := by
  cases others with
  | nil => exact ⟨stop, more, rfl, by rw [closes]; rfl⟩
  | cons other rest =>
    refine ⟨other.comma, _, rfl, ?_⟩
    rw [commas other (.head _)]
    rfl

/-- The arguments of a call after the first are read to the last. -/
theorem repeatedly_argumentStep (sound : Sound setting .disjunction whole)
    (others : List Argument) (commas : ∀ argument ∈ others, argument.comma.token = .comma)
    (finds : ∀ argument ∈ others,
      Finds setting .disjunction whole argument.lexemes argument.value)
    (closes : stop.token = .rightParen) (found : List Expr) :
    repeatedly (argumentStep whole) found setting
        (others.flatMap Argument.all ++ stop :: more) =
      .ok ((others.map Argument.value).reverse ++ found, stop :: more) := by
  induction others generalizing found with
  | nil =>
    refine repeatedly_of_none ?_
    simp [argumentStep, bind_apply, takes_cons, closes]
  | cons argument rest inductionHypothesis =>
    have comma := commas argument (.head _)
    obtain ⟨next, after, follows, ends⟩ :=
      follows_argument (fun other mem => commas other (.tail _ mem)) closes more
    obtain ⟨span, read⟩ := finds argument (.head _) next after ends
    have stepped : argumentStep whole found setting
        (argument.comma :: (argument.lexemes ++ next :: after)) =
          .ok (some (argument.value :: found), next :: after) := by
      simp [argumentStep, bind_apply, map_apply, takes_cons, comma, read, Except.map]
    simp only [List.flatMap_cons, Argument.all, List.cons_append, List.append_assoc]
    rw [follows, repeatedly_of_some (advances_argumentStep sound) stepped, ← follows,
      inductionHypothesis (fun other mem => commas other (.tail _ mem))
        fun other mem => finds other (.tail _ mem)]
    simp

/-- A parenthesis is read with what is inside of it. -/
theorem Finds.parens {opened closed : Lexeme} (opens : opened.token = .leftParen)
    (closes : closed.token = .rightParen) (inner : Finds setting .disjunction whole lexemes value) :
    Finds setting .primary (primary whole) (opened :: (lexemes ++ [closed])) value := by
  intro stop more _
  obtain ⟨span, read⟩ := inner closed (stop :: more) (by rw [closes]; rfl)
  refine ⟨span, ?_⟩
  simp [primary, bind_apply, map_apply, opens, read, expect_cons closes, Except.map]

/-- A path that no parenthesis follows is read. -/
theorem finds_path {named : Path} (spelled : SpellsPath setting.source lexemes named) :
    Finds setting .primary (primary whole) lexemes (.path named) := by
  intro stop more ends
  have notDot : stop.token ≠ .dot := by
    intro same
    rw [same] at ends
    cases ends
  have notParen : stop.token ≠ .leftParen := by
    intro same
    rw [same] at ends
    cases ends
  obtain ⟨first, rest, rfl, isName, span, read⟩ := path_of_spelled spelled notDot more
  refine ⟨span, ?_⟩
  simp [primary, bind_apply, isName, read, takes_cons, notParen]

/-- A call is read, given how its arguments are. -/
theorem finds_call {named : Path} {opened closed : Lexeme} {given : List Lexeme}
    {values : List Expr} (spelled : SpellsPath setting.source lexemes named)
    (opens : opened.token = .leftParen) (closes : closed.token = .rightParen)
    (read : ∀ more, arguments whole setting (given ++ closed :: more) =
      .ok (values, closed :: more)) :
    Finds setting .primary (primary whole) (lexemes ++ opened :: (given ++ [closed]))
      (.call named values) := by
  intro stop more _
  obtain ⟨first, rest, rfl, isName, span, readPath⟩ := path_of_spelled spelled
    (by rw [opens]; decide : opened.token ≠ .dot) (given ++ closed :: stop :: more)
  refine ⟨span.cover closed.span, ?_⟩
  simp [primary, bind_apply, map_apply, isName, readPath, takes_cons, opens, read,
    expect_cons closes, Except.map]

/-- The arguments of a call are read. -/
theorem arguments_of_finds (sound : Sound setting .disjunction whole)
    (first : Finds setting .disjunction whole lexemes value) (others : List Argument)
    (commas : ∀ argument ∈ others, argument.comma.token = .comma)
    (rest : ∀ argument ∈ others,
      Finds setting .disjunction whole argument.lexemes argument.value)
    (starts : ∃ start more, lexemes = start :: more ∧
      Rank.disjunction.begins start.token = true)
    (closes : stop.token = .rightParen) :
    arguments whole setting (lexemes ++ (others.flatMap Argument.all ++ stop :: more)) =
      .ok (value :: others.map Argument.value, stop :: more) := by
  obtain ⟨start, tail, rfl, begins⟩ := starts
  have opens : start.token ≠ .rightParen := by
    intro same
    rw [same] at begins
    cases begins
  obtain ⟨next, after, follows, ends⟩ := follows_argument commas closes more
  obtain ⟨span, read⟩ := first next after ends
  have shape : arguments whole = isNext .rightParen >>= fun closes =>
      if closes then pure [] else do
        let first ← whole
        let all ← repeatedly (argumentStep whole) [first.1]
        return all.reverse := rfl
  rw [shape, bind_apply, List.cons_append, isNext_cons]
  simp only [opens, decide_false, Bool.false_eq_true, if_false, bind_apply]
  rw [← List.cons_append, follows, read]
  simp only []
  rw [← follows, repeatedly_argumentStep sound others commas rest closes]
  simp

/-- A truth value is read. -/
theorem finds_truth {found : Lexeme} (token : found.token = .keyword .truth) :
    Finds setting .primary (primary whole) [found] (.literal (.boolean true)) :=
  fun stop more _ => ⟨found.span, by simp [primary, bind_apply, token]⟩

/-- So is its opposite. -/
theorem finds_falsehood {found : Lexeme} (token : found.token = .keyword .falsehood) :
    Finds setting .primary (primary whole) [found] (.literal (.boolean false)) :=
  fun stop more _ => ⟨found.span, by simp [primary, bind_apply, token]⟩

/-- An integer that fits is read from its digits. -/
theorem integerLiteral_of_fits {negative : Bool} {digits : String} {number : Int64}
    (fits : Text.toWord? (if negative then -(Text.digitsValue digits.toList : Int)
      else Text.digitsValue digits.toList) = some number) (span : Span) :
    integerLiteral negative digits span setting more = .ok (.integer number, more) := by
  unfold integerLiteral
  simp only [fits]
  rfl

/-- So is a number that fits. -/
theorem finds_number {digits : Lexeme} {number : Int64} (token : digits.token = .number)
    (fits : Text.toWord? (Text.digitsValue digits.text.toList) = some number) :
    Finds setting .primary (primary whole) [digits] (.literal (.integer number)) := by
  intro stop more _
  have read : integerLiteral false digits.text digits.span setting (stop :: more) =
      .ok (.integer number, stop :: more) := integerLiteral_of_fits (by simpa using fits) _
  refine ⟨digits.span, ?_⟩
  rw [primary, List.singleton_append, bind_of_ok (next_cons _ _)]
  simp only [token]
  exact bind_of_ok read

/-- So is a negative one. -/
theorem finds_opposite {minus digits : Lexeme} {number : Int64} (sign : minus.token = .minus)
    (token : digits.token = .number)
    (fits : Text.toWord? (-(Text.digitsValue digits.text.toList : Int)) = some number) :
    Finds setting .primary (primary whole) [minus, digits] (.literal (.integer number)) := by
  intro stop more _
  have read : integerLiteral true digits.text (minus.span.cover digits.span) setting
      (stop :: more) = .ok (.integer number, stop :: more) :=
    integerLiteral_of_fits (by simpa using fits) _
  refine ⟨minus.span.cover digits.span, ?_⟩
  rw [primary, List.cons_append, bind_of_ok (next_cons _ _)]
  simp only [sign]
  rw [List.singleton_append, bind_of_ok (expect_cons token)]
  exact bind_of_ok read

/-- So is a string. -/
theorem finds_text {found : Lexeme} {content : List Char} (token : found.token = .quoted)
    (plain : unescape (found.span.start + 1) (found.text.toList.drop 1).dropLast =
      .ok content) :
    Finds setting .primary (primary whole) [found]
      (.literal (.text (String.ofList content))) := by
  intro stop more _
  have read : textLiteral found setting (stop :: more) =
      .ok (.text (String.ofList content), stop :: more) := by
    unfold textLiteral
    simp only [plain]
    rfl
  exact ⟨found.span, by simp [primary, bind_apply, map_apply, token, read, Except.map]⟩

/-- Lexemes that write an expression inside of another are read as it, one level deeper. -/
theorem finds_bounded {bound : Nat}
    (begins : ∀ bound, lexemes.length ≤ bound →
      Begins setting .disjunction (bounded bound) lexemes value)
    (shorter : lexemes.length < bound) :
    Finds setting .disjunction (bounded bound) lexemes value := by
  cases bound with
  | zero => omega
  | succ bound => exact (begins bound (by omega)).finds

/-- An argument has fewer lexemes than all arguments with their commas. -/
theorem length_lexemes_lt {argument : Argument} {others : List Argument}
    (mem : argument ∈ others) :
    argument.lexemes.length < (others.flatMap Argument.all).length := by
  obtain ⟨earlier, later, rfl⟩ := List.append_of_mem mem
  simp only [List.flatMap_append, List.flatMap_cons, List.length_append, Argument.all,
    List.length_cons]
  omega

/-- Lexemes that write an expression are read as it, where as many levels are allowed as
there are lexemes. -/
theorem begins_of_spells {rank : Rank} (spelled : Spells setting rank lexemes value) (bound : Nat)
    (deep : lexemes.length ≤ bound) : Begins setting rank (bounded bound) lexemes value := by
  have sound : ∀ bound, Sound setting .disjunction (bounded bound) := sound_bounded
  induction spelled generalizing bound with
  | truth found token => exact finds_truth token
  | falsehood found token => exact finds_falsehood token
  | number digits value token fits => exact finds_number token fits
  | opposite minus digits value sign token fits => exact finds_opposite sign token fits
  | text found content token plain => exact finds_text token plain
  | path spelled => exact finds_path spelled
  | call opened closed spelled opens closes =>
    have none : ∀ more, arguments (bounded bound) setting ([] ++ closed :: more) =
        .ok ([], closed :: more) := fun more => by
      simp [arguments, bind_apply, closes]
    exact finds_call spelled opens closes none
  | callWith opened closed others spelled opens closes first commas rest firstRead restRead =>
    simp only [List.length_append, List.length_cons, List.length_nil] at deep
    have given : ∀ more, arguments (bounded bound) setting
        ((_ ++ others.flatMap Argument.all) ++ closed :: more) = .ok (_, closed :: more) :=
      fun more => by
        rw [List.append_assoc]
        exact arguments_of_finds (sound bound) (finds_bounded firstRead (by omega)) others commas
          (fun argument mem => finds_bounded (restRead argument mem) (by
            have within := length_lexemes_lt mem
            omega)) first.begins closes
    have called := finds_call spelled opens closes given
    rw [List.append_assoc] at called
    exact called
  | parens opened closed opens closes inner inductionHypothesis =>
    simp only [List.length_append, List.length_cons, List.length_nil] at deep
    exact Finds.parens opens closes (finds_bounded inductionHypothesis (by omega))
  | filter pipe name piped named spelled admitted inner inductionHypothesis =>
    subst spelled
    simp only [List.length_append, List.length_cons, List.length_nil] at deep
    exact (inductionHypothesis bound (by omega)).filter (sound bound) piped named admitted
  | filterWith pipe name colon piped named spelled parted admitted inner argued innerRead
      arguedRead =>
    subst spelled
    simp only [List.length_append, List.length_cons] at deep
    exact (innerRead bound (by omega)).filterWith (sound bound) piped named parted admitted
      (arguedRead bound (by omega)).finds
  | compared relation operator token first second firstRead secondRead =>
    simp only [List.length_append, List.length_cons] at deep
    exact (firstRead bound (by omega)).finds.compared token (secondRead bound (by omega)).finds
  | negated mark token inner inductionHypothesis =>
    simp only [List.length_cons] at deep
    exact Finds.negated token (inductionHypothesis bound (by omega)).finds
  | connected connective operator token first second firstRead secondRead =>
    simp only [List.length_append, List.length_cons] at deep
    exact (firstRead bound (by omega)).connected connective (sound bound) token
      (secondRead bound (by omega)).finds
  | looser inner inductionHypothesis => exact (inductionHypothesis bound deep).looser inner.begins

end Expr.Parser

/-- Lexemes that write an expression are read as it, up to a lexeme that is no part of it. -/
theorem Expr.parse_of_spells {setting : Setting} {lexemes : List Lexeme} {value : Expr}
    (spelled : Grammar.Spells setting .disjunction lexemes value) {stop : Lexeme}
    (ends : Grammar.Rank.disjunction.ends stop.token = true) (more : List Lexeme) :
    Expr.parse setting (lexemes ++ stop :: more) = .ok (value, stop :: more) := by
  obtain ⟨span, read⟩ := (Parser.begins_of_spells spelled (lexemes ++ stop :: more).length
    (by simp)).finds stop more ends
  have whole : Parser.bounded ((lexemes ++ stop :: more).length + 1) setting
      (lexemes ++ stop :: more) = .ok ((value, span), stop :: more) := read
  simp only [Expr.parse, whole, bind, Except.bind]
  rfl

end Stencil
