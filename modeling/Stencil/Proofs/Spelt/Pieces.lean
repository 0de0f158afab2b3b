import Stencil.Proofs.Spelt

/-!
# How the pieces of a template are spelt

Lexemes spell pieces one after the other: text, an expression or a tag between its delimiters,
or a comment that is closed, which is no piece. A template is read as pieces without a flaw if
and only if the lexer found none and its lexemes spell those pieces.
-/

namespace Stencil

namespace Piece

open Stencil.Parser

variable {setting : Setting} {ahead rest lexemes : List Lexeme} {found : Option Piece}
  {pieces : List Piece}

/-- The lexemes ahead begin with one piece, or with a comment that is closed. -/
inductive Begins (setting : Setting) : List Lexeme → Option Piece → List Lexeme → Prop
  | text {found : Lexeme} {rest : List Lexeme} (isText : found.token = .text) :
    Begins setting (found :: rest) (some (.text found.text)) rest
  | output {opening closing : Lexeme} {ahead rest : List Lexeme} {value : Expr}
    (opens : opening.token = .opening .output) (closes : closing.token = .closing .output)
    (reads : Expr.parse setting ahead = .ok (value, closing :: rest)) :
    Begins setting (opening :: ahead) (some (.output value)) rest
  | tag {opening closing : Lexeme} {ahead rest : List Lexeme} {tag : Tag}
    (opens : opening.token = .opening .tag) (closes : closing.token = .closing .tag)
    (reads : Tag.parse setting ahead = .ok (tag, closing :: rest)) :
    Begins setting (opening :: ahead) (some (.tag tag (opening.span.cover closing.span))) rest
  | comment {opening closing : Lexeme} {ahead rest : List Lexeme} {commented : Bool}
    (opens : opening.token = .opening .comment) (closes : closing.token = .closing .comment)
    (reads : takes .text setting ahead = .ok (commented, closing :: rest)) :
    Begins setting (opening :: ahead) none rest

/-- The lexemes spell the pieces. -/
inductive Spelt (setting : Setting) : List Lexeme → List Piece → Prop
  | nothing : Spelt setting [] []
  | next {ahead rest : List Lexeme} {found : Option Piece} {pieces : List Piece}
    (begins : Begins setting ahead found rest) (later : Spelt setting rest pieces) :
    Spelt setting ahead (found.toList ++ pieces)

/-- Where a lexeme of a token is taken, one of that token stands. -/
theorem expect_ok {token : Token} {found : Lexeme} :
    expect token setting ahead = .ok (found, rest) ↔
      ahead = found :: rest ∧ found.token = token := by
  constructor
  · intro accepted
    obtain ⟨taken, same, one, isToken⟩ := Yields.expect token found rest accepted
    rw [same, one]
    exact ⟨rfl, isToken⟩
  · rintro ⟨rfl, isToken⟩
    exact expect_cons isToken

/-- What is read and then closed is read up to its closing delimiter. -/
theorem closed_ok {α β : Type} {parser : Parser α} {close : Delimiter}
    {result : α → Lexeme → β} {value : β} :
    (parser >>= fun value => expect (.closing close) >>= fun closing =>
        pure (result value closing)) setting ahead = .ok (value, rest) ↔
      ∃ inner closing, closing.token = .closing close ∧
        parser setting ahead = .ok (inner, closing :: rest) ∧ value = result inner closing := by
  constructor
  · intro accepted
    obtain ⟨inner, left, reads, going⟩ := of_bind_ok accepted
    obtain ⟨closing, after, closes, done⟩ := of_bind_ok going
    obtain ⟨rfl, isClosing⟩ := expect_ok.mp closes
    cases done
    exact ⟨inner, closing, isClosing, reads, rfl⟩
  · rintro ⟨inner, closing, isClosing, reads, rfl⟩
    rw [bind_of_ok reads, bind_of_ok (expect_cons isClosing), pure_apply]

/-- At the end of the lexemes no piece is read; where they end at a flaw, that flaw is found. -/
theorem parse_nil : parse setting [] = match setting.flaw with
    | some flaw => .error flaw
    | none => .ok (none, []) := by
  cases flawed : setting.flaw <;> simp [parse, bind_apply, peek, flawed]

/-- A piece is read exactly where one stands. -/
theorem parse_some : parse setting ahead = .ok (some found, rest) ↔
    Begins setting ahead found rest := by
  constructor
  · intro accepted
    cases ahead with
    | nil =>
      rw [parse_nil] at accepted
      split at accepted <;> cases accepted
    | cons first ahead =>
      rw [parse, bind_of_ok (peek_cons first)] at accepted
      simp only [bind_of_ok (next_cons _ first)] at accepted
      cases isToken : first.token with
      | text =>
        rw [isToken] at accepted
        cases accepted
        exact .text isToken
      | opening delimiter =>
        rw [isToken] at accepted
        cases delimiter with
        | output =>
          obtain ⟨value, closing, closes, reads, same⟩ := closed_ok.mp accepted
          cases same
          exact .output isToken closes reads
        | tag =>
          obtain ⟨tag, closing, closes, reads, same⟩ := closed_ok.mp accepted
          cases same
          exact .tag isToken closes reads
        | comment =>
          obtain ⟨_, closing, closes, reads, same⟩ := closed_ok.mp accepted
          cases same
          exact .comment isToken closes reads
      | _ =>
        rw [isToken] at accepted
        cases accepted
  · intro begins
    cases begins with
    | text isText =>
      rw [parse, bind_of_ok (peek_cons _)]
      simp only [bind_of_ok (next_cons _ _), isText]
      rfl
    | output opens closes reads =>
      rw [parse, bind_of_ok (peek_cons _)]
      simp only [bind_of_ok (next_cons _ _), opens]
      exact closed_ok.mpr ⟨_, _, closes, reads, rfl⟩
    | tag opens closes reads =>
      rw [parse, bind_of_ok (peek_cons _)]
      simp only [bind_of_ok (next_cons _ _), opens]
      exact closed_ok.mpr ⟨_, _, closes, reads, rfl⟩
    | comment opens closes reads =>
      rw [parse, bind_of_ok (peek_cons _)]
      simp only [bind_of_ok (next_cons _ _), opens]
      exact closed_ok.mpr ⟨_, _, closes, reads, rfl⟩

/-- There is no piece exactly at the end of a template without a flaw. -/
theorem parse_none : parse setting ahead = .ok (none, rest) ↔
    ahead = [] ∧ rest = [] ∧ setting.flaw = none := by
  constructor
  · intro accepted
    cases ahead with
    | nil =>
      rw [parse_nil] at accepted
      split at accepted
      · cases accepted
      · rename_i unflawed
        cases accepted
        exact ⟨rfl, rfl, unflawed⟩
    | cons first ahead =>
      rw [parse, bind_of_ok (peek_cons first)] at accepted
      simp only [bind_of_ok (next_cons _ first)] at accepted
      cases isToken : first.token with
      | opening delimiter =>
        rw [isToken] at accepted
        cases delimiter with
        | output | tag | comment =>
          obtain ⟨_, _, _, _, same⟩ := closed_ok.mp accepted
          cases same
      | _ =>
        rw [isToken] at accepted
        cases accepted
  · rintro ⟨rfl, rfl, unflawed⟩
    rw [parse_nil, unflawed]

/-- What is taken for a piece: text, or delimiters of one kind around words that its parts are
drawn from, or a comment. -/
inductive Taken (setting : Setting) : List Lexeme → Option Piece → Prop
  | text {found : Lexeme} (isText : found.token = .text) :
    Taken setting [found] (some (.text found.text))
  | output {opening closing : Lexeme} {inside : List Lexeme} {value : Expr}
    (opens : opening.token = .opening .output) (closes : closing.token = .closing .output)
    (drawn : Drawn setting inside [] [value]) :
    Taken setting (opening :: (inside ++ [closing])) (some (.output value))
  | tag {opening closing : Lexeme} {inside : List Lexeme} {tag : Tag}
    (opens : opening.token = .opening .tag) (closes : closing.token = .closing .tag)
    (drawn : Drawn setting inside tag.names tag.written) :
    Taken setting (opening :: (inside ++ [closing]))
      (some (.tag tag (opening.span.cover closing.span)))
  | comment {opening closing : Lexeme} {inside : List Lexeme}
    (opens : opening.token = .opening .comment) (closes : closing.token = .closing .comment)
    (text : ∀ lexeme ∈ inside, lexeme.token = .text) :
    Taken setting (opening :: (inside ++ [closing])) none

/-- Where a piece begins, lexemes are taken for it, and the others are the rest. -/
theorem Begins.taken (begins : Begins setting ahead found rest) :
    ∃ taken, ahead = taken ++ rest ∧ Taken setting taken found := by
  have enclosed {opening closing : Lexeme} {inside : List Lexeme} :
      opening :: (inside ++ closing :: rest) = (opening :: (inside ++ [closing])) ++ rest := by
    simp
  cases begins with
  | text isText => exact ⟨[_], rfl, .text isText⟩
  | output opens closes reads =>
    obtain ⟨inside, rfl, spelled⟩ := Expr.yields_parse _ _ _ _ reads
    exact ⟨_, enclosed, .output opens closes (.expression spelled)⟩
  | tag opens closes reads =>
    obtain ⟨inside, rfl, drawn⟩ := Tag.yields_parse _ _ reads
    exact ⟨_, enclosed, .tag opens closes drawn⟩
  | @comment _ _ _ _ commented opens closes reads =>
    obtain ⟨inside, rfl, taking⟩ := Yields.takes _ _ _ reads
    refine ⟨_, enclosed, .comment opens closes ?_⟩
    cases commented with
    | true =>
      obtain ⟨only, rfl, isText⟩ := taking
      simpa using isText
    | false =>
      obtain rfl : inside = [] := taking
      nofun

/-- A piece takes a lexeme at least. -/
theorem Begins.length_lt (begins : Begins setting ahead found rest) :
    rest.length < ahead.length := by
  obtain ⟨taken, rfl, takes⟩ := begins.taken
  cases takes <;> simp <;> omega

/-- Lexemes are read as the pieces they spell, if as many are allowed as there are lexemes. -/
theorem Spelt.parseUpTo (spelt : Spelt setting lexemes pieces) (unflawed : setting.flaw = none)
    {bound : Nat} (enough : lexemes.length < bound) :
    parseUpTo bound setting lexemes = (pieces, none) := by
  induction spelt generalizing bound with
  | nothing =>
    obtain ⟨bound, rfl⟩ : ∃ fewer, bound = fewer + 1 := ⟨bound - 1, by omega⟩
    rw [Piece.parseUpTo, parse_nil, unflawed]
  | @next ahead rest found pieces begins later inductionHypothesis =>
    obtain ⟨bound, rfl⟩ : ∃ fewer, bound = fewer + 1 := ⟨bound - 1, by omega⟩
    have shorter := begins.length_lt
    rw [Piece.parseUpTo, parse_some.mpr begins]
    simp only [inductionHypothesis (by omega : rest.length < bound)]

/-- What is read as pieces without a flaw spells those pieces, and the lexer found no flaw. -/
theorem spelt_of_parseUpTo {bound : Nat} (enough : lexemes.length < bound)
    (read : parseUpTo bound setting lexemes = (pieces, none)) :
    setting.flaw = none ∧ Spelt setting lexemes pieces := by
  induction bound generalizing lexemes pieces with
  | zero => omega
  | succ bound inductionHypothesis =>
    rw [Piece.parseUpTo] at read
    split at read
    · cases read
    · rename_i rest ended
      obtain ⟨rfl, _, unflawed⟩ := parse_none.mp ended
      cases read
      exact ⟨unflawed, .nothing⟩
    · rename_i found rest goesOn
      have begins := parse_some.mp goesOn
      have shorter := begins.length_lt
      obtain ⟨rfl, unflawedLater⟩ := Prod.mk.inj read
      obtain ⟨unflawed, later⟩ := inductionHypothesis (by omega : rest.length < bound)
        (Prod.ext rfl unflawedLater)
      exact ⟨unflawed, .next begins later⟩

/-- Lexemes are read as pieces without a flaw if and only if the lexer found none and they spell
those pieces. -/
theorem parseAll_eq_iff : parseAll setting lexemes = (pieces, none) ↔
    setting.flaw = none ∧ Spelt setting lexemes pieces := by
  constructor
  · exact spelt_of_parseUpTo (Nat.lt_succ_self _)
  · rintro ⟨unflawed, spelt⟩
    exact spelt.parseUpTo unflawed (Nat.lt_succ_self _)

end Piece

end Stencil
