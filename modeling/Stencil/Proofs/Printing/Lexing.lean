import Stencil.Proofs.Printing

/-!
# What is printed is read word for word

The lexer takes the text of an expression apart into the words that it was printed with. A
word ends where the next character cannot continue it; whether digits are an index, and
whether a keyword is a name, depends on whether the word before it continues a path.
-/

namespace Stencil

namespace Text

/-- A name, which starts as one and goes on as one. -/
def isName (word : String) : Bool :=
  match word.toList with
  | [] => false
  | c :: rest => isNameStart c && rest.all isNameContinue

/-- No character of some kind comes first. -/
def begins (kind : Char → Bool) (text : List Char) : Bool := text.head?.any kind

/-- A run of characters of a kind ends where none comes next. -/
theorem takeWhile_run {kind : Char → Bool} {run after : List Char}
    (all : ∀ c ∈ run, kind c = true) (ends : begins kind after = false) :
    (run ++ after).takeWhile kind = run := by
  rw [List.takeWhile_append_of_pos all]
  cases after with
  | nil => simp
  | cons c rest =>
    have other : kind c = false := by simpa [begins] using ends
    simp [other]

/-- A character of a kind differs from one that is not of it. -/
theorem ne_of_kind {kind : Char → Bool} {c d : Char} (is : kind c = true) (isNot : kind d = false) :
    c ≠ d := by
  rintro rfl
  rw [is] at isNot
  cases isNot

/-- A character of a kind is not among some of which none is of it. -/
theorem not_mem_of_kind {kind : Char → Bool} {c : Char} {others : List Char}
    (is : kind c = true) (none : others.any kind = false) : c ∉ others := by
  intro mem
  exact ne_of_kind is (Bool.eq_false_iff.mpr (List.any_eq_false.mp none c mem)) rfl

/-- What starts a name is not blank. -/
theorem isBlank_of_isNameStart {c : Char} (starts : isNameStart c = true) : isBlank c = false := by
  have other : ∀ d, isNameStart d = false → c ≠ d := fun d => ne_of_kind starts
  simp [isBlank, other ' ' (by decide), other '\t' (by decide), other '\r' (by decide),
    other '\n' (by decide)]

/-- The ten digits. -/
def tenDigits : List Char := ['0', '1', '2', '3', '4', '5', '6', '7', '8', '9']

/-- Every digit is one of them. -/
theorem mem_of_isDigit {c : Char} (digit : isDigit c = true) : c ∈ tenDigits := by
  simp only [isDigit, Bool.and_eq_true, decide_eq_true_eq] at digit
  have lower : 48 ≤ c.toNat := digit.1
  have upper : c.toNat ≤ 57 := digit.2
  have same : Char.ofNat c.toNat = c := Char.ofNat_toNat c
  have reached : c.toNat = 48 ∨ c.toNat = 49 ∨ c.toNat = 50 ∨ c.toNat = 51 ∨ c.toNat = 52 ∨
      c.toNat = 53 ∨ c.toNat = 54 ∨ c.toNat = 55 ∨ c.toNat = 56 ∨ c.toNat = 57 := by omega
  rw [← same]
  rcases reached with is | is | is | is | is | is | is | is | is | is <;> rw [is] <;> decide

/-- A digit may continue a name. -/
theorem isNameContinue_of_isDigit {c : Char} (digit : isDigit c = true) :
    isNameContinue c = true := by
  have all : tenDigits.all isNameContinue = true := by decide
  exact List.all_eq_true.mp all c (mem_of_isDigit digit)

/-- Where no name goes on, no number does. -/
theorem begins_isDigit {text : List Char} (ends : begins isNameContinue text = false) :
    begins isDigit text = false := by
  cases text with
  | nil => rfl
  | cons c rest =>
    refine Bool.eq_false_iff.mpr fun digit => ?_
    have other : isNameContinue c = false := by simpa [begins] using ends
    rw [isNameContinue_of_isDigit (by simpa [begins] using digit)] at other
    cases other

/-- What reads as a number consists of digits, at least one. -/
theorem digits_of_readDigits {digits : List Char} {number : Nat}
    (read : readDigits digits = some number) :
    digits ≠ [] ∧ (∀ c ∈ digits, isDigit c = true) ∧ digitsValue digits = number := by
  unfold readDigits at read
  split at read
  · rename_i isNumeral
    simp only [Bool.and_eq_true, decide_eq_true_eq, List.all_eq_true] at isNumeral
    exact ⟨isNumeral.1, isNumeral.2, Option.some.inj read⟩
  · cases read

/-- The numeral of a number reads as it. -/
theorem readDigits_toDigits (number : Nat) :
    readDigits (Nat.toDigits 10 number) = some number := by
  have all : (Nat.toDigits 10 number).all isDigit = true := by
    apply List.all_eq_true.mpr
    intro c mem
    have digit := Nat.isDigit_of_mem_toDigits (by decide) (by decide) mem
    simp only [Char.isDigit, Bool.and_eq_true, decide_eq_true_eq] at digit
    simp only [isDigit, Bool.and_eq_true, decide_eq_true_eq]
    exact ⟨digit.1, digit.2⟩
  have value : digitsValue (Nat.toDigits 10 number) =
      Nat.ofDigitChars 10 (Nat.toDigits 10 number) 0 := by
    simp only [digitsValue, Nat.ofDigitChars, Nat.mul_comm]
  rw [readDigits, if_pos (by simp [all]), value, Nat.ofDigitChars_toDigits (by decide) (by decide)]

end Text

namespace Lexer

/-- A character that is no part of a delimiter opens and closes nothing. -/
theorem delimiterAt_of_ne {c : Char} (rest : List Char) (brace : c ≠ '\x7b') (closing : c ≠ '\x7d')
    (percent : c ≠ '%') (hash : c ≠ '#') : delimiterAt (c :: rest) = none := by
  unfold delimiterAt
  split <;> simp_all

/-- The characters that operators start with. -/
def operatorSigns : List Char := ['.', '|', ',', ':', '-', '(', ')', '=', '<', '>', '!']

/-- Where no operator starts, there is none. -/
theorem operatorAt_of_not_mem {c : Char} (rest : List Char) (other : c ∉ operatorSigns) :
    operatorAt (c :: rest) = none := by
  unfold operatorAt
  split <;> simp_all [operatorSigns]

/-- A word is read as a keyword if it spells one and no path goes on, and as a name
otherwise. -/
theorem tokenAt_word {inPath : Bool} {c : Char} {rest after : List Char}
    (starts : Text.isNameStart c = true) (continues : ∀ c ∈ rest, Text.isNameContinue c = true)
    (ends : Text.begins Text.isNameContinue after = false) :
    tokenAt inPath c (rest ++ after) =
      .ok (((if inPath then none else Keyword.ofWord? (String.ofList (c :: rest))).elim .name
        Token.keyword), rest.length + 1) := by
  have none : operatorAt (c :: (rest ++ after)) = none :=
    operatorAt_of_not_mem _ (Text.not_mem_of_kind starts (by decide))
  have notQuote : c ≠ '"' := Text.ne_of_kind starts (by decide)
  have notApostrophe : c ≠ '\x27' := Text.ne_of_kind starts (by decide)
  have notDigit : Text.isDigit c = false := by
    refine Bool.eq_false_iff.mpr fun digit => ?_
    exact Text.not_mem_of_kind starts (by decide) (Text.mem_of_isDigit digit)
  have notBlank : Text.isBlank c = false := Text.isBlank_of_isNameStart starts
  unfold tokenAt
  rw [none]
  simp only [notQuote, notApostrophe, notDigit, notBlank, starts, decide_false, Bool.or_false,
    Bool.false_eq_true, if_false, if_true, Text.takeWhile_run continues ends]
  split <;> simp_all

/-- Digits are read as an index if a path goes on, and as a number otherwise. -/
theorem tokenAt_digits {inPath : Bool} {c : Char} {rest after : List Char}
    (digits : ∀ d ∈ c :: rest, Text.isDigit d = true)
    (ends : Text.begins Text.isDigit after = false) :
    tokenAt inPath c (rest ++ after) =
      .ok (if inPath then .index else .number, rest.length + 1) := by
  have digit := digits c (.head _)
  have none : operatorAt (c :: (rest ++ after)) = none :=
    operatorAt_of_not_mem _ (Text.not_mem_of_kind digit (by decide))
  have notQuote : c ≠ '"' := Text.ne_of_kind digit (by decide)
  have notApostrophe : c ≠ '\x27' := Text.ne_of_kind digit (by decide)
  unfold tokenAt
  rw [none]
  simp only [notQuote, notApostrophe, digit, decide_false, Bool.or_false, Bool.false_eq_true,
    if_false, if_true, Text.takeWhile_run (fun d mem => digits d (.tail _ mem)) ends]

/-- A blank is read by itself if no other follows. -/
theorem tokenAt_blank (inPath : Bool) {after : List Char}
    (ends : Text.begins Text.isBlank after = false) :
    tokenAt inPath ' ' after = .ok (.blank, 1) := by
  have run : after.takeWhile Text.isBlank = [] := by
    simpa using Text.takeWhile_run (fun _ mem => nomatch mem : ∀ c ∈ [], Text.isBlank c = true) ends
  have none : operatorAt (' ' :: after) = none := operatorAt_of_not_mem _ (by decide)
  have notDigit : Text.isDigit ' ' = false := by decide
  have isBlank : Text.isBlank ' ' = true := by decide
  unfold tokenAt
  rw [none]
  simp [notDigit, isBlank, run]

/-- A string is read up to the quote that closes. -/
theorem tokenAt_quoted (inPath : Bool) {quote : Char} (isQuote : quote ∈ Text.quotes)
    (rest : List Char) :
    tokenAt inPath quote rest = match quotedLength quote false rest with
      | .ok length => .ok (.quoted, length + 1)
      | .error length => .error (.openString, length + 1) := by
  have both : quote = '"' ∨ quote = '\x27' := by simpa [Text.quotes] using isQuote
  have apart : quote ∉ operatorSigns := by rcases both with rfl | rfl <;> decide
  unfold tokenAt
  rw [operatorAt_of_not_mem _ apart]
  cases quotedLength quote false rest <;> simp [both]

end Lexer

namespace Word

/-- The next character does not make another word of one of the token. -/
def parted : Token → List Char → Bool
  | .name, after | .keyword _, after | .number, after | .index, after =>
    !Text.begins Text.isNameContinue after
  | .blank, after => !Text.begins Text.isBlank after
  | .relation _, after => !Text.begins (· = '=') after
  | _, _ => true

/-- The word is read where it stands, in a path or not, if it is set apart from what
follows. -/
def Reads (inPath : Bool) (word : Word) : Prop :=
  ∃ c rest, word.text = c :: rest ∧ c ∉ ['\x7b', '\x7d', '%', '#'] ∧
    ∀ after, parted word.token after = true →
      Lexer.tokenAt inPath c (rest ++ after) = .ok (word.token, word.text.length)

variable {inPath : Bool}

/-- A name is read, unless it is a keyword and no path goes on. -/
theorem reads_name {word : String} (isName : Text.isName word = true)
    (plain : inPath = true ∨ Keyword.ofWord? word = none) : Reads inPath (name word) := by
  unfold Text.isName at isName
  split at isName
  · cases isName
  · rename_i c rest same
    simp only [Bool.and_eq_true, List.all_eq_true] at isName
    refine ⟨c, rest, same, Text.not_mem_of_kind isName.1 (by decide), fun after apart => ?_⟩
    have ends : Text.begins Text.isNameContinue after = false := by
      simpa [parted, name] using apart
    have spelled : String.ofList (c :: rest) = word := by rw [← same, String.ofList_toList]
    rw [Lexer.tokenAt_word isName.1 isName.2 ends, spelled]
    rcases plain with goesOn | other
    · simp [goesOn, name, same]
    · simp [other, name, same]

/-- A keyword is read where no path goes on. -/
theorem reads_keyword (word : Keyword) : Reads false (keyword word) := by
  obtain ⟨c, rest, same, starts, continues, safe⟩ : ∃ c rest, word.spelling.toList = c :: rest ∧
      Text.isNameStart c = true ∧ rest.all Text.isNameContinue = true ∧
        c ∉ ['\x7b', '\x7d', '%', '#'] := by
    cases word <;> exact ⟨_, _, rfl, by decide, by decide, by decide⟩
  refine ⟨c, rest, same, safe, fun after apart => ?_⟩
  have ends : Text.begins Text.isNameContinue after = false := by
    simpa [parted, keyword] using apart
  have spelled : String.ofList (c :: rest) = word.spelling := by
    rw [← same, String.ofList_toList]
  rw [Lexer.tokenAt_word starts (List.all_eq_true.mp continues) ends, spelled]
  simp [keyword, same]

/-- A numeral is read, as an index if a path goes on. -/
theorem reads_digits {digits : List Char} {number : Nat}
    (read : Text.readDigits digits = some number) :
    Reads inPath ⟨if inPath then .index else .number, digits⟩ := by
  obtain ⟨nonempty, all, _⟩ := Text.digits_of_readDigits read
  cases digits with
  | nil => exact absurd rfl nonempty
  | cons c rest =>
    have digit := all c (.head _)
    refine ⟨c, rest, rfl, Text.not_mem_of_kind digit (by decide), fun after apart => ?_⟩
    have ends : Text.begins Text.isNameContinue after = false := by
      cases inPath <;> simpa [parted] using apart
    exact Lexer.tokenAt_digits all (Text.begins_isDigit ends)

/-- A blank is read. -/
theorem reads_blank : Reads inPath blank := by
  refine ⟨' ', [], rfl, by decide, fun after apart => ?_⟩
  exact Lexer.tokenAt_blank inPath (by simpa [parted, blank] using apart)

/-- A string is read if its first quote that is not escaped is the last one. -/
theorem reads_quoted {quote : Char} (isQuote : quote ∈ Text.quotes) {inside : List Char}
    (closes : ∀ after,
      Lexer.quotedLength quote false (inside ++ quote :: after) = .ok (inside.length + 1)) :
    Reads inPath ⟨.quoted, quote :: (inside ++ [quote])⟩ := by
  have safe : quote ∉ ['\x7b', '\x7d', '%', '#'] := by
    have both : quote = '"' ∨ quote = '\x27' := by simpa [Text.quotes] using isQuote
    rcases both with rfl | rfl <;> decide
  refine ⟨quote, _, rfl, safe, fun after _ => ?_⟩
  rw [List.append_assoc, List.singleton_append, Lexer.tokenAt_quoted inPath isQuote, closes]
  simp

/-- A sign that is an operator by itself is read. -/
theorem reads_sign {token : Token} {c : Char} (safe : c ∉ ['\x7b', '\x7d', '%', '#'])
    (operator : ∀ after, Lexer.operatorAt (c :: after) = some (token, 1)) :
    Reads inPath ⟨token, [c]⟩ := by
  refine ⟨c, [], rfl, safe, fun after _ => ?_⟩
  unfold Lexer.tokenAt
  rw [List.nil_append, operator]
  rfl

/-- A comparison operator is read. -/
theorem reads_relation (operator : Relation) : Reads inPath (relation operator) := by
  have single : ∀ (after : List Char) (token : Token) (c : Char),
      Text.begins (· = '=') after = false →
        (∀ d rest, d ≠ '=' → Lexer.operatorAt (c :: d :: rest) = some (token, 1)) →
        Lexer.operatorAt [c] = some (token, 1) →
          Lexer.operatorAt (c :: after) = some (token, 1) := by
    intro after token c ends next last
    cases after with
    | nil => exact last
    | cons d rest => exact next d rest (by simpa [Text.begins] using ends)
  cases operator with
  | equal | unequal | lessOrEqual | greaterOrEqual =>
    exact ⟨_, _, rfl, by decide, fun after _ => rfl⟩
  | less =>
    refine ⟨'<', [], rfl, by decide, fun after apart => ?_⟩
    have found := single after (.relation .less) '<' (by simpa [parted, relation] using apart)
      (fun d rest other => by simp [Lexer.operatorAt, other]) rfl
    unfold Lexer.tokenAt
    rw [List.nil_append, found]
    rfl
  | greater =>
    refine ⟨'>', [], rfl, by decide, fun after apart => ?_⟩
    have found := single after (.relation .greater) '>' (by simpa [parted, relation] using apart)
      (fun d rest other => by simp [Lexer.operatorAt, other]) rfl
    unfold Lexer.tokenAt
    rw [List.nil_append, found]
    rfl

/-- Every word is read where it stands, given what follows the last. -/
def Legible : Bool → List Word → List Char → Prop
  | _, [], _ => True
  | inPath, word :: rest, after =>
    Reads inPath word ∧ parted word.token (spell rest ++ after) = true ∧
      Legible (Lexer.continuesPath inPath word.token) rest after

/-- Whether a path goes on after some words. -/
def pathAfter (inPath : Bool) (words : List Word) : Bool :=
  words.foldl (fun inPath word => Lexer.continuesPath inPath word.token) inPath

/-- Words are read before others if both are. -/
theorem legible_append {before later : List Word} {after : List Char} :
    Legible inPath (before ++ later) after ↔
      Legible inPath before (spell later ++ after) ∧
        Legible (pathAfter inPath before) later after := by
  induction before generalizing inPath with
  | nil => simp [Legible, pathAfter]
  | cons word rest inductionHypothesis =>
    simp only [List.cons_append, Legible, inductionHypothesis, spell_append, List.append_assoc,
      and_assoc]
    rfl

/-- There are no more words than characters. -/
theorem Legible.length_le {words : List Word} {after : List Char}
    (legible : Legible inPath words after) : words.length ≤ (spell words).length := by
  induction words generalizing inPath with
  | nil => exact Nat.le_refl _
  | cons word rest inductionHypothesis =>
    obtain ⟨⟨c, tail, same, _⟩, _, later⟩ := legible
    have shorter := inductionHypothesis later
    simp only [List.length_cons, spell_cons, same, List.cons_append, List.length_append]
    omega

end Word

namespace Lexer

/-- A word is read in one step. -/
theorem step_of_reads {tag : OpenTag} {word : Word} {after : List Char} {position : Nat}
    (reads : Word.Reads tag.inPath word) (apart : Word.parted word.token after = true) :
    step ⟨.inside tag, position, word.text ++ after⟩ =
      .read [lexeme word.token position word.text]
        ⟨.inside { tag with inPath := continuesPath tag.inPath word.token },
          position + word.text.length, after⟩ := by
  obtain ⟨c, rest, same, safe, found⟩ := reads
  have outside : delimiterAt (c :: (rest ++ after)) = none := by
    simp only [List.mem_cons, List.not_mem_nil, or_false, not_or] at safe
    exact delimiterAt_of_ne _ safe.1 safe.2.1 safe.2.2.1 safe.2.2.2
  have cut : (c :: (rest ++ after)).take word.text.length = word.text ∧
      (c :: (rest ++ after)).drop word.text.length = after := by
    rw [← List.cons_append, ← same]
    exact ⟨List.take_left, List.drop_left⟩
  have shape : word.text ++ after = c :: (rest ++ after) := by rw [same, List.cons_append]
  rw [shape]
  simp only [step, insideStep, outside, found after apart, cut]

/-- Words are read one after the other. -/
theorem run_of_legible {words : List Word} {after : List Char} (tag : OpenTag)
    (legible : Word.Legible tag.inPath words after) (steps position : Nat) :
    run (words.length + steps) ⟨.inside tag, position, Word.spell words ++ after⟩ =
      (Word.layOut position words ++ (run steps
        ⟨.inside { tag with inPath := Word.pathAfter tag.inPath words },
          position + (Word.spell words).length, after⟩).1,
        (run steps ⟨.inside { tag with inPath := Word.pathAfter tag.inPath words },
          position + (Word.spell words).length, after⟩).2) := by
  induction words generalizing tag position with
  | nil => simp [Word.pathAfter, Word.layOut]
  | cons word rest inductionHypothesis =>
    obtain ⟨reads, apart, later⟩ := legible
    rw [List.length_cons, Nat.succ_add_eq_add_succ, Nat.add_succ, run, Word.spell_cons,
      List.append_assoc, step_of_reads reads apart]
    simp only [inductionHypothesis { tag with inPath := continuesPath tag.inPath word.token } later
      (position + word.text.length)]
    simp [Word.layOut, Word.pathAfter, Nat.add_assoc]

end Lexer

namespace Key

/-- A segment is an index, or has a name. -/
def named : Key → Bool
  | field name => Text.isName name
  | index .. => true

/-- A segment is kept with a numeral, or has a name. -/
def legible : Key → Bool
  | field name => Text.isName name
  | index _ written => (Text.readDigits written.toList).isSome

/-- As it is printed, a segment with a name or an index is legible. -/
theorem legible_respelled (key : Key) : key.respelled.legible = key.named := by
  cases key with
  | field name => rfl
  | index number written =>
    simp [respelled, legible, named, Text.decimal, Text.readDigits_toDigits]

end Key

namespace Path

/-- The names of a path are names. -/
def named (path : Path) : Bool := Text.isName path.head && path.keys.all Key.named

/-- The variable of a path is not spelled like a keyword. -/
def unreserved (path : Path) : Bool := (Keyword.ofWord? path.head).isNone

end Path

namespace Expr

/-- All names in the expression are names, and no filter is spelled like a keyword. -/
def named (expression : Expr) : Bool :=
  expression.obeys Path.named fun filter =>
    Text.isName filter && (Keyword.ofWord? filter).isNone

/-- No variable in the expression is spelled like a keyword. -/
def unreserved (expression : Expr) : Bool := expression.obeys Path.unreserved fun _ => true

end Expr

namespace Word

/-- What follows does not go on with a name. -/
def Clear (after : List Char) : Prop := Text.begins Text.isNameContinue after = false

/-- Where no name goes on, a word is set apart that is no blank and no comparison. -/
theorem Clear.parts {after : List Char} (clear : Clear after) {token : Token}
    (visible : token ≠ .blank) (plain : ∀ operator, token ≠ .relation operator) :
    parted token after = true := by
  unfold parted
  split <;> simp_all [Clear]

/-- Words that are read wherever no path goes on before them and no name after them, the
first of which is not blank. -/
structure Separate (words : List Word) : Prop where
  /-- They do not start with a blank. -/
  visible : ∃ c rest, spell words = c :: rest ∧ Text.isBlank c = false
  /-- They are read. -/
  legible : ∀ after, Clear after → Legible false words after

/-- A word that ends a path. -/
theorem legible_cons_of_ends {word : Word} {rest : List Word} {after : List Char} {inPath : Bool}
    (reads : Reads inPath word) (apart : parted word.token (spell rest ++ after) = true)
    (ends : Lexer.continuesPath inPath word.token = false)
    (legible : Legible false rest after) : Legible inPath (word :: rest) after :=
  ⟨reads, apart, ends.symm ▸ legible⟩

/-- Words in parentheses are separate if they are without. -/
theorem Separate.parens {words : List Word} (separate : Separate words) :
    Separate (opening :: (words ++ [closing])) := by
  refine ⟨⟨'(', _, rfl, by decide⟩, fun after _ => ?_⟩
  refine ⟨reads_sign (by decide) fun _ => rfl, rfl, ?_⟩
  refine legible_append.mpr ⟨separate.legible _ (by rfl), ?_⟩
  exact ⟨reads_sign (by decide) fun _ => rfl, rfl, trivial⟩

/-- So are those of an operand. -/
theorem Separate.enclose {words : List Word} (separate : Separate words)
    (asked rank : Grammar.Rank) : Separate (Grammar.Rank.enclose asked rank words) := by
  unfold Grammar.Rank.enclose
  split
  · exact separate
  · exact separate.parens

/-- A word that may end an expression is separate. -/
theorem separate_single {word : Word} (reads : Reads false word)
    (visible : ∃ c rest, word.text = c :: rest ∧ Text.isBlank c = false)
    (apart : ∀ after, Clear after → parted word.token after = true) : Separate [word] := by
  obtain ⟨c, rest, same, isVisible⟩ := visible
  refine ⟨⟨c, rest, by simp [same], isVisible⟩, fun after clear => ?_⟩
  exact ⟨reads, apart after clear, trivial⟩

end Word

/-- The words of a literal are separate. -/
theorem Literal.separate_words (value : Literal) : Word.Separate value.words := by
  cases value with
  | boolean value =>
    cases value with
    | true =>
      exact Word.separate_single (Word.reads_keyword _) ⟨'t', _, rfl, by decide⟩
        fun after clear => clear.parts nofun nofun
    | false =>
      exact Word.separate_single (Word.reads_keyword _) ⟨'f', _, rfl, by decide⟩
        fun after clear => clear.parts nofun nofun
  | integer number =>
    have digits : Word.Separate [⟨.number, Nat.toDigits 10 number.toInt.natAbs⟩] := by
      have read := Text.readDigits_toDigits number.toInt.natAbs
      refine Word.separate_single (Word.reads_digits read) ?_
        fun after clear => clear.parts nofun nofun
      obtain ⟨nonempty, all, _⟩ := Text.digits_of_readDigits read
      cases numeral : Nat.toDigits 10 number.toInt.natAbs with
      | nil => exact absurd numeral nonempty
      | cons c rest =>
        refine ⟨c, rest, rfl, ?_⟩
        have digit := all c (numeral ▸ List.mem_cons_self)
        refine Bool.eq_false_iff.mpr fun blank => ?_
        exact Text.not_mem_of_kind blank (by decide) (Text.mem_of_isDigit digit)
    simp only [Literal.words]
    split
    · refine ⟨⟨'-', _, rfl, by decide⟩, fun after clear => ?_⟩
      exact ⟨Word.reads_sign (by decide) fun _ => rfl, rfl, digits.legible after clear⟩
    · exact digits
  | text content =>
    have closes := (Text.quoted_escape content.toList).quotedLength_eq (by decide)
    exact Word.separate_single (Word.reads_quoted (by decide) closes) ⟨'"', _, rfl, by decide⟩
      fun _ _ => rfl

namespace Path

/-- Every segment of the path is legible, and its variable is a name. -/
def legible (path : Path) : Bool := Text.isName path.head && path.keys.all Key.legible

/-- The words of the later segments of a path are read. -/
theorem legible_originKeys {keys : List Key} (legible : keys.all Key.legible = true)
    {after : List Char} (clear : Word.Clear after) :
    Word.Legible true (originKeys keys) after ∧
      Word.Clear (Word.spell (originKeys keys) ++ after) := by
  induction keys with
  | nil => exact ⟨trivial, clear⟩
  | cons key rest inductionHypothesis =>
    simp only [List.all_cons, Bool.and_eq_true] at legible
    obtain ⟨later, clearLater⟩ := inductionHypothesis legible.2
    refine ⟨⟨Word.reads_sign (by decide) fun _ => rfl, rfl, ?_⟩, rfl⟩
    cases key with
    | field name =>
      exact ⟨Word.reads_name legible.1 (.inl rfl), clearLater.parts nofun nofun, later⟩
    | index number written =>
      obtain ⟨value, read⟩ := Option.isSome_iff_exists.mp legible.1
      exact ⟨Word.reads_digits read, clearLater.parts nofun nofun, later⟩

/-- The words that a path is kept with are separate. -/
theorem separate_origin {path : Path} (legible : path.legible = true)
    (unreserved : path.unreserved = true) : Word.Separate path.origin := by
  simp only [Path.legible, Bool.and_eq_true] at legible
  have reads : Word.Reads false (.name path.head) :=
    Word.reads_name legible.1 (.inr (Option.isNone_iff_eq_none.mp unreserved))
  refine ⟨?_, fun after clear => ?_⟩
  · have isName := legible.1
    unfold Text.isName at isName
    split at isName
    · cases isName
    · rename_i c rest same
      simp only [Bool.and_eq_true] at isName
      refine ⟨c, rest ++ Word.spell (originKeys path.keys), by simp [origin, Word.name, same], ?_⟩
      exact Text.isBlank_of_isNameStart isName.1
  · obtain ⟨later, clearLater⟩ := legible_originKeys legible.2 clear
    exact ⟨reads, clearLater.parts (by simp [Word.name]) (by simp [Word.name]), later⟩

/-- So are those that it is printed with. -/
theorem separate_words {path : Path} (named : path.named = true)
    (unreserved : path.unreserved = true) : Word.Separate path.words := by
  have legible : path.respelled.legible = true := by
    rw [← named]
    simp [Path.legible, Path.named, respelled, List.all_map, Function.comp_def,
      Key.legible_respelled]
  rw [← origin_respelled]
  exact separate_origin legible unreserved

end Path

section

open Word

/-- The words of a filter and its receiver are separate. -/
theorem Expr.separate_filtered {receiver : Expr} {filter : String} {argument : Option Expr}
    (inner : Separate receiver.words)
    (given : ∀ value, argument = some value → Separate value.words)
    (named : Text.isName filter = true) (unreserved : Keyword.ofWord? filter = none) :
    Separate (Expr.filtered receiver filter argument).words := by
  have enclosed := inner.enclose .filtered receiver.rank
  obtain ⟨c, rest, same, visible⟩ := enclosed.visible
  refine ⟨⟨c, _, by rw [Expr.words, spell_append, same]; rfl, visible⟩, fun after clear => ?_⟩
  refine legible_append.mpr ⟨enclosed.legible _ rfl, ?_⟩
  refine legible_cons_of_ends (reads_sign (by decide) fun _ => rfl) rfl rfl ?_
  have reads : Reads false (name filter) := reads_name named (.inr unreserved)
  cases argument with
  | none => exact ⟨reads, clear.parts nofun nofun, trivial⟩
  | some value =>
    refine ⟨reads, rfl, legible_cons_of_ends (reads_sign (by decide) fun _ => rfl) rfl rfl ?_⟩
    exact ((given value rfl).enclose .primary value.rank).legible after clear

/-- So are the words of operands with a word between blanks between them. -/
theorem separate_joined {before after : List Word} {word : Word} (first : Separate before)
    (second : Separate after) (reads : Reads false word)
    (visible : ∃ c rest, word.text = c :: rest ∧ Text.isBlank c = false)
    (apart : ∀ later, parted word.token (' ' :: later) = true)
    (ends : Lexer.continuesPath false word.token = false) :
    Separate (before ++ blank :: word :: blank :: after) := by
  obtain ⟨c, rest, same, firstVisible⟩ := first.visible
  obtain ⟨d, tail, sameWord, wordVisible⟩ := visible
  obtain ⟨e, later, sameAfter, secondVisible⟩ := second.visible
  refine ⟨⟨c, _, by rw [spell_append, same]; rfl, firstVisible⟩, fun text clear => ?_⟩
  refine legible_append.mpr ⟨first.legible _ rfl, ?_⟩
  refine legible_cons_of_ends reads_blank ?_ rfl ?_
  · simp [blank, parted, sameWord, Text.begins, wordVisible]
  refine legible_cons_of_ends reads (apart _) ends ?_
  refine legible_cons_of_ends reads_blank ?_ rfl (second.legible text clear)
  simp [blank, parted, sameAfter, Text.begins, secondVisible]

/-- So are those of what is negated. -/
theorem Expr.separate_negated {operand : Expr} (inner : Separate operand.words) :
    Separate (Expr.negated operand).words := by
  have enclosed := inner.enclose .negation operand.rank
  obtain ⟨c, rest, same, visible⟩ := enclosed.visible
  refine ⟨⟨'n', _, rfl, by decide⟩, fun text clear => ?_⟩
  refine ⟨reads_keyword _, rfl, legible_cons_of_ends reads_blank ?_ rfl
    (enclosed.legible text clear)⟩
  simp [blank, parted, same, Text.begins, visible]

/-- No name goes on with the later arguments of a call. -/
theorem clear_laterWords (rest : List Expr) {after : List Char} (clear : Clear after) :
    Clear (spell (laterWords rest) ++ after) := by
  cases rest with
  | nil => exact clear
  | cons first rest => rfl

/-- Their words are read. -/
theorem legible_laterWords {rest : List Expr}
    (separate : ∀ argument ∈ rest, Separate argument.words) {inPath : Bool} {after : List Char}
    (clear : Clear after) : Legible inPath (laterWords rest) after := by
  induction rest generalizing inPath with
  | nil => exact trivial
  | cons first rest inductionHypothesis =>
    have own := separate first (.head _)
    obtain ⟨c, tail, same, visible⟩ := own.visible
    refine legible_cons_of_ends (reads_sign (by decide) fun _ => rfl) rfl rfl
      (legible_cons_of_ends reads_blank ?_ rfl (legible_append.mpr ⟨?_, ?_⟩))
    · simp [blank, parted, same, Text.begins, visible]
    · exact own.legible _ (clear_laterWords rest clear)
    · exact inductionHypothesis fun argument mem => separate argument (.tail _ mem)

/-- The words of a call are separate. -/
theorem Expr.separate_call {path : Path} {arguments : List Expr} (named : Separate path.words)
    (separate : ∀ argument ∈ arguments, Separate argument.words) :
    Separate (Expr.call path arguments).words := by
  obtain ⟨c, rest, same, visible⟩ := named.visible
  refine ⟨⟨c, _, by rw [Expr.words, spell_append, same]; rfl, visible⟩, fun after clear => ?_⟩
  refine legible_append.mpr ⟨named.legible _ rfl, ?_⟩
  refine legible_cons_of_ends (reads_sign (by decide) fun _ => rfl) rfl rfl ?_
  refine legible_append.mpr ⟨?_,
    legible_cons_of_ends (reads_sign (by decide) fun _ => rfl) rfl rfl trivial⟩
  have closes : Clear (spell [closing] ++ after) := rfl
  cases arguments with
  | nil => exact trivial
  | cons first others =>
    exact legible_append.mpr
      ⟨(separate first (.head _)).legible _ (clear_laterWords others closes),
        legible_laterWords (fun argument mem => separate argument (.tail _ mem)) closes⟩

mutual

/-- The words of every expression are separate, if its names are names and none but those of
segments are spelled like keywords. -/
theorem Expr.separate_words (expression : Expr) (named : expression.named = true)
    (unreserved : expression.unreserved = true) : Separate expression.words := by
  cases expression with
  | literal value => exact value.separate_words
  | path path => exact path.separate_words named unreserved
  | call path arguments =>
    simp only [Expr.named, Expr.unreserved, Expr.obeys, Bool.and_eq_true] at named unreserved
    exact Expr.separate_call (path.separate_words named.1 unreserved.1)
      (separate_exprs arguments named.2 unreserved.2)
  | filtered receiver filter argument =>
    simp only [Expr.named, Expr.unreserved, Expr.obeys, Bool.and_eq_true,
      Option.isNone_iff_eq_none] at named unreserved
    exact Expr.separate_filtered (Expr.separate_words receiver named.1.1 unreserved.1.1)
      (separate_option argument named.2 unreserved.2) named.1.2.1 named.1.2.2
  | negated operand => exact Expr.separate_negated (Expr.separate_words operand named unreserved)
  | connected connective left right =>
    simp only [Expr.named, Expr.unreserved, Expr.obeys, Bool.and_eq_true] at named unreserved
    refine separate_joined ((Expr.separate_words left named.1 unreserved.1).enclose _ _)
      ((Expr.separate_words right named.2 unreserved.2).enclose _ _) (reads_keyword _) ?_
      (fun _ => rfl) rfl
    cases connective <;> exact ⟨_, _, rfl, by decide⟩
  | compared relation left right =>
    simp only [Expr.named, Expr.unreserved, Expr.obeys, Bool.and_eq_true] at named unreserved
    refine separate_joined ((Expr.separate_words left named.1 unreserved.1).enclose _ _)
      ((Expr.separate_words right named.2 unreserved.2).enclose _ _) (reads_relation _) ?_
      (fun _ => rfl) rfl
    cases relation <;> exact ⟨_, _, rfl, by decide⟩
termination_by structural expression

/-- So are those of all expressions of a list. -/
theorem separate_exprs (expressions : List Expr)
    (named : exprsObey Path.named
      (fun filter => Text.isName filter && (Keyword.ofWord? filter).isNone) expressions = true)
    (unreserved : exprsObey Path.unreserved (fun _ => true) expressions = true) :
    ∀ expression ∈ expressions, Separate expression.words := by
  cases expressions with
  | nil => exact fun _ mem => nomatch mem
  | cons first rest =>
    simp only [exprsObey, Bool.and_eq_true] at named unreserved
    intro expression mem
    rcases List.mem_cons.mp mem with same | later
    · exact same ▸ Expr.separate_words first named.1 unreserved.1
    · exact separate_exprs rest named.2 unreserved.2 expression later
termination_by structural expressions

/-- So are those of one that need not be there. -/
theorem separate_option (expression : Option Expr)
    (named : optionObeys Path.named
      (fun filter => Text.isName filter && (Keyword.ofWord? filter).isNone) expression = true)
    (unreserved : optionObeys Path.unreserved (fun _ => true) expression = true) :
    ∀ value, expression = some value → Separate value.words := by
  cases expression with
  | none => exact fun _ same => nomatch same
  | some expression =>
    intro value same
    exact Option.some.inj same ▸ Expr.separate_words expression named unreserved
termination_by structural expression

end

end

end Stencil
