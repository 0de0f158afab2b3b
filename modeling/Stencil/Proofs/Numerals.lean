import Mathlib
import Stencil.Filter.Basic
import Stencil.Proofs.Printing.Spelling

/-!
# Numerals carry integers

A number that is taken digit by digit, away from zero, leaves the words on the way only if it
is no word in the end. The decimal numeral of a word reads as the word again, also with white
space around it, and so a text with it counts as the word where integers are added. What they
add up to is a word or is not taken at all.
-/

namespace Stencil

namespace Text

/-- The number is a signed 64-bit word. -/
def IsWord (number : Int) : Prop := -2 ^ 63 ≤ number ∧ number ≤ 2 ^ 63 - 1

/-- Whether it is one can be decided. -/
instance decidableIsWord (number : Int) : Decidable (IsWord number) :=
  inferInstanceAs (Decidable (_ ∧ _))

/-- A word is taken as it is. -/
theorem toWord?_of_isWord {number : Int} (isWord : IsWord number) :
    toWord? number = some (Int64.ofInt number) := by
  have fits : fitsWord number = true := by
    simp only [fitsWord, Bool.and_eq_true, decide_eq_true_eq]
    unfold IsWord at isWord
    omega
  rw [toWord?, if_pos fits]

/-- What is no word is not taken. -/
theorem toWord?_of_not_isWord {number : Int} (beyond : ¬ IsWord number) :
    toWord? number = none := by
  have unfit : ¬ fitsWord number = true := by
    simp only [fitsWord, Bool.and_eq_true, decide_eq_true_eq]
    unfold IsWord at beyond
    omega
  rw [toWord?, if_neg unfit]

/-- A magnitude with its sign. -/
def signed (negative : Bool) (magnitude : Nat) : Int :=
  if negative then -(magnitude : Int) else magnitude

/-- The value of a digit. -/
def digitValue (c : Char) : Nat := c.toNat - '0'.toNat

/-- A number with one more digit, away from zero, as long as it stays among the words. -/
def extended? (negative : Bool) (value : Int64) (c : Char) : Option Int64 :=
  (toWord? (value.toInt * 10)).bind fun tenfold =>
    toWord? (if negative then tenfold.toInt - digitValue c else tenfold.toInt + digitValue c)

/-- A number that is taken digit by digit. -/
def accumulated? (negative : Bool) (digits : List Char) : Option Int64 :=
  digits.foldlM (extended? negative) 0

/-- No digit leads back among the words. -/
theorem isWord_of_extended {negative : Bool} {magnitude digit : Nat}
    (isWord : IsWord (signed negative (magnitude * 10 + digit))) :
    IsWord (signed negative magnitude * 10) ∧ IsWord (signed negative magnitude) := by
  unfold IsWord signed at *
  cases negative <;> simp only [Bool.false_eq_true, if_false, if_true] at * <;> omega

/-- A digit adds to the magnitude. -/
theorem signed_extended (negative : Bool) (magnitude digit : Nat) :
    (if negative then signed negative magnitude * 10 - digit
      else signed negative magnitude * 10 + digit) =
        signed negative (magnitude * 10 + digit) := by
  unfold signed
  cases negative <;> simp only [Bool.false_eq_true, if_false, if_true] <;> omega

/-- A number with one more digit is taken if it is a word. -/
theorem bind_extended? (negative : Bool) (magnitude : Nat) (c : Char) :
    ((toWord? (signed negative magnitude)).bind fun value => extended? negative value c) =
      toWord? (signed negative (magnitude * 10 + digitValue c)) := by
  have last : ∀ tenfold : Int64, tenfold.toInt = signed negative magnitude * 10 →
      toWord? (if negative then tenfold.toInt - digitValue c
        else tenfold.toInt + digitValue c) =
          toWord? (signed negative (magnitude * 10 + digitValue c)) := by
    intro tenfold same
    rw [same, signed_extended]
  by_cases whole : IsWord (signed negative (magnitude * 10 + digitValue c))
  · obtain ⟨tenfold, first⟩ := isWord_of_extended whole
    have taken := toWord?_of_isWord first
    have takenTenfold := toWord?_of_isWord tenfold
    rw [taken, Option.bind_some, extended?, toInt_of_toWord? _ _ taken, takenTenfold,
      Option.bind_some, last _ (toInt_of_toWord? _ _ takenTenfold)]
  · -- Wherever the number stops being a word, there is none in the end.
    cases taken : toWord? (signed negative magnitude) with
    | none => rw [Option.bind_none, toWord?_of_not_isWord whole]
    | some value =>
      have same : value.toInt = signed negative magnitude := toInt_of_toWord? _ _ taken
      rw [Option.bind_some, extended?, same]
      cases takenTenfold : toWord? (signed negative magnitude * 10) with
      | none => rw [Option.bind_none, toWord?_of_not_isWord whole]
      | some tenfold => rw [Option.bind_some, last _ (toInt_of_toWord? _ _ takenTenfold)]

/-- Taken digit by digit a number is what it is as a whole. -/
theorem accumulated?_eq (negative : Bool) (digits : List Char) :
    accumulated? negative digits = toWord? (signed negative (digitsValue digits)) := by
  have onward : ∀ magnitude : Nat,
      (toWord? (signed negative magnitude)).bind
          (fun value => digits.foldlM (extended? negative) value) =
        toWord? (signed negative
          (digits.foldl (fun value c => value * 10 + (c.toNat - '0'.toNat)) magnitude)) := by
    induction digits with
    | nil =>
      intro magnitude
      exact Option.bind_fun_some _
    | cons c rest inductionHypothesis =>
      intro magnitude
      have first := bind_extended? negative magnitude c
      rw [List.foldl_cons, ← inductionHypothesis, ← digitValue, ← first, Option.bind_assoc]
      rfl
  have start : toWord? (signed negative 0) = some 0 := by cases negative <;> rfl
  have whole := onward 0
  rwa [start] at whole

/-- The decimal numeral of a word is that of the integer. -/
theorem decimalWord_eq (word : Int64) : decimalWord word = toString word.toInt := by
  unfold decimalWord decimal
  cases number : word.toInt with
  | ofNat magnitude => rfl
  | negSucc magnitude =>
    rw [if_pos (Int.negSucc_lt_zero magnitude)]
    rfl

/-- Its characters are digits behind a minus sign or not. -/
theorem toList_decimalWord (word : Int64) :
    (decimalWord word).toList =
      if word.toInt < 0 then '-' :: Nat.toDigits 10 word.toInt.natAbs
      else Nat.toDigits 10 word.toInt.natAbs := by
  unfold decimalWord decimal
  split <;> simp

/-- A digit is no white space. -/
theorem isWhiteSpace_of_isDigit {c : Char} (digit : isDigit c = true) :
    isWhiteSpace c = false := by
  have none : tenDigits.all (fun c => !isWhiteSpace c) = true := by decide
  simpa using List.all_eq_true.mp none c (mem_of_isDigit digit)

/-- There is no white space in a numeral, and it is not empty. -/
theorem visible_decimalWord (word : Int64) :
    (decimalWord word).toList ≠ [] ∧
      ∀ c ∈ (decimalWord word).toList, isWhiteSpace c = false := by
  obtain ⟨some, digits, -⟩ := digits_of_readDigits (readDigits_toDigits word.toInt.natAbs)
  have visible : ∀ c ∈ Nat.toDigits 10 word.toInt.natAbs, isWhiteSpace c = false :=
    fun c member => isWhiteSpace_of_isDigit (digits c member)
  rw [toList_decimalWord]
  split
  · exact ⟨List.cons_ne_nil _ _, List.forall_mem_cons.mpr ⟨by decide, visible⟩⟩
  · exact ⟨some, visible⟩

/-- It reads as the word. -/
theorem readInteger_decimalWord (word : Int64) :
    readInteger (decimalWord word).toList = some word.toInt := by
  have read := readDigits_toDigits word.toInt.natAbs
  obtain ⟨some, digits, -⟩ := digits_of_readDigits read
  rw [toList_decimalWord]
  by_cases negative : word.toInt < 0
  · have same : -((word.toInt.natAbs : Nat) : Int) = word.toInt := by omega
    rw [if_pos negative, readInteger, read]
    exact congrArg Option.some same
  · have same : ((word.toInt.natAbs : Nat) : Int) = word.toInt := by omega
    rw [if_neg negative]
    -- No digit is a sign.
    unfold readInteger
    split
    · rename_i other numeral
      exact absurd (digits '-' (numeral ▸ List.mem_cons_self)) (by decide)
    · rename_i other numeral
      exact absurd (digits '+' (numeral ▸ List.mem_cons_self)) (by decide)
    · rw [read]
      exact congrArg Option.some same

/-- White space around a text without any is trimmed. -/
theorem trim_append {before text after : List Char}
    (blankBefore : ∀ c ∈ before, isWhiteSpace c = true)
    (blankAfter : ∀ c ∈ after, isWhiteSpace c = true) (some : text ≠ [])
    (visible : ∀ c ∈ text, isWhiteSpace c = false) : trim (before ++ text ++ after) = text := by
  have stops : ∀ {text : List Char} (rest : List Char), text ≠ [] →
      (∀ c ∈ text, isWhiteSpace c = false) →
        (text ++ rest).dropWhile isWhiteSpace = text ++ rest := by
    intro text rest some visible
    obtain ⟨c, others, rfl⟩ := List.exists_cons_of_ne_nil some
    rw [List.cons_append, List.dropWhile_cons_of_neg (by simp [visible c])]
  rw [trim, List.append_assoc, List.dropWhile_append_of_pos blankBefore, stops after some visible,
    List.reverse_append, List.dropWhile_append_of_pos (by simpa using blankAfter)]
  have whole := stops [] (List.reverse_ne_nil_iff.mpr some) (by simpa using visible)
  rw [List.append_nil] at whole
  rw [whole, List.reverse_reverse]

/-- With white space around it the numeral of a word reads as the word. -/
theorem readWord_around {before after : List Char} (word : Int64)
    (blankBefore : ∀ c ∈ before, isWhiteSpace c = true)
    (blankAfter : ∀ c ∈ after, isWhiteSpace c = true) :
    readWord (String.ofList before ++ decimalWord word ++ String.ofList after) = some word := by
  obtain ⟨some, visible⟩ := visible_decimalWord word
  have characters : (String.ofList before ++ decimalWord word ++ String.ofList after).toList =
      before ++ (decimalWord word).toList ++ after := by simp
  rw [readWord, characters, trim_append blankBefore blankAfter some visible,
    readInteger_decimalWord, Option.bind_some]
  exact toWord?_toInt word

end Text

namespace Filter

/-- The filter that is known as adding adds the argument that it is given. -/
theorem exists_adder : ∃ filter, builtins.get? "add" = some filter ∧
    ∀ value argument, filter.apply value (some argument) = pure (add value argument) := by
  refine ⟨withArgument add, Named.get?_ofPairs_of_mem ?_ (by simp), fun _ _ => rfl⟩
  simp only [List.map_cons, List.map_nil]
  decide

variable {value argument : Value} {first second : Int64}

/-- What counts as an integer is something. -/
theorem isNone_of_integerLike (isInteger : value.integerLike? = some first) :
    value.isNone = false := by
  obtain ⟨datum, raw⟩ := value
  cases datum with
  | none => cases isInteger
  | _ => rfl

variable (isInteger : value.integerLike? = some first)
  (isIntegerToo : argument.integerLike? = some second)
include isInteger isIntegerToo

/-- Integers are added if their sum is a word. -/
theorem add_of_isWord (isWord : Text.IsWord (first.toInt + second.toInt)) :
    ∃ sum, add value argument = .integer sum ∧ sum.toInt = first.toInt + second.toInt := by
  have taken := Text.toWord?_of_isWord isWord
  refine ⟨_, ?_, Text.toInt_of_toWord? _ _ taken⟩
  simp only [add, isNone_of_integerLike isInteger, isInteger, isIntegerToo, taken]
  rfl

/-- If it is none then texts are put one after the other. -/
theorem add_of_texts (beyond : ¬ Text.IsWord (first.toInt + second.toInt)) {text other : String}
    (isText : value.datum = .text text) (isTextToo : argument.datum = .text other) :
    add value argument = .text (text ++ other) := by
  simp only [add, isNone_of_integerLike isInteger, isInteger, isIntegerToo,
    Text.toWord?_of_not_isWord beyond, isText, isTextToo]
  rfl

/-- Anything else is left as it is. -/
theorem add_of_others (beyond : ¬ Text.IsWord (first.toInt + second.toInt))
    (others : ∀ text other, value.datum = .text text → argument.datum ≠ .text other) :
    add value argument = value := by
  simp only [add, isNone_of_integerLike isInteger, isInteger, isIntegerToo,
    Text.toWord?_of_not_isWord beyond, Bool.false_eq_true, if_false]

end Filter

end Stencil
