import Stencil.Proofs.Addressing

/-!
# Fields of a record by their names

A segment of a dotted name, or of a path, addresses the field of a record that is named by the
very characters of the segment, unless it is a numeral with a sign or with zeros in front. Such
a numeral is taken for the index that it is a numeral of, and addresses the field that is named
by the numeral without them. In a path, digits that no index can be written with are a flaw.
-/

namespace Stencil

namespace Text

/-- A digit is written for its value. -/
theorem digitChar_of_isDigit {c : Char} (digit : isDigit c = true) :
    c.toNat - '0'.toNat < 10 ∧ Nat.digitChar (c.toNat - '0'.toNat) = c := by
  simp only [isDigit, Bool.and_eq_true, decide_eq_true_eq] at digit
  have low : 48 ≤ c.toNat := digit.1
  have high : c.toNat ≤ 57 := digit.2
  have zero : '0'.toNat = 48 := rfl
  have small : c.toNat - '0'.toNat < 10 := by omega
  refine ⟨small, Char.toNat_inj.mp ?_⟩
  rw [Nat.toNat_digitChar_of_lt_ten small]
  omega

/-- Further digits behind the numeral of a number that is not zero are the numeral of what all
of them read as. -/
theorem toDigits_append_digits {digits : List Char} (all : ∀ c ∈ digits, isDigit c = true)
    {begun : Nat} (positive : 0 < begun) :
    Nat.toDigits 10 begun ++ digits = Nat.toDigits 10
      (digits.foldl (fun value c => value * 10 + (c.toNat - '0'.toNat)) begun) := by
  -- The induction is on the digits still to be read; a number that was begun has no leading zero.
  induction digits generalizing begun with
  | nil => simp
  | cons c rest inductionHypothesis =>
    obtain ⟨digit, others⟩ := List.forall_mem_cons.mp all
    obtain ⟨small, written⟩ := digitChar_of_isDigit digit
    have onward : Nat.toDigits 10 begun ++ [c] =
        Nat.toDigits 10 (begun * 10 + (c.toNat - '0'.toNat)) := by
      have joined := Nat.toDigits_append_toDigits (by decide) positive small
      rwa [Nat.toDigits_of_lt_base small, written, Nat.mul_comm] at joined
    rw [List.foldl_cons, ← inductionHypothesis others (by omega), ← onward, List.append_assoc,
      List.singleton_append]

/-- Digits of which the first is no zero, or which are no more than one, are the numeral of what
they read as. -/
theorem toDigits_of_readDigits {digits : List Char} {number : Nat}
    (read : readDigits digits = some number)
    (plain : digits.head? = some '0' → digits.length = 1) : Nat.toDigits 10 number = digits := by
  obtain ⟨nonempty, all, rfl⟩ := digits_of_readDigits read
  cases digits with
  | nil => exact absurd rfl nonempty
  | cons c rest =>
    obtain ⟨digit, others⟩ := List.forall_mem_cons.mp all
    obtain ⟨small, written⟩ := digitChar_of_isDigit digit
    have begins : digitsValue (c :: rest) = rest.foldl
        (fun value c => value * 10 + (c.toNat - '0'.toNat)) (c.toNat - '0'.toNat) := by
      simp [digitsValue]
    rw [begins]
    rcases Nat.eq_zero_or_pos (c.toNat - '0'.toNat) with zero | positive
    · have isZero : c = '0' := by
        rw [← written, zero]
        rfl
      have alone : rest = [] := by simpa [isZero] using plain
      rw [alone, List.foldl_nil, Nat.toDigits_of_lt_base small, written]
    · rw [← toDigits_append_digits others positive, Nat.toDigits_of_lt_base small, written]
      rfl

/-- The numeral of a number that is not zero begins with no zero. -/
theorem head_toDigits_ne_zero {number : Nat} (positive : 0 < number) :
    (Nat.toDigits 10 number).head? ≠ some '0' := by
  induction number using Nat.strongRecOn with
  | ind number inductionHypothesis =>
    by_cases small : number < 10
    · rw [Nat.toDigits_of_lt_base small, List.head?_cons]
      intro zero
      have written := Nat.toNat_digitChar_of_lt_ten small
      rw [Option.some.inj zero] at written
      exact absurd (Nat.left_eq_add.mp written) (by omega)
    · have remains : 0 < number / 10 := by omega
      have parts := Nat.toDigits_append_toDigits (by decide) remains
        (Nat.mod_lt number (by decide : 10 > 0))
      rw [Nat.div_add_mod] at parts
      rw [← parts, List.head?_append_of_ne_nil _ Nat.toDigits_ne_nil]
      exact inductionHypothesis (number / 10) (by omega) remains

/-- The index that a segment is a numeral of, with a sign or with zeros in front. -/
def looseIndex? (segment : String) : Option Nat :=
  if segment.toList.head? = some '+' ∨
      (segment.toList.head? = some '0' ∧ segment.length ≠ 1) then
    readIndex segment
  else none

/-- The name of the field that a segment addresses. -/
def addressed (segment : String) : String := (looseIndex? segment).elim segment decimal

/-- The field is named by the index, if the segment is read as one. -/
theorem addressed_eq (segment : String) :
    addressed segment = (readIndex segment).elim segment decimal := by
  unfold addressed looseIndex?
  split
  · rfl
  · rename_i tight
    rw [not_or, not_and, not_not] at tight
    rw [readIndex_of_unsigned tight.1]
    cases read : readDigits segment.toList with
    | none => rfl
    | some number =>
      rw [Option.filter_some]
      split
      · have same :=
          toDigits_of_readDigits read fun zero => String.length_toList.trans (tight.2 zero)
        simp [decimal, same]
      · rfl

/-- It is named by the segment itself just if that is no numeral with a sign or zeros in front. -/
theorem addressed_eq_self_iff (segment : String) :
    addressed segment = segment ↔ looseIndex? segment = none := by
  constructor
  · intro same
    cases loose : looseIndex? segment with
    | none => rfl
    | some index =>
      rw [addressed, loose] at same
      have written : segment.toList = Nat.toDigits 10 index := by
        rw [← same]
        simp [decimal]
      unfold looseIndex? at loose
      split at loose
      · rename_i inFront
        rcases inFront with sign | ⟨zero, several⟩
        · obtain ⟨_, all, _⟩ := digits_of_readDigits (readDigits_toDigits index)
          rw [← written] at all
          exact absurd (all '+' (List.mem_of_head? sign)) (by decide)
        · rcases Nat.eq_zero_or_pos index with rfl | positive
          · exact absurd (by rw [← String.length_toList, written]; rfl) several
          · exact absurd (written ▸ zero) (head_toDigits_ne_zero positive)
      · cases loose
  · intro tight
    rw [addressed, tight]
    rfl

end Text

namespace Lexer

/-- A run that is as long as the text is all of it. -/
theorem all_of_length_takeWhile {kind : Char → Bool} {text : List Char}
    (whole : (text.takeWhile kind).length = text.length) : ∀ c ∈ text, kind c = true := by
  have same := (List.takeWhile_prefix kind).eq_of_length whole
  exact List.takeWhile_eq_self_iff.mp same

/-- Where a path goes on, the text is read as one lexeme of the token, and that is a segment. -/
def ReadsSegment (segment : String) (token : Token) : Prop :=
  (token = .name ∨ token = .index) ∧ ∃ c rest, segment.toList = c :: rest ∧
    tokenAt true c rest = .ok (token, segment.length)

/-- An operator is no segment. -/
theorem operatorAt_ne_segment {text : List Char} {found : Token × Nat}
    (operator : operatorAt text = some found) : found.1 ≠ .name ∧ found.1 ≠ .index := by
  unfold operatorAt at operator
  split at operator <;> cases operator <;> decide

/-- Then it is a name, or made of digits. -/
theorem ReadsSegment.cases {segment : String} {token : Token}
    (reads : ReadsSegment segment token) :
    (token = .name ∧ Text.isName segment = true) ∨
      (token = .index ∧
        Text.readDigits segment.toList = some (Text.digitsValue segment.toList)) := by
  obtain ⟨isSegment, c, rest, same, read⟩ := reads
  have size : segment.length = rest.length + 1 := by
    rw [← String.length_toList, same, List.length_cons]
  rw [size] at read
  unfold tokenAt at read
  split at read
  · rename_i found operator
    obtain rfl := Except.ok.inj read
    obtain ⟨noName, noIndex⟩ := operatorAt_ne_segment operator
    exact absurd isSegment (not_or.mpr ⟨noName, noIndex⟩)
  split at read
  · split at read
    · obtain ⟨rfl, -⟩ := Prod.mk.inj (Except.ok.inj read)
      simp at isSegment
    · cases read
  split at read
  · rename_i digit
    obtain ⟨rfl, whole⟩ := Prod.mk.inj (Except.ok.inj read)
    have all := all_of_length_takeWhile (Nat.succ.inj whole)
    exact .inr ⟨rfl, by simpa [Text.readDigits, same, digit] using all⟩
  split at read
  · obtain ⟨rfl, -⟩ := Prod.mk.inj (Except.ok.inj read)
    simp at isSegment
  split at read
  · rename_i starts
    obtain ⟨rfl, whole⟩ := Prod.mk.inj (Except.ok.inj read)
    have all := all_of_length_takeWhile (Nat.succ.inj whole)
    exact .inl ⟨rfl, by simpa [Text.isName, same, starts] using all⟩
  · cases read

end Lexer

section

open Expr.Parser Stencil.Parser

/-- A segment that is no index that can be written is a flaw where a path goes on with it. -/
theorem Expr.Parser.path_of_indexRange {setting : Setting} {dot segment : Lexeme}
    (dotted : dot.token = .dot) (isIndex : segment.token = .index)
    (beyond : Text.wordCount ≤ Text.digitsValue segment.text.toList) (first : Lexeme)
    (rest : List Lexeme) :
    path first setting (dot :: segment :: rest) = .error ⟨.indexRange, segment.span⟩ := by
  have read : key setting (segment :: rest) = .error ⟨.indexRange, segment.span⟩ := by
    rw [key, bind_of_ok (next_cons _ _)]
    simp only [isIndex, if_true, if_neg (Nat.not_lt.mpr beyond)]
    rfl
  have begins : takes .dot setting (dot :: segment :: rest) = .ok (true, segment :: rest) := by
    rw [takes_cons, if_pos dotted]
  have stepped : keyStep [] setting (dot :: segment :: rest) =
      .error ⟨.indexRange, segment.span⟩ := by
    rw [keyStep, bind_of_ok begins]
    exact bind_of_error _ read
  rw [path_eq]
  exact bind_of_error _ (bind_of_error _ stepped)

end

/-- Digits that no index can be written with are a flaw behind the dot of a value. -/
theorem Template.compile_of_indexRange {holder field : String}
    (isName : Text.isName holder = true) (unreserved : Keyword.ofWord? holder = none)
    (read : Text.readDigits field.toList = some (Text.digitsValue field.toList))
    (beyond : Text.wordCount ≤ Text.digitsValue field.toList)
    (arity? : String → Option Arity) (name : Option String) :
    compile arity? name (Source.hole (dotted holder [field])) =
      .error ⟨.indexRange, ⟨4 + holder.length, 4 + holder.length + field.length⟩⟩ := by
  have same : Key.ofSegment field = .index (Text.digitsValue field.toList) field := by
    rw [Key.ofSegment, read]
  have legible : (Path.ofSegments holder [field]).legible = true := by
    simp [Path.legible, Path.ofSegments, isName, same, Key.legible, read]
  have separate := Path.separate_origin legible (Option.isNone_iff_eq_none.mpr unreserved)
  obtain ⟨flawless, position, shown⟩ := separate.lexemes_hole
  have words : Word.shown 3 (Path.ofSegments holder [field]).origin =
      [Lexer.lexeme .name 3 holder.toList, Lexer.lexeme .dot (3 + holder.length) ['.'],
        Lexer.lexeme .index (4 + holder.length) field.toList] := by
    have origin : (Path.ofSegments holder [field]).origin =
        [.name holder, ⟨.dot, ['.']⟩, ⟨.index, field.toList⟩] := by
      simp [Path.origin, Path.originKeys, Path.ofSegments, same, Key.origin]
    have dot : 3 + holder.length + 1 = 4 + holder.length := by omega
    rw [origin, Word.shown_cons (by simp [Word.name]), Word.shown_cons (by simp),
      Word.shown_cons (by simp)]
    simp [Word.name, String.length_toList, dot]
  rw [Path.spell_origin_ofSegments] at shown flawless
  rw [words] at shown
  have flawed : pieces arity? (Source.hole (dotted holder [field])) =
      ([], some ⟨.indexRange, ⟨4 + holder.length, 4 + holder.length + field.length⟩⟩) := by
    unfold pieces
    simp only [shown]
    refine Piece.parseAll_of_error (Expr.parse_of_primary (by simp [Lexer.lexeme]) fun whole => ?_)
    rw [Expr.Parser.primary, Parser.bind_of_ok (Parser.next_cons _ _)]
    refine Parser.bind_of_error _ ?_
    refine (Expr.Parser.path_of_indexRange rfl rfl (by simpa [Lexer.lexeme] using beyond)
      _ _).trans ?_
    simp [Lexer.lexeme, String.length_toList]
  rw [compile, flawed]
  rfl

/-- A name and one segment, with a dot between them. -/
theorem dotted_singleton (holder field : String) :
    dotted holder [field] = holder ++ "." ++ field := by
  apply String.toList_injective
  simp [dotted, joinWith]

section

variable {context : Context} {holder field : String} {record : Value} {mark : Nat}
  {listed : Option (List String)} {entries : List (String × Value)}

/-- From a record, a segment leads to the field that it addresses. -/
theorem Context.leadFrom_of_record (isRecord : record.datum = .record mark listed entries)
    (field : String) :
    leadFrom record field = some (Value.ofRecord entries (Text.addressed field)) := by
  rw [Text.addressed_eq, leadFrom]
  cases Text.readIndex field with
  | some index => simp [Value.element?, isRecord]
  | none => simp [Value.field?, isRecord]

/-- A record is not called. -/
theorem Value.invoked_of_record (isRecord : record.datum = .record mark listed entries) :
    record.invoked = pure record := by
  unfold invoked
  simp [isRecord]

/-- One segment is followed to the field that it addresses, which is called. -/
theorem Context.follow_of_record (isRecord : record.datum = .record mark listed entries)
    (field : String) :
    follow record [field] = (Value.ofRecord entries (Text.addressed field)).invoked := by
  have nothing : ∀ value, follow value [] = pure value := fun _ => rfl
  rw [follow_cons, leadFrom_of_record isRecord]
  simp only [nothing, bind_pure]

/-- So does the look-up of a dotted name. -/
theorem Context.get_of_record (bound : context.find? holder = some record)
    (isRecord : record.datum = .record mark listed entries)
    (plain : ∀ c ∈ holder.toList, c ≠ '.') (dotless : ∀ c ∈ field.toList, c ≠ '.') :
    context.get (dotted holder [field]) =
      (Value.ofRecord entries (Text.addressed field)).invoked := by
  have segments : (splitOn (· = '.') (dotted holder [field]).toList).map String.ofList =
      [holder, field] := by
    have free : ∀ run ∈ [holder.toList, field.toList], ∀ c ∈ run, decide (c = '.') = false := by
      simpa using ⟨plain, dotless⟩
    rw [dotted, String.toList_ofList, List.map_cons, List.map_singleton,
      splitOn_joinWith (by decide) (by simp) free]
    simp
  rw [get, segments]
  simp only [bound, Value.invoked_of_record isRecord, pure_bind, follow_of_record isRecord]

/-- And so does a path of a name and a segment. -/
theorem Path.evaluate_of_record (bound : context.find? holder = some record)
    (isRecord : record.datum = .record mark listed entries)
    (isSegment : Text.isSegment field = true) (filters : Named Filter) :
    (Expr.path (Path.ofSegments holder [field])).evaluate filters context =
      (Value.ofRecord entries (Text.addressed field)).invoked := by
  have resolved : (Path.ofSegments holder [field]).resolve context =
      pure (Value.ofRecord entries (Text.addressed field)) := by
    simp only [resolve, ofSegments, bound, List.map_cons, List.map_nil, follow,
      Value.invoked_of_record isRecord, pure_bind, Key.leadFrom_ofSegment isSegment,
      Context.leadFrom_of_record isRecord]
  simp only [Expr.evaluate, resolved, pure_bind]

/-- Segments address the fields of a record by their text, but for numerals. Let a name be bound
to a record, and look up what is made of it, a dot and a text without dots. Then the field is
called that is named by the text, unless the text is a numeral of an index with a sign or with
zeros in front: then it is the field that is named by the numeral without them. A path in a
template calls the same field, wherever the text is read as one segment; only if it consists of
digits that no index can be written with, the template does not compile. -/
theorem fields_addressed_by_text (bound : context.find? holder = some record)
    (isRecord : record.datum = .record mark listed entries)
    (plain : ∀ c ∈ holder.toList, c ≠ '.') (dotless : ∀ c ∈ field.toList, c ≠ '.') :
    (Text.addressed field = field ↔ Text.looseIndex? field = none) ∧
    context.get (holder ++ "." ++ field) =
      (Value.ofRecord entries (Text.addressed field)).invoked ∧
    (Text.isName holder = true → Keyword.ofWord? holder = none →
      ∀ token, Lexer.ReadsSegment field token →
        ∀ (arity? : String → Option Arity) (name : Option String),
          (token = .name ∨ Text.digitsValue field.toList < Text.wordCount →
            Template.compile arity? name (Source.hole (holder ++ "." ++ field)) =
              .ok ⟨name, Source.hole (holder ++ "." ++ field),
                [.output (.path (Path.ofSegments holder [field]))], [], false⟩ ∧
            ∀ filters : Named Filter,
              (Expr.path (Path.ofSegments holder [field])).evaluate filters context =
                (Value.ofRecord entries (Text.addressed field)).invoked) ∧
          (token = .index → Text.wordCount ≤ Text.digitsValue field.toList →
            Template.compile arity? name (Source.hole (holder ++ "." ++ field)) =
              .error ⟨.indexRange,
                ⟨4 + holder.length, 4 + holder.length + field.length⟩⟩)) := by
  rw [← dotted_singleton]
  refine ⟨Text.addressed_eq_self_iff field, Context.get_of_record bound isRecord plain dotless, ?_⟩
  intro isName unreserved token reads arity? name
  constructor
  · intro fits
    have isSegment : Text.isSegment field = true := by
      rcases reads.cases with ⟨_, named⟩ | ⟨index, read⟩
      · simp [Text.isSegment, named]
      · have small : Text.digitsValue field.toList < Text.wordCount :=
          fits.resolve_left (by simp [index])
        simp [Text.isSegment, read, small]
    exact ⟨Template.compile_dotted isName unreserved (by simpa using isSegment) arity? name,
      Path.evaluate_of_record bound isRecord isSegment⟩
  · intro index beyond
    rcases reads.cases with ⟨isWord, _⟩ | ⟨_, read⟩
    · rw [index] at isWord
      cases isWord
    · exact Template.compile_of_indexRange isName unreserved read beyond arity? name

/-- Two fields that are named by one number, in front of one of which there are zeros. -/
def agents : List (String × Value) :=
  [("007", .plain (.text "bond")), ("7", .plain (.text "seven"))]

/-- A name that is bound to a record of them. -/
def agency : Context := .ofEntries [("v", .plain (.record 0 none agents))]

/-- The field with zeros in front is there, but neither the look-up of the dotted name nor the
path that it compiles to comes to it. -/
theorem fields_missed_agency :
    agency.find? "v" = some (.plain (.record 0 none agents)) ∧
      (Value.ofRecord agents "007").invoked Host.empty = (.plain (.text "bond"), Host.empty) ∧
      (agency.get "v.007" Host.empty).1 ≠ .plain (.text "bond") ∧
      Lexer.ReadsSegment "007" .index ∧
      (Template.compile (fun _ => none) none (Source.hole "v.007")).toOption.map Template.body =
        some [.output (.path (Path.ofSegments "v" ["007"]))] ∧
      ((Expr.path (Path.ofSegments "v" ["007"])).evaluate [] agency Host.empty).1 ≠
        .plain (.text "bond") := by
  have looked : (agency.get "v.007" Host.empty).1 = .plain (.text "seven") := by cbv
  have evaluated : ((Expr.path (Path.ofSegments "v" ["007"])).evaluate [] agency Host.empty).1 =
      .plain (.text "seven") := by rfl
  have reads : Lexer.ReadsSegment "007" .index := ⟨.inr rfl, _, _, rfl, by decide⟩
  exact ⟨rfl, rfl, by simp [looked, Value.plain], reads, by cbv, by simp [evaluated, Value.plain]⟩

/-- Both come to the field that is named by the number. -/
theorem fields_addressed_agency :
    Text.isName "v" = true ∧ Keyword.ofWord? "v" = none ∧ Lexer.ReadsSegment "007" .index ∧
      Text.looseIndex? "007" = some 7 ∧ Text.addressed "007" = "7" ∧
      agency.get "v.007" = (Value.ofRecord agents "7").invoked ∧
      ∃ template, Template.compile (fun _ => none) none (Source.hole "v.007") = .ok template ∧
        template.body = [.output (.path (Path.ofSegments "v" ["007"]))] ∧
        (Expr.path (Path.ofSegments "v" ["007"])).evaluate [] agency =
          (Value.ofRecord agents "7").invoked := by
  have bound : agency.find? "v" = some (.plain (.record 0 none agents)) := rfl
  have isName : Text.isName "v" = true := by decide
  have unreserved : Keyword.ofWord? "v" = none := by decide
  have reads : Lexer.ReadsSegment "007" .index := ⟨.inr rfl, _, _, rfl, by decide⟩
  have fits : Text.digitsValue "007".toList < Text.wordCount := by decide
  have loose : Text.looseIndex? "007" = some 7 := by decide
  have addressed : Text.addressed "007" = "7" := by decide
  have written : "v" ++ "." ++ "007" = "v.007" := by decide
  have plain : ∀ c ∈ "v".toList, c ≠ '.' := by simp
  have dotless : ∀ c ∈ "007".toList, c ≠ '.' := by simp
  obtain ⟨-, looked, onward⟩ := fields_addressed_by_text bound rfl plain dotless
  obtain ⟨compiled, evaluated⟩ :=
    (onward isName unreserved .index reads (fun _ => none) none).1 (.inr fits)
  rw [written] at looked compiled
  rw [addressed] at looked evaluated
  exact ⟨isName, unreserved, reads, loose, addressed, looked, _, compiled, rfl, evaluated []⟩

end

end Stencil
