import Stencil.Proofs.Lexing.Tracking
import Stencil.Proofs.Parsing
import Stencil.Rendering

/-!
# Lexing loses only lone lines

The lexemes of a template account for it byte by byte: in order, each on whole characters, and
what none of them covers was passed over on a line that a tag has for itself. Nothing else is
dropped, and nothing is read twice. So a template without any opening delimiter is one text,
and rendering it writes that text.
-/

namespace Stencil

/-- How many bytes the first characters of a source take, which is where the next one begins. -/
def byteOffset (source : List Char) (position : Nat) : Nat :=
  (String.ofList (source.take position)).utf8ByteSize

/-- Every character begins at a position that is valid in the source. -/
theorem byteOffset_isValid (source : List Char) (position : Nat) :
    String.Pos.Raw.IsValid (String.ofList source) ⟨byteOffset source position⟩ := by
  apply String.Pos.Raw.isValid_iff_exists_append.mpr
  refine ⟨String.ofList (source.take position), String.ofList (source.drop position), ?_, rfl⟩
  rw [← String.ofList_append, List.take_append_drop]

/-- The character at a position takes the bytes up to the next one. -/
theorem byteOffset_succ {source : List Char} {position : Nat} {c : Char}
    (found : source[position]? = some c) :
    byteOffset source (position + 1) = byteOffset source position + c.utf8Size := by
  simp only [byteOffset, List.take_add_one, found, Option.toList_some, String.ofList_append,
    String.utf8ByteSize_append]
  simp

/-- Later characters begin later. -/
theorem byteOffset_lt {source : List Char} {first last : Nat} (before : first < last)
    (inside : last ≤ source.length) : byteOffset source first < byteOffset source last := by
  induction last with
  | zero => omega
  | succ last inductionHypothesis =>
    have found : source[last]? = some source[last] := List.getElem?_eq_getElem (by omega)
    have size : 0 < (source[last]).utf8Size := Char.utf8Size_pos _
    rw [byteOffset_succ found]
    by_cases same : first = last
    · rw [same]
      omega
    · have earlier := inductionHypothesis (by omega) (by omega)
      omega

/-- Characters that are no earlier begin no earlier. -/
theorem byteOffset_le {source : List Char} {first last : Nat} (before : first ≤ last)
    (inside : last ≤ source.length) : byteOffset source first ≤ byteOffset source last := by
  rcases Nat.lt_or_eq_of_le before with earlier | rfl
  · exact Nat.le_of_lt (byteOffset_lt earlier inside)
  · exact Nat.le_refl _

/-- Every byte before a character belongs to one of the characters before it. -/
theorem exists_byteOffset {source : List Char} {last byte : Nat} (inside : last ≤ source.length)
    (before : byte < byteOffset source last) :
    ∃ position < last, byteOffset source position ≤ byte ∧
      byte < byteOffset source (position + 1) := by
  induction last with
  | zero => simp [byteOffset] at before
  | succ last inductionHypothesis =>
    by_cases earlier : byte < byteOffset source last
    · obtain ⟨position, isBefore, begins, ends⟩ := inductionHypothesis (by omega) earlier
      exact ⟨position, by omega, begins, ends⟩
    · exact ⟨last, by omega, by omega, before⟩

namespace Lexer

/-- The lexemes account for a source up to a position. They are no more than the characters,
each begins and ends on whole characters and holds what stands between, each begins where the
one before it ends or later, and every byte that none of them covers is a blank that was passed
over. -/
structure AccountsFor (source : List Char) (lexemes : List Lexeme) (reached : Nat) : Prop where
  few : lexemes.length ≤ source.length
  stands : ∀ lexeme ∈ lexemes, lexeme.StandsIn source ∧ lexeme.span.stop ≤ reached
  aligned : ∀ lexeme ∈ lexemes,
    String.Pos.Raw.IsValid (String.ofList source) ⟨byteOffset source lexeme.span.start⟩ ∧
    String.Pos.Raw.IsValid (String.ofList source) ⟨byteOffset source lexeme.span.stop⟩ ∧
    byteOffset source lexeme.span.start < byteOffset source lexeme.span.stop
  ordered : lexemes.Pairwise fun earlier later =>
    byteOffset source earlier.span.stop ≤ byteOffset source later.span.start
  covered : ∀ byte < byteOffset source reached,
    (∃ lexeme ∈ lexemes, byteOffset source lexeme.span.start ≤ byte ∧
      byte < byteOffset source lexeme.span.stop) ∨
    ∃ position c, byteOffset source position = byte ∧ source[position]? = some c ∧
      (c = ' ' ∨ c = '\t' ∨ c = '\r' ∨ c = '\n') ∧ PassedOver source lexemes position

/-- A blank takes one byte. -/
theorem utf8Size_of_blank {c : Char} (blank : c = ' ' ∨ c = '\t' ∨ c = '\r' ∨ c = '\n') :
    c.utf8Size = 1 := by
  rcases blank with rfl | rfl | rfl | rfl <;> rfl

/-- Lexemes that are faithful character by character are so byte by byte. -/
theorem Faithful.accountsFor {source : List Char} {lexemes : List Lexeme} {reached : Nat}
    (faithful : Faithful source lexemes reached) : AccountsFor source lexemes reached where
  few := Nat.le_trans faithful.few faithful.inside
  stands := faithful.stands
  aligned := by
    intro lexeme member
    have stands := (faithful.stands lexeme member).1
    exact ⟨byteOffset_isValid _ _, byteOffset_isValid _ _,
      byteOffset_lt stands.nonempty stands.inside⟩
  ordered := by
    apply List.Pairwise.imp_of_mem _ faithful.ordered
    intro earlier later _ member order
    have stands := (faithful.stands later member).1
    exact byteOffset_le order (Nat.le_of_lt (Nat.lt_of_lt_of_le stands.nonempty stands.inside))
  covered := by
    intro byte before
    obtain ⟨position, isBefore, begins, ends⟩ := exists_byteOffset faithful.inside before
    have inside : position < source.length := Nat.lt_of_lt_of_le isBefore faithful.inside
    rcases faithful.covered position isBefore with ⟨lexeme, member, low, high⟩ | passed
    · left
      have stands := (faithful.stands lexeme member).1
      have starts := byteOffset_le low (Nat.le_of_lt inside)
      have stops : byteOffset source (position + 1) ≤ byteOffset source lexeme.span.stop :=
        byteOffset_le high stands.inside
      exact ⟨lexeme, member, by omega, by omega⟩
    · right
      obtain ⟨c, found, blank⟩ := passed.blank inside
      have size : byteOffset source (position + 1) = byteOffset source position + 1 := by
        rw [byteOffset_succ found, utf8Size_of_blank blank]
      exact ⟨position, c, by omega, found, blank, passed⟩

/-- Wherever the lexer is on track and finds nothing more, it has read the whole source. -/
theorem OnTrack.faithful_of_finished {source : List Char} {lexemes : List Lexeme}
    {last : State} (track : OnTrack source lexemes last) (ended : step last = .finished) :
    Faithful source lexemes source.length := by
  have there : source.drop last.position = last.rest := track.rest.symm
  have inside := track.faithful.inside
  rcases finished_of_step ended with nothing | ⟨lineStart, place, nothing⟩
  · have size := congrArg List.length there
    rw [nothing, List.length_drop, List.length_nil] at size
    have whole : last.position = source.length := by omega
    exact whole ▸ track.faithful
  · have fits := track.fits
    rw [place] at fits
    have behind : BehindAlone source lexemes last.position := fits.2 rfl
    -- all that is left is the line that the tag has for itself
    obtain ⟨blanks, feed, blank, feeds, line⟩ : ∃ blanks feed,
        (∀ c ∈ blanks, c = ' ' ∨ c = '\t' ∨ c = '\r') ∧ (feed = [] ∨ feed = ['\n']) ∧
          last.rest = blanks ++ feed := by
      obtain ⟨blanks, after, blank, ⟨whole, skipped⟩ | ⟨whole, skipped⟩⟩ :=
        skipLineEnd_cases last.rest
      · obtain rfl : after = [] := by simpa only [skipped] using nothing
        exact ⟨blanks, ['\n'], blank, Or.inr rfl, whole⟩
      · obtain rfl : after = [] := by simpa only [skipped] using nothing
        exact ⟨blanks, [], blank, Or.inl rfl, whole⟩
    have rest : source.drop last.position = (blanks ++ feed) ++ [] := by
      rw [there, line, List.append_nil]
    have size := congrArg List.length rest
    rw [List.length_drop, List.append_nil] at size
    have passed := track.faithful.passLine behind rest blank feeds
    rwa [← size, Nat.add_sub_cancel' inside] at passed

/-- Where no delimiter opens there is no tag. -/
theorem splitOpening_plain {rest : List Char}
    (plain : ∀ delimiter : Delimiter, ¬ delimiter.opening <:+: rest) :
    splitOpening rest = (rest, none) := by
  apply splitOpening_of_none
  cases found : (splitOpening rest).2 with
  | none => rfl
  | some opened =>
    obtain ⟨delimiter, after⟩ := opened
    have whole := splitOpening_append (Prod.ext rfl found)
    exact absurd ⟨_, after, by rw [List.append_assoc]; exact whole.symm⟩ (plain delimiter)

/-- A template without tags is one text. -/
theorem lexemes_plain {source : List Char}
    (plain : ∀ delimiter : Delimiter, ¬ delimiter.opening <:+: source) :
    lexemes source = (textOnly 0 source, none) := by
  cases source with
  | nil => rfl
  | cons c rest =>
    have first : step (start (c :: rest)) = .read [lexeme .text 0 (c :: rest)]
        ⟨.outside false false, 0 + (c :: rest).length, []⟩ := by
      simp only [step, start, outsideStep, splitOpening_plain plain]
    rw [lexemes, run, first]
    rfl

end Lexer

/-- The statements of a template that is one text. -/
def Template.plainBody (source : String) : List Stmt :=
  if source.toList = [] then [] else [.text source]

/-- A template without tags compiles to its text. -/
theorem Template.compile_plain (arity? : String → Option Arity) (name : Option String)
    {source : String} (plain : ∀ delimiter : Delimiter, ¬ delimiter.opening <:+: source.toList) :
    compile arity? name source = .ok ⟨name, source, plainBody source, [], false⟩ := by
  have found : pieces arity? source =
      (if source.toList = [] then [] else [.text source], none) := by
    rw [pieces, Lexer.lexemes_plain plain, Lexer.textOnly]
    split
    · rfl
    · have same : String.ofList source.toList = source := String.ofList_toList
      simp only [Lexer.lexeme, same]
      rfl
  rw [compile, found, plainBody]
  split <;> rfl

/-- Executing a text writes it. -/
theorem executeAll_plainBody (expand : Expansion) (station : Station) (source written : String)
    (world : World) (sink : world.sink = .buffer written) :
    executeAll expand station (Template.plainBody source) world =
      (.ok (), { world with sink := .buffer (written ++ source) }) := by
  unfold Template.plainBody
  split
  · rename_i nothing
    have empty : source = "" := String.toList_inj.mp nothing
    rw [empty, String.append_empty, ← sink]
    rfl
  · obtain ⟨shop, turns, _⟩ := world
    cases sink
    rfl

/-- A template that extends no other renders to what its body writes, and leaves the workshop
as the body does. -/
theorem Workshop.render_of_executed {shop : Workshop} {handle : Handle} {text : String}
    {after : World} (wholly : handle.template.inherits = false)
    (executed : ∀ expand, executeAll expand (.start handle) handle.template.body
      { shop with turns := [], sink := .buffer "" } = (.ok (), after))
    (written : after.sink = .buffer text) : shop.render handle = (.ok text, after.toWorkshop) := by
  have whole : shop.renderInto expansionLimit handle (.buffer "") = (.ok (), after) := by
    obtain ⟨depth, more⟩ : ∃ depth, expansionLimit = depth + 1 := ⟨999999, rfl⟩
    have body : (if (Station.start handle).template.inherits then
        (Station.start handle).template.heads else (Station.start handle).template.body) =
          handle.template.body := by
      rw [show (Station.start handle).template = handle.template from rfl, wholly]
      rfl
    rw [renderInto, more, expand, Station.pursue, Station.renderWhole, body, executed]
  simp only [render, whole, written]
  rfl

/-- If the body only writes then the workshop stays as it is. -/
theorem Workshop.render_of_body {shop : Workshop} {handle : Handle} {text : String}
    (wholly : handle.template.inherits = false)
    (executed : ∀ expand, executeAll expand (.start handle) handle.template.body
      { shop with turns := [], sink := .buffer "" } =
        (.ok (), { shop with turns := [], sink := .buffer text })) :
    shop.render handle = (.ok text, shop) :=
  render_of_executed wholly executed rfl

/-- A template without tags renders to itself. -/
theorem Workshop.render_plain (shop : Workshop) (handle : Handle) (name : Option String)
    (source : String) (isPlain : handle.template = ⟨name, source, Template.plainBody source, [], false⟩) :
    shop.render handle = (.ok source, shop) := by
  apply render_of_body (by rw [isPlain])
  intro expand
  rw [isPlain, executeAll_plainBody _ _ source "" _ rfl, String.empty_append]

/-- Lexing loses nothing but what stands beside a tag that is alone on its line. The lexer reads
step by step until nothing is left or until a flaw; the lexemes account for every byte up to the
end, or up to the flaw. A template without an opening delimiter compiles, and renders to
itself. -/
theorem lexing_loses_only_lone_lines (arity? : String → Option Arity) (name : Option String)
    (source : String) :
    (∃ last, Lexer.Reads (Lexer.start source.toList) (Lexer.lexemes source.toList).1 last ∧
      (Lexer.step last = .finished ∧ (Lexer.lexemes source.toList).2 = none ∧
          Lexer.AccountsFor source.toList (Lexer.lexemes source.toList).1 source.toList.length ∨
        ∃ flaw, Lexer.step last = .flawed flaw ∧ (Lexer.lexemes source.toList).2 = some flaw ∧
          Lexer.AccountsFor source.toList (Lexer.lexemes source.toList).1 last.position)) ∧
    ((∀ delimiter : Delimiter, ¬ delimiter.opening <:+: source.toList) →
      ∃ template, Template.compile arity? name source = .ok template ∧
        ∀ (shop : Workshop) (handle : Handle), handle.template = template →
          shop.render handle = (.ok source, shop)) := by
  constructor
  · obtain ⟨last, reads, stops⟩ := Lexer.lexemes_stops source.toList
    have track : Lexer.OnTrack source.toList (Lexer.lexemes source.toList).1 last :=
      reads.preserves Lexer.OnTrack.move [] (Lexer.onTrack_start _)
    refine ⟨last, reads, ?_⟩
    rcases stops with ⟨ended, none⟩ | ⟨flaw, flawed, some⟩
    · exact Or.inl ⟨ended, none, (track.faithful_of_finished ended).accountsFor⟩
    · exact Or.inr ⟨flaw, flawed, some, track.faithful.accountsFor⟩
  · intro plain
    refine ⟨_, Template.compile_plain arity? name plain, ?_⟩
    intro shop handle isPlain
    exact shop.render_plain handle name source isPlain

/-- A brace that no second character follows opens nothing. -/
theorem brace_renders_to_itself :
    (∀ delimiter : Delimiter, ¬ delimiter.opening <:+: "a \x7b b".toList) ∧
      ∃ template, Template.compile (fun _ => none) none "a \x7b b" = .ok template ∧
        (Workshop.render ⟨.empty, .empty, .empty⟩ ⟨0, template⟩).1 = .ok "a \x7b b" := by
  have plain : ∀ delimiter : Delimiter, ¬ delimiter.opening <:+: "a \x7b b".toList := by
    intro delimiter
    cases delimiter <;> decide
  obtain ⟨template, compiled, renders⟩ :=
    (lexing_loses_only_lone_lines (fun _ => none) none "a \x7b b").2 plain
  refine ⟨plain, template, compiled, ?_⟩
  rw [renders _ ⟨0, template⟩ rfl]

example : (Lexer.lexemes "a\n \x7b# c #\x7d \nb".toList).1.map (·.text) =
    ["a\n", "\x7b#", " c ", "#\x7d", "b"] := by decide

end Stencil
