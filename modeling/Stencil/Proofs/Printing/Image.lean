import Stencil.Proofs.Grammar.Soundness
import Stencil.Proofs.Printing.Lexing
import Stencil.Template.Compile

/-!
# What can be read

What the parser reads as an expression consists of names that are names, of indexes that fit,
and of filters that fit. A name is spelled like a keyword only where a path may go on: a
segment may be, a filter may not, and a variable may not where an expression is read that no
name, dot or index comes right before.
-/

namespace Stencil

namespace Lexer

/-- A path may go on after a lexeme of the token. -/
def mayContinue : Token → Bool
  | .name | .dot | .index => true
  | _ => false

/-- Names are names, and are spelled like a keyword only where a path may go on. -/
def Proper : Bool → List Lexeme → Prop
  | _, [] => True
  | inPath, first :: rest =>
    (first.token = .name → Text.isName first.text = true ∧
      (inPath = false → Keyword.ofWord? first.text = none)) ∧
        Proper (mayContinue first.token) rest

/-- What is proper where no path goes on is proper where one may. -/
theorem Proper.weaken {inPath other : Bool} {lexemes : List Lexeme}
    (proper : Proper inPath lexemes) (more : other = false → inPath = false) :
    Proper other lexemes := by
  cases lexemes with
  | nil => trivial
  | cons first rest =>
    refine ⟨fun isName => ?_, proper.2⟩
    exact ⟨(proper.1 isName).1, fun none => (proper.1 isName).2 (more none)⟩

/-- Of lexemes that are proper, the first are, and those after another are. -/
theorem Proper.split {inPath : Bool} {before after : List Lexeme} {lexeme : Lexeme}
    (proper : Proper inPath (before ++ lexeme :: after)) :
    Proper inPath before ∧ Proper (mayContinue lexeme.token) after := by
  induction before generalizing inPath with
  | nil => exact ⟨trivial, proper.2⟩
  | cons first rest inductionHypothesis =>
    obtain ⟨begins, ends⟩ := inductionHypothesis proper.2
    exact ⟨⟨proper.1, begins⟩, ends⟩

/-- The first of lexemes that are proper are. -/
theorem Proper.left {inPath : Bool} {before after : List Lexeme}
    (proper : Proper inPath (before ++ after)) : Proper inPath before := by
  induction before generalizing inPath with
  | nil => trivial
  | cons first rest inductionHypothesis => exact ⟨proper.1, inductionHypothesis proper.2⟩

/-- The last of them are where a path may go on. -/
theorem Proper.right {inPath : Bool} {before after : List Lexeme}
    (proper : Proper inPath (before ++ after)) : Proper true after := by
  induction before generalizing inPath with
  | nil => exact proper.weaken nofun
  | cons first rest inductionHypothesis => exact inductionHypothesis proper.2

/-- Every name among them is one. -/
theorem Proper.isName_of_mem {inPath : Bool} {lexemes : List Lexeme}
    (proper : Proper inPath lexemes) {lexeme : Lexeme} (mem : lexeme ∈ lexemes)
    (isName : lexeme.token = .name) : Text.isName lexeme.text = true := by
  induction lexemes generalizing inPath with
  | nil => cases mem
  | cons first rest inductionHypothesis =>
    rcases List.mem_cons.mp mem with rfl | later
    · exact (proper.1 isName).1
    · exact inductionHypothesis proper.2 later

/-- They stay so without blanks. -/
theorem Proper.visible {inPath : Bool} {lexemes : List Lexeme} (proper : Proper inPath lexemes) :
    Proper inPath (lexemes.filter fun lexeme => lexeme.token ≠ .blank) := by
  induction lexemes generalizing inPath with
  | nil => trivial
  | cons first rest inductionHypothesis =>
    have later := inductionHypothesis proper.2
    by_cases blank : first.token = .blank
    · rw [List.filter_cons_of_neg (by simp [blank])]
      rw [blank] at later
      exact later.weaken fun _ => rfl
    · rw [List.filter_cons_of_pos (by simp [blank])]
      exact ⟨proper.1, later⟩

/-- No operator is a name. -/
theorem operatorAt_ne_name {text : List Char} {token : Token} {length : Nat}
    (found : operatorAt text = some (token, length)) : token ≠ .name := by
  unfold operatorAt at found
  split at found <;> cases found <;> nofun

/-- What is read as a name is one, and is not a keyword where no path goes on. -/
theorem tokenAt_name {inPath : Bool} {c : Char} {rest : List Char} {length : Nat}
    (found : tokenAt inPath c rest = .ok (.name, length)) :
    Text.isName (String.ofList ((c :: rest).take length)) = true ∧
      (inPath = false → Keyword.ofWord? (String.ofList ((c :: rest).take length)) = none) := by
  unfold tokenAt at found
  split at found
  · rename_i operator same
    cases found
    exact (operatorAt_ne_name same rfl).elim
  · split at found
    · split at found <;> cases found
    · split at found
      · cases inPath <;> cases found
      · split at found
        · cases found
        · split at found
          · rename_i starts
            simp only [] at found
            split at found
            · cases found
            · rename_i other
              cases found
              have run : rest.take (rest.takeWhile Text.isNameContinue).length =
                  rest.takeWhile Text.isNameContinue :=
                (List.prefix_iff_eq_take.mp (List.takeWhile_prefix _)).symm
              rw [List.length_cons, List.take_succ_cons, run]
              refine ⟨?_, fun none => by simpa [none] using other⟩
              simp [Text.isName, starts, List.all_takeWhile]
          · cases found

/-- Whether a path goes on at a place. -/
def Place.inPath : Place → Bool
  | .inside tag => tag.inPath
  | _ => false

/-- What goes on with a path may. -/
theorem mayContinue_of_continuesPath {inPath : Bool} {token : Token}
    (continues : continuesPath inPath token = true) : mayContinue token = true := by
  unfold continuesPath at continues
  split at continues <;> first | rfl | cases continues

/-- Lexemes that are no names are proper, and others after them. -/
theorem Proper.prepend {inPath : Bool} {before after : List Lexeme}
    (other : ∀ lexeme ∈ before, mayContinue lexeme.token = false)
    (proper : Proper false after) : Proper inPath (before ++ after) := by
  induction before generalizing inPath with
  | nil => exact proper.weaken fun _ => rfl
  | cons first rest inductionHypothesis =>
    refine ⟨fun isName => ?_, inductionHypothesis fun lexeme mem => other lexeme (.tail _ mem)⟩
    have notName := other first (.head _)
    rw [isName] at notName
    cases notName

section

variable {found later : List Lexeme} {next : State}

/-- What is read is a text that need not be there, or a delimiter. -/
theorem eq_or_eq_of_mem {nothing : Prop} [Decidable nothing] {lexeme text delimiter : Lexeme}
    (mem : lexeme ∈ if nothing then [delimiter] else [text, delimiter]) :
    lexeme = text ∨ lexeme = delimiter := by
  split at mem
  · exact .inr (List.mem_singleton.mp mem)
  · simpa using mem

/-- What one step reads inside of a tag is proper, if what is read later is. -/
theorem proper_insideStep {tag : OpenTag} {position : Nat} {c : Char} {rest : List Char}
    (taken : insideStep tag position c rest = .read found next)
    (proper : Proper next.place.inPath later) : Proper tag.inPath (found ++ later) := by
  unfold insideStep at taken
  split at taken
  · cases taken
  · split at taken
    · rename_i closes
      cases taken
      refine Proper.prepend (fun lexeme mem => ?_) proper
      rw [List.mem_singleton.mp mem, closes]
      rfl
    · cases taken
  · split at taken
    · cases taken
    · rename_i token length read
      cases taken
      refine ⟨fun isName => ?_, proper.weaken fun none => ?_⟩
      · cases (isName : token = .name)
        exact tokenAt_name read
      · refine Bool.eq_false_iff.mpr fun continues => ?_
        rw [lexeme, mayContinue_of_continuesPath continues] at none
        cases none

/-- So is what one step reads of a comment. -/
theorem proper_remarkStep {alone : Bool} {position : Nat} {rest : List Char}
    (taken : remarkStep alone position rest = .read found next)
    (proper : Proper next.place.inPath later) : Proper false (found ++ later) := by
  unfold remarkStep at taken
  split at taken
  · cases taken
    exact Proper.prepend (by simp [lexeme, mayContinue]) proper
  · cases taken
    refine Proper.prepend (fun lexeme mem => ?_) proper
    rcases eq_or_eq_of_mem mem with rfl | rfl <;> rfl

/-- So is what one step reads outside of tags. -/
theorem proper_outsideStep {lineStart : Bool} {position : Nat} {rest : List Char}
    (taken : outsideStep lineStart position rest = .read found next)
    (proper : Proper next.place.inPath later) : Proper false (found ++ later) := by
  unfold outsideStep at taken
  split at taken
  · cases taken
    exact Proper.prepend (by simp [lexeme, mayContinue]) proper
  · rename_i text delimiter after split
    cases taken
    have outside : Proper false later := by
      cases delimiter <;> exact proper
    refine Proper.prepend (fun lexeme mem => ?_) outside
    rcases eq_or_eq_of_mem mem with rfl | rfl <;> rfl

/-- One step reads lexemes that are proper, if those that are read later are. -/
theorem proper_step {state : State} (taken : step state = .read found next)
    (proper : Proper next.place.inPath later) : Proper state.place.inPath (found ++ later) := by
  unfold step at taken
  split at taken
  · cases taken
  · split at taken
    · rename_i tag place
      rw [place]
      exact proper_insideStep taken proper
    · rename_i alone place
      rw [place]
      exact proper_remarkStep taken proper
    · rename_i lineStart place
      rw [place]
      exact proper_outsideStep taken proper
    · rename_i lineStart place
      rw [place]
      simp only [] at taken
      split at taken
      · cases taken
      · exact proper_outsideStep taken proper

end

/-- However many steps are taken, the lexemes that they read are proper. -/
theorem proper_run (steps : Nat) (state : State) :
    Proper state.place.inPath (run steps state).1 := by
  induction steps generalizing state with
  | zero => trivial
  | succ steps inductionHypothesis =>
    rw [run]
    split
    · trivial
    · trivial
    · rename_i found next taken
      exact proper_step taken (inductionHypothesis next)

/-- So are the lexemes of a template, and those that are not blank. -/
theorem proper_lexemes (source : List Char) :
    Proper false ((lexemes source).1.filter fun lexeme => lexeme.token ≠ .blank) :=
  (proper_run _ (start source)).visible

end Lexer

/-- All expressions of a list obey what each of them does. -/
theorem exprsObey_of_forall {path : Path → Bool} {filter : String → Bool} {expressions : List Expr}
    (all : ∀ expression ∈ expressions, expression.obeys path filter = true) :
    exprsObey path filter expressions = true := by
  induction expressions with
  | nil => rfl
  | cons first rest inductionHypothesis =>
    rw [exprsObey, all first (.head _),
      inductionHypothesis fun expression mem => all expression (.tail _ mem)]
    rfl

namespace Grammar

open Lexer

variable {setting : Setting} {rank : Rank} {lexemes : List Lexeme} {value : Expr}

/-- The lexemes of an argument are proper where no path goes on, if all of a call are. -/
theorem proper_argument {inPath : Bool} {inside after : List Lexeme} {others : List Argument}
    (proper : Proper inPath (inside ++ (others.flatMap Argument.all ++ after)))
    {argument : Argument} (among : argument ∈ others) (comma : argument.comma.token = .comma) :
    Proper false argument.lexemes := by
  obtain ⟨earlier, later, rfl⟩ := List.append_of_mem among
  have shape : inside ++ ((earlier ++ argument :: later).flatMap Argument.all ++ after) =
      (inside ++ earlier.flatMap Argument.all) ++ argument.comma ::
        (argument.lexemes ++ (later.flatMap Argument.all ++ after)) := by
    simp [Argument.all]
  rw [shape] at proper
  have follows := proper.split.2
  rw [comma] at follows
  exact follows.left

/-- An expression obeys what its paths do, read from lexemes that are proper, and what
filters do that are names and no keywords. -/
theorem Spells.obeys {path : Path → Bool} {filter : String → Bool} {inPath : Bool}
    (paths : ∀ lexemes named, SpellsPath setting.source lexemes named → Proper inPath lexemes →
      path named = true)
    (filters : ∀ name, Text.isName name = true → Keyword.ofWord? name = none → filter name = true)
    (spelled : Spells setting rank lexemes value) (proper : Proper inPath lexemes) :
    value.obeys path filter = true := by
  -- where no path goes on, what is proper is so in any case
  have weaken : ∀ {lexemes : List Lexeme}, Proper false lexemes → Proper inPath lexemes :=
    fun proper => proper.weaken fun _ => rfl
  have checked : ∀ {pipe name : Lexeme} {given : List Lexeme}, pipe.token = .pipe →
      name.token = .name → Proper (mayContinue pipe.token) (name :: given) →
        filter name.text = true := by
    intro pipe name given piped named proper
    rw [piped] at proper
    exact filters _ (proper.1 named).1 ((proper.1 named).2 rfl)
  induction spelled with
  | truth | falsehood | number | opposite | text => rfl
  | path spelled => exact paths _ _ spelled proper
  | call opened closed spelled opens closes =>
    simp only [Expr.obeys, exprsObey, Bool.and_true]
    exact paths _ _ spelled proper.left
  | callWith opened closed others spelled opens closes first commas rest firstObeys restObeys =>
    obtain ⟨properPath, inside⟩ := proper.split
    rw [opens] at inside
    simp only [Expr.obeys, exprsObey, Bool.and_eq_true]
    refine ⟨paths _ _ spelled properPath, firstObeys (weaken inside.left), ?_⟩
    refine exprsObey_of_forall fun expression mem => ?_
    obtain ⟨argument, among, rfl⟩ := List.mem_map.mp mem
    exact restObeys argument among (weaken (proper_argument inside among (commas argument among)))
  | parens opened closed opens closes inner inductionHypothesis =>
    have inside := proper.2
    rw [opens] at inside
    exact inductionHypothesis (weaken inside.left)
  | filter pipe name piped named spelled admitted inner inductionHypothesis =>
    obtain ⟨before, after⟩ := proper.split
    subst spelled
    simp only [Expr.obeys, optionObeys, Bool.and_true, Bool.and_eq_true]
    exact ⟨inductionHypothesis before, checked piped named after⟩
  | filterWith pipe name colon piped named spelled parted admitted inner argued innerObeys
      arguedObeys =>
    obtain ⟨before, after⟩ := proper.split
    subst spelled
    have given := after.2.2
    rw [parted] at given
    simp only [Expr.obeys, optionObeys, Bool.and_eq_true]
    exact ⟨⟨innerObeys before, checked piped named after⟩, arguedObeys (weaken given)⟩
  | compared relation operator token first second firstObeys secondObeys =>
    obtain ⟨before, after⟩ := proper.split
    rw [token] at after
    simp only [Expr.obeys, Bool.and_eq_true]
    exact ⟨firstObeys before, secondObeys (weaken after)⟩
  | negated mark token inner inductionHypothesis =>
    have inside := proper.2
    rw [token] at inside
    exact inductionHypothesis (weaken inside)
  | connected connective operator token first second firstObeys secondObeys =>
    obtain ⟨before, after⟩ := proper.split
    rw [token] at after
    simp only [Expr.obeys, Bool.and_eq_true]
    exact ⟨firstObeys before, secondObeys (weaken after)⟩
  | looser inner inductionHypothesis => exact inductionHypothesis proper

/-- The names of a path are names, if its lexemes are proper. -/
theorem SpellsPath.named {source : List Char} {path : Path} {inPath : Bool}
    (spelled : SpellsPath source lexemes path) (proper : Proper inPath lexemes) :
    path.named = true := by
  obtain ⟨first, segments, isName, all⟩ := spelled
  simp only [Path.named, List.all_map, Bool.and_eq_true, List.all_eq_true]
  refine ⟨(proper.1 isName).1, fun segment mem => ?_⟩
  rcases (all segment mem).shown with ⟨_, _, same⟩ | ⟨token, same⟩
  · simp [same, Key.named]
  · have among : segment.found ∈ first :: segments.flatMap Segment.lexemes :=
      .tail _ (List.mem_flatMap.mpr ⟨segment, mem, by simp [Segment.lexemes]⟩)
    simpa [same, Key.named] using proper.isName_of_mem among token

/-- Its variable is not spelled like a keyword, where no path goes on. -/
theorem SpellsPath.unreserved {source : List Char} {path : Path}
    (spelled : SpellsPath source lexemes path) (proper : Proper false lexemes) :
    path.unreserved = true := by
  obtain ⟨first, segments, isName, all⟩ := spelled
  exact Option.isNone_iff_eq_none.mpr ((proper.1 isName).2 rfl)

/-- Its indexes can be written. -/
theorem SpellsPath.fits {source : List Char} {path : Path}
    (spelled : SpellsPath source lexemes path) : path.fits = true := by
  obtain ⟨first, segments, isName, all⟩ := spelled
  simp only [Path.fits, List.all_map, List.all_eq_true]
  intro segment mem
  rcases (all segment mem).shown with ⟨_, fits, same⟩ | ⟨_, same⟩
  · simpa [same, Key.fits] using fits
  · simp [same, Key.fits]

end Grammar

/-- The expression is what the parser reads somewhere in a template, given which filters
there are. -/
def Expr.Parsed (arity? : String → Option Arity) (expression : Expr) : Prop :=
  ∃ (source : String) (before ahead rest : List Lexeme),
    (Lexer.lexemes source.toList).1.filter (fun lexeme => lexeme.token ≠ .blank) =
        before ++ ahead ∧
      Expr.parse (Template.setting arity? source (Lexer.lexemes source.toList).2) ahead =
        .ok (expression, rest)

namespace Expr.Parsed

variable {arity? : String → Option Arity} {expression : Expr}

/-- What the parser reads is written with lexemes that are proper. -/
theorem spelled (parsed : expression.Parsed arity?) :
    ∃ (setting : Setting) (lexemes : List Lexeme),
      Grammar.Spells setting .disjunction lexemes expression ∧ Lexer.Proper true lexemes := by
  obtain ⟨source, before, ahead, rest, lexed, read⟩ := parsed
  obtain ⟨taken, rfl, spelled⟩ := Expr.yields_parse _ _ _ _ read
  have proper := Lexer.proper_lexemes source.toList
  rw [lexed] at proper
  exact ⟨_, taken, spelled, proper.right.left⟩

/-- Its names are names. -/
theorem named (parsed : expression.Parsed arity?) : expression.named = true := by
  obtain ⟨setting, lexemes, spelled, proper⟩ := parsed.spelled
  refine spelled.obeys (fun _ _ spelled proper => spelled.named proper) ?_ proper
  intro name isName other
  simp [isName, other]

/-- Its indexes can be written. -/
theorem indexed (parsed : expression.Parsed arity?) :
    expression.obeys Path.fits (fun _ => true) = true := by
  obtain ⟨setting, lexemes, spelled, proper⟩ := parsed.spelled
  exact spelled.obeys (fun _ _ spelled _ => spelled.fits) (fun _ _ _ => rfl) proper

/-- Its filters fit. -/
theorem fits (parsed : expression.Parsed arity?) : expression.fits arity? = true := by
  obtain ⟨source, before, ahead, rest, _, read⟩ := parsed
  generalize (Lexer.lexemes source.toList).2 = flaw at read
  have accepted : Expr.parse ((Template.setting arity? source flaw).withArities arity?) ahead =
      .ok (expression, rest) := read
  exact (Expr.reads_parse (fun _ => True) _ ahead arity? arity? expression rest trivial
    accepted).1.2

end Expr.Parsed

end Stencil
