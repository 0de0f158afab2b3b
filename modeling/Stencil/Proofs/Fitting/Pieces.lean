import Stencil.Proofs.Fitting
import Stencil.Template.Piece

/-!
# Pieces that fit

The wording of tags and of pieces is that of the statements they leave. Pieces that are
accepted with some filters fit them; with other filters the same pieces are accepted if
they fit, and there is a flaw otherwise.
-/

namespace Stencil

/-- A wording that restricts nothing but the filters in expressions. -/
def Wording.fitting (arity? : String → Option Arity) : Wording where
  text := fun _ => true
  value := Expr.fits arity?
  pattern := Expr.fits arity?
  block := fun _ => true
  inherit := true

/-- A tag obeys a wording. -/
def Tag.obeys (wording : Wording) : Tag → Bool
  | .condition test => wording.value test
  | .otherwiseIf test => wording.value test
  | .otherwise => true
  | .loop head => wording.value head.items
  | .empty => true
  | .block name => wording.block name
  | .region head => head.obeys wording
  | .close _ => true
  | .inherit target => wording.inherit && wording.value target
  | .insert target given =>
    wording.value target && given.all fun binding => wording.value binding.value
  | .create target template => wording.value target && wording.value template
  | .cycle first others => wording.value first && others.all wording.value
  | .assign given => wording.value given.value

/-- A piece obeys a wording. -/
def Piece.obeys (wording : Wording) : Piece → Bool
  | .text content => wording.text content
  | .output value => wording.value value
  | .tag found _ => found.obeys wording

namespace Tag

open Stencil.Parser

variable {before : (String → Option Arity) → Prop}

/-- A binding fits if its expression does. -/
theorem reads_binding : binding.Reads before fun arity? found =>
    before arity? ∧ found.value.fits arity? = true := by
  refine (Steady.expect _).reads.bind fun name => ?_
  refine (Steady.expect _).reads.bind fun assign => ?_
  exact (Expr.reads_parse before).bind fun value => .pure fun arity? => Iff.rfl

/-- Bindings fit if each of them does. -/
theorem reads_bindings : bindings.Reads before fun arity? found =>
    before arity? ∧ (found.all fun binding => binding.value.fits arity?) = true := by
  refine reads_binding.bind fun first => ?_
  refine (Reads.gather (fun found => ?_) [first]).congr ?_ fun _ _ => Iff.rfl
  · refine (Steady.takes _).reads.bind fun comma => ?_
    split
    · refine .another (fun _ => ?_) found
      exact reads_binding
    · refine (Steady.isNext _).reads.bind fun named => ?_
      split
      · refine .another (fun _ => ?_) found
        exact reads_binding
      · exact .pure fun arity? => Iff.rfl
  · simp

/-- The items of a cycle fit if each of them does. -/
theorem reads_items : items.Reads before fun arity? found =>
    before arity? ∧ found.all (Expr.fits arity?) = true := by
  refine (Reads.gather (fun found => ?_) []).congr ?_ fun _ _ => Iff.rfl
  · refine (Steady.takes _).reads.bind fun comma => ?_
    split
    · exact .another (fun _ => Expr.reads_parse _) found
    · refine (Steady.isNext _).reads.bind fun closes => ?_
      split
      · exact .pure fun arity? => Iff.rfl
      · exact .another (fun _ => Expr.reads_parse _) found
  · simp

/-- Which way a range goes is read without filters. -/
theorem steady_direction : direction.Steady := by
  refine (Steady.next _).bind fun found => ?_
  split
  · exact .pure _
  · split
    · exact .pure _
    · exact .fail _ _

/-- The head of a range fits if its expressions do. -/
theorem reads_range : range.Reads before fun arity? found =>
    before arity? ∧ found.obeys (Wording.fitting arity?) = true := by
  refine (Steady.expect _).reads.bind fun name => ?_
  refine (Steady.expectWord _).reads.bind fun _ => ?_
  refine (Expr.reads_parse _).bind fun first => ?_
  refine steady_direction.reads.bind fun down => ?_
  refine (Expr.reads_parse _).bind fun last => ?_
  refine (Steady.takesWord _).reads.bind fun stepped => ?_
  have whole : ∀ step : Option Expr, (pure (.range name.text first last down step) :
      Parser Region).Reads (fun arity? => ((before arity? ∧ first.fits arity? = true) ∧
        last.fits arity? = true) ∧ step.all (Expr.fits arity?) = true) fun arity? found =>
          before arity? ∧ found.obeys (Wording.fitting arity?) = true :=
    fun step => .pure fun arity? => by simp [Region.obeys, Wording.fitting, and_assoc]
  split
  · exact ((Expr.reads_parse _).map fun _ _ => Iff.rfl).bind whole
  · exact Reads.bind (.pure fun arity? => by simp) whole

/-- The head of a loop fits if its expression does. -/
theorem reads_loopHead : loopHead.Reads before fun arity? found =>
    before arity? ∧ found.items.fits arity? = true := by
  refine (Steady.expect _).reads.bind fun name => ?_
  refine (Steady.expectWord _).reads.bind fun _ => ?_
  refine (Expr.reads_parse _).bind fun items => ?_
  exact (Steady.takesWord _).reads.bind fun reversed => .pure fun arity? => Iff.rfl

/-- The head of a markers region fits if its expressions do. -/
theorem reads_markers : markers.Reads before fun arity? found =>
    before arity? ∧ found.obeys (Wording.fitting arity?) = true := by
  refine (Steady.expect _).reads.bind fun name => ?_
  refine (Steady.expectWord _).reads.bind fun _ => ?_
  refine (Expr.reads_parse _).bind fun items => ?_
  refine (Steady.expectWord _).reads.bind fun _ => ?_
  refine (Expr.reads_parse _).bind fun pattern => .pure fun arity? => ?_
  simp [Region.obeys, Wording.fitting, and_assoc]

/-- A tag fits if the expressions in it do. -/
theorem reads_ofWord? {word : String} {parser : Parser Tag} (found : ofWord? word = some parser) :
    parser.Reads before fun arity? tag =>
      before arity? ∧ tag.obeys (Wording.fitting arity?) = true := by
  have bare : ∀ tag : Tag, (∀ arity?, tag.obeys (Wording.fitting arity?) = true) →
      (pure tag : Parser Tag).Reads before fun arity? tag =>
        before arity? ∧ tag.obeys (Wording.fitting arity?) = true :=
    fun tag fits => .pure fun arity? => by simp [fits]
  have value := Expr.reads_parse before
  unfold ofWord? at found
  split at found <;> cases found
  case h_1 => exact value.map fun _ _ => Iff.rfl
  case h_2 => exact value.map fun _ _ => Iff.rfl
  case h_3 => exact bare .otherwise fun _ => rfl
  case h_4 => exact reads_loopHead.map fun _ _ => Iff.rfl
  case h_5 => exact bare .empty fun _ => rfl
  case h_6 => exact (Steady.expect _).reads.bind fun name => bare (.block name.text) fun _ => rfl
  case h_7 => exact value.map fun arity? target => by simp [obeys, Wording.fitting]
  case h_8 =>
    refine value.bind fun target => (Steady.takesWord _).reads.bind fun given => ?_
    have whole : ∀ bindings : List Binding, (pure (.insert target bindings) : Parser Tag).Reads
        (fun arity? => (before arity? ∧ target.fits arity? = true) ∧
          (bindings.all fun binding => binding.value.fits arity?) = true) fun arity? tag =>
            before arity? ∧ tag.obeys (Wording.fitting arity?) = true :=
      fun bindings => .pure fun arity? => by simp [obeys, Wording.fitting, and_assoc]
    split
    · exact reads_bindings.bind whole
    · exact Reads.bind (.pure fun arity? => by simp) whole
  case h_9 => exact reads_bindings.bind fun given => .pure fun _ => Iff.rfl
  case h_10 => exact bare (.region .spaceless) fun _ => rfl
  case h_11 =>
    refine value.bind fun first => reads_items.bind fun others => .pure fun arity? => ?_
    simp [obeys, Wording.fitting, and_assoc]
  case h_12 =>
    refine value.bind fun target => (Steady.expectWord _).reads.bind fun _ => ?_
    refine (Expr.reads_parse _).bind fun template => .pure fun arity? => ?_
    simp [obeys, Wording.fitting, and_assoc]
  case h_13 => exact value.bind fun nodes => .pure fun _ => Iff.rfl
  case h_14 => exact reads_markers.map fun _ _ => Iff.rfl
  case h_15 => exact bare (.region .message) fun _ => rfl
  case h_16 => exact reads_binding.map fun _ _ => Iff.rfl
  case h_17 => exact reads_range.map fun _ _ => Iff.rfl
  case h_18 => exact bare (.region .tabbing) fun _ => rfl

/-- What is read as a tag fits if it is accepted. -/
theorem reads_parse : Tag.parse.Reads before fun arity? tag =>
    before arity? ∧ tag.obeys (Wording.fitting arity?) = true := by
  refine (Steady.expect _).reads.bind fun word => ?_
  have close : ∀ kind, (pure (.close kind) : Parser Tag).Reads before fun arity? tag =>
      before arity? ∧ tag.obeys (Wording.fitting arity?) = true :=
    fun kind => .pure fun arity? => by simp [obeys]
  split
  · exact reads_ofWord? ‹_›
  · exact (Steady.takes _).reads.bind fun _ => close .block
  · exact close _
  · exact .fail _ _ _

end Tag

namespace Piece

open Stencil.Parser

variable {before : (String → Option Arity) → Prop}

/-- What is read of a piece fits with it. A comment leaves nothing. -/
theorem reads_parse : Piece.parse.Reads before fun arity? found =>
    before arity? ∧ (found.all fun found => found.all (obeys (Wording.fitting arity?))) = true := by
  refine Steady.peek.reads.bind fun first => ?_
  split
  · exact .pure fun arity? => by simp
  · refine (Steady.next _).reads.bind fun _ => ?_
    split
    · exact .pure fun arity? => by simp [obeys, Wording.fitting]
    · refine (Expr.reads_parse _).bind fun value => ?_
      refine (Steady.expect _).reads.bind fun _ => .pure fun arity? => ?_
      simp [obeys, Wording.fitting]
    · refine Tag.reads_parse.bind fun tag => ?_
      refine (Steady.expect _).reads.bind fun _ => .pure fun arity? => ?_
      simp [obeys]
    · refine (Steady.takes _).reads.bind fun _ => ?_
      exact (Steady.expect _).reads.bind fun _ => .pure fun arity? => by simp
    · exact .fail _ _ _

/-- Pieces that were read to the end fit. With other filters they are read again, and if
they do not fit there is a flaw. -/
theorem parseUpTo_cases (bound : Nat) (setting : Setting) (ahead : List Lexeme)
    (known others : String → Option Arity) (pieces : List Piece)
    (accepted : parseUpTo bound (setting.withArities known) ahead = (pieces, none)) :
    pieces.all (obeys (Wording.fitting known)) = true ∧
      (parseUpTo bound (setting.withArities others) ahead = (pieces, none) ∨
        (∃ earlier flaw, parseUpTo bound (setting.withArities others) ahead =
          (earlier, some flaw)) ∧ ¬pieces.all (obeys (Wording.fitting others)) = true) := by
  induction bound generalizing ahead pieces with
  | zero =>
    cases accepted
    exact ⟨rfl, Or.inl rfl⟩
  | succ bound inductionHypothesis =>
    simp only [parseUpTo] at accepted ⊢
    cases first : Piece.parse (setting.withArities known) ahead with
    | error flaw =>
      rw [first] at accepted
      cases accepted
    | ok found =>
      obtain ⟨piece, rest⟩ := found
      obtain ⟨⟨_, fits⟩, _, again⟩ :=
        @reads_parse (fun _ => True) setting ahead known others piece rest trivial first
      rw [first] at accepted
      cases piece with
      | none =>
        cases accepted
        rcases again with same | ⟨_, unfit⟩
        · exact ⟨rfl, Or.inl (by rw [same])⟩
        · exact absurd ⟨trivial, rfl⟩ unfit
      | some piece =>
        simp only [Option.all_some] at fits again
        obtain ⟨gathered, reached⟩ := Prod.mk.inj accepted
        obtain ⟨laterFit, later⟩ := inductionHypothesis rest _ (Prod.ext rfl reached)
        have parts : ∀ arity?, pieces.all (obeys (Wording.fitting arity?)) = true ↔
            piece.all (obeys (Wording.fitting arity?)) = true ∧
              (parseUpTo bound (setting.withArities known) rest).1.all
                (obeys (Wording.fitting arity?)) = true := by
          intro arity?
          rw [← gathered, List.all_append, Bool.and_eq_true]
          cases piece <;> simp
        refine ⟨(parts known).mpr ⟨fits, laterFit⟩, ?_⟩
        rw [parts others]
        rcases again with same | ⟨⟨flaw, fails⟩, unfit⟩
        · rw [same]
          rcases later with sameLater | ⟨⟨earlier, flaw, failsLater⟩, unfit⟩
          · exact Or.inl (by simp only [sameLater, gathered])
          · exact Or.inr ⟨⟨_, flaw, by simp only [failsLater]; rfl⟩, fun both => unfit both.2⟩
        · rw [fails]
          exact Or.inr ⟨⟨[], flaw, rfl⟩, fun both => unfit ⟨trivial, both.1⟩⟩

end Piece

end Stencil
