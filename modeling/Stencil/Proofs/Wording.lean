import Stencil.Rendering.Execution

/-!
# The wording of templates

What is written in a template, regardless of what it is rendered with. A wording
says which texts, expressions, marker patterns and references may stand in a
statement; a template obeys it if all of its statements do, those in the bodies of
its blocks included. Whatever of a template is executed obeys what the template
obeys.
-/

namespace Stencil

mutual

/-- Every path and every name of a filter in the expression is accepted. -/
def Expr.obeys (path : Path → Bool) (filter : String → Bool) : Expr → Bool
  | .literal _ => true
  | .path p => path p
  | .call p arguments => path p && exprsObey path filter arguments
  | .filtered receiver name argument =>
    receiver.obeys path filter && filter name && optionObeys path filter argument
  | .negated operand => operand.obeys path filter
  | .connected _ left right => left.obeys path filter && right.obeys path filter
  | .compared _ left right => left.obeys path filter && right.obeys path filter
termination_by structural expression => expression

/-- The same for all expressions of a list. -/
def exprsObey (path : Path → Bool) (filter : String → Bool) : List Expr → Bool
  | [] => true
  | expression :: rest => expression.obeys path filter && exprsObey path filter rest
termination_by structural expressions => expressions

/-- The same for an expression that need not be there. -/
def optionObeys (path : Path → Bool) (filter : String → Bool) : Option Expr → Bool
  | none => true
  | some expression => expression.obeys path filter
termination_by structural expression => expression

end

mutual

/-- Every expression obeys where all paths and filters are accepted. -/
theorem Expr.obeys_all (expression : Expr) :
    expression.obeys (fun _ => true) (fun _ => true) = true := by
  cases expression with
  | literal value => rfl
  | path path => rfl
  | call path arguments => exact exprsObey_all arguments
  | filtered receiver name argument =>
    simp [Expr.obeys, Expr.obeys_all receiver, optionObeys_all argument]
  | negated operand => exact Expr.obeys_all operand
  | connected connective left right =>
    simp [Expr.obeys, Expr.obeys_all left, Expr.obeys_all right]
  | compared relation left right =>
    simp [Expr.obeys, Expr.obeys_all left, Expr.obeys_all right]
termination_by structural expression

/-- So do all expressions of a list. -/
theorem exprsObey_all (expressions : List Expr) :
    exprsObey (fun _ => true) (fun _ => true) expressions = true := by
  cases expressions with
  | nil => rfl
  | cons expression rest =>
    simp [exprsObey, Expr.obeys_all expression, exprsObey_all rest]
termination_by structural expressions

/-- So does one that need not be there. -/
theorem optionObeys_all (expression : Option Expr) :
    optionObeys (fun _ => true) (fun _ => true) expression = true := by
  cases expression with
  | none => rfl
  | some expression => exact Expr.obeys_all expression
termination_by structural expression

end

/-- What may be written in a statement: texts, expressions, patterns of markers,
references to blocks, and whether a tag may extend another template. -/
structure Wording where
  text : String → Bool
  value : Expr → Bool
  pattern : Expr → Bool
  block : String → Bool
  inherit : Bool

/-- The head of a region obeys a wording. -/
def Region.obeys (wording : Wording) : Region → Bool
  | .binding bindings => bindings.all fun binding => wording.value binding.value
  | .tree nodes => wording.value nodes
  | .markers _ items pattern => wording.value items && wording.pattern pattern
  | .range _ first last _ step =>
    wording.value first && wording.value last && step.all wording.value
  | .spaceless => true
  | .message => true
  | .tabbing => true

mutual

/-- A statement obeys a wording, with all that stands inside of it. -/
def Stmt.obeys (wording : Wording) : Stmt → Bool
  | .text content => wording.text content
  | .output value => wording.value value
  | .branch condition yes no =>
    wording.value condition && allObey wording yes && allObey wording no
  | .each loop body empty =>
    wording.value loop.items && allObey wording body && allObey wording empty
  | .within region body => region.obeys wording && allObey wording body
  | .block name => wording.block name
  | .inherit target _ => wording.inherit && wording.value target
  | .insert target bindings _ =>
    wording.value target && bindings.all fun binding => wording.value binding.value
  | .create target template _ => wording.value target && wording.value template
  | .cycle _ first others => wording.value first && others.all wording.value
  | .assign binding => wording.value binding.value
termination_by structural statement => statement

/-- All statements of a list obey a wording. -/
def allObey (wording : Wording) : List Stmt → Bool
  | [] => true
  | statement :: rest => statement.obeys wording && allObey wording rest
termination_by structural statements => statements

end

/-- All statements of the template obey a wording, in the bodies of its blocks too. -/
def Template.obeys (template : Template) (wording : Wording) : Bool :=
  allObey wording template.body && template.blocks.all fun block => allObey wording block.2

/-- A list obeys a wording when each of its statements does. -/
theorem allObey_iff (wording : Wording) (statements : List Stmt) :
    allObey wording statements = true ↔
      ∀ statement ∈ statements, statement.obeys wording = true := by
  induction statements with
  | nil => simp [allObey]
  | cons statement rest inductionHypothesis => simp [allObey, inductionHypothesis]

/-- A wording that forbids nothing. -/
def Wording.free : Wording where
  text := fun _ => true
  value := fun _ => true
  pattern := fun _ => true
  block := fun _ => true
  inherit := true

/-- Any expression may stand there. -/
@[simp] theorem Wording.free_value (expression : Expr) : Wording.free.value expression = true := rfl

/-- So may any pattern. -/
@[simp] theorem Wording.free_pattern (expression : Expr) :
    Wording.free.pattern expression = true := rfl

mutual

/-- Every statement obeys a wording that forbids nothing. -/
theorem Stmt.obeys_free (statement : Stmt) : statement.obeys Wording.free = true := by
  cases statement with
  | branch condition yes no =>
    simp [Stmt.obeys, allObey_free yes, allObey_free no]
  | each loop body empty =>
    simp [Stmt.obeys, allObey_free body, allObey_free empty]
  | within region body =>
    have head : region.obeys Wording.free = true := by
      cases region with
      | range name first last down step => cases step <;> simp [Region.obeys]
      | _ => simp [Region.obeys]
    simp [Stmt.obeys, head, allObey_free body]
  | text content => rfl
  | output value => rfl
  | block name => rfl
  | inherit target span => rfl
  | insert target bindings span => simp [Stmt.obeys]
  | create target template span => rfl
  | cycle number first others => simp [Stmt.obeys]
  | assign binding => rfl
termination_by structural statement

/-- So does every list of statements. -/
theorem allObey_free (statements : List Stmt) : allObey Wording.free statements = true := by
  cases statements with
  | nil => rfl
  | cons statement rest =>
    exact Bool.and_eq_true_iff.mpr ⟨Stmt.obeys_free statement, allObey_free rest⟩
termination_by structural statements

end

/-- The heads of a template are among its statements. -/
theorem allObey_heads (wording : Wording) (template : Template)
    (obeyed : allObey wording template.body = true) : allObey wording template.heads = true := by
  rw [allObey_iff] at obeyed ⊢
  intro statement member
  exact obeyed statement (List.mem_filter.mp member).1

/-- What is executed of a whole template obeys what the template obeys. -/
theorem Template.obeys_executed (template : Template) (wording : Wording)
    (obeyed : template.obeys wording = true) :
    allObey wording (if template.inherits then template.heads else template.body) = true := by
  have body : allObey wording template.body = true := (Bool.and_eq_true_iff.mp obeyed).1
  split
  · exact allObey_heads wording template body
  · exact body

/-- A block that is defined is one of those of the template. -/
theorem Template.mem_blocks {template : Template} {name : String} {body : List Stmt}
    (defined : template.block? name = some body) : (name, body) ∈ template.blocks := by
  obtain ⟨before, after, split, _⟩ := List.lookup_eq_some_iff.mp defined
  rw [split]
  exact List.mem_append_right before List.mem_cons_self

/-- The body of a block obeys what its template obeys. -/
theorem Template.obeys_block (template : Template) (wording : Wording)
    (obeyed : template.obeys wording = true) (name : String) (body : List Stmt)
    (found : template.block? name = some body) : allObey wording body = true := by
  have blocks := List.all_eq_true.mp (Bool.and_eq_true_iff.mp obeyed).2
  exact blocks (name, body) (Template.mem_blocks found)

end Stencil
