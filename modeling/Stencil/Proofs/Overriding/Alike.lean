import Mathlib.Data.List.Forall2
import Stencil.Proofs.Wording

/-!
# Contexts alike but for one name

Two stacks of scopes are alike at a height if the scopes down to that height hold the
same entries but for the value of one hidden name, and the scopes below are the same.
An expression that does not read the hidden name has the same value in both, and
reports the same.
-/

namespace Stencil

/-- No path in the expression starts at the name. -/
def Expr.avoids (hidden : String) (expression : Expr) : Bool :=
  expression.obeys (fun path => path.head ≠ hidden) fun _ => true

/-- A wording in which nothing reads a name. -/
def Wording.avoiding (hidden : String) : Wording where
  text := fun _ => true
  value := Expr.avoids hidden
  pattern := Expr.avoids hidden
  block := fun _ => true
  inherit := true

/-- The scopes have entries under the same names in the same order, and only the values
under the hidden name differ. -/
def Scope.Alike (hidden : String) (scope other : Named Value) : Prop :=
  List.Forall₂ (fun entry entry' => entry.1 = entry'.1 ∧ (entry.1 ≠ hidden → entry.2 = entry'.2))
    scope other

namespace Scope

variable {hidden name : String} {scope other : Named Value}

/-- Every scope is like itself. -/
theorem Alike.refl (hidden : String) (scope : Named Value) : Scope.Alike hidden scope scope := by
  induction scope with
  | nil => exact List.Forall₂.nil
  | cons entry rest inductionHypothesis =>
    exact List.Forall₂.cons ⟨rfl, fun _ => rfl⟩ inductionHypothesis

/-- Another name than the hidden one stands for the same in both. -/
theorem Alike.get?_eq (alike : Scope.Alike hidden scope other) (visible : name ≠ hidden) :
    scope.get? name = other.get? name := by
  induction alike with
  | nil => rfl
  | @cons entry entry' rest rest' same restAlike inductionHypothesis =>
    obtain ⟨own, value⟩ := entry
    obtain ⟨own', value'⟩ := entry'
    obtain ⟨sameName, sameValue⟩ := same
    cases sameName
    by_cases isHere : own = name
    · have equal : value = value' := sameValue (isHere ▸ visible)
      rw [Named.get?, Named.get?, if_pos isHere, if_pos isHere, equal]
    · rw [Named.get?, Named.get?, if_neg isHere, if_neg isHere]
      exact inductionHypothesis

/-- Scopes stay alike when the same is put into both. -/
theorem Alike.put (alike : Scope.Alike hidden scope other) (name : String) (value : Value) :
    Scope.Alike hidden (scope.put name value) (other.put name value) := by
  induction alike with
  | nil => exact List.Forall₂.cons ⟨rfl, fun _ => rfl⟩ List.Forall₂.nil
  | @cons entry entry' rest rest' same restAlike inductionHypothesis =>
    obtain ⟨own, held⟩ := entry
    obtain ⟨own', held'⟩ := entry'
    obtain ⟨sameName, sameValue⟩ := same
    cases sameName
    have new : (name, value).1 = (name, value).1 ∧
        ((name, value).1 ≠ hidden → (name, value).2 = (name, value).2) := ⟨rfl, fun _ => rfl⟩
    rw [Named.put, Named.put]
    by_cases before : name < own
    · rw [if_pos before, if_pos before]
      exact List.Forall₂.cons new (List.Forall₂.cons ⟨rfl, sameValue⟩ restAlike)
    · rw [if_neg before, if_neg before]
      by_cases isHere : own = name
      · rw [if_pos isHere, if_pos isHere]
        exact List.Forall₂.cons new restAlike
      · rw [if_neg isHere, if_neg isHere]
        exact List.Forall₂.cons ⟨rfl, sameValue⟩ inductionHypothesis

end Scope

/-- The scopes down to a height are alike, and there are others below, which are the
same. -/
def Scopes.Alike (hidden : String) : Nat → List (Named Value) → List (Named Value) → Prop
  | 0, scope :: below, other :: below' =>
    Scope.Alike hidden scope other ∧ below = below' ∧ below ≠ []
  | height + 1, scope :: below, other :: below' =>
    Scope.Alike hidden scope other ∧ Scopes.Alike hidden height below below'
  | _, _, _ => False

namespace Scopes

variable {hidden name : String} {height : Nat} {scopes others : List (Named Value)}

/-- Another name than the hidden one stands for the same in both stacks. -/
theorem Alike.find?_eq (alike : Scopes.Alike hidden height scopes others)
    (visible : name ≠ hidden) :
    (scopes.findSome? fun scope => scope.get? name) =
      others.findSome? fun scope => scope.get? name := by
  induction height generalizing scopes others with
  | zero =>
    match scopes, others, alike with
    | scope :: below, other :: below', ⟨here, same, _⟩ =>
      rw [List.findSome?_cons, List.findSome?_cons, here.get?_eq visible, same]
  | succ height inductionHypothesis =>
    match scopes, others, alike with
    | scope :: below, other :: below', ⟨here, deeper⟩ =>
      rw [List.findSome?_cons, List.findSome?_cons, here.get?_eq visible,
        inductionHypothesis deeper]

/-- The innermost scopes may be exchanged for others that are alike. -/
theorem Alike.inner {inner inner' new new' : Named Value} {outer outer' : List (Named Value)}
    (alike : Scopes.Alike hidden height (inner :: outer) (inner' :: outer'))
    (here : Scope.Alike hidden new new') :
    Scopes.Alike hidden height (new :: outer) (new' :: outer') := by
  cases height with
  | zero => exact ⟨here, alike.2⟩
  | succ height => exact ⟨here, alike.2⟩

end Scopes

section Evaluation

variable {hidden : String} {context other : Context} {filters : Named Filter}

/-- A path that does not start at the hidden name leads to the same. -/
theorem Path.resolve_eq (path : Path)
    (same : ∀ name, name ≠ hidden → context.find? name = other.find? name)
    (visible : path.head ≠ hidden) : path.resolve context = path.resolve other := by
  unfold Path.resolve
  rw [same path.head visible]

mutual

/-- An expression that does not read the hidden name has the same value in contexts
where all other names stand for the same. -/
theorem Expr.evaluate_eq (same : ∀ name, name ≠ hidden → context.find? name = other.find? name)
    (expression : Expr)
    (avoids : expression.obeys (fun path => path.head ≠ hidden) (fun _ => true) = true) :
    expression.evaluate filters context = expression.evaluate filters other := by
  cases expression with
  | literal value => rfl
  | path path =>
    have visible : path.head ≠ hidden := by simpa [Expr.obeys] using avoids
    rw [Expr.evaluate, Expr.evaluate, path.resolve_eq same visible]
  | call path arguments =>
    obtain ⟨head, rest⟩ := Bool.and_eq_true_iff.mp avoids
    have visible : path.head ≠ hidden := by simpa using head
    rw [Expr.evaluate, Expr.evaluate, path.resolve_eq same visible,
      evaluateAll_eq same arguments rest]
  | filtered receiver name argument =>
    simp only [Expr.obeys, Bool.and_true, Bool.and_eq_true] at avoids
    rw [Expr.evaluate, Expr.evaluate, Expr.evaluate_eq same receiver avoids.1,
      evaluateOption_eq same argument avoids.2]
  | negated operand =>
    rw [Expr.evaluate, Expr.evaluate, Expr.evaluate_eq same operand avoids]
  | connected connective left right =>
    obtain ⟨leftAvoids, rightAvoids⟩ := Bool.and_eq_true_iff.mp avoids
    rw [Expr.evaluate, Expr.evaluate, Expr.evaluate_eq same left leftAvoids,
      Expr.evaluate_eq same right rightAvoids]
  | compared relation left right =>
    obtain ⟨leftAvoids, rightAvoids⟩ := Bool.and_eq_true_iff.mp avoids
    rw [Expr.evaluate, Expr.evaluate, Expr.evaluate_eq same left leftAvoids,
      Expr.evaluate_eq same right rightAvoids]
termination_by structural expression

/-- The same for arguments. -/
theorem evaluateAll_eq (same : ∀ name, name ≠ hidden → context.find? name = other.find? name)
    (expressions : List Expr)
    (avoids : exprsObey (fun path => path.head ≠ hidden) (fun _ => true) expressions = true) :
    evaluateAll filters context expressions = evaluateAll filters other expressions := by
  cases expressions with
  | nil => rfl
  | cons expression rest =>
    obtain ⟨headAvoids, restAvoids⟩ := Bool.and_eq_true_iff.mp avoids
    rw [evaluateAll, evaluateAll, Expr.evaluate_eq same expression headAvoids,
      evaluateAll_eq same rest restAvoids]
termination_by structural expressions

/-- The same for an argument that need not be there. -/
theorem evaluateOption_eq (same : ∀ name, name ≠ hidden → context.find? name = other.find? name)
    (expression : Option Expr)
    (avoids : optionObeys (fun path => path.head ≠ hidden) (fun _ => true) expression = true) :
    evaluateOption filters context expression = evaluateOption filters other expression := by
  cases expression with
  | none => rfl
  | some expression =>
    rw [evaluateOption, evaluateOption, Expr.evaluate_eq same expression avoids]
termination_by structural expression

end

end Evaluation

end Stencil
