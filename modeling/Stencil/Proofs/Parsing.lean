import Stencil.Expr.Parser

/-!
# Running parsers

What parsers do to the lexemes ahead of them, as equations: sequences, and steps that are
taken as long as there is one.
-/

namespace Stencil.Parser

variable {α β : Type} {setting : Setting} {ahead rest : List Lexeme}

/-- A sequence goes on with what its first parser left, and fails with it. -/
theorem bind_apply (first : Parser α) (next : α → Parser β) (setting : Setting)
    (ahead : List Lexeme) :
    (first >>= next) setting ahead =
      match first setting ahead with
      | .ok (value, rest) => next value setting rest
      | .error flaw => .error flaw := by
  simp only [bind, ReaderT.bind, StateT.bind, Except.bind]
  cases first setting ahead <;> rfl

/-- Where its first parser reads a value, a sequence goes on with it. -/
theorem bind_of_ok {first : Parser α} {next : α → Parser β} {value : α}
    (read : first setting ahead = .ok (value, rest)) :
    (first >>= next) setting ahead = next value setting rest := by
  rw [bind_apply, read]

/-- Where its first parser fails, a sequence fails so. -/
theorem bind_of_error {first : Parser α} {flaw : Flaw} (next : α → Parser β)
    (failed : first setting ahead = .error flaw) :
    (first >>= next) setting ahead = .error flaw := by
  rw [bind_apply, failed]

/-- Where a sequence reads a value, its first parser reads one and the rest goes on with it. -/
theorem of_bind_ok {first : Parser α} {next : α → Parser β} {value : β}
    (accepted : (first >>= next) setting ahead = .ok (value, rest)) :
    ∃ between left, first setting ahead = .ok (between, left) ∧
      next between setting left = .ok (value, rest) := by
  rw [bind_apply] at accepted
  cases begun : first setting ahead with
  | error flaw =>
    rw [begun] at accepted
    cases accepted
  | ok reached =>
    rw [begun] at accepted
    exact ⟨reached.1, reached.2, rfl, accepted⟩

/-- A value takes no lexeme. -/
@[simp] theorem pure_apply (value : α) (setting : Setting) (ahead : List Lexeme) :
    (pure value : Parser α) setting ahead = .ok (value, ahead) := rfl

/-- Asking for the setting takes no lexeme. -/
@[simp] theorem read_apply (setting : Setting) (ahead : List Lexeme) :
    (read : Parser Setting) setting ahead = .ok (setting, ahead) := rfl

/-- What is done to a value is done when it was read. -/
theorem map_apply (change : α → β) (parser : Parser α) (setting : Setting)
    (ahead : List Lexeme) :
    (change <$> parser) setting ahead =
      (parser setting ahead).map fun found => (change found.1, found.2) := by
  simp only [Functor.map, StateT.map]
  cases parser setting ahead <;> rfl

/-- One step of several. -/
theorem iterate_succ (step : α → Parser (Option α)) (bound : Nat) (value : α) :
    iterate step (bound + 1) value = step value >>= fun later =>
      match later with
      | some later => iterate step bound later
      | none => pure value := rfl

/-- The next lexeme is looked at where there is one. -/
@[simp] theorem peek_cons (first : Lexeme) :
    peek setting (first :: rest) = .ok (some first, first :: rest) := rfl

/-- It is taken. -/
@[simp] theorem next_cons (wanted : Expected) (first : Lexeme) :
    next wanted setting (first :: rest) = .ok (first, rest) := rfl

/-- It is taken if it is of the token that is expected. -/
theorem expect_cons {token : Token} {first : Lexeme} (same : first.token = token) :
    expect token setting (first :: rest) = .ok (first, rest) := by
  rw [expect, bind_apply, next_cons]
  simp [same]

/-- It is known whether it is of a token. -/
@[simp] theorem isNext_cons (token : Token) (first : Lexeme) :
    isNext token setting (first :: rest) =
      .ok (decide (first.token = token), first :: rest) := rfl

/-- It is taken if it is of a token that may follow. -/
theorem takes_cons (token : Token) (first : Lexeme) :
    takes token setting (first :: rest) =
      if first.token = token then .ok (true, rest) else .ok (false, first :: rest) := by
  rw [takes, bind_apply, isNext_cons]
  by_cases same : first.token = token
  · simp [same, bind_apply, expect_cons same]
  · simp [same]

/-- Steps of a kind that take a lexeme each. -/
def Advances (step : α → Parser (Option α)) (setting : Setting) : Prop :=
  ∀ value ahead later rest, step value setting ahead = .ok (some later, rest) →
    rest.length < ahead.length

/-- Of such steps there are no more than lexemes, however many are allowed. -/
theorem iterate_eq {step : α → Parser (Option α)} (advances : Advances step setting)
    (first second : Nat) (value : α) (ahead : List Lexeme) (enough : ahead.length < first)
    (alsoEnough : ahead.length < second) :
    iterate step first value setting ahead = iterate step second value setting ahead := by
  induction first generalizing second value ahead with
  | zero => omega
  | succ first inductionHypothesis =>
    cases second with
    | zero => omega
    | succ second =>
      rw [iterate_succ, iterate_succ, bind_apply, bind_apply]
      cases taken : step value setting ahead with
      | error flaw => rfl
      | ok found =>
        obtain ⟨result, rest⟩ := found
        cases result with
        | none => rfl
        | some later =>
          have shorter := advances value ahead later rest taken
          exact inductionHypothesis second later rest (by omega) (by omega)

/-- Such steps are one step, and the others if there is one. -/
theorem repeatedly_eq {step : α → Parser (Option α)} (advances : Advances step setting)
    (value : α) (ahead : List Lexeme) :
    repeatedly step value setting ahead =
      (step value >>= fun later =>
        match later with
        | some later => repeatedly step later
        | none => pure value) setting ahead := by
  rw [repeatedly, iterate_succ, bind_apply, bind_apply]
  cases taken : step value setting ahead with
  | error flaw => rfl
  | ok found =>
    obtain ⟨result, rest⟩ := found
    cases result with
    | none => rfl
    | some later =>
      have shorter := advances value ahead later rest taken
      exact iterate_eq advances _ _ later rest shorter (Nat.lt_succ_self _)

/-- After a step that was taken come the others. -/
theorem repeatedly_of_some {step : α → Parser (Option α)} (advances : Advances step setting)
    {value later : α} (taken : step value setting ahead = .ok (some later, rest)) :
    repeatedly step value setting ahead = repeatedly step later setting rest := by
  rw [repeatedly_eq advances, bind_apply, taken]

/-- Where there is no step, the value stays. -/
theorem repeatedly_of_none {step : α → Parser (Option α)} {value : α}
    (taken : step value setting ahead = .ok (none, rest)) :
    repeatedly step value setting ahead = .ok (value, rest) := by
  rw [repeatedly, iterate_succ, bind_apply, taken]
  rfl

end Stencil.Parser
