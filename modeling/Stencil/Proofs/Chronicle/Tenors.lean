import Stencil.Proofs.Chronicle.Moments

/-!
# The tenor of statements and goals

A sound tenor is kept by every statement: for messages, regions with tabbing and tags that
create files this is asked of it, and for all other statements it follows from what they are
made of. From there it is kept by all goals, however deep they lie inside one another.
-/

namespace Stencil

namespace Tenor

open Account

variable {Circumstance : Type} {tenor : Tenor Circumstance} {circumstance : Circumstance}
  {depth : Nat} {station : Station} {α : Type}

/-- All goals keep the tenor at the stations where it is kept. -/
def Follows (tenor : Tenor Circumstance) (depth : Nat) : Prop :=
  ∀ circumstance station goal, tenor.admits circumstance station →
    tenor.Keeps circumstance (expandTold depth station goal)

/-- The tenor is kept wherever the rendering moves to, from when a statement is begun, and by
the statements that change more than a little themselves. -/
structure Sound (tenor : Tenor Circumstance) : Prop extends Even tenor where
  moves : ∀ {circumstance} {station other : Station}, tenor.admits circumstance station →
    other.escaping = station.escaping → other.tabbing = station.tabbing →
    station.sites <+: other.sites → tenor.admits circumstance other
  begins : ∀ {circumstance station statement world after events},
    tenor.admits circumstance station → tenor.keeps circumstance world after events →
    tenor.keeps circumstance world after (.began station statement world :: events)
  message : ∀ {circumstance station body depth}, tenor.Follows depth →
    tenor.admits circumstance station →
    (∀ inner, tenor.admits circumstance inner →
      tenor.Keeps circumstance (executeAllTold (expandTold depth) inner body)) →
    tenor.Keeps circumstance
      ((Stmt.within .message body).executeTold (expandTold depth) station)
  tabbing : ∀ {circumstance station body depth}, tenor.Follows depth →
    tenor.admits circumstance station →
    (∀ inner, tenor.admits circumstance inner →
      tenor.Keeps circumstance (executeAllTold (expandTold depth) inner body)) →
    tenor.Keeps circumstance
      ((Stmt.within .tabbing body).executeTold (expandTold depth) station)
  create : ∀ {circumstance station target template span depth}, tenor.Follows depth →
    tenor.admits circumstance station →
    tenor.Keeps circumstance
      ((Stmt.create target template span).executeTold (expandTold depth) station)

/-- A statement keeps the tenor if what it does keeps it. -/
theorem Keeps.beginning (sound : tenor.Sound) {statement : Stmt} {account : Account α}
    (admitted : tenor.admits circumstance station) (keeps : tenor.Keeps circumstance account) :
    tenor.Keeps circumstance (beginning station statement account) :=
  fun world => sound.begins admitted (keeps world)

section Tags

variable (sound : tenor.Sound) (follows : tenor.Follows depth)
  (admitted : tenor.admits circumstance station)
include sound follows admitted

/-- The template that a tag leads to. -/
theorem Sound.led (span : Span) (handle : Handle) (derived : List Handle) :
    tenor.Keeps circumstance (expandTold depth
      (({ station with sites := station.sites ++ [station.site span] }).into handle derived)
      .whole) :=
  follows _ _ .whole (sound.moves admitted rfl rfl (List.prefix_append _ _))

/-- The template that a station's template extends. -/
theorem Sound.inherit (target : Expr) (span : Span) :
    tenor.Keeps circumstance (station.inheritTold (expandTold depth) target span) :=
  (Keeps.evaluateText sound.toEven target).bind sound.toEven fun _ name _ _ =>
    Keeps.visit sound.toEven span name fun handle =>
      (sound.led follows admitted span handle _).through sound.toEven _ handle

/-- A template in the place of a tag. -/
theorem Sound.insert (target : Expr) (bindings : List Binding) (span : Span) :
    tenor.Keeps circumstance (station.insertTold (expandTold depth) target bindings span) := by
  refine (Keeps.evaluateText sound.toEven target).bind sound.toEven fun _ name _ _ => ?_
  refine (Keeps.calm sound.toEven (Run.calm_scopeOf bindings)).bind sound.toEven
    fun _ scope _ _ => ?_
  exact Keeps.visit sound.toEven span name fun handle =>
    ((sound.led follows admitted span handle _).inScope sound.toEven scope).through
      sound.toEven _ handle

end Tags

section Statements

variable (sound : tenor.Sound) (follows : tenor.Follows depth)
include sound follows

/-- So all statements and goals convey it that the tenor is kept. -/
theorem Sound.conveys : Narration.Conveys (expandTold depth)
    (fun account => tenor.Keeps circumstance account)
    (.ofStations (tenor.admits circumstance) fun admitted =>
      sound.moves admitted rfl rfl (List.prefix_refl _)) where
  toTelling := Keeps.telling sound.toEven
  evaluate := Keeps.evaluate sound.toEven
  evaluateText := Keeps.evaluateText sound.toEven
  scopeOf := fun bindings => .calm sound.toEven (Run.calm_scopeOf bindings)
  emit := fun station value => .calm sound.toEven (Run.calm_emit station value)
  shorten := fun text => .calm sound.toEven ((Run.calm_removeSpace text).bind Run.calm_write)
  assign := fun _ _ => .calm sound.toEven fun _ => .of_same rfl rfl rfl rfl
  goal := fun admitted => follows _ _ _ admitted
  begins := fun admitted _ isAccount keeps => isAccount ▸ keeps.beginning sound admitted
  inherit := fun admitted => (sound.inherit follows admitted _ _).beginning sound admitted
  insert := fun admitted => (sound.insert follows admitted _ _ _).beginning sound admitted
  create := fun admitted => sound.create follows admitted
  cycle := by
    intro station number first others admitted
    have turns : Run.Calm (Run.turn ⟨station.handle.serial, number⟩) :=
      .of_context (fun _ => rfl) fun _ => rfl
    refine Keeps.beginning sound admitted ?_
    exact (Keeps.calm sound.toEven turns).bind sound.toEven fun _ turn _ _ =>
      (Keeps.evaluate sound.toEven _).bind sound.toEven fun _ value _ _ =>
        .calm sound.toEven (Run.calm_emit station value)
  message := fun admitted inside => sound.message follows admitted inside
  tabbing := fun admitted inside => sound.tabbing follows admitted inside

/-- So lists of statements keep the tenor. -/
theorem Sound.executeAll (statements : List Stmt)
    (admitted : tenor.admits circumstance station) :
    tenor.Keeps circumstance (executeAllTold (expandTold depth) station statements) :=
  (sound.conveys follows).executeAll statements admitted

end Statements

/-- So do all goals, however deep they lie inside one another. -/
theorem Sound.follows (sound : tenor.Sound) (depth : Nat) : tenor.Follows depth := by
  induction depth with
  | zero =>
    intro circumstance station goal _
    exact Keeps.calm sound.toEven (.of_context (fun _ => rfl) fun _ => rfl)
  | succ depth inductionHypothesis =>
    exact fun circumstance station goal admitted =>
      (sound.conveys inductionHypothesis).pursue admitted

end Tenor

end Stencil
