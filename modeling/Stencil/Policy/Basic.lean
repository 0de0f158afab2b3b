import Stencil.Journal

/-!
# Policies

An escape policy changes the text of values before it is written; a spaceless
policy changes the whole text of a spaceless region. What a policy does may
depend on everything it was used for before, so a policy is a function of its
earlier uses, latest first.
-/

namespace Stencil

/-- What an escape policy is used for: to escape a text, or to be told that
tabbing is switched on or off. -/
inductive EscapeUse where
  | escaped (text : String)
  | tabbing (on : Bool)
  deriving DecidableEq, Repr

/-- An escape policy. One that is not attentive does not hear about tabbing. -/
structure EscapePolicy where
  attentive : Bool
  escape : List EscapeUse → String → String

/-- An escape policy in use, under the label it was registered with. -/
structure Escaper where
  label : String
  policy : EscapePolicy
  uses : List EscapeUse

namespace Escaper

/-- A policy that was not used yet. -/
def unused (label : String) (policy : EscapePolicy) : Escaper := ⟨label, policy, []⟩

/-- Escapes a text. -/
def escape (escaper : Escaper) (text : String) : String × Escaper :=
  (escaper.policy.escape escaper.uses text,
    { escaper with uses := .escaped text :: escaper.uses })

/-- Tells the policy that tabbing is switched on or off. -/
def switchTabbing (escaper : Escaper) (on : Bool) : List Notice × Escaper :=
  (if escaper.policy.attentive then [.tabbing escaper.label on] else [],
    { escaper with uses := .tabbing on :: escaper.uses })

end Escaper

/-- What a spaceless policy is used for: to start afresh, or to change a text. -/
inductive SpaceUse where
  | reset
  | removed (text : String)
  deriving DecidableEq, Repr

/-- A spaceless policy. One that is not attentive does not hear about starting
afresh. -/
structure SpacelessPolicy where
  attentive : Bool
  remove : List SpaceUse → String → String

/-- A spaceless policy in use. -/
structure Spacer where
  policy : SpacelessPolicy
  uses : List SpaceUse

namespace Spacer

/-- A policy that was not used yet. -/
def unused (policy : SpacelessPolicy) : Spacer := ⟨policy, []⟩

/-- Starts afresh and changes a text. -/
def remove (spacer : Spacer) (text : String) : String × List Notice × Spacer :=
  let reset := SpaceUse.reset :: spacer.uses
  (spacer.policy.remove reset text, if spacer.policy.attentive then [.reset] else [],
    { spacer with uses := .removed text :: reset })

end Spacer

end Stencil
