import Stencil.Text.Columns.Emoji
import Stencil.Text.Columns.Ligature

/-!
# Display columns

How many columns of a fixed-width display a text takes. Most characters take one,
some none or two; a line feed takes none and any other control one. Emoji and
ligatures take less than their characters would one by one, so a text is measured
from its end to its beginning, and each character knowing what follows it.
-/

namespace Stencil.Text

/-- What a character is to the one before it. -/
inductive Role where
  | other
  | lineFeed
  | emoji (part : EmojiPart)
  | ligature (part : LigaturePart)
  deriving DecidableEq, Repr

/-- What follows a character: a role, and how a variation selector in between
asks the character to be shown. -/
structure Follower where
  role : Role
  asked : Option Presentation
  deriving DecidableEq, Repr

namespace Role

/-- The columns of a character by itself, and its role. -/
def ofCharacter (c : Char) : Int × Role :=
  if zeroWidthRanges.holds c then (0, .other)
  else if isEmojiModifier c then (2, .emoji .modifier)
  else if isFlagLetter c then (1, .emoji (.flagLetters 1))
  else if emojiRanges.holds c then (2, .emoji .whole)
  else if wideRanges.holds c then (2, .other)
  else if c.toNat = 0x17D8 then (3, .other)
  else match LigaturePart.ofLast? c with
    | some part => (1, .ligature part)
    | none => (1, .other)

/-- The columns of a character that belongs together with what follows, and what
both are to the one before. -/
def joined? (role : Role) (c : Char) : Option (Int × Role) :=
  match role with
  | .other | .lineFeed => none
  | .emoji part => (part.before? c).map fun read => (read.1, .emoji read.2)
  | .ligature part => (part.before? c).map fun read => (read.1, (read.2.map ligature).getD .other)

/-- The columns of a character before the given role, and its own role. A
carriage return belongs to the line feed after it. -/
def before (role : Role) (c : Char) : Int × Role :=
  if c.toNat ≤ 0xA0 then
    if c = '\n' then (0, .lineFeed)
    else if c = '\r' && role = .lineFeed then (0, .other)
    else (1, .other)
  else (role.joined? c).getD (ofCharacter c)

/-- What follows a character that cannot be shown as it is asked to. A ligature
goes on across the selector, an emoji does not. -/
def refused : Role → Role
  | .ligature part => .ligature part
  | _ => .other

end Role

namespace Follower

/-- Nothing follows. -/
def nothing : Follower := ⟨.other, none⟩

/-- The follower with a variation selector before it. The selector stands inside
a ligature; it may also ask for the emoji that a joiner stands after, or for the
key of a keycap. -/
def ask (role : Role) (presentation : Presentation) : Follower :=
  match role, presentation with
  | .ligature part, _ => ⟨.ligature part, presentation⟩
  | .emoji (.joined .start), .emoji | .emoji (.joined .keycap), .emoji => ⟨role, presentation⟩
  | _, _ => ⟨.other, presentation⟩

/-- The columns of an emoji that a selector asks for: none before a joiner, since
what is joined to it takes them. -/
def emojiColumns (role : Role) : Int :=
  match role with
  | .emoji (.joined _) => 0
  | _ => 2

/-- The columns of a character before the follower, and the follower of the one
before. -/
def before (follower : Follower) (c : Char) : Int × Follower :=
  if follower.asked = some .emoji && admitsEmoji c then
    (emojiColumns follower.role, ⟨.emoji .whole, none⟩)
  else if follower.asked = some .text && admitsText c then (1, nothing)
  else
    let role := if follower.asked = none then follower.role else follower.role.refused
    if c = '\uFE0F' then (0, ask role .emoji)
    else if c = '\uFE0E' then (0, ask role .text)
    else
      let read := role.before c
      (read.1, ⟨read.2, none⟩)

end Follower

/-- The columns of a text, and what it is to a character before it. -/
def measure (text : List Char) : Int × Follower :=
  text.foldr (fun c right =>
    let read := right.2.before c
    (read.1 + right.1, read.2)) (0, .nothing)

/-- How many columns the text takes. -/
def columns (text : List Char) : Nat := (measure text).1.toNat

/-- The measure of a text with one character more in front. -/
theorem measure_cons (c : Char) (text : List Char) :
    measure (c :: text) = (((measure text).2.before c).1 + (measure text).1,
      ((measure text).2.before c).2) := rfl

/-- Printable ASCII text takes one column for each character. -/
theorem measure_ascii (text : List Char) (plain : ∀ c ∈ text, c.toNat < 0x7F ∧ c ≠ '\n') :
    measure text = ((text.length : Int), .nothing) := by
  induction text with
  | nil => rfl
  | cons c rest inductionHypothesis =>
    have tail := inductionHypothesis fun d member => plain d (List.mem_cons_of_mem _ member)
    have here := plain c List.mem_cons_self
    have low : c.toNat ≤ 0xA0 := by omega
    have differs : ∀ d : Char, 0xA0 < d.toNat → c ≠ d := by
      intro d high same
      subst same
      omega
    rw [measure_cons, tail]
    simp [Follower.before, Follower.nothing, Role.before, low, here.2,
      differs '\uFE0F' (by decide), differs '\uFE0E' (by decide)]
    omega

example : columns ['\u0644', '\u0627'] = 1 ∧ columns ['\u05D0', '\u05DC'] = 2 := by decide +kernel

example : columns ['\u2764', '\uFE0F'] = 2 ∧ columns ['\u2764'] = 1 := by decide +kernel

end Stencil.Text
