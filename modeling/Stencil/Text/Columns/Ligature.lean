import Stencil.Text.Columns.Character

/-!
# Ligatures

Letters of some scripts are drawn as one sign when they meet, and take fewer
columns together than apart. A ligature is read from its last character to its
first. Most are made by a joiner between the letters; marks that are not shown
may stand anywhere inside.
-/

namespace Stencil.Text

/-- Arabic letters of the joining group alef. -/
def alefRanges : CharRanges := [(0x622, 0x623), (0x625, 0x625), (0x627, 0x627), (0x671, 0x673),
  (0x675, 0x675), (0x773, 0x774), (0x870, 0x882)]

/-- Arabic letters of the joining group lam. -/
def lamRanges : CharRanges := [(0x644, 0x644), (0x6B5, 0x6B8), (0x76A, 0x76A), (0x8A6, 0x8A6),
  (0x8C7, 0x8C7)]

/-- Khmer letters that a coeng sign places below the letter before it. -/
def subjoinedRanges : CharRanges := [(0x1780, 0x1782), (0x1784, 0x1787), (0x1789, 0x178C),
  (0x178E, 0x1793), (0x1795, 0x1798), (0x179B, 0x179D), (0x17A0, 0x17A0), (0x17A2, 0x17A2),
  (0x17A7, 0x17A7), (0x17AB, 0x17AC), (0x17AF, 0x17AF)]

/-- Tifinagh consonants, of which two can be joined to one sign. -/
def consonantRanges : CharRanges := [(0x2D31, 0x2D65), (0x2D6F, 0x2D6F)]

/-- Marks that are not shown and may stand anywhere inside a ligature. -/
def unseenMarkRanges : CharRanges := [(0x34F, 0x34F), (0x17B4, 0x17B5), (0x180B, 0x180D),
  (0x180F, 0x180F), (0xFE00, 0xFE0F), (0xE0100, 0xE01EF)]

/-- The last part of a ligature, as seen from the character before it: an Arabic
alef; a Hebrew lamed, a Buginese ya, a Tifinagh consonant or an Old Turkic i,
with or without a joiner before it; a ya with a joiner and the vowel i before it;
a Tifinagh consonant with the joining sign before it; the last sign of a Lisu
tone; a Khmer letter that can stand below another. -/
inductive LigaturePart where
  | alef
  | lamed (joined : Bool)
  | ya (joined : Bool)
  | vowelYa
  | consonant (joined : Bool)
  | signedConsonant
  | toneEnd
  | orkhonI (joined : Bool)
  | subjoined
  deriving DecidableEq, Repr

namespace LigaturePart

/-- The part of a ligature that a letter of one column may be the end of. -/
def ofLast? (c : Char) : Option LigaturePart :=
  if c = '\u05DC' then some (.lamed false)
  else if alefRanges.holds c then some .alef
  else if subjoinedRanges.holds c then some .subjoined
  else if c = '\u1A10' then some (.ya false)
  else if consonantRanges.holds c then some (.consonant false)
  else if c = '\uA4FC' || c = '\uA4FD' then some .toneEnd
  else if c.toNat = 0x10C03 then some (.orkhonI false)
  else none

/-- The part with a joiner before it. -/
def join : LigaturePart → LigaturePart
  | .lamed _ => .lamed true
  | .ya _ => .ya true
  | .consonant _ => .consonant true
  | .orkhonI _ => .orkhonI true
  | part => part

/-- The letter before the part that makes the ligature, with the columns that it
adds and with the part that is read then, if there is more. -/
def letterBefore? (part : LigaturePart) (c : Char) : Option (Int × Option LigaturePart) :=
  match part with
  | .alef => if lamRanges.holds c then some (0, none) else none
  | .lamed joined => if joined && c = '\u05D0' then some (0, none) else none
  | .ya joined => if joined && c = '\u1A17' then some (0, some .vowelYa) else none
  | .vowelYa => if c = '\u1A15' then some (0, none) else none
  | .consonant joined =>
    if c = '\u2D7F' then some (1, some .signedConsonant)
    else if joined && consonantRanges.holds c then some (0, none)
    else none
  | .signedConsonant => if consonantRanges.holds c then some (-1, none) else none
  | .toneEnd => if '\uA4F8' ≤ c && c ≤ '\uA4FB' then some (0, none) else none
  | .orkhonI joined => if joined && c.toNat = 0x10C32 then some (0, none) else none
  | .subjoined => if c = '\u17D2' then some (-1, none) else none

/-- Reads one character further, and tells the columns that it adds, if it
belongs to the same ligature. Arabic letters are joined across every transparent
character; in the other scripts a joiner counts, and marks that are not shown are
passed over. -/
def before? (part : LigaturePart) (c : Char) : Option (Int × Option LigaturePart) :=
  if part = .alef then
    (part.letterBefore? c).or (if isTransparent c then some (0, some part) else none)
  else if c = joiner then some (0, some part.join)
  else if unseenMarkRanges.holds c then some (0, some part)
  else part.letterBefore? c

/-- A second joiner changes nothing. -/
@[simp] theorem join_join (part : LigaturePart) : part.join.join = part.join := by
  cases part <;> rfl

end LigaturePart

end Stencil.Text
