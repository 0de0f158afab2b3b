/-!
# UTF-8

Texts as bytes. Reading is strict; for showing bytes that may end in the middle
of a character there is a forgiving reader, which puts one replacement character
for each maximal piece that is not part of a character.
-/

namespace Stencil.Text

/-- What a byte sequence begins with: a character and its byte length, or the
length of a maximal broken piece. -/
inductive Utf8Head where
  | character (c : Char) (length : Nat)
  | broken (length : Nat)
  deriving DecidableEq

/-- A continuation byte lies between 0x80 and 0xBF. -/
def isContinuation (b : UInt8) : Bool := 0x80 ≤ b && b ≤ 0xBF

/-- The least and the greatest second byte that may follow the first byte, and
the number of bytes the first byte announces. -/
def announced (b : UInt8) : Option (UInt8 × UInt8 × Nat) :=
  if 0xC2 ≤ b && b ≤ 0xDF then some (0x80, 0xBF, 2)
  else if b = 0xE0 then some (0xA0, 0xBF, 3)
  else if b = 0xED then some (0x80, 0x9F, 3)
  else if 0xE1 ≤ b && b ≤ 0xEF then some (0x80, 0xBF, 3)
  else if b = 0xF0 then some (0x90, 0xBF, 4)
  else if 0xF1 ≤ b && b ≤ 0xF3 then some (0x80, 0xBF, 4)
  else if b = 0xF4 then some (0x80, 0x8F, 4)
  else none

/-- Reads the beginning of a non-empty byte sequence. -/
def headOf (b : UInt8) (rest : List UInt8) : Utf8Head :=
  if b < 0x80 then .character (Char.ofNat b.toNat) 1
  else match announced b, rest with
    | some (low, high, 2), c :: _ =>
      if low ≤ c && c ≤ high then
        .character (Char.ofNat ((b.toNat - 0xC0) * 64 + (c.toNat - 0x80))) 2
      else .broken 1
    | some (low, high, 3), c :: d :: _ =>
      if low ≤ c && c ≤ high then
        if isContinuation d then
          .character (Char.ofNat ((b.toNat - 0xE0) * 4096 + (c.toNat - 0x80) * 64 + (d.toNat - 0x80))) 3
        else .broken 2
      else .broken 1
    | some (low, high, 3), [c] => .broken (if low ≤ c && c ≤ high then 2 else 1)
    | some (low, high, 4), c :: d :: e :: _ =>
      if low ≤ c && c ≤ high then
        if isContinuation d then
          if isContinuation e then
            .character (Char.ofNat ((b.toNat - 0xF0) * 262144 + (c.toNat - 0x80) * 4096
              + (d.toNat - 0x80) * 64 + (e.toNat - 0x80))) 4
          else .broken 3
        else .broken 2
      else .broken 1
    | some (low, high, 4), [c, d] =>
      .broken (if low ≤ c && c ≤ high then if isContinuation d then 3 else 2 else 1)
    | some (low, high, 4), [c] => .broken (if low ≤ c && c ≤ high then 2 else 1)
    | _, _ => .broken 1

/-- Reads at most `fuel` pieces, a replacement character for each broken one. -/
def decodePieces : Nat → List UInt8 → List Char
  | _, [] => []
  | 0, _ => []
  | fuel + 1, b :: rest =>
    match headOf b rest with
    | .character c length => c :: decodePieces fuel (rest.drop (length - 1))
    | .broken length => '\uFFFD' :: decodePieces fuel (rest.drop (length - 1))

/-- The text of the bytes, a replacement character for each broken piece. -/
def decodeForgiving (bytes : ByteArray) : String :=
  String.ofList (decodePieces bytes.size bytes.toList)

/-- The text of the bytes if they are valid. -/
def decodeStrict? (bytes : ByteArray) : Option String := String.fromUTF8? bytes

end Stencil.Text
