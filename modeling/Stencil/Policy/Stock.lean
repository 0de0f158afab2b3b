import Stencil.Policy.Basic
import Stencil.Text.Blank
import Stencil.Text.Casing
import Stencil.Text.Decimal

/-!
# Stock policies

Ready-made escape and spaceless policies.
-/

namespace Stencil

namespace EscapePolicy

/-- The entity of a character with a meaning in markup; any other character. -/
def entity (c : Char) : List Char :=
  if c = '&' then "&amp;".toList
  else if c = '<' then "&lt;".toList
  else if c = '>' then "&gt;".toList
  else [c]

/-- Entities in the place of ampersands and angle brackets. -/
def html : EscapePolicy :=
  ⟨true, fun _ text => String.ofList (text.toList.flatMap entity)⟩

/-- No entity has an opening angle bracket in it. -/
theorem bracket_not_mem_entity (c : Char) : '<' ∉ entity c := by
  unfold entity
  split
  · decide
  · split
    · decide
    · split
      · decide
      · rename_i different _
        simpa using Ne.symm different

/-- No opening angle bracket is left, whatever the policy was used for before. -/
theorem bracket_not_mem_html (uses : List EscapeUse) (text : String) :
    '<' ∉ (html.escape uses text).toList := by
  simp only [html, String.toList_ofList, List.mem_flatMap, not_exists, not_and]
  exact fun c _ => bracket_not_mem_entity c

/-- Capitals in the place of the small letters of ASCII. -/
def upper : EscapePolicy := ⟨true, fun _ text => Text.asciiUpper text⟩

/-- Tabbing is on after some uses. -/
def isTabbing (uses : List EscapeUse) : Bool :=
  match uses with
  | [] => false
  | .tabbing on :: _ => on
  | .escaped _ :: earlier => isTabbing earlier

/-- A tab after each line feed while tabbing is on. -/
def tab : EscapePolicy :=
  ⟨true, fun uses text =>
    if isTabbing uses then
      String.ofList (text.toList.flatMap fun c => if c = '\n' then ['\n', '\t'] else [c])
    else text⟩

/-- The number of the escaped text before it. -/
def count : EscapePolicy :=
  ⟨true, fun uses text =>
    let earlier := uses.filter fun
      | .escaped _ => true
      | .tabbing _ => false
    Text.decimal (earlier.length + 1) ++ ":" ++ text⟩

/-- Brackets around the text. -/
def wrap : EscapePolicy := ⟨false, fun _ text => "[" ++ text ++ "]"⟩

end EscapePolicy

namespace SpacelessPolicy

/-- The text without blanks. -/
def strip : SpacelessPolicy :=
  ⟨false, fun _ text => String.ofList (text.toList.filter fun c => !Text.isBlank c)⟩

/-- The runs of characters between blanks. -/
def words : List Char → List (List Char)
  | [] => []
  | c :: rest =>
    if Text.isBlank c then words rest
    else match rest, words rest with
      | d :: _, first :: later =>
        if Text.isBlank d then [c] :: first :: later else (c :: first) :: later
      | _, later => [c] :: later

/-- One space in the place of each run of blanks, none at the ends. -/
def collapse : SpacelessPolicy :=
  ⟨true, fun _ text => " ".intercalate ((words text.toList).map String.ofList)⟩

/-- The number of the text since the last fresh start around it. -/
def numbered : SpacelessPolicy :=
  ⟨true, fun uses text =>
    let since := uses.takeWhile (· ≠ .reset)
    Text.decimal (since.length + 1) ++ "<" ++ text ++ ">"⟩

end SpacelessPolicy

end Stencil
