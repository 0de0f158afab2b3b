import Stencil.Proofs.Sessions

/-!
# The definitions of a block

Which definition of a block is rendered, and what it has for its parent. The body is
always that of the most derived template of the line with the block, wherever the
reference stands. The parents are those of the line only if the reference stands in
the base, or the base has no definition: a reference that stands in a block of a
derived template finds the definitions of the derived templates, without the base's.
-/

namespace Stencil.Lineage

variable {held : Held} {line : List Handle} {station : Station} {base : Handle} {name : String}

/-- All definitions of the line. -/
def inherited : Resolution := fun line _ name => line.filter fun handle => handle.defines name

/-- The most derived definition of the line, and behind it those that the station finds
behind the first. -/
def leading : Resolution := fun line station name =>
  (line.find? fun handle => handle.defines name).toList ++ (station.definitions name).drop 1

namespace Sample

/-- A template with two blocks, and one that extends it, where the second block is
referred to inside of the first. -/
def steps : List Step := [
  .addTemplate "base" (Source.block "a" "" ++ Source.block "b" "B"),
  .addTemplate "child" (Source.tag "extend 'base'" ++
    Source.block "a" (Source.block "b" ("c" ++ Source.hole "block.super")))]

/-- A handle to the derived template, with the session that gave it. -/
def given : Except Answer (Handle × Session) :=
  (Session.empty.prepare steps).2.obtain? (.name "child" none)

end Sample

end Stencil.Lineage
