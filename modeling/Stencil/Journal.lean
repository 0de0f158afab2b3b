/-!
# The journal

What a rendering reports besides its output: records of what it did, each with a
level, and the notices that policies were given.
-/

namespace Stencil

/-- Something worth a record. -/
inductive Record where
  | unknownVariable (name : String)
  | notCallable (path : String)
  | noSuchSegment (segment : String) (within : String)
  | missingFilter (name : String)
  | reused (template : String)
  | loaded (template : String)
  | evicted (template : String)
  | created (path : String)
  | message (text : String)
  deriving DecidableEq, Repr

namespace Record

/-- The level of a record. -/
def level : Record → String
  | unknownVariable _ | notCallable _ | noSuchSegment .. | missingFilter _ | reused _ => "TRACE"
  | loaded _ | evicted _ | created _ => "DEBUG"
  | message _ => "INFO/msg"

/-- The text of a record. -/
def text : Record → String
  | unknownVariable name => "variable `" ++ name ++ "` not found"
  | notCallable path => "`" ++ path ++ "` is not callable"
  | noSuchSegment segment within => "cannot look up `" ++ segment ++ "` in " ++ within
  | missingFilter name => "unknown filter `" ++ name ++ "`"
  | reused template => "using cached template `" ++ template ++ "`"
  | loaded template => "loaded template `" ++ template ++ "`"
  | evicted template => "evicted template `" ++ template ++ "`"
  | created path => "created " ++ path
  | message text => text

end Record

/-- What a policy was told: an escape policy, by its label, that tabbing was
switched on or off; the spaceless policy, to start afresh. -/
inductive Notice where
  | tabbing (label : String) (on : Bool)
  | reset
  deriving DecidableEq, Repr

end Stencil
