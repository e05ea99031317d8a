/-!
# Faults of grammar definitions

A definition file can be valid JSON and still not describe a grammar. Each
fault names the production key it was found under, and has one sentence.
-/

namespace GrammarDoc

namespace Definition

/-- A bound of a repetition object. -/
inductive Bound where
  | min
  | max
  deriving Inhabited, Repr, DecidableEq

/-- The key a bound is written under. -/
def Bound.key : Bound → String
  | .min => "min"
  | .max => "max"

/-- Why a JSON value is not a grammar definition. -/
inductive DefinitionError where
  /-- The file holds something other than an object. -/
  | notAnObject
  /-- A key is not of the form `<name>` with a non-empty name. -/
  | invalidName (key : String)
  /-- A production is given by something other than an array. -/
  | rulesNotArray (key : String)
  /-- A production is given by an empty array. -/
  | noAlternatives (key : String)
  /-- A term is an empty array. -/
  | emptySequence (key : String)
  /-- A term is a number, a boolean or null. -/
  | unexpectedValue (key : String)
  /-- A choice object's branches are not an array. -/
  | choiceNotArray (key : String)
  /-- A choice object has no branch. -/
  | emptyChoice (key : String)
  /-- A bound of a repetition is not a count. -/
  | badBound (key : String) (bound : Bound)
  /-- A repetition's greatest count is below its least. -/
  | invertedBounds (key : String)
  /-- An object term has none of the operator keys. -/
  | noOperator (key : String)
  deriving Inhabited, Repr, DecidableEq

namespace DefinitionError

/-- The sentence that describes the fault. -/
def message : DefinitionError → String
  | .notAnObject => "Grammar must be specified as an object"
  | .invalidName key => "'" ++ key ++ "' is not a valid non-terminal"
  | .rulesNotArray key => "Right-hand-side of '" ++ key ++ "' must be an array"
  | .noAlternatives key => "Invalid production rule '" ++ key ++ "': Must not be empty"
  | .emptySequence key => "Invalid production rule '" ++ key ++ "': Empty sequences are not allowed"
  | .unexpectedValue key =>
    "Right-hand-side of '" ++ key ++ "' must only contain strings, arrays and objects"
  | .choiceNotArray key => "Choice in '" ++ key ++ "' must be an array"
  | .emptyChoice key => "Invalid production rule '" ++ key ++ "': Choice without alternatives"
  | .badBound key b =>
    "'" ++ b.key ++ "' of a repetition in '" ++ key ++
      "' must be a non-negative integer that fits into usize"
  | .invertedBounds key => "Repetition in '" ++ key ++ "' has a maximum below its minimum"
  | .noOperator key =>
    "Object on the right-hand-side of '" ++ key ++
      "' must contain 'choice', 'optional' or 'repeat'"

end DefinitionError

end Definition

end GrammarDoc
