/-!
# Why a list of productions is not a grammar

The faults that building a grammar reports, one constructor per cause, and the
sentence that describes each.
-/

namespace GrammarDoc

/-- A reason to refuse a list of productions. -/
inductive GrammarError where
  /-- Two productions share the name. -/
  | duplicate (name : String)
  /-- A term refers to a name that no production has. -/
  | undefined (name : String)
  /-- The named production contains a choice with no branch. -/
  | emptyChoice (production : String)
  /-- The named production contains a sequence with no item. -/
  | emptySequence (production : String)
  /-- The named production contains a repetition whose greatest count is below its least. -/
  | invertedBounds (production : String) (min max : UInt64)
  deriving Inhabited, Repr, DecidableEq

namespace GrammarError

/-- The sentence that describes the fault. -/
def message : GrammarError → String
  | .duplicate name => "The production '" ++ name ++ "' is defined more than once"
  | .undefined name => "The non-terminal '" ++ name ++ "' is referenced but never defined"
  | .emptyChoice p => "The production '" ++ p ++ "' contains a choice without alternatives"
  | .emptySequence p => "The production '" ++ p ++ "' contains an empty sequence"
  | .invertedBounds p min max =>
    "The production '" ++ p ++ "' repeats between " ++ Nat.repr min.toNat ++ " and " ++
      Nat.repr max.toNat ++ " times"

end GrammarError

end GrammarDoc
