import GrammarDoc.Text.Quoted
/-!
# Terms that EBNF text cannot express

ISO 14977 text has no way to write a literal that contains both quote
characters, nor a repetition that allows no occurrence at all. The other
constructors describe malformed terms that a built grammar never holds.
-/

namespace GrammarDoc

namespace Ebnf

/-- Why a term has no EBNF text. -/
inductive Inexpressible where
  /-- The literal contains both the double and the single quote. -/
  | mixedQuotes (text : String)
  /-- A repetition whose greatest count is below its least. -/
  | invertedBounds (min max : UInt64)
  /-- A repetition with at most zero occurrences. -/
  | neverOccurs
  /-- A sequence with no item. -/
  | emptySequence
  /-- A choice with no branch. -/
  | emptyChoice
  /-- The named production has no alternative. -/
  | noAlternatives (production : String)
  deriving Inhabited, Repr, DecidableEq

namespace Inexpressible

/-- The sentence that describes the fault. -/
def message : Inexpressible → String
  | .mixedQuotes text => "Invalid term: literal " ++ Text.quoted text ++ " contains both kinds of quotes"
  | .invertedBounds min max =>
    "Invalid term: repetition between " ++ Nat.repr min.toNat ++ " and " ++ Nat.repr max.toNat ++
      " times"
  | .neverOccurs => "Invalid term: repetition with at most zero occurrences"
  | .emptySequence => "Invalid term: empty sequence"
  | .emptyChoice => "Invalid term: choice without alternatives"
  | .noAlternatives p => "Invalid term: production '" ++ p ++ "' has no alternatives"

end Inexpressible

end Ebnf

end GrammarDoc
