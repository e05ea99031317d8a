/-!
# Operands of EBNF text

A piece of EBNF text carries how loosely it binds: a comma-separated sequence
binds loosest, a factor `k * P` tighter, and a primary (a quoted terminal, a
name, or a bracketed group) tightest. Placing an operand where a tighter level is
needed puts it in parentheses, which makes it a primary.
-/

namespace GrammarDoc

namespace Ebnf

/-- How tightly a piece of EBNF text binds, loosest first. -/
inductive Precedence where
  /-- Factors separated by commas. -/
  | sequence
  /-- A primary with a repetition count in front. -/
  | factor
  /-- A terminal, a name or a bracketed group. -/
  | primary
  deriving Inhabited, Repr, DecidableEq

namespace Precedence

/-- The levels in order: `sequence` below `factor` below `primary`. -/
def rank : Precedence → Nat
  | .sequence => 0
  | .factor => 1
  | .primary => 2

instance : LT Precedence := ⟨fun a b => a.rank < b.rank⟩

instance (a b : Precedence) : Decidable (a < b) := inferInstanceAs (Decidable (a.rank < b.rank))

end Precedence

/-- EBNF text together with how tightly it binds. -/
structure Operand where
  /-- The text. -/
  text : String
  /-- How tightly the text binds. -/
  precedence : Precedence
  deriving Inhabited, Repr, DecidableEq

namespace Operand

/-- The text to place where `level` is needed: in parentheses if it binds looser. -/
def «at» (o : Operand) (level : Precedence) : String :=
  if o.precedence < level then "(" ++ o.text ++ ")" else o.text

end Operand

end Ebnf

end GrammarDoc
