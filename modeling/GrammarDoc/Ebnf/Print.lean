import GrammarDoc.Term.Basic
import GrammarDoc.Ebnf.Clause
/-!
# Terms as EBNF text

`Term.print` writes a term as inline EBNF together with its precedence:

* a literal between double quotes, or between single quotes if it contains a
  double quote;
* a reference as its name;
* a sequence as its items joined by `, ` (a nested sequence needs no brackets);
* a choice as its branches joined by ` | `, in parentheses;
* a repetition as the clauses of `Ebnf.clauses`, joined by `, `.

A sequence of one item and a choice of one branch are written as that item or
branch. The first inexpressible node in writing order is reported; the body of a
repetition is written before its bounds are looked at.
-/

namespace GrammarDoc

namespace Ebnf

/-- The literal between double quotes, or single quotes if it holds a double quote. -/
def quote (text : String) : Except Inexpressible String :=
  if !text.contains '"' then .ok ("\"" ++ text ++ "\"")
  else if !text.contains '\'' then .ok ("'" ++ text ++ "'")
  else .error (.mixedQuotes text)

end Ebnf

namespace Term

open Ebnf

mutual

/-- The term as EBNF text with its precedence. -/
def print : Term → Except Inexpressible Operand
  | .literal text => do pure ⟨← quote text, .primary⟩
  | .nonTerminal name => .ok ⟨name, .primary⟩
  | .sequence [] => .error .emptySequence
  | .sequence [item] => item.print
  | .sequence items => do
    let ops ← printAll items
    pure ⟨", ".intercalate (ops.map (·.at .sequence)), .sequence⟩
  | .choice [] => .error .emptyChoice
  | .choice [branch] => branch.print
  | .choice branches => do
    let ops ← printAll branches
    pure ⟨"(" ++ " | ".intercalate (ops.map (·.text)) ++ ")", .primary⟩
  | .repetition min max body => do
    let op ← body.print
    match ← clauses min max op with
    | [clause] => pure clause
    | cs => pure ⟨", ".intercalate (cs.map (·.text)), .sequence⟩

/-- Each term of the list as EBNF text, stopping at the first that has none. -/
def printAll : List Term → Except Inexpressible (List Operand)
  | [] => .ok []
  | t :: ts => do
    let op ← t.print
    let ops ← printAll ts
    pure (op :: ops)

end

/-- The EBNF text of the term. -/
def render (t : Term) : Except Inexpressible String := (·.text) <$> t.print

end Term

end GrammarDoc
