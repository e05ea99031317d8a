import GrammarDoc.Grammar.Basic
import GrammarDoc.Term.Normalize
import GrammarDoc.Ebnf.Print
/-!
# EBNF documents

Each production becomes one block of lines, in declaration order. A body that is
not a choice takes one line, `name = text ;`. A choice of several branches puts
its first branch on the line of the name and every further branch on a line of
its own that starts with `| `, then closes with a line holding `;`; these
continuation lines are indented by the number of characters of the name plus
one, so that `|` and `;` stand under the `=`. A branch that is a sequence of at
least two items, once single-child wrappers are looked through, is put in
parentheses.
-/

namespace GrammarDoc

namespace Term

/-- The alternatives of a body: the branches of a choice, else the body alone. -/
def branches : Term → List Term
  | .choice bs => bs
  | t => [t]

/-- A branch of a multi-line production: in parentheses if it is a sequence of two
or more items under its single-child wrappers. -/
def renderBranch (t : Term) : Except Ebnf.Inexpressible String := do
  let text ← t.render
  match t.unwrap with
  | .sequence (_ :: _ :: _) => pure ("(" ++ text ++ ")")
  | _ => pure text

end Term

namespace Production

open Ebnf

/-- The block of lines of one production, each ending in a line feed. -/
def toEbnf (p : Production) : Except Inexpressible String :=
  let lead := p.name ++ " = "
  let indent := String.ofList (List.replicate (p.name.length + 1) ' ')
  match p.body.branches with
  | [] => .error (.noAlternatives p.name)
  | [branch] => do pure (lead ++ (← branch.render) ++ " ;\n")
  | first :: rest => do
    let head ← first.renderBranch
    let lines ← rest.mapM fun b => do pure (indent ++ "| " ++ (← b.renderBranch) ++ "\n")
    pure (lead ++ head ++ "\n" ++ String.join lines ++ indent ++ ";\n")

end Production

namespace Grammar

/-- The EBNF document of the grammar: the blocks of its productions in order. -/
def toEbnf (g : Grammar) : Except Ebnf.Inexpressible String := do
  let blocks ← g.productions.mapM Production.toEbnf
  pure (String.join blocks)

end Grammar

end GrammarDoc
