import GrammarDoc.Term.Basic
/-!
# Tokens of grammar definitions

In a definition file a string stands for a term. A string `<name>` with a
non-empty name is a reference to that production. Any other string is a literal;
if it starts and ends with an apostrophe, these two are not part of it, which is
how a literal that looks like a reference, or that is itself quoted, is written.

Main definitions: `Definition.ofToken` reads a token, `Definition.literalToken`
and `Definition.referenceToken` write one.
-/

namespace GrammarDoc

namespace Definition

/-- The characters strictly between a first character `opening` and a last
character `closing` at a different position, if the text has that shape. -/
def enclosed? (opening closing : Char) : List Char → Option (List Char)
  | first :: rest@(_ :: _) =>
    if first = opening ∧ rest.getLast? = some closing then some rest.dropLast else none
  | _ => none

/-- The term a token stands for. -/
def ofToken (token : String) : Term :=
  match enclosed? '<' '>' token.toList with
  | some name@(_ :: _) => .nonTerminal (String.ofList name)
  | _ =>
    match enclosed? '\'' '\'' token.toList with
    | some inner => .literal (String.ofList inner)
    | none => .literal token

/-- The token of a literal: in apostrophes if it would otherwise read as a
reference or lose enclosing apostrophes. -/
def literalToken (text : String) : String :=
  if (enclosed? '<' '>' text.toList).isSome || (enclosed? '\'' '\'' text.toList).isSome then
    "'" ++ text ++ "'"
  else text

/-- The token of a reference to `name`. -/
def referenceToken (name : String) : String := "<" ++ name ++ ">"

end Definition

end GrammarDoc
