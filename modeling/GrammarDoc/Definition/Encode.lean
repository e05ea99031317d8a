import GrammarDoc.Grammar.Basic
import GrammarDoc.Definition.Token
import GrammarDoc.Json.Value
/-!
# Grammars as definition files

The JSON form of a grammar is an object with one field per production, keyed by
its reference token `<name>`, in declaration order. The value is the array of the
production's alternatives: the branches of a choice body, else the body alone.
A term is written as

* a literal or a reference: its token;
* a sequence: the array of its items;
* a choice: an object with the array of its branches under `choice`;
* a repetition between 0 and 1 times: an object with the body under `optional`;
* any other repetition: an object with the body under `repeat`, then `min`, then
  `max`, which is `null` when the repetition is unbounded.
-/

namespace GrammarDoc

namespace Term

open Json

mutual

/-- The JSON form of a term. -/
def toDefinition : Term → Value
  | .literal text => .string (Definition.literalToken text)
  | .nonTerminal name => .string (Definition.referenceToken name)
  | .sequence items => .array (toDefinitionAll items)
  | .choice branches => .object [("choice", .array (toDefinitionAll branches))]
  | .repetition min max body =>
    if min = 0 ∧ max = some 1 then .object [("optional", body.toDefinition)]
    else
      .object [("repeat", body.toDefinition), ("min", .number (.count min)),
        ("max", match max with | some hi => .number (.count hi) | none => .null)]

/-- The JSON forms of the terms of a list. -/
def toDefinitionAll : List Term → List Value
  | [] => []
  | t :: ts => t.toDefinition :: toDefinitionAll ts

end

/-- The array of alternatives of a production body. -/
def alternativesDefinition : Term → Value
  | .choice branches => .array (toDefinitionAll branches)
  | t => .array [t.toDefinition]

end Term

namespace Grammar

/-- The JSON form of a grammar: one field per production, in declaration order. -/
def toDefinition (g : Grammar) : Json.Value :=
  .object (g.productions.foldl
    (fun fields p => Json.insertField fields (Definition.referenceToken p.name)
      p.body.alternativesDefinition) [])

end Grammar

end GrammarDoc
