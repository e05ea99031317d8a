import GrammarDoc.Term.Basic
/-!
# Productions and grammars

A production gives a name to a term; a grammar is a list of productions in the
order they were declared. Looking a name up finds the first production with that
name.
-/

namespace GrammarDoc

/-- A named right-hand side. -/
structure Production where
  /-- The name other terms refer to. -/
  name : String
  /-- What the name stands for. -/
  body : Term
  deriving Inhabited, Repr, DecidableEq

/-- A grammar: its productions in declaration order. -/
structure Grammar where
  /-- The productions, first declared first. -/
  productions : List Production
  deriving Inhabited, Repr, DecidableEq

namespace Grammar

/-- The first production named `name`, if any. -/
def production? (g : Grammar) (name : String) : Option Production :=
  g.productions.find? (·.name == name)

/-- The number of productions. -/
def length (g : Grammar) : Nat := g.productions.length

/-- Whether the grammar has no production. -/
def isEmpty (g : Grammar) : Bool := g.productions.isEmpty

/-- A production found by name has that name and belongs to the grammar. -/
theorem production?_spec {g : Grammar} {name : String} {p : Production}
    (h : g.production? name = some p) : p.name = name ∧ p ∈ g.productions := by
  unfold production? at h
  exact ⟨by simpa using List.find?_some h, List.mem_of_find?_eq_some h⟩

end Grammar

end GrammarDoc
