import GrammarDoc.Term.Basic
/-!
# Normal terms

A sequence of one item means that item, and a choice of one branch means that
branch. `Term.normalize` removes every such single-child wrapper, at any depth,
and leaves every other node as it is. `Term.unwrap` looks through the wrappers
at the top of a term only.
-/

namespace GrammarDoc

namespace Term

mutual

/-- The term with every single-child sequence and choice replaced by its child. -/
def normalize : Term → Term
  | .sequence [item] => item.normalize
  | .choice [branch] => branch.normalize
  | .sequence items => .sequence (normalizeAll items)
  | .choice branches => .choice (normalizeAll branches)
  | .repetition min max body => .repetition min max body.normalize
  | .literal text => .literal text
  | .nonTerminal name => .nonTerminal name

/-- Each term of a list normalised. -/
def normalizeAll : List Term → List Term
  | [] => []
  | t :: ts => t.normalize :: normalizeAll ts

end

/-- The term under the single-child sequences and choices at its top. -/
def unwrap : Term → Term
  | .sequence [item] => item.unwrap
  | .choice [branch] => branch.unwrap
  | t => t

@[simp] theorem normalizeAll_eq_map (ts : List Term) : normalizeAll ts = ts.map normalize := by
  induction ts with
  | nil => simp [normalizeAll]
  | cons t ts ih => simp [normalizeAll, ih]

end Term

end GrammarDoc
