import GrammarDoc.Grammar.Build
import GrammarDoc.Proofs.Outcome
/-!
# The nodes of a term

`Term.nodes` lists every node of a term in pre-order: the term itself first, then
the nodes of its children from left to right. A property of a term "at any depth"
is a property of every member of this list, and "the first node such that" is the
first member of it that qualifies.

Main statements:
* `Term.references_eq_filterMap`: the references of a term are the names of its
  reference nodes, in pre-order;
* `Term.checkShape_eq_firstOf`: checking the shape of a term reports the fault of
  its first malformed node in pre-order, and passes when no node is malformed.
-/

namespace GrammarDoc

namespace Term

/-- The terms directly below a term. -/
def children : Term → List Term
  | .sequence items => items
  | .choice branches => branches
  | .repetition _ _ body => [body]
  | _ => []

mutual

/-- The nodes of a term in pre-order: the term, then the nodes of its children
from left to right. -/
def nodes : Term → List Term
  | .literal text => [.literal text]
  | .nonTerminal name => [.nonTerminal name]
  | .sequence items => .sequence items :: nodesAll items
  | .choice branches => .choice branches :: nodesAll branches
  | .repetition min max body => .repetition min max body :: body.nodes

/-- The nodes of each term of a list in turn. -/
def nodesAll : List Term → List Term
  | [] => []
  | t :: ts => t.nodes ++ nodesAll ts

end

@[simp] theorem nodes_literal (text : String) : (Term.literal text).nodes = [.literal text] := by
  simp [nodes]

@[simp] theorem nodes_nonTerminal (name : String) :
    (Term.nonTerminal name).nodes = [.nonTerminal name] := by
  simp [nodes]

@[simp] theorem nodes_sequence (items : List Term) :
    (Term.sequence items).nodes = .sequence items :: nodesAll items := by
  simp [nodes]

@[simp] theorem nodes_choice (branches : List Term) :
    (Term.choice branches).nodes = .choice branches :: nodesAll branches := by
  simp [nodes]

@[simp] theorem nodes_repetition (min : Count) (max : Option Count) (body : Term) :
    (Term.repetition min max body).nodes = .repetition min max body :: body.nodes := by
  simp [nodes]

@[simp] theorem nodesAll_nil : nodesAll [] = [] := by simp [nodesAll]

@[simp] theorem nodesAll_cons (t : Term) (ts : List Term) :
    nodesAll (t :: ts) = t.nodes ++ nodesAll ts := by simp [nodesAll]

theorem nodesAll_eq_flatMap (ts : List Term) : nodesAll ts = ts.flatMap nodes := by
  induction ts with
  | nil => simp
  | cons t ts ih => simp [ih]

/-- Every term is its own first node, followed by the nodes of its children. -/
theorem nodes_eq_cons (t : Term) : t.nodes = t :: t.children.flatMap nodes := by
  cases t <;> simp [nodes, children, nodesAll_eq_flatMap]

theorem mem_nodes_self (t : Term) : t ∈ t.nodes := by
  rw [nodes_eq_cons]
  exact List.mem_cons_self

/-- A property holds at every node of a term exactly when it holds at the term and
at every node of each child. -/
theorem forall_mem_nodes_iff {P : Term → Prop} {t : Term} :
    (∀ s ∈ t.nodes, P s) ↔ P t ∧ ∀ c ∈ t.children, ∀ s ∈ c.nodes, P s := by
  rw [nodes_eq_cons]
  simp only [List.mem_cons, List.mem_flatMap, forall_eq_or_imp]
  constructor
  · rintro ⟨ht, hc⟩
    exact ⟨ht, fun c hc' s hs => hc s ⟨c, hc', hs⟩⟩
  · rintro ⟨ht, hc⟩
    exact ⟨ht, fun s ⟨c, hc', hs⟩ => hc c hc' s hs⟩

/-- A node of a child is a node of its parent. -/
theorem nodes_subset_of_mem_children {t c : Term} (h : c ∈ t.children) :
    c.nodes ⊆ t.nodes := by
  intro s hs
  rw [nodes_eq_cons]
  exact List.mem_cons_of_mem _ (List.mem_flatMap.2 ⟨c, h, hs⟩)

/-- The name of a reference node. -/
def refName? : Term → Option String
  | .nonTerminal name => some name
  | _ => none

mutual

/-- **The references of a term are its reference nodes in pre-order.** -/
theorem references_eq_filterMap : ∀ t : Term, t.references = t.nodes.filterMap refName?
  | .literal _ => by simp [references, nodes, refName?]
  | .nonTerminal _ => by simp [references, nodes, refName?]
  | .sequence items => by
    simp [references, nodes, refName?, List.filterMap_cons, referencesAll_eq_filterMap items]
  | .choice branches => by
    simp [references, nodes, refName?, List.filterMap_cons,
      referencesAll_eq_filterMap branches]
  | .repetition _ _ body => by
    simp [references, nodes, refName?, List.filterMap_cons, references_eq_filterMap body]

theorem referencesAll_eq_filterMap :
    ∀ ts : List Term, referencesAll ts = (nodesAll ts).filterMap refName?
  | [] => by simp
  | t :: ts => by simp [references_eq_filterMap t, referencesAll_eq_filterMap ts]

end

/-! ### Malformed nodes -/

/-- The fault of a node on its own, its children aside, reported for the
production `production`: an empty sequence, an empty choice, or a repetition whose
greatest count is below its least. -/
def nodeFault (production : String) : Term → Option GrammarError
  | .sequence [] => some (.emptySequence production)
  | .choice [] => some (.emptyChoice production)
  | .repetition min (some max) _ =>
    if max < min then some (.invertedBounds production min max) else none
  | _ => none

/-- Whether a node is malformed does not depend on the production it is reported for. -/
theorem nodeFault_eq_none_iff {p q : String} {s : Term} :
    s.nodeFault p = none ↔ s.nodeFault q = none := by
  unfold nodeFault
  split <;> simp

/-- The faults of the malformed nodes of a term, in pre-order. -/
def faults (production : String) (t : Term) : List GrammarError :=
  t.nodes.filterMap (nodeFault production)

end Term

/-- The outcome of a check that reports the first of the faults it finds. -/
def firstOf : List GrammarError → Except GrammarError Unit
  | [] => .ok ()
  | e :: _ => .error e

@[simp] theorem firstOf_nil : firstOf [] = .ok () := rfl

@[simp] theorem firstOf_cons (e : GrammarError) (es : List GrammarError) :
    firstOf (e :: es) = .error e := rfl

theorem firstOf_append (xs ys : List GrammarError) :
    firstOf (xs ++ ys) = (do firstOf xs; firstOf ys) := by
  cases xs <;> rfl

theorem firstOf_eq_ok_iff {es : List GrammarError} : firstOf es = .ok () ↔ es = [] := by
  cases es <;> simp [firstOf]

namespace Term

mutual

/-- **Checking a term's shape reports its first malformed node in pre-order.** -/
theorem checkShape_eq_firstOf (p : String) : ∀ t : Term, t.checkShape p = firstOf (t.faults p)
  | .literal _ => by simp [checkShape, faults, nodes, nodeFault, List.filterMap_cons]
  | .nonTerminal _ => by simp [checkShape, faults, nodes, nodeFault, List.filterMap_cons]
  | .sequence [] => by simp [checkShape, faults, nodes, nodeFault]
  | .sequence (i :: is) => by
    simp [checkShape, faults, nodes, nodeFault, List.filterMap_cons,
      checkShapeAll_eq_firstOf p (i :: is)]
  | .choice [] => by simp [checkShape, faults, nodes, nodeFault]
  | .choice (b :: bs) => by
    simp [checkShape, faults, nodes, nodeFault, List.filterMap_cons,
      checkShapeAll_eq_firstOf p (b :: bs)]
  | .repetition min none body => by
    simp [checkShape, faults, nodes, nodeFault, List.filterMap_cons, checkShape_eq_firstOf p body]
  | .repetition min (some max) body => by
    by_cases h : max < min
    · simp [checkShape, faults, nodes, nodeFault, h]
    · simp [checkShape, faults, nodes, nodeFault, h, checkShape_eq_firstOf p body]

theorem checkShapeAll_eq_firstOf (p : String) :
    ∀ ts : List Term, checkShapeAll p ts = firstOf ((nodesAll ts).filterMap (nodeFault p))
  | [] => by simp [checkShapeAll]
  | t :: ts => by
    simp only [checkShapeAll, nodesAll_cons, List.filterMap_append, firstOf_append,
      checkShape_eq_firstOf p t, checkShapeAll_eq_firstOf p ts, faults]

end

/-- A term passes the shape check exactly when none of its nodes is malformed. -/
theorem checkShape_eq_ok_iff {p : String} {t : Term} :
    t.checkShape p = .ok () ↔ ∀ s ∈ t.nodes, s.nodeFault p = none := by
  rw [checkShape_eq_firstOf, firstOf_eq_ok_iff, faults, List.filterMap_eq_nil_iff]

end Term

end GrammarDoc
