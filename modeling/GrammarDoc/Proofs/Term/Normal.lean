import GrammarDoc.Proofs.Term.Nodes
/-!
# Normal terms

`Term.normalize` replaces every sequence of one item and every choice of one branch
by that child. The nodes of a normalised term are the normal forms of the nodes of
the original that are no such wrapper, in the same order (`nodes_normalize`). The
facts that later proofs use follow from that one equation:

* no node of a normalised term is a wrapper, so normalising twice changes nothing;
* normalising keeps the references and the faults of the shape check, in order.
-/

namespace GrammarDoc

namespace Term

/-- Whether the term is a sequence of one item or a choice of one branch: a node
that normalisation replaces by its child. -/
def isWrapper : Term → Bool
  | .sequence [_] => true
  | .choice [_] => true
  | _ => false

theorem normalize_sequence {items : List Term} (h : (Term.sequence items).isWrapper = false) :
    (Term.sequence items).normalize = .sequence (items.map normalize) := by
  match items, h with
  | [], _ => simp [normalize]
  | _ :: _ :: _, _ => simp [normalize]

theorem normalize_choice {branches : List Term} (h : (Term.choice branches).isWrapper = false) :
    (Term.choice branches).normalize = .choice (branches.map normalize) := by
  match branches, h with
  | [], _ => simp [normalize]
  | _ :: _ :: _, _ => simp [normalize]

/-- A node that is no wrapper stays no wrapper, with the same fault and reference. -/
theorem normalize_of_not_isWrapper {u : Term} (hu : u.isWrapper = false) :
    u.normalize.isWrapper = false ∧ (∀ p, u.normalize.nodeFault p = u.nodeFault p) ∧
      u.normalize.refName? = u.refName? := by
  cases u with
  | sequence items =>
    rw [normalize_sequence hu]
    match items, hu with
    | [], _ => exact ⟨rfl, fun _ => rfl, rfl⟩
    | _ :: _ :: _, _ => exact ⟨rfl, fun _ => rfl, rfl⟩
  | choice branches =>
    rw [normalize_choice hu]
    match branches, hu with
    | [], _ => exact ⟨rfl, fun _ => rfl, rfl⟩
    | _ :: _ :: _, _ => exact ⟨rfl, fun _ => rfl, rfl⟩
  | repetition min max body => cases max <;> exact ⟨rfl, fun _ => rfl, rfl⟩
  | literal => exact ⟨rfl, fun _ => rfl, rfl⟩
  | nonTerminal => exact ⟨rfl, fun _ => rfl, rfl⟩

mutual

/-- **The nodes of a normalised term are the normal forms of the nodes that are no
wrapper, in order.** -/
theorem nodes_normalize :
    ∀ t : Term, t.normalize.nodes = (t.nodes.filter fun u => !u.isWrapper).map normalize
  | .sequence [item] => by
    simp [normalize, nodes, nodesAll, isWrapper, nodes_normalize item]
  | .choice [branch] => by
    simp [normalize, nodes, nodesAll, isWrapper, nodes_normalize branch]
  | .sequence [] => by simp [normalize, normalizeAll, nodes, nodesAll, isWrapper]
  | .choice [] => by simp [normalize, normalizeAll, nodes, nodesAll, isWrapper]
  | .sequence (a :: b :: rest) => by
    have hw : (Term.sequence (a :: b :: rest)).isWrapper = false := rfl
    rw [normalize_sequence hw, nodes_sequence, nodes_sequence, nodesAll_normalize,
      List.filter_cons_of_pos (by simp [hw])]
    simp only [List.map_cons, normalize_sequence hw]
  | .choice (a :: b :: rest) => by
    have hw : (Term.choice (a :: b :: rest)).isWrapper = false := rfl
    rw [normalize_choice hw, nodes_choice, nodes_choice, nodesAll_normalize,
      List.filter_cons_of_pos (by simp [hw])]
    simp only [List.map_cons, normalize_choice hw]
  | .repetition min max body => by
    simp [normalize, nodes, isWrapper, nodes_normalize body]
  | .literal _ => by simp [normalize, nodes, isWrapper]
  | .nonTerminal _ => by simp [normalize, nodes, isWrapper]

theorem nodesAll_normalize : ∀ ts : List Term,
    nodesAll (ts.map normalize) = ((nodesAll ts).filter fun u => !u.isWrapper).map normalize
  | [] => by simp
  | t :: ts => by
    simp [nodes_normalize t, nodesAll_normalize ts, List.filter_append]

end

/-- A node of a normalised term is the normal form of a node of the original that is no
wrapper. -/
theorem mem_nodes_normalize {t s : Term} :
    s ∈ t.normalize.nodes ↔ ∃ u ∈ t.nodes, u.isWrapper = false ∧ u.normalize = s := by
  rw [nodes_normalize]
  simp only [List.mem_map, List.mem_filter, Bool.not_eq_true', and_assoc]

/-- No node of a normalised term is a wrapper. -/
theorem isWrapper_of_mem_nodes_normalize {t s : Term} (h : s ∈ t.normalize.nodes) :
    s.isWrapper = false := by
  obtain ⟨u, -, hu, rfl⟩ := mem_nodes_normalize.1 h
  exact (normalize_of_not_isWrapper hu).1

/-- Whatever picks nothing at a wrapper and the same at a node and its normal form picks
the same from a term and from its normal form, in the same order. -/
theorem filterMap_nodes_normalize {β : Type} {F : Term → Option β}
    (hw : ∀ u, u.isWrapper = true → F u = none)
    (hn : ∀ u, u.isWrapper = false → F u.normalize = F u) (t : Term) :
    t.normalize.nodes.filterMap F = t.nodes.filterMap F := by
  rw [nodes_normalize]
  -- the nodes of the original one by one: a wrapper is dropped and picks nothing
  induction t.nodes with
  | nil => rfl
  | cons u us ih =>
    cases hu : u.isWrapper with
    | true => simp [hu, hw u hu, ih]
    | false =>
      rw [List.filter_cons_of_pos (by simp [hu]), List.map_cons, List.filterMap_cons,
        List.filterMap_cons, hn u hu, ih]

/-- Normalising keeps the malformed nodes, in order. -/
theorem faults_normalize (p : String) (t : Term) : t.normalize.faults p = t.faults p := by
  refine filterMap_nodes_normalize (fun u hu => ?_) (fun u hu => ?_) t
  · match u, hu with
    | .sequence [_], _ => rfl
    | .choice [_], _ => rfl
  · exact (normalize_of_not_isWrapper hu).2.1 p

/-- Normalising keeps the references, in order. -/
theorem references_normalize (t : Term) : t.normalize.references = t.references := by
  rw [references_eq_filterMap, references_eq_filterMap]
  refine filterMap_nodes_normalize (fun u hu => ?_) (fun u hu => ?_) t
  · match u, hu with
    | .sequence [_], _ => rfl
    | .choice [_], _ => rfl
  · exact (normalize_of_not_isWrapper hu).2.2

mutual

/-- A term with no wrapper at any depth is normal. -/
theorem normalize_eq_self : ∀ t : Term, (∀ s ∈ t.nodes, s.isWrapper = false) → t.normalize = t
  | .sequence [_], h => absurd (h _ (mem_nodes_self _)) (by simp [isWrapper])
  | .choice [_], h => absurd (h _ (mem_nodes_self _)) (by simp [isWrapper])
  | .sequence [], _ => by simp [normalize]
  | .choice [], _ => by simp [normalize]
  | .sequence (a :: b :: rest), h => by
    rw [normalize_sequence rfl, map_normalize_eq_self (a :: b :: rest)]
    exact (forall_mem_nodes_iff.1 h).2
  | .choice (a :: b :: rest), h => by
    rw [normalize_choice rfl, map_normalize_eq_self (a :: b :: rest)]
    exact (forall_mem_nodes_iff.1 h).2
  | .repetition min max body, h => by
    have hbody : ∀ s ∈ body.nodes, s.isWrapper = false :=
      (forall_mem_nodes_iff.1 h).2 body (by simp [children])
    simp [normalize, normalize_eq_self body hbody]
  | .literal _, _ => rfl
  | .nonTerminal _, _ => rfl

theorem map_normalize_eq_self : ∀ ts : List Term,
    (∀ t ∈ ts, ∀ s ∈ t.nodes, s.isWrapper = false) → ts.map normalize = ts
  | [], _ => rfl
  | t :: ts, h => by
    rw [List.map_cons, normalize_eq_self t (h t List.mem_cons_self),
      map_normalize_eq_self ts fun u hu => h u (List.mem_cons_of_mem t hu)]

end

/-- **Normalising twice changes nothing.** -/
theorem normalize_normalize (t : Term) : t.normalize.normalize = t.normalize :=
  normalize_eq_self _ fun _ hs => isWrapper_of_mem_nodes_normalize hs

end Term

end GrammarDoc
