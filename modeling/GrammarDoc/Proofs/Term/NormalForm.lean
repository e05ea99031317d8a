import GrammarDoc.Proofs.Build
import GrammarDoc.Proofs.Term.Language
/-!
# Normal forms keep the meaning

A sequence of one item describes the words of that item (times the empty word), and
a choice of one branch those of the branch (plus nothing), so replacing such a
wrapper by its child keeps the language of every term (`lang_normalize`). Together
with what `GrammarDoc.Proofs.Term.Normal` shows of the nodes of a normal form, this
makes `Term.normalize` a pass that removes every wrapper and changes nothing a
reader or a check can see: the language, the references in order, and the outcome
of the shape check, fault included.

A built grammar holds the normal forms of bodies that passed the shape check, so
each of its sequences and choices has at least two children
(`two_le_children_of_build`).

Main statement: `normalize_removes_wrappers_keeps_meaning`.
-/

namespace GrammarDoc

namespace Term

/-- A node that is no wrapper is no sequence of one item and no choice of one branch. -/
theorem isWrapper_eq_false_iff {s : Term} :
    s.isWrapper = false ↔ ∀ c, s ≠ .sequence [c] ∧ s ≠ .choice [c] := by
  constructor
  · rintro hw c
    constructor
    · rintro rfl
      cases hw
    · rintro rfl
      cases hw
  · intro h
    match s, h with
    | .sequence [c], h => exact absurd rfl (h c).1
    | .choice [c], h => exact absurd rfl (h c).2
    | .sequence [], _ | .sequence (_ :: _ :: _), _ | .choice [], _
    | .choice (_ :: _ :: _), _ | .literal _, _ | .nonTerminal _, _ | .repetition .., _ => rfl

mutual

/-- **Normalising keeps the language of a term.** -/
theorem lang_normalize : ∀ t : Term, t.normalize.lang = t.lang
  | .sequence [item] => by
    rw [lang_sequence, seqLang_cons, seqLang_nil, mul_one, ← lang_normalize item]
    simp [normalize]
  | .choice [branch] => by
    rw [lang_choice, altLang_cons, altLang_nil, add_zero, ← lang_normalize branch]
    simp [normalize]
  | .sequence [] => by simp [normalize, normalizeAll]
  | .choice [] => by simp [normalize, normalizeAll]
  | .sequence (a :: b :: rest) => by
    rw [normalize_sequence rfl, lang_sequence, lang_sequence, seqLang_map_normalize]
  | .choice (a :: b :: rest) => by
    rw [normalize_choice rfl, lang_choice, lang_choice, altLang_map_normalize]
  | .repetition min max body => by
    simp [normalize, lang_normalize body]
  | .literal _ => rfl
  | .nonTerminal _ => rfl

/-- The items of a sequence, normalised, describe the same words. -/
theorem seqLang_map_normalize : ∀ ts : List Term, seqLang (ts.map normalize) = seqLang ts
  | [] => rfl
  | t :: ts => by
    rw [List.map_cons, seqLang_cons, seqLang_cons, lang_normalize t, seqLang_map_normalize ts]

/-- The branches of a choice, normalised, describe the same words. -/
theorem altLang_map_normalize : ∀ ts : List Term, altLang (ts.map normalize) = altLang ts
  | [] => rfl
  | t :: ts => by
    rw [List.map_cons, altLang_cons, altLang_cons, lang_normalize t, altLang_map_normalize ts]

end

/-- Normalising keeps the outcome of the shape check, the fault it reports included. -/
theorem checkShape_normalize (p : String) (t : Term) :
    t.normalize.checkShape p = t.checkShape p := by
  rw [checkShape_eq_firstOf, checkShape_eq_firstOf, faults_normalize]

/-- A node that is no wrapper and not malformed is a sequence or a choice of at least two
children, if it is a sequence or a choice at all. -/
theorem two_le_length_of_normal {p : String} {s : Term} (hw : s.isWrapper = false)
    (hf : s.nodeFault p = none) {items : List Term}
    (hs : s = .sequence items ∨ s = .choice items) : 2 ≤ items.length := by
  match items with
  | [] => rcases hs with rfl | rfl <;> cases hf
  | [_] => rcases hs with rfl | rfl <;> cases hw
  | _ :: _ :: _ => simp

end Term

namespace Builder

/-- **Every sequence and choice of a built grammar has at least two children.** -/
theorem two_le_children_of_build {b : Builder} {g : Grammar} (h : b.build = .ok g)
    {p : Production} (hp : p ∈ g.productions) {s : Term} (hs : s ∈ p.body.nodes)
    {items : List Term} (hkind : s = .sequence items ∨ s = .choice items) :
    2 ≤ items.length := by
  -- the body is the normal form of one that passed the shape check
  obtain ⟨-, -, -, rfl⟩ := build_eq_ok_iff.1 h
  obtain ⟨q, -, rfl⟩ := List.mem_map.1 hp
  exact Term.two_le_length_of_normal (Term.isWrapper_of_mem_nodes_normalize hs)
    (nodeFault_eq_none_of_build h hp hs) hkind

end Builder

/-- **Normalisation removes every single-child wrapper and keeps the meaning.** For
every term: no node of its normal form is a sequence of one item or a choice of one
branch; normalising again changes nothing; the normal form describes the same
words, refers to the same names in the same order, and gets the same outcome from
the shape check. So every sequence and choice of a built grammar has at least two
children. -/
theorem normalize_removes_wrappers_keeps_meaning :
    (∀ t : Term,
      (∀ s ∈ t.normalize.nodes, ∀ c, s ≠ .sequence [c] ∧ s ≠ .choice [c]) ∧
      t.normalize.normalize = t.normalize ∧
      t.normalize.lang = t.lang ∧
      t.normalize.references = t.references ∧
      ∀ p, t.normalize.checkShape p = t.checkShape p) ∧
    ∀ (b : Builder) (g : Grammar), b.build = .ok g → ∀ p ∈ g.productions, ∀ s ∈ p.body.nodes,
      ∀ items, (s = .sequence items ∨ s = .choice items) → 2 ≤ items.length := by
  refine ⟨fun t => ⟨fun s hs => ?_, Term.normalize_normalize t, Term.lang_normalize t,
    Term.references_normalize t, fun p => Term.checkShape_normalize p t⟩,
    fun b g h p hp s hs items hkind => Builder.two_le_children_of_build h hp hs hkind⟩
  exact Term.isWrapper_eq_false_iff.1 (Term.isWrapper_of_mem_nodes_normalize hs)

end GrammarDoc
