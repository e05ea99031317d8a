import GrammarDoc.Proofs.Build
import GrammarDoc.Renderer
/-!
# When EBNF text cannot be written

ISO 14977 text has no escape for a literal that holds both quote characters and no
clause for a repetition that allows no occurrence at all. These are the only terms of
a built grammar that the EBNF printer refuses, and it reports the first of them in the
order it writes: productions in declaration order, and each body in post-order, since
a repetition's body is written before its bounds are looked at.

The printer's outcome is followed node by node. `Term.printFault` is the fault the
printer finds at a node on its own, and `print_reportsFirst` says that printing a term
reports the first such fault among its nodes in post-order (`Term.postNodes`), for
every term, well-formed or not. The layout of a document adds one fault of its own, a
production without alternatives, which no built grammar has; and in a built grammar no
node is malformed, so the printer's faults are exactly the inexpressible nodes
(`Term.inexpressible`).

Main statement: `ebnf_render_fails_at_first_inexpressible`.
-/

namespace GrammarDoc

open Ebnf

namespace Term

/-! ### Nodes in post-order -/

mutual

/-- The nodes of a term in post-order: the nodes of its children from left to right,
then the term itself. -/
def postNodes : Term → List Term
  | .literal text => [.literal text]
  | .nonTerminal name => [.nonTerminal name]
  | .sequence items => postNodesAll items ++ [.sequence items]
  | .choice branches => postNodesAll branches ++ [.choice branches]
  | .repetition min max body => body.postNodes ++ [.repetition min max body]

/-- The nodes of each term of a list in turn, each in post-order. -/
def postNodesAll : List Term → List Term
  | [] => []
  | t :: ts => t.postNodes ++ postNodesAll ts

end

@[simp] theorem postNodes_literal (text : String) :
    (Term.literal text).postNodes = [.literal text] := by
  simp [postNodes]

@[simp] theorem postNodes_nonTerminal (name : String) :
    (Term.nonTerminal name).postNodes = [.nonTerminal name] := by
  simp [postNodes]

@[simp] theorem postNodes_sequence (items : List Term) :
    (Term.sequence items).postNodes = postNodesAll items ++ [.sequence items] := by
  simp [postNodes]

@[simp] theorem postNodes_choice (branches : List Term) :
    (Term.choice branches).postNodes = postNodesAll branches ++ [.choice branches] := by
  simp [postNodes]

@[simp] theorem postNodes_repetition (min : Count) (max : Option Count) (body : Term) :
    (Term.repetition min max body).postNodes = body.postNodes ++ [.repetition min max body] := by
  simp [postNodes]

@[simp] theorem postNodesAll_nil : postNodesAll [] = [] := by simp [postNodesAll]

@[simp] theorem postNodesAll_cons (t : Term) (ts : List Term) :
    postNodesAll (t :: ts) = t.postNodes ++ postNodesAll ts := by simp [postNodesAll]

mutual

/-- Post-order visits the same nodes as pre-order. -/
theorem mem_postNodes_iff : ∀ {t s : Term}, s ∈ t.postNodes ↔ s ∈ t.nodes
  | .literal _, _ => by simp
  | .nonTerminal _, _ => by simp
  | .sequence items, s => by
    rw [postNodes_sequence, nodes_sequence, List.mem_append, mem_postNodesAll_iff]
    simp [or_comm]
  | .choice branches, s => by
    rw [postNodes_choice, nodes_choice, List.mem_append, mem_postNodesAll_iff]
    simp [or_comm]
  | .repetition _ _ body, s => by
    rw [postNodes_repetition, nodes_repetition, List.mem_append, mem_postNodes_iff]
    simp [or_comm]

theorem mem_postNodesAll_iff : ∀ {ts : List Term} {s : Term}, s ∈ postNodesAll ts ↔ s ∈ nodesAll ts
  | [], _ => by simp
  | t :: ts, s => by
    rw [postNodesAll_cons, nodesAll_cons, List.mem_append, List.mem_append, mem_postNodes_iff,
      mem_postNodesAll_iff]

end

end Term

/-! ### Faults of the printer -/

namespace Ebnf

/-- Whether a literal holds both quote characters. -/
def HasBothQuotes (text : String) : Prop := '"' ∈ text.toList ∧ '\'' ∈ text.toList

instance (text : String) : Decidable (HasBothQuotes text) :=
  inferInstanceAs (Decidable ('"' ∈ text.toList ∧ '\'' ∈ text.toList))

/-- The fault of a pair of bounds that no clauses can meet. -/
def boundsFault (min : UInt64) : Option UInt64 → Option Inexpressible
  | some hi =>
    if hi < min then some (.invertedBounds min hi)
    else if min = 0 ∧ hi = 0 then some .neverOccurs
    else none
  | none => none

/-- A literal is quoted unless it holds both quotes. -/
theorem quote_reportsFirst (text : String) :
    ReportsFirst (quote text)
      (if HasBothQuotes text then [.mixedQuotes text] else []) := by
  unfold quote HasBothQuotes
  by_cases hd : '"' ∈ text.toList <;> by_cases hs : '\'' ∈ text.toList <;>
    simp [hd, hs, String.contains_char_eq]

/-- Bounds get their clauses unless no clauses can meet them. -/
theorem clauses_reportsFirst (min : UInt64) (max : Option UInt64) (o : Operand) :
    ReportsFirst (clauses min max o) (boundsFault min max).toList := by
  cases max with
  | none => by_cases hmin : min = 0 <;> simp [clauses, boundsFault, hmin]
  | some hi =>
    by_cases hlt : hi < min
    · simp [clauses, boundsFault, hlt]
    · by_cases hmin : min = 0
      · by_cases hhi : hi = 0 <;> simp [clauses, boundsFault, hmin, hhi]
      · by_cases heq : min = hi
        · subst heq
          simp [clauses, boundsFault, hmin]
        · simp [clauses, boundsFault, hlt, hmin, heq]

end Ebnf

namespace Term

/-- The fault of a node that ISO 14977 text cannot express: a literal that holds both
quotes, or a repetition that allows no occurrence at all. -/
def inexpressible : Term → Option Inexpressible
  | .literal text => if HasBothQuotes text then some (.mixedQuotes text) else none
  | .repetition min max _ => if min = 0 ∧ max = some 0 then some .neverOccurs else none
  | _ => none

/-- The fault the printer finds at a node on its own, its children aside: an
inexpressible node, an empty sequence or choice, or inverted bounds. -/
def printFault : Term → Option Inexpressible
  | .sequence [] => some .emptySequence
  | .choice [] => some .emptyChoice
  | .repetition min max _ => boundsFault min max
  | t => t.inexpressible

/-- The faults the printer meets in a term, in the order it meets them. -/
def printFaults (t : Term) : List Inexpressible := t.postNodes.filterMap printFault

/-- The faults the printer meets in the terms of a list, one after another. -/
theorem filterMap_postNodesAll (ts : List Term) :
    (postNodesAll ts).filterMap printFault = ts.flatMap printFaults := by
  induction ts with
  | nil => rfl
  | cons t ts ih => rw [postNodesAll_cons, List.filterMap_append, ih, List.flatMap_cons]; rfl

/-- A node's own fault comes after the faults of its children. -/
theorem printFaults_eq (t : Term) :
    t.printFaults = t.children.flatMap printFaults ++ t.printFault.toList := by
  have hpost : t.postNodes = postNodesAll t.children ++ [t] := by
    cases t <;> simp [children]
  rw [printFaults, hpost, List.filterMap_append, filterMap_postNodesAll, List.filterMap_cons,
    List.filterMap_nil]
  cases t.printFault <;> rfl

/-- The fault of a literal on its own is that it holds both quotes. -/
theorem printFaults_literal (text : String) :
    (Term.literal text).printFaults = if HasBothQuotes text then [.mixedQuotes text] else [] := by
  rw [printFaults_eq]
  by_cases h : HasBothQuotes text <;> simp [children, printFault, inexpressible, h]

/-- A sequence or choice of at least one child adds no fault of its own. -/
theorem printFaults_of_ne_nil {t : Term} {ts : List Term} (hts : ts ≠ [])
    (ht : t = .sequence ts ∨ t = .choice ts) : t.printFaults = ts.flatMap printFaults := by
  obtain ⟨a, rest, rfl⟩ := List.exists_cons_of_ne_nil hts
  rcases ht with rfl | rfl <;> simp [printFaults_eq, children, printFault, inexpressible]

mutual

/-- **Printing a term reports the first fault among its nodes in post-order**, and
succeeds when there is none; for every term, well-formed or not. -/
theorem print_reportsFirst : ∀ t : Term, ReportsFirst t.print t.printFaults
  | .literal text => by
    rw [printFaults_literal]
    exact (quote_reportsFirst text).bind_ok fun _ => ⟨_, rfl⟩
  | .nonTerminal _ => by
    rw [printFaults_eq]
    exact ⟨_, rfl⟩
  | .sequence [] => by
    rw [printFaults_eq]
    rfl
  | .choice [] => by
    rw [printFaults_eq]
    rfl
  | .sequence [item] => by
    rw [printFaults_of_ne_nil (List.cons_ne_nil item []) (.inl rfl), List.flatMap_singleton]
    exact print_reportsFirst item
  | .choice [branch] => by
    rw [printFaults_of_ne_nil (List.cons_ne_nil branch []) (.inr rfl), List.flatMap_singleton]
    exact print_reportsFirst branch
  | .sequence (a :: b :: rest) => by
    rw [printFaults_of_ne_nil (List.cons_ne_nil a _) (.inl rfl)]
    exact (printAll_reportsFirst (a :: b :: rest)).bind_ok fun _ => ⟨_, rfl⟩
  | .choice (a :: b :: rest) => by
    rw [printFaults_of_ne_nil (List.cons_ne_nil a _) (.inr rfl)]
    exact (printAll_reportsFirst (a :: b :: rest)).bind_ok fun _ => ⟨_, rfl⟩
  | .repetition min max body => by
    -- the body is written first; its bounds are looked at afterwards
    have hlist : (Term.repetition min max body).printFaults =
        body.printFaults ++ (boundsFault min max).toList := by
      rw [printFaults_eq]
      simp [children, printFault]
    rw [hlist]
    refine (print_reportsFirst body).bind fun op => ?_
    refine (clauses_reportsFirst min max op).bind_ok fun cs => ?_
    split <;> exact ⟨_, rfl⟩

/-- Printing a list of terms reports the first fault of the first term that has one. -/
theorem printAll_reportsFirst :
    ∀ ts : List Term, ReportsFirst (printAll ts) (ts.flatMap printFaults)
  | [] => ReportsFirst.pure []
  | t :: ts => by
    rw [List.flatMap_cons]
    exact (print_reportsFirst t).bind fun _ => (printAll_reportsFirst ts).bind_ok fun _ => ⟨_, rfl⟩

end

theorem render_reportsFirst (t : Term) : ReportsFirst t.render t.printFaults :=
  (print_reportsFirst t).map _

theorem renderBranch_reportsFirst (t : Term) : ReportsFirst t.renderBranch t.printFaults := by
  refine (render_reportsFirst t).bind_ok fun text => ?_
  split <;> exact ⟨_, rfl⟩

/-- Only a choice without branches has no alternatives. -/
theorem branches_ne_nil {t : Term} (ht : t ≠ .choice []) : t.branches ≠ [] := by
  cases t with
  | choice bs => exact fun h => ht (h ▸ rfl)
  | _ => simp [branches]

/-- The faults of a body are those of its alternatives in turn, unless it is a choice
without any. -/
theorem printFaults_eq_branches {t : Term} (ht : t ≠ .choice []) :
    t.printFaults = t.branches.flatMap printFaults := by
  cases t with
  | choice bs =>
    have hbs : bs ≠ [] := fun h => ht (h ▸ rfl)
    exact printFaults_of_ne_nil hbs (.inr rfl)
  | _ => simp [branches]

end Term

/-- **A production's block reports the first fault of its body**, if the body is not a
choice without alternatives. -/
theorem Production.toEbnf_reportsFirst (p : Production) (hp : p.body ≠ .choice []) :
    ReportsFirst p.toEbnf p.body.printFaults := by
  rw [Term.printFaults_eq_branches hp]
  unfold Production.toEbnf
  split
  · rename_i hb
    exact absurd hb (Term.branches_ne_nil hp)
  · rename_i branch hb
    rw [hb, List.flatMap_singleton]
    exact (Term.render_reportsFirst branch).bind_ok fun _ => ⟨_, rfl⟩
  · rename_i first rest _ hb
    rw [hb, List.flatMap_cons]
    refine (Term.renderBranch_reportsFirst first).bind fun head => ?_
    refine (ReportsFirst.mapM fun b _ => ?_).bind_ok fun _ => ⟨_, rfl⟩
    exact (Term.renderBranch_reportsFirst b).bind_ok fun _ => ⟨_, rfl⟩

/-- The document of a grammar reports the first fault of the first production that has
one, if no body is a choice without alternatives. -/
theorem Grammar.toEbnf_reportsFirst (g : Grammar) (hg : ∀ p ∈ g.productions, p.body ≠ .choice []) :
    ReportsFirst g.toEbnf (g.productions.flatMap fun p => p.body.printFaults) :=
  (ReportsFirst.mapM fun p hp => p.toEbnf_reportsFirst (hg p hp)).bind_ok fun _ => ⟨_, rfl⟩

/-! ### Built grammars -/

namespace Term

/-- At a node that is not malformed, the printer finds a fault only where the node is
inexpressible. -/
theorem printFault_eq_inexpressible {p : String} {s : Term} (h : s.nodeFault p = none) :
    s.printFault = s.inexpressible := by
  match s, h with
  | .sequence [], h => cases h
  | .choice [], h => cases h
  | .repetition min none _, _ => simp [printFault, boundsFault, inexpressible]
  | .repetition min (some hi) _, h =>
    have hle : ¬ hi < min := fun hlt => by simp [nodeFault, hlt] at h
    simp [printFault, boundsFault, inexpressible, hle]
  | .sequence (_ :: _), _ | .choice (_ :: _), _ | .literal _, _ | .nonTerminal _, _ => rfl

/-- What an inexpressible node reports: a literal that holds both quotes, or no
occurrence allowed. -/
theorem inexpressible_eq_some {s : Term} {e : Inexpressible} (h : s.inexpressible = some e) :
    (∃ text, e = .mixedQuotes text ∧ HasBothQuotes text) ∨ e = .neverOccurs := by
  match s, h with
  | .literal text, h =>
    by_cases hq : HasBothQuotes text
    · simp only [inexpressible, hq, if_true, Option.some.injEq] at h
      exact .inl ⟨text, h.symm, hq⟩
    · simp [inexpressible, hq] at h
  | .repetition min max _, h =>
    by_cases hz : min = 0 ∧ max = some 0
    · simp only [inexpressible, hz, and_self, if_true, Option.some.injEq] at h
      exact .inr h.symm
    · simp [inexpressible, hz] at h

end Term

namespace Grammar

/-- The faults of the nodes that ISO 14977 text cannot express, production by production
and each body in post-order. -/
def inexpressibleFaults (g : Grammar) : List Inexpressible :=
  g.productions.flatMap fun p => p.body.postNodes.filterMap Term.inexpressible

theorem mem_inexpressibleFaults {g : Grammar} {e : Inexpressible} :
    e ∈ g.inexpressibleFaults ↔
      ∃ p ∈ g.productions, ∃ s ∈ p.body.nodes, s.inexpressible = some e := by
  simp only [inexpressibleFaults, List.mem_flatMap, List.mem_filterMap, Term.mem_postNodes_iff]

end Grammar

/-- **The EBNF document of a built grammar reports its first inexpressible node.** -/
theorem Builder.toEbnf_reportsFirst_of_build {b : Builder} {g : Grammar} (h : b.build = .ok g) :
    ReportsFirst g.toEbnf g.inexpressibleFaults := by
  -- no body is a choice without branches, and the printer's faults are the inexpressible nodes
  have hne : ∀ p ∈ g.productions, p.body ≠ .choice [] := fun p hp hc => by
    have hf := nodeFault_eq_none_of_build h hp (Term.mem_nodes_self p.body)
    rw [hc] at hf
    cases hf
  have hfaults : (g.productions.flatMap fun p => p.body.printFaults) = g.inexpressibleFaults := by
    refine List.flatMap_congr fun p hp => List.filterMap_congr fun s hs => ?_
    exact Term.printFault_eq_inexpressible
      (nodeFault_eq_none_of_build h hp (Term.mem_postNodes_iff.1 hs))
  rw [← hfaults]
  exact g.toEbnf_reportsFirst hne

/-- **The EBNF renderer fails exactly at the terms ISO 14977 cannot express, and at the
first of them.** For a built grammar, rendering fails exactly when some body holds a
literal with both quote characters or a repetition that allows no occurrence; the
fault is that of the first such node, productions in order and each body in
post-order; no other fault (empty sequence or choice, inverted bounds, a production
without alternatives) is ever reported; and with no such node the text is written. -/
theorem ebnf_render_fails_at_first_inexpressible {b : Builder} {g : Grammar}
    (hb : b.build = .ok g) :
    ((∃ e, Renderer.render .ebnf g = .error e) ↔
      ∃ p ∈ g.productions, ∃ s ∈ p.body.nodes, s.inexpressible ≠ none) ∧
    (∀ e es, g.inexpressibleFaults = e :: es → Renderer.render .ebnf g = .error e) ∧
    (g.inexpressibleFaults = [] → ∃ text, Renderer.render .ebnf g = .ok text) ∧
    ∀ e, Renderer.render .ebnf g = .error e →
      (∃ text, e = .mixedQuotes text ∧ HasBothQuotes text) ∨ e = .neverOccurs := by
  have hr : ReportsFirst (Renderer.render .ebnf g) g.inexpressibleFaults :=
    Builder.toEbnf_reportsFirst_of_build hb
  -- a failed render names the head of the faults, which is an inexpressible node
  have hfail : ∀ e, Renderer.render .ebnf g = .error e → e ∈ g.inexpressibleFaults := by
    intro e he
    cases hfs : g.inexpressibleFaults with
    | nil =>
      rw [hfs] at hr
      obtain ⟨text, hok⟩ := hr
      rw [hok] at he
      cases he
    | cons e' es =>
      rw [hfs] at hr
      rw [reportsFirst_cons.1 hr] at he
      cases he
      exact List.mem_cons_self
  refine ⟨⟨fun ⟨e, he⟩ => ?_, fun ⟨p, hp, s, hs, hsome⟩ => ?_⟩, fun e es hfs => ?_,
    fun hfs => ?_, fun e he => ?_⟩
  · obtain ⟨p, hp, s, hs, hse⟩ := Grammar.mem_inexpressibleFaults.1 (hfail e he)
    exact ⟨p, hp, s, hs, by rw [hse]; exact Option.some_ne_none e⟩
  · obtain ⟨e, hse⟩ := Option.ne_none_iff_exists'.1 hsome
    have hmem : e ∈ g.inexpressibleFaults := Grammar.mem_inexpressibleFaults.2 ⟨p, hp, s, hs, hse⟩
    cases hfs : g.inexpressibleFaults with
    | nil => rw [hfs] at hmem; cases hmem
    | cons e' es =>
      rw [hfs] at hr
      exact ⟨e', reportsFirst_cons.1 hr⟩
  · rw [hfs] at hr
    exact reportsFirst_cons.1 hr
  · rw [hfs] at hr
    exact hr
  · obtain ⟨p, -, s, -, hse⟩ := Grammar.mem_inexpressibleFaults.1 (hfail e he)
    exact Term.inexpressible_eq_some hse

/-- A minus sign followed by no digit at all: the grammar builds, and its document is
refused at the repetition that allows no occurrence. -/
theorem sign_before_no_digit_is_refused :
    ({ productions := [⟨"digit", .choice [.literal "0", .literal "1"]⟩,
        ⟨"never", .sequence [.literal "-", .repetition 0 (some 0) (.nonTerminal "digit")]⟩] } :
        Builder).build =
      .ok ⟨[⟨"digit", .choice [.literal "0", .literal "1"]⟩,
        ⟨"never", .sequence [.literal "-", .repetition 0 (some 0) (.nonTerminal "digit")]⟩]⟩ ∧
    Renderer.render .ebnf ⟨[⟨"digit", .choice [.literal "0", .literal "1"]⟩,
        ⟨"never", .sequence [.literal "-", .repetition 0 (some 0) (.nonTerminal "digit")]⟩]⟩ =
      .error .neverOccurs :=
  have hb : ({ productions := [⟨"digit", .choice [.literal "0", .literal "1"]⟩,
        ⟨"never", .sequence [.literal "-", .repetition 0 (some 0) (.nonTerminal "digit")]⟩] } :
        Builder).build =
      .ok ⟨[⟨"digit", .choice [.literal "0", .literal "1"]⟩,
        ⟨"never", .sequence [.literal "-", .repetition 0 (some 0) (.nonTerminal "digit")]⟩]⟩ := rfl
  ⟨hb, (ebnf_render_fails_at_first_inexpressible hb).2.1 _ [] rfl⟩

end GrammarDoc
