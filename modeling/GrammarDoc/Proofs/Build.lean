import GrammarDoc.Proofs.Term.Normal
/-!
# Building decides well-formedness

`Builder.build` makes three checks in turn and reports the first fault it finds.
Each check is pinned down here by what it looks for, apart from how it looks:

* a name repeats when it equals the name of an earlier production;
* a node is malformed when `Term.nodeFault` says so, and the nodes are taken
  production by production, each body in pre-order;
* a reference is undefined when no production, earlier or later, has its name.

Main statement: `Builder.build_reports_first_fault`, the four outcomes of a build.
-/

namespace GrammarDoc

/-! ### Repeated names -/

theorem firstRepeated_go_eq_none {seen names : List String}
    (h : firstRepeated.go seen names = none) : names.Nodup ∧ ∀ n ∈ names, n ∉ seen := by
  induction names generalizing seen with
  | nil => simp
  | cons n rest ih =>
    by_cases hn : n ∈ seen
    · simp [firstRepeated.go, hn] at h
    · simp only [firstRepeated.go, hn, if_false] at h
      obtain ⟨hnd, hfresh⟩ := ih h
      refine ⟨List.nodup_cons.2 ⟨fun hr => hfresh n hr List.mem_cons_self, hnd⟩, ?_⟩
      intro x hx
      rcases List.mem_cons.1 hx with rfl | hx
      · exact hn
      · exact fun hs => hfresh x hx (List.mem_cons_of_mem _ hs)

theorem firstRepeated_go_eq_some {seen names : List String} {n : String}
    (h : firstRepeated.go seen names = some n) :
    ∃ pre post, names = pre ++ n :: post ∧ pre.Nodup ∧ (∀ x ∈ pre, x ∉ seen) ∧
      (n ∈ seen ∨ n ∈ pre) := by
  induction names generalizing seen with
  | nil => simp [firstRepeated.go] at h
  | cons m rest ih =>
    by_cases hm : m ∈ seen
    · simp only [firstRepeated.go, hm, if_true, Option.some.injEq] at h
      subst h
      exact ⟨[], rest, rfl, List.nodup_nil, by simp, Or.inl hm⟩
    · simp only [firstRepeated.go, hm, if_false] at h
      obtain ⟨pre, post, rfl, hnd, hfresh, hn⟩ := ih h
      refine ⟨m :: pre, post, rfl, ?_, ?_, ?_⟩
      · exact List.nodup_cons.2 ⟨fun hp => hfresh m hp List.mem_cons_self, hnd⟩
      · intro x hx
        rcases List.mem_cons.1 hx with rfl | hx
        · exact hm
        · exact fun hs => hfresh x hx (List.mem_cons_of_mem _ hs)
      · rcases hn with hn | hn
        · rcases List.mem_cons.1 hn with rfl | hn
          · exact Or.inr List.mem_cons_self
          · exact Or.inl hn
        · exact Or.inr (List.mem_cons_of_mem _ hn)

/-- A name is reported as repeated exactly at the first position whose name occurs
before it: the names before are distinct and include it. -/
theorem firstRepeated_eq_some {names : List String} {n : String}
    (h : firstRepeated names = some n) :
    ∃ pre post, names = pre ++ n :: post ∧ pre.Nodup ∧ n ∈ pre := by
  obtain ⟨pre, post, hnames, hnd, -, hn⟩ := firstRepeated_go_eq_some h
  exact ⟨pre, post, hnames, hnd, hn.resolve_left List.not_mem_nil⟩

/-- No name is reported as repeated exactly when the names are distinct. -/
theorem firstRepeated_eq_none_iff {names : List String} :
    firstRepeated names = none ↔ names.Nodup := by
  constructor
  · intro h
    exact (firstRepeated_go_eq_none h).1
  · intro hnd
    cases h : firstRepeated names with
    | none => rfl
    | some n =>
      obtain ⟨pre, post, rfl, -, hn⟩ := firstRepeated_eq_some h
      exact ((List.nodup_append.1 hnd).2.2 n hn n List.mem_cons_self rfl).elim

/-! ### The checks of a builder -/

namespace Builder

/-- The names of the collected productions, in declaration order. -/
def names (b : Builder) : List String := b.productions.map (·.name)

/-- The faults of every malformed node, production by production and each body in
pre-order, reported for the production the node is in. -/
def shapeFaults (b : Builder) : List GrammarError :=
  b.productions.flatMap fun p => p.body.faults p.name

/-- The names referred to that no production has: one entry per reference,
production by production and each body in pre-order. -/
def undefinedNames (b : Builder) : List String :=
  ((b.productions.flatMap fun p => p.body.nodes).filterMap Term.refName?).filter
    fun n => n ∉ b.names

theorem checkShapes_eq_firstOf (ps : List Production) :
    checkShapes ps = firstOf (ps.flatMap fun p => p.body.faults p.name) := by
  induction ps with
  | nil => rfl
  | cons p ps ih =>
    rw [checkShapes, List.flatMap_cons, firstOf_append, Term.checkShape_eq_firstOf, ih]

/-- The undefined names, read off the references of each body. -/
theorem undefinedNames_eq (b : Builder) : b.undefinedNames =
    (b.productions.flatMap fun p => p.body.references).filter fun n => n ∉ b.names := by
  simp [undefinedNames, List.filterMap_flatMap, Term.references_eq_filterMap]

theorem firstUndefined_eq_head? (b : Builder) :
    firstUndefined b.productions = b.undefinedNames.head? := by
  rw [firstUndefined, undefinedNames_eq, List.head?_filter]
  congr 1
  funext n
  simp only [names, List.mem_map, decide_not]
  congr 1
  rw [Bool.eq_iff_iff]
  simp

/-- Building, with each check replaced by what it looks for. -/
theorem build_eq (b : Builder) : b.build =
    (match firstRepeated b.names with
    | some n => .error (.duplicate n)
    | none => do
      firstOf b.shapeFaults
      match b.undefinedNames.head? with
      | some n => .error (.undefined n)
      | none => .ok ⟨b.productions.map fun p => ⟨p.name, p.body.normalize⟩⟩) := by
  unfold build names shapeFaults
  rw [checkShapes_eq_firstOf, firstUndefined_eq_head?]
  cases firstRepeated (b.productions.map (·.name)) <;>
    cases firstOf (b.productions.flatMap fun p => p.body.faults p.name) <;>
    cases b.undefinedNames.head? <;> rfl

/-- **Building reports the first fault in a fixed order, and only then succeeds.**
1. If a name repeats, the fault names the first production whose name an earlier
   production has: the names before it are distinct and include its name.
2. Otherwise, if a node is malformed, the fault is that of the first such node,
   productions in order and each body in pre-order.
3. Otherwise, if a reference names no production, earlier or later, the fault
   names the first such reference in the same order.
4. Otherwise the grammar holds the productions in order, bodies normalised. -/
theorem build_reports_first_fault (b : Builder) :
    (¬ b.names.Nodup → ∃ pre n post, b.names = pre ++ n :: post ∧ pre.Nodup ∧ n ∈ pre ∧
        b.build = .error (.duplicate n)) ∧
    (b.names.Nodup → ∀ e es, b.shapeFaults = e :: es → b.build = .error e) ∧
    (b.names.Nodup → b.shapeFaults = [] → ∀ n ns, b.undefinedNames = n :: ns →
        b.build = .error (.undefined n)) ∧
    (b.names.Nodup → b.shapeFaults = [] → b.undefinedNames = [] →
        b.build = .ok ⟨b.productions.map fun p => ⟨p.name, p.body.normalize⟩⟩) := by
  refine ⟨fun hdup => ?_, fun hnd e es hfaults => ?_, fun hnd hfaults n ns hundef => ?_,
    fun hnd hfaults hundef => ?_⟩
  · cases hrep : firstRepeated b.names with
    | none => exact absurd (firstRepeated_eq_none_iff.1 hrep) hdup
    | some n =>
      obtain ⟨pre, post, hnames, hpre, hn⟩ := firstRepeated_eq_some hrep
      exact ⟨pre, n, post, hnames, hpre, hn, by rw [build_eq, hrep]⟩
  · rw [build_eq, firstRepeated_eq_none_iff.2 hnd, hfaults]
    rfl
  · rw [build_eq, firstRepeated_eq_none_iff.2 hnd, hfaults, hundef]
    rfl
  · rw [build_eq, firstRepeated_eq_none_iff.2 hnd, hfaults, hundef]
    rfl

/-- Building succeeds exactly when the names are distinct, no node is malformed and
every reference names a production; the grammar holds the normalised productions. -/
theorem build_eq_ok_iff {b : Builder} {g : Grammar} :
    b.build = .ok g ↔ b.names.Nodup ∧ b.shapeFaults = [] ∧ b.undefinedNames = [] ∧
      g = ⟨b.productions.map fun p => ⟨p.name, p.body.normalize⟩⟩ := by
  rw [build_eq]
  constructor
  · intro h
    cases hrep : firstRepeated b.names with
    | some n => rw [hrep] at h; cases h
    | none =>
      rw [hrep] at h
      cases hf : b.shapeFaults with
      | cons e es => rw [hf] at h; cases h
      | nil =>
        rw [hf] at h
        cases hu : b.undefinedNames with
        | cons n ns => rw [hu] at h; cases h
        | nil =>
          rw [hu] at h
          cases h
          exact ⟨firstRepeated_eq_none_iff.1 hrep, rfl, rfl, rfl⟩
  · rintro ⟨hnd, hf, hu, rfl⟩
    rw [firstRepeated_eq_none_iff.2 hnd, hf, hu]
    rfl

/-- **The productions of a built grammar build again to the same grammar**: normalising
keeps the names, the malformed nodes and the references, and changes nothing the
second time. -/
theorem build_eq_ok_of_built {b : Builder} {g : Grammar} (h : b.build = .ok g) :
    ({ productions := g.productions } : Builder).build = .ok g := by
  obtain ⟨hnd, hf, hu, rfl⟩ := build_eq_ok_iff.1 h
  have hnames : names { productions := b.productions.map fun p => ⟨p.name, p.body.normalize⟩ } =
      b.names := by
    simp [names]
  refine build_eq_ok_iff.2 ⟨hnames ▸ hnd, ?_, ?_, ?_⟩
  · rw [← hf]
    simp only [shapeFaults, List.flatMap_map, Term.faults_normalize]
  · rw [← hu, undefinedNames_eq, undefinedNames_eq, hnames]
    simp only [List.flatMap_map, Term.references_normalize]
  · simp [Term.normalize_normalize]

/-- **No node of a built grammar is malformed**: each body is the normal form of one that
passed the shape check. -/
theorem nodeFault_eq_none_of_build {b : Builder} {g : Grammar} (h : b.build = .ok g)
    {p : Production} (hp : p ∈ g.productions) {s : Term} (hs : s ∈ p.body.nodes) :
    s.nodeFault p.name = none := by
  obtain ⟨-, hfaults, -, rfl⟩ := build_eq_ok_iff.1 h
  obtain ⟨q, hq, rfl⟩ := List.mem_map.1 hp
  have hnone : q.body.faults q.name = [] := List.flatMap_eq_nil_iff.1 hfaults q hq
  have hnf : q.body.normalize.faults q.name = [] := by rw [Term.faults_normalize, hnone]
  exact List.filterMap_eq_nil_iff.1 hnf s hs

end Builder

end GrammarDoc
