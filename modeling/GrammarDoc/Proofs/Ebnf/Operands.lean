import GrammarDoc.Proofs.Ebnf.Meaning
import GrammarDoc.Proofs.Term.Normal
/-!
# The operands of the EBNF printer

`Term.print` writes each term as an operand: text tagged with how loosely it binds.
Two things are shown of these operands here.

The printer looks through single-child wrappers the way normalisation removes them,
so a term and its normal form print alike, faults included (`print_normalize_eq_print`).

The tag is exact. Under the syntax of `Ebnf.Derives`, text tagged as a primary reads as
one primary, text tagged as a factor as `k * P` with `k ≥ 2`, and text tagged as a
sequence as two or more factors joined by commas (`ReadsExactly`). Each of these forms
reads at its own level and every looser one, and at no tighter level: a count in front
is no primary, and a comma outside brackets is in no factor. So `Operand.at` adds
parentheses exactly where the text would not read at the level asked for, and no text
the printer writes has a bar outside brackets.

Main statements: `print_normalize_eq_print` and `print_tags_exactly`.
-/

namespace GrammarDoc

open Ebnf

namespace Term

/-! ### Printing normal forms -/

/-- Terms that each print as the term they came from print, as a list, alike. -/
theorem printAll_map {f : Term → Term} :
    ∀ {ts : List Term}, (∀ t ∈ ts, (f t).print = t.print) → printAll (ts.map f) = printAll ts
  | [], _ => rfl
  | t :: ts, h => by
    rw [List.map_cons, printAll, printAll, h t List.mem_cons_self,
      printAll_map fun u hu => h u (List.mem_cons_of_mem t hu)]

/-- **Printing a normal form gives what printing the term gives**: the same text with
the same precedence, or the same fault; for every term, well-formed or not. -/
theorem print_normalize_eq_print (t : Term) : t.normalize.print = t.print := by
  match t with
  | .literal _ => rfl
  | .nonTerminal _ => rfl
  | .sequence [] => rfl
  | .choice [] => rfl
  -- a wrapper is what its child is, to normalisation and to the printer alike
  | .sequence [item] => rw [normalize, print_normalize_eq_print item]; rfl
  | .choice [branch] => rw [normalize, print_normalize_eq_print branch]; rfl
  | .sequence (a :: b :: rest) =>
    have hall := printAll_map fun u (_ : u ∈ a :: b :: rest) => print_normalize_eq_print u
    rw [normalize_sequence rfl]
    simp only [List.map_cons] at hall ⊢
    simp only [print, hall]
  | .choice (a :: b :: rest) =>
    have hall := printAll_map fun u (_ : u ∈ a :: b :: rest) => print_normalize_eq_print u
    rw [normalize_choice rfl]
    simp only [List.map_cons] at hall ⊢
    simp only [print, hall]
  | .repetition min max body =>
    rw [normalize, print, print, print_normalize_eq_print body]
termination_by sizeOf t
decreasing_by
  all_goals first
    | (have hmem := List.sizeOf_lt_of_mem ‹_ ∈ a :: b :: rest›
       simp only [sequence.sizeOf_spec, choice.sizeOf_spec]
       omega)
    | (simp only [sequence.sizeOf_spec, choice.sizeOf_spec, repetition.sizeOf_spec,
         List.cons.sizeOf_spec, List.nil.sizeOf_spec]
       omega)

end Term

namespace Ebnf

/-! ### Reading at exactly one level -/

/-- How tokens read at the top, one form for each precedence: as one primary; as a
count of at least two times a primary; or as two or more factors joined by commas. -/
def ReadsExactly : Precedence → List Token → Prop
  | .primary, ts => ∃ e, Derives .primary ts e
  | .factor, ts => ∃ w k ps e, ts = .word w :: .mark '*' :: ps ∧ IsCount w k ∧ 2 ≤ k ∧
      Derives .primary ps e
  | .sequence, ts => ∃ fs ss a b, ts = fs ++ .mark ',' :: ss ∧ Derives .factor fs a ∧
      Derives .sequence ss b

theorem Precedence.eq_of_rank_eq {p q : Precedence} (h : p.rank = q.rank) : p = q := by
  revert h
  cases p <;> cases q <;> decide

section Levels

variable {p : Precedence} {ts : List Token}

/-- Tokens of the form of a precedence read at its level. -/
theorem ReadsExactly.derives (h : ReadsExactly p ts) : ∃ e, Derives p.level ts e := by
  cases p with
  | primary => exact h
  | factor =>
    obtain ⟨w, k, ps, e, rfl, hw, -, hd⟩ := h
    exact ⟨_, .times hw hd⟩
  | sequence =>
    obtain ⟨fs, ss, a, b, rfl, ha, hb⟩ := h
    exact ⟨_, .seq ha hb⟩

/-- Tokens of the form of a precedence read at no tighter level: a count in front is no
primary, and a comma outside brackets is in no factor. -/
theorem ReadsExactly.not_derives {l : Precedence} (h : ReadsExactly p ts)
    (hlt : p.rank < l.rank) {e : Expr} : ¬ Derives l.level ts e := by
  intro hd
  cases p with
  | primary => cases l <;> simp [Precedence.rank] at hlt
  | factor =>
    cases l with
    | primary =>
      obtain ⟨w, k, ps, e', rfl, -, -, -⟩ := h
      exact not_derives_primary_word hd
    | _ => simp [Precedence.rank] at hlt
  | sequence =>
    obtain ⟨fs, ss, a, b, rfl, ha, -⟩ := h
    have hcomma : Inner ',' (fs ++ .mark ',' :: ss) :=
      hd.shaped.comma (by rw [Precedence.rank_level]; simp [Precedence.rank] at hlt ⊢; omega)
    exact not_inner_split ha.shaped.balanced.closed hcomma

/-- **Tokens of the form of a precedence read exactly at the levels up to it.** -/
theorem ReadsExactly.derives_iff (h : ReadsExactly p ts) (l : Precedence) :
    (∃ e, Derives l.level ts e) ↔ l.rank ≤ p.rank := by
  constructor
  · rintro ⟨e, hd⟩
    by_contra hlt
    exact h.not_derives (Nat.lt_of_not_le hlt) hd
  · intro hle
    obtain ⟨e, hd⟩ := h.derives
    exact ⟨e, Derives.lift (by rw [Precedence.rank_level, Precedence.rank_level]; omega) hd⟩

/-- Tokens have the form of one precedence at most. -/
theorem ReadsExactly.eq_iff (h : ReadsExactly p ts) (q : Precedence) :
    p = q ↔ ReadsExactly q ts := by
  constructor
  · rintro rfl
    exact h
  · intro hq
    have hpq := (hq.derives_iff p).1 h.derives
    have hqp := (h.derives_iff q).1 hq.derives
    exact Precedence.eq_of_rank_eq (by omega)

/-- A sequence with a comma outside brackets is two or more factors. -/
theorem readsExactly_sequence {c : Expr} (hd : Derives .sequence ts c) (hc : ¬ Inner ',' ts) :
    ReadsExactly .sequence ts := by
  cases hd with
  | seq hf hs => exact ⟨_, _, _, _, rfl, hf, hs⟩
  | sequence hf => exact absurd (hf.shaped.comma (by decide)) hc

end Levels

/-! ### Operands of the exact form -/

section Operands

variable {o : Operand} {L : Language Atom}

/-- The text of the operand spells tokens of the form of its precedence. -/
def Operand.Exact (o : Operand) : Prop :=
  ∃ ts, Spells o.text.toList ts ∧ ReadsExactly o.precedence ts

theorem Operand.Exact.means (h : o.Exact) : ∃ L, o.Means L := by
  obtain ⟨ts, hs, hr⟩ := h
  obtain ⟨e, hd⟩ := hr.derives
  exact ⟨e.lang, ts, e, hs, hd, rfl⟩

/-- Text that reads as a primary and is tagged so has the exact form. -/
theorem Operand.Means.exact_of_primary (h : o.Means L) (hp : o.precedence = .primary) :
    o.Exact := by
  obtain ⟨ts, e, hs, hd, -⟩ := h
  refine ⟨ts, hs, ?_⟩
  rw [hp] at hd ⊢
  exact ⟨e, hd⟩

/-- `k * P` for a count that is not zero: the body itself for a count of one, else a
count of at least two times a primary. -/
theorem times_exact (h : o.Exact) {k : UInt64} (hk : k ≠ 0) : (times k o).Exact := by
  by_cases h1 : k = 1
  · rw [h1, times_one]
    exact h
  · obtain ⟨L, hL⟩ := h.means
    obtain ⟨ts, e, hs, hd, -⟩ := Operand.means_at hL .primary
    refine ⟨_, spells_times h1 hs, ?_⟩
    rw [times_text h1]
    have h0 : k.toNat ≠ 0 := fun he => hk (UInt64.toNat_inj.1 (by simpa using he))
    have h1' : k.toNat ≠ 1 := fun he => h1 (UInt64.toNat_inj.1 (by simpa using he))
    exact ⟨_, k.toNat, ts, e, rfl, isCount_repr _, by omega, hd⟩

/-- **Operands joined by commas are two or more factors**: the first operand's tokens
close their brackets, so the comma after them stands outside brackets. -/
theorem join_exact {os : List Operand} {Ls : List (Language Atom)} (ho : o.Means L)
    (hs : List.Forall₂ Operand.Means os Ls) (hne : os ≠ []) :
    (⟨", ".intercalate ((o :: os).map (·.text)), .sequence⟩ : Operand).Exact := by
  obtain ⟨ts₁, e₁, hs₁, hd₁, -⟩ := ho.sequence
  obtain ⟨ts₂, e₂, hs₂, hd₂, -⟩ := seq_means hs hne
  obtain ⟨c, hd, -⟩ := Derives.seq_append hd₁ hd₂
  refine ⟨ts₁ ++ .mark ',' :: ts₂, ?_,
    readsExactly_sequence hd (not_inner_split hd₁.shaped.balanced.closed)⟩
  obtain ⟨o', os', rfl⟩ := List.exists_cons_of_ne_nil hne
  rw [List.map_cons, List.map_cons, String.intercalate_cons_cons, String.toList_append,
    String.toList_append]
  simpa using spells_comma_join hs₁ hs₂

/-- A repetition written as one clause has the exact form: `{X}` and `[X]` are
primaries, and a count in front is never zero. -/
theorem clause_exact {min : UInt64} {max : Option UInt64} {c : Operand} (h : o.Exact)
    (hc : clauses min max o = .ok [c]) : c.Exact := by
  obtain ⟨L, hL⟩ := h.means
  cases max with
  | some hi =>
    simp only [clauses] at hc
    split at hc
    · cases hc
    · split at hc
      · split at hc
        · cases hc
        · rename_i hhi
          cases hc
          exact times_exact ((optional_means hL).exact_of_primary rfl) hhi
      · rename_i hmin
        split at hc
        · cases hc
          exact times_exact h hmin
        · cases hc
  | none =>
    simp only [clauses] at hc
    split at hc
    · cases hc
      exact (repeated_means hL).exact_of_primary rfl
    · cases hc

end Operands

/-! ### The printer's operands -/

/-- **Every operand the printer writes has the exact form of its precedence**, if the
term refers only to meta-identifiers. -/
theorem print_exact (t : Term) (hn : NamesOk t) {o : Operand} (h : t.print = .ok o) :
    o.Exact := by
  match t with
  | .literal text =>
    obtain ⟨q, hq, h⟩ := bind_eq_ok.1 h
    cases h
    exact (quote_means hq).exact_of_primary rfl
  | .nonTerminal name =>
    cases h
    exact (name_means (hn name (by simp [Term.references]))).exact_of_primary rfl
  | .sequence [] => cases h
  | .choice [] => cases h
  | .sequence [item] => exact print_exact item (namesOk_of_mem hn List.mem_cons_self) h
  | .choice [branch] => exact print_exact branch (namesOk_of_mem hn List.mem_cons_self) h
  | .sequence (a :: b :: rest) =>
    -- the items are joined by commas, each as it is, since nothing binds looser
    obtain ⟨ops, hops, h⟩ := bind_eq_ok.1 h
    cases h
    have hall := List.forall₂_map_right_iff.2
      (printAll_means (a :: b :: rest) (fun _ ht => namesOk_of_mem hn ht) hops)
    simp only [Operand.at_sequence]
    match ops, hall with
    | o₁ :: o₂ :: os, .cons h₁ (.cons h₂ hrest) =>
      exact join_exact h₁ (.cons h₂ hrest) (List.cons_ne_nil _ _)
  | .choice (a :: b :: rest) =>
    -- the branches are joined by bars in parentheses, a primary
    have hmeans := print_means _ hn h
    obtain ⟨ops, -, h⟩ := bind_eq_ok.1 h
    cases h
    exact hmeans.exact_of_primary rfl
  | .repetition min max body =>
    obtain ⟨op, hop, h⟩ := bind_eq_ok.1 h
    obtain ⟨cs, hcs, h⟩ := bind_eq_ok.1 h
    rcases clauses_means (print_means body hn hop) hcs with
      ⟨c, rfl, -⟩ | ⟨c₁, c₂, L₁, L₂, rfl, h₁, h₂, -⟩
    · cases h
      exact clause_exact (print_exact body hn hop) hcs
    · cases h
      exact join_exact h₁ (.cons h₂ .nil) (List.cons_ne_nil _ _)
termination_by sizeOf t
decreasing_by
  all_goals
    simp only [Term.sequence.sizeOf_spec, Term.choice.sizeOf_spec, Term.repetition.sizeOf_spec,
      List.cons.sizeOf_spec, List.nil.sizeOf_spec]
    omega

/-- What it means for the tag of an operand to be exact, with its text split into the
tokens `ts`: the tag says which of the three forms the tokens have, no bar stands
outside brackets, and `Operand.at` adds parentheses exactly where the text does not
read at the level asked for. -/
structure Operand.TaggedExactly (o : Operand) (ts : List Token) : Prop where
  tokens : lex o.text.toList = some ts
  primary : o.precedence = .primary ↔ ∃ e, Derives .primary ts e
  factor : o.precedence = .factor ↔
    ∃ w k ps e, ts = .word w :: .mark '*' :: ps ∧ IsCount w k ∧ 2 ≤ k ∧ Derives .primary ps e
  sequence : o.precedence = .sequence ↔
    ∃ fs ss a b, ts = fs ++ .mark ',' :: ss ∧ Derives .factor fs a ∧ Derives .sequence ss b
  noBar : Inner '|' ts
  parens : ∀ level : Precedence,
    ((∃ e, Derives level.level ts e) → o.at level = o.text) ∧
      ((¬ ∃ e, Derives level.level ts e) → o.at level = "(" ++ o.text ++ ")")

/-- An operand of the exact form has an exact tag. -/
theorem Operand.Exact.taggedExactly {o : Operand} (h : o.Exact) : ∃ ts, o.TaggedExactly ts := by
  obtain ⟨ts, hs, hr⟩ := h
  obtain ⟨e, hd⟩ := hr.derives
  refine ⟨ts, ⟨lex_of_spells hs, hr.eq_iff .primary, hr.eq_iff .factor, hr.eq_iff .sequence,
    hd.shaped.bar (by rw [Precedence.rank_level]; omega), fun level => ⟨?_, ?_⟩⟩⟩
  · -- a level the text reads at is no tighter than its tag
    intro hread
    have hle := (hr.derives_iff level).1 hread
    exact if_neg (Nat.not_lt.2 hle)
  · intro hnot
    have hlt : o.precedence.rank < level.rank :=
      Nat.lt_of_not_le fun hle => hnot ((hr.derives_iff level).2 hle)
    exact if_pos hlt

/-- **The printer tags every operand exactly**, for every term whose references are
meta-identifiers: the text of the operand splits into tokens that read as one primary,
as `k * P` with `k ≥ 2`, or as two or more factors joined by commas, as the tag says;
no bar stands outside brackets; and `Operand.at` adds parentheses exactly where the text
would not read at the level asked for. -/
theorem print_tags_exactly {t : Term} (hn : ∀ n ∈ t.references, IsName n) {o : Operand}
    (h : t.print = .ok o) : ∃ ts, o.TaggedExactly ts :=
  (print_exact t hn h).taggedExactly

/-- A reference followed by at least two of another is written as three factors, the
middle one a count in front of a name. -/
theorem counted_tail_tags_exactly :
    (∀ n ∈ (Term.sequence [.nonTerminal "a", .atLeast 2 (.nonTerminal "b")]).references,
        IsName n) ∧
      (Term.sequence [.nonTerminal "a", .atLeast 2 (.nonTerminal "b")]).print =
        .ok ⟨"a, 2 * b, \x7bb\x7d", .sequence⟩ ∧
      ∃ ts, (⟨"a, 2 * b, \x7bb\x7d", .sequence⟩ : Operand).TaggedExactly ts :=
  have hn : ∀ n ∈ (Term.sequence [.nonTerminal "a", .atLeast 2 (.nonTerminal "b")]).references,
      IsName n := by
    decide +kernel
  have hp : (Term.sequence [.nonTerminal "a", .atLeast 2 (.nonTerminal "b")]).print =
      .ok ⟨"a, 2 * b, \x7bb\x7d", .sequence⟩ := by
    decide +kernel
  ⟨hn, hp, print_tags_exactly hn hp⟩

end Ebnf

end GrammarDoc
