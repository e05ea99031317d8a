import GrammarDoc.Proofs.Ebnf.Unambiguous
import GrammarDoc.Proofs.Outcome
import GrammarDoc.Renderer
/-!
# EBNF text keeps the meaning of a grammar

The text that the EBNF printer writes for a term reads back, under the syntax of
`Ebnf.Derives`, as an expression with the term's language. The printer tags each
piece of text with how loosely it binds, and `Operand.at` puts a piece in
parentheses where a tighter level is needed; `Operand.Means o L` is the invariant
that the tag is right: the text reads at the level of its tag as an expression of
the language `L`.

Every way the printer builds text keeps the invariant: a literal in quotes and a
name alone are primaries, items joined by commas a sequence, branches joined by bars
in parentheses a primary, and the clauses of a repetition `k * P`, `[E]` and `{E}`
describe the powers of the body between the bounds (`clauses_means`). A document is
its productions' rules in order, each `N = E ;` with the branches of a choice on
lines of their own; the syntax reads a text in one way only (`ParsesAs.unique`), so
these rules are the text's only reading.

Main statement: `ebnf_text_reads_as_grammar`.
-/

namespace GrammarDoc

namespace Ebnf

/-- The level of the grammar that text of a precedence reads at. -/
def Precedence.level : Precedence → Level
  | .sequence => .sequence
  | .factor => .factor
  | .primary => .primary

theorem Precedence.rank_level (p : Precedence) : p.level.rank = p.rank + 1 := by
  cases p <;> rfl

/-- The text of the operand reads, at the level of its precedence, as an expression
of the language `L`. -/
def Operand.Means (o : Operand) (L : Language Atom) : Prop :=
  ∃ ts e, Spells o.text.toList ts ∧ Derives o.precedence.level ts e ∧ e.lang = L

/-! ### Pieces of text -/

section Pieces

theorem isWordChar_of_mark_or_blank {c : Char} (hc : isMark c = true ∨ isBlank c = true) :
    isWordChar c = false := by
  rcases hc with hm | hbl
  · exact (not_isBlank_of_isMark hm).2.2
  · cases hw : isWordChar c
    · rfl
    · exact absurd (isBlank_of_isWordChar hw) (by simp [hbl])

/-- A piece that starts with a mark or a blank is separated from anything before it. -/
theorem separated_of_head_mark {a b : List Char} {c : Char} (hb : b.head? = some c)
    (hc : isMark c = true ∨ isBlank c = true) : Separated a b := by
  refine separated_of_head fun y hy => ?_
  rw [hb, Option.mem_some_iff] at hy
  exact hy ▸ isWordChar_of_mark_or_blank hc

/-- Text between two marks spells its tokens between the marks. -/
theorem spells_enclosed {o c : Char} {cs : List Char} {ts : List Token} (ho : isMark o = true)
    (hc : isMark c = true) (h : Spells cs ts) :
    Spells (o :: (cs ++ [c])) (.mark o :: (ts ++ [.mark c])) :=
  .mark ho (h.append (.mark hc .nil) (separated_of_head_mark rfl (Or.inl hc)))

/-- Blanks in front of text spell nothing more. -/
theorem spells_blanks_append {cs : List Char} {ts : List Token} (n : ℕ) (h : Spells cs ts) :
    Spells (List.replicate n ' ' ++ cs) ts := by
  induction n with
  | zero => exact h
  | succ n ih => exact .blank rfl ih

end Pieces

/-! ### Operands -/

section Operands

variable {o : Operand} {L : Language Atom}

/-- **Text placed at a level reads there with the same language**: it is left as it
is where it binds tightly enough, and put in parentheses where it does not. -/
theorem Operand.means_at (h : o.Means L) (level : Precedence) :
    ∃ ts e, Spells (o.at level).toList ts ∧ Derives level.level ts e ∧ e.lang = L := by
  obtain ⟨ts, e, hs, hd, hl⟩ := h
  unfold Operand.at
  split
  · -- a looser operand becomes a bracketed primary
    refine ⟨.mark '(' :: (ts ++ [.mark ')']), .group e, ?_, ?_, hl⟩
    · have htext : ("(" ++ o.text ++ ")").toList = '(' :: (o.text.toList ++ [')']) := by simp
      rw [htext]
      exact spells_enclosed rfl rfl hs
    · exact Derives.lift (by cases level <;> decide) (.group (Derives.lift (Nat.zero_le _) hd))
  · rename_i hnot
    have hle : level.level.rank ≤ o.precedence.level.rank := by
      rw [Precedence.rank_level, Precedence.rank_level]
      have : ¬ o.precedence.rank < level.rank := hnot
      omega
    exact ⟨ts, e, hs, Derives.lift hle hd, hl⟩

/-- A literal is written as a terminal in the quotes it does not contain. -/
theorem quote_means {text q : String} (h : quote text = .ok q) :
    (⟨q, .primary⟩ : Operand).Means {[.lit text]} := by
  refine ⟨[.terminal text], .terminal text, ?_, .terminal text, rfl⟩
  -- the quote written around the literal is one the literal does not hold
  have hterm : ∀ c : Char, isQuote c = true → c ∉ text.toList →
      Spells (c :: (text.toList ++ [c])) [.terminal text] := by
    intro c hc hnot
    have hs := Spells.terminal text.toList hc hnot Spells.nil
    rwa [String.ofList_toList] at hs
  unfold quote at h
  split at h
  · rename_i hdq
    cases h
    have hnot : '"' ∉ text.toList := by simpa [String.contains_char_eq] using hdq
    simpa using hterm '"' rfl hnot
  · split at h
    · rename_i hsq
      cases h
      have hnot : '\'' ∉ text.toList := by simpa [String.contains_char_eq] using hsq
      simpa using hterm '\'' rfl hnot
    · cases h

/-- A name is written as itself, a meta-identifier. -/
theorem name_means {name : String} (h : IsName name) :
    (⟨name, .primary⟩ : Operand).Means {[.ref name]} := by
  refine ⟨[.word name], .ident name, ?_, .ident h, rfl⟩
  have hs := Spells.word name.toList h.1 h.2.1 (by simp) Spells.nil
  rwa [List.append_nil, String.ofList_toList] at hs

end Operands

/-! ### Joining operands -/

section Joins

theorem spells_comma_join {a b : List Char} {ts us : List Token} (ha : Spells a ts)
    (hb : Spells b us) : Spells (a ++ ',' :: ' ' :: b) (ts ++ .mark ',' :: us) :=
  ha.append (.mark rfl (.blank rfl hb)) (separated_of_head_mark rfl (Or.inl rfl))

theorem spells_bar_join {a b : List Char} {ts us : List Token} (ha : Spells a ts)
    (hb : Spells b us) : Spells (a ++ ' ' :: '|' :: ' ' :: b) (ts ++ .mark '|' :: us) :=
  ha.append (.blank rfl (.mark rfl (.blank rfl hb))) (separated_of_head_mark rfl (Or.inr (by decide : isBlank '\n' = true)))

/-- Every operand reads as a sequence: nothing binds looser. -/
theorem Operand.Means.sequence {o : Operand} {L : Language Atom} (h : o.Means L) :
    ∃ ts e, Spells o.text.toList ts ∧ Derives .sequence ts e ∧ e.lang = L := by
  obtain ⟨ts, e, hs, hd, hl⟩ := h
  refine ⟨ts, e, hs, Derives.lift ?_ hd, hl⟩
  rw [Precedence.rank_level]
  exact Nat.succ_le_succ (Nat.zero_le _)

/-- Placing an operand where a sequence is needed leaves it as it is. -/
theorem Operand.at_sequence (o : Operand) : o.at .sequence = o.text :=
  if_neg (Nat.not_lt_zero _)

/-- **Operands joined by commas read as their sequence**, whatever their own levels:
a sequence among them extends the sequence around it. -/
theorem seq_means {os : List Operand} {Ls : List (Language Atom)}
    (h : List.Forall₂ Operand.Means os Ls) (hne : os ≠ []) :
    (⟨", ".intercalate (os.map (·.text)), .sequence⟩ : Operand).Means Ls.prod := by
  induction h with
  | nil => exact absurd rfl hne
  | @cons o L os Ls hoL hrest ih =>
    obtain ⟨ts₁, e₁, hs₁, hd₁, hl₁⟩ := hoL.sequence
    cases hrest with
    | nil =>
      refine ⟨ts₁, e₁, by simpa using hs₁, hd₁, ?_⟩
      rw [hl₁, List.prod_cons, List.prod_nil, mul_one]
    | @cons o' L' os' Ls' ho' hrest' =>
      obtain ⟨ts₂, e₂, hs₂, hd₂, hl₂⟩ := ih (List.cons_ne_nil _ _)
      obtain ⟨e, hd, hl⟩ := Derives.seq_append hd₁ hd₂
      refine ⟨ts₁ ++ .mark ',' :: ts₂, e, ?_, hd, ?_⟩
      · rw [List.map_cons, List.map_cons, String.intercalate_cons_cons, String.toList_append,
          String.toList_append]
        have hs := spells_comma_join hs₁ hs₂
        simpa using hs
      · rw [hl, hl₁, hl₂]
        simp only [List.prod_cons]

/-- **Operands joined by bars read as their alternation.** Every operand binds at
least as tightly as a sequence, so none needs brackets. -/
theorem alt_means {os : List Operand} {Ls : List (Language Atom)}
    (h : List.Forall₂ Operand.Means os Ls) (hne : os ≠ []) :
    ∃ toks e, Spells (" | ".intercalate (os.map (·.text))).toList toks ∧
      Derives .expression toks e ∧ e.lang = Ls.sum := by
  induction h with
  | nil => exact absurd rfl hne
  | @cons o L os Ls hoL hrest ih =>
    obtain ⟨ts₁, e₁, hs₁, hd₁, hl₁⟩ := hoL.sequence
    cases hrest with
    | nil =>
      refine ⟨ts₁, e₁, by simpa using hs₁, .expression hd₁, ?_⟩
      rw [hl₁, List.sum_cons, List.sum_nil, add_zero]
    | @cons o' L' os' Ls' ho' hrest' =>
      obtain ⟨ts₂, e₂, hs₂, hd₂, hl₂⟩ := ih (List.cons_ne_nil _ _)
      refine ⟨ts₁ ++ .mark '|' :: ts₂, .alt e₁ e₂, ?_, .alt hd₁ hd₂, ?_⟩
      · rw [List.map_cons, List.map_cons, String.intercalate_cons_cons, String.toList_append,
          String.toList_append]
        have hs := spells_bar_join hs₁ hs₂
        simpa using hs
      · rw [Expr.lang, hl₁, hl₂]
        simp only [List.sum_cons]

end Joins

/-! ### Repetitions -/

section Clauses

variable {o : Operand} {L : Language Atom}

theorem isCount_repr (n : ℕ) : IsCount (Nat.repr n) n := by
  rw [IsCount, Nat.toList_repr]
  exact ⟨Nat.toDigits_ne_nil, fun c hc => Nat.isDigit_of_mem_toDigits (by decide) (by decide) hc,
    Nat.ofDigitChars_ten_toDigits⟩

/-- A count of one leaves the body as it is. -/
theorem times_one (o : Operand) : times 1 o = o := if_pos rfl

/-- A count other than one is written in front of the body, with a star. -/
theorem times_text {k : UInt64} (hk : k ≠ 1) (o : Operand) :
    times k o = ⟨Nat.repr k.toNat ++ " * " ++ o.at .primary, .factor⟩ :=
  if_neg hk

/-- `k * P` spells the count, a star and the tokens of the body placed as a primary. -/
theorem spells_times {k : UInt64} (hk : k ≠ 1) {ts : List Token}
    (h : Spells (o.at .primary).toList ts) :
    Spells (times k o).text.toList (.word (Nat.repr k.toNat) :: .mark '*' :: ts) := by
  have hcount := isCount_repr k.toNat
  have hdigits : ∀ c ∈ (Nat.repr k.toNat).toList, isWordChar c = true := fun c hc => by
    simp [isWordChar, Char.isAlphanum, hcount.2.1 c hc]
  have hrest : Spells (' ' :: '*' :: ' ' :: (o.at .primary).toList) (.mark '*' :: ts) :=
    .blank rfl (.mark rfl (.blank rfl h))
  have hhead : ∀ c ∈ (' ' :: '*' :: ' ' :: (o.at .primary).toList).head?,
      isWordChar c = false :=
    fun c hc => (Option.mem_some_iff.1 hc) ▸ isWordChar_of_mark_or_blank (Or.inr rfl)
  have hw := Spells.word _ hcount.1 hdigits hhead hrest
  rw [String.ofList_toList] at hw
  simpa [times_text hk] using hw

/-- `k * P`: exactly `k` times the body, and the body itself for a count of one. -/
theorem times_means (h : o.Means L) (k : UInt64) : (times k o).Means (L ^ k.toNat) := by
  by_cases hk : k = 1
  · rw [hk, UInt64.toNat_one, pow_one, times_one]
    exact h
  · obtain ⟨ts, e, hs, hd, hl⟩ := Operand.means_at h .primary
    refine ⟨_, .times k.toNat e, spells_times hk hs, ?_, by rw [Expr.lang, hl]⟩
    rw [times_text hk]
    exact .times (isCount_repr _) hd

/-- `[E]`: the body once or not at all. -/
theorem optional_means (h : o.Means L) :
    (⟨"[" ++ o.text ++ "]", .primary⟩ : Operand).Means (1 + L) := by
  obtain ⟨ts, e, hs, hd, hl⟩ := h
  have hopt : Derives .primary (.mark '[' :: (ts ++ [.mark ']'])) (.optional e) :=
    .optional (Derives.lift (Nat.zero_le _) hd)
  have htext : ("[" ++ o.text ++ "]").toList = '[' :: (o.text.toList ++ [']']) := by simp
  have hsp : Spells ("[" ++ o.text ++ "]").toList (.mark '[' :: (ts ++ [.mark ']'])) := by
    rw [htext]
    exact spells_enclosed rfl rfl hs
  exact ⟨_, _, hsp, hopt, by rw [Expr.lang, hl]⟩

theorem upTo_means (h : o.Means L) (k : UInt64) : (upTo k o).Means ((1 + L) ^ k.toNat) :=
  times_means (optional_means h) k

/-- `{E}`: the body any number of times. -/
theorem repeated_means (h : o.Means L) : (repeated o).Means (KStar.kstar L) := by
  obtain ⟨ts, e, hs, hd, hl⟩ := h
  have hrep : Derives .primary (.mark '{' :: (ts ++ [.mark '}'])) (.repeated e) :=
    .repeated (Derives.lift (Nat.zero_le _) hd)
  have htext : (repeated o).text.toList = '{' :: (o.text.toList ++ ['}']) := by
    simp [repeated]
  have hsp : Spells (repeated o).text.toList (.mark '{' :: (ts ++ [.mark '}'])) := by
    rw [htext]
    exact spells_enclosed rfl rfl hs
  exact ⟨_, _, hsp, hrep, by rw [Expr.lang, hl]⟩

/-- **The clauses of a repetition describe the body's powers between its bounds**:
there is one clause, or two whose languages multiply to those powers. -/
theorem clauses_means {min : UInt64} {max : Option UInt64} {cs : List Operand}
    (h : o.Means L) (hc : clauses min max o = .ok cs) :
    (∃ c, cs = [c] ∧ c.Means (powers L min.toNat (max.map (·.toNat)))) ∨
      ∃ c₁ c₂ L₁ L₂, cs = [c₁, c₂] ∧ c₁.Means L₁ ∧ c₂.Means L₂ ∧
        L₁ * L₂ = powers L min.toNat (max.map (·.toNat)) := by
  cases max with
  | some hi =>
    simp only [clauses] at hc
    rw [Option.map_some]
    split at hc
    · cases hc
    · rename_i hord
      have hle : min ≤ hi := UInt64.not_lt.1 hord
      split at hc
      · -- no least count: `k * [X]`
        rename_i hmin
        split at hc
        · cases hc
        · cases hc
          refine Or.inl ⟨_, rfl, ?_⟩
          rw [hmin, UInt64.toNat_zero, ← one_add_pow]
          exact upTo_means h hi
      · split at hc
        · -- equal bounds: `m * X`
          rename_i heq
          cases hc
          refine Or.inl ⟨_, rfl, ?_⟩
          rw [← heq, ← pow_eq_powers]
          exact times_means h min
        · -- both bounds: `m * X, (k - m) * [X]`
          cases hc
          refine Or.inr ⟨_, _, _, _, rfl, times_means h min, upTo_means h (hi - min), ?_⟩
          have hsum : min.toNat + (hi - min).toNat = hi.toNat := by
            rw [UInt64.toNat_sub_of_le _ _ hle]
            have := UInt64.le_iff_toNat_le.1 hle
            omega
          rw [pow_mul_one_add_pow, hsum]
  | none =>
    simp only [clauses] at hc
    rw [Option.map_none]
    split at hc
    · -- no bound at all: `{X}`
      rename_i hmin
      cases hc
      refine Or.inl ⟨_, rfl, ?_⟩
      rw [hmin, UInt64.toNat_zero, ← kstar_eq_powers]
      exact repeated_means h
    · -- a least count only: `m * X, {X}`
      cases hc
      exact Or.inr ⟨_, _, _, _, rfl, times_means h min, repeated_means h, pow_mul_kstar L _⟩

end Clauses

/-! ### Terms -/

section Terms

/-- A term whose references are all meta-identifiers. -/
def NamesOk (t : Term) : Prop := ∀ n ∈ t.references, IsName n

/-- Each of a list of terms refers only to names the list refers to. -/
theorem namesOk_of_mem {ts : List Term} (hn : ∀ n ∈ Term.referencesAll ts, IsName n) {t : Term}
    (ht : t ∈ ts) : NamesOk t := by
  intro n hm
  apply hn n
  rw [Term.referencesAll_eq_flatMap]
  exact List.mem_flatMap.2 ⟨t, ht, hm⟩

/-- Two operands joined by a comma read as the product of their languages. -/
theorem pair_means {c₁ c₂ : Operand} {L₁ L₂ : Language Atom} (h₁ : c₁.Means L₁)
    (h₂ : c₂.Means L₂) :
    (⟨", ".intercalate ([c₁, c₂].map (·.text)), .sequence⟩ : Operand).Means (L₁ * L₂) := by
  have h := seq_means (.cons h₁ (.cons h₂ .nil)) (List.cons_ne_nil _ _)
  rwa [List.prod_cons, List.prod_cons, List.prod_nil, mul_one] at h

mutual

/-- **The text printed for a term reads as an expression of the term's language**, if
the term refers only to meta-identifiers. -/
theorem print_means :
    ∀ (t : Term), NamesOk t → ∀ {o : Operand}, t.print = .ok o → o.Means t.lang
  | .literal text, _, o, h => by
    obtain ⟨q, hq, h⟩ := bind_eq_ok.1 h
    cases h
    exact quote_means hq
  | .nonTerminal name, hn, o, h => by
    cases h
    exact name_means (hn name (by simp [Term.references]))
  | .sequence [], _, o, h => by cases h
  | .sequence [item], hn, o, h => by
    have hitem := print_means item (namesOk_of_mem hn List.mem_cons_self) h
    rwa [Term.lang_sequence, Term.seqLang_cons, Term.seqLang_nil, mul_one]
  | .sequence (a :: b :: rest), hn, o, h => by
    obtain ⟨ops, hops, h⟩ := bind_eq_ok.1 h
    cases h
    have hall := printAll_means (a :: b :: rest) (fun _ ht => namesOk_of_mem hn ht) hops
    have hne : ops ≠ [] := by
      rintro rfl
      cases hall
    have hseq := seq_means (List.forall₂_map_right_iff.2 hall) hne
    simp only [Operand.at_sequence]
    rwa [Term.lang_sequence, Term.seqLang_eq_prod]
  | .choice [], _, o, h => by cases h
  | .choice [branch], hn, o, h => by
    have hbranch := print_means branch (namesOk_of_mem hn List.mem_cons_self) h
    rwa [Term.lang_choice, Term.altLang_cons, Term.altLang_nil, add_zero]
  | .choice (a :: b :: rest), hn, o, h => by
    obtain ⟨ops, hops, h⟩ := bind_eq_ok.1 h
    cases h
    have hall := printAll_means (a :: b :: rest) (fun _ ht => namesOk_of_mem hn ht) hops
    have hne : ops ≠ [] := by
      rintro rfl
      cases hall
    obtain ⟨toks, e, hs, hd, hl⟩ := alt_means (List.forall₂_map_right_iff.2 hall) hne
    -- the alternation is put in parentheses, a primary
    have htext : ("(" ++ " | ".intercalate (ops.map (·.text)) ++ ")").toList =
        '(' :: ((" | ".intercalate (ops.map (·.text))).toList ++ [')']) := by simp
    have hsp : Spells ("(" ++ " | ".intercalate (ops.map (·.text)) ++ ")").toList
        (.mark '(' :: (toks ++ [.mark ')'])) := by
      rw [htext]
      exact spells_enclosed rfl rfl hs
    have hgroup : Derives .primary (.mark '(' :: (toks ++ [.mark ')'])) (.group e) := .group hd
    refine ⟨_, _, hsp, hgroup, ?_⟩
    rw [Expr.lang, hl, Term.lang_choice, Term.altLang_eq_sum]
  | .repetition min max body, hn, o, h => by
    obtain ⟨op, hop, h⟩ := bind_eq_ok.1 h
    obtain ⟨cs, hcs, h⟩ := bind_eq_ok.1 h
    have hbody := print_means body hn hop
    rw [Term.lang_repetition]
    rcases clauses_means hbody hcs with ⟨c, rfl, hc⟩ | ⟨c₁, c₂, L₁, L₂, rfl, h₁, h₂, hL⟩
    · cases h
      exact hc
    · cases h
      rw [← hL]
      exact pair_means h₁ h₂

/-- The texts printed for a list of terms read as their languages, one by one. -/
theorem printAll_means :
    ∀ (ts : List Term), (∀ t ∈ ts, NamesOk t) → ∀ {os : List Operand},
      Term.printAll ts = .ok os → List.Forall₂ (fun o t => o.Means t.lang) os ts
  | [], _, os, h => by
    cases h
    exact .nil
  | t :: ts, hn, os, h => by
    obtain ⟨o, ho, h⟩ := bind_eq_ok.1 h
    obtain ⟨os', hos, h⟩ := bind_eq_ok.1 h
    cases h
    exact .cons (print_means t (hn t List.mem_cons_self) ho)
      (printAll_means ts (fun u hu => hn u (List.mem_cons_of_mem t hu)) hos)

end

end Terms

/-! ### Documents -/

section Documents

/-- The rendered text of a term reads as a sequence of the term's language. -/
theorem render_means {t : Term} {text : String} (hn : NamesOk t) (h : t.render = .ok text) :
    ∃ ts e, Spells text.toList ts ∧ Derives .sequence ts e ∧ e.lang = t.lang := by
  obtain ⟨o, ho, rfl⟩ := map_eq_ok.1 h
  exact (print_means t hn ho).sequence

/-- A branch on a line of its own reads as a sequence of its language, in parentheses
or not. -/
theorem renderBranch_means {t : Term} {text : String} (hn : NamesOk t)
    (h : t.renderBranch = .ok text) :
    ∃ ts e, Spells text.toList ts ∧ Derives .sequence ts e ∧ e.lang = t.lang := by
  obtain ⟨inner, hinner, h⟩ := bind_eq_ok.1 h
  obtain ⟨ts, e, hs, hd, hl⟩ := render_means hn hinner
  split at h
  · cases h
    have htext : ("(" ++ inner ++ ")").toList = '(' :: (inner.toList ++ [')']) := by simp
    refine ⟨.mark '(' :: (ts ++ [.mark ')']), .group e, ?_, .sequence (.factor (.group
      (.expression hd))), hl⟩
    rw [htext]
    exact spells_enclosed rfl rfl hs
  · cases h
    exact ⟨ts, e, hs, hd, hl⟩

/-- **The lines of the further branches read as the rest of an alternation**: each
line `| B` adds a bar and the branch, and the last line closes the rule with `;`. The
branches from a first one read as their alternation. -/
theorem branch_lines_means (n : ℕ) :
    ∀ {rest : List Term} {lines : List String},
      List.Forall₂ (fun b line => ∃ rb, b.renderBranch = .ok rb ∧
        line = String.ofList (List.replicate n ' ') ++ "| " ++ rb ++ "\n") rest lines →
      (∀ b ∈ rest, NamesOk b) → ∀ {ts₁ : List Token} {e₁ : Expr}, Derives .sequence ts₁ e₁ →
        ∃ us e, Derives .expression (ts₁ ++ us) e ∧
          e.lang = e₁.lang + (rest.map Term.lang).sum ∧ ∀ cs vs, Spells cs vs →
            Spells ((String.join lines ++ String.ofList (List.replicate n ' ') ++ ";\n").toList ++
              cs) (us ++ .mark ';' :: vs)
  | [], [], .nil, _, ts₁, e₁, hd₁ => by
    refine ⟨[], e₁, by simpa using Derives.expression hd₁, by simp, fun cs vs hcs => ?_⟩
    have hclose : Spells (';' :: '\n' :: cs) (.mark ';' :: vs) := .mark rfl (.blank rfl hcs)
    simpa using spells_blanks_append n hclose
  | b :: rest, line :: lines, .cons ⟨rb, hrb, hline⟩ hrest, hn, ts₁, e₁, hd₁ => by
    obtain ⟨ts₂, e₂, hs₂, hd₂, hl₂⟩ := renderBranch_means (hn b List.mem_cons_self) hrb
    obtain ⟨us, e, hd, hl, hspell⟩ :=
      branch_lines_means n hrest (fun u hu => hn u (List.mem_cons_of_mem b hu)) hd₂
    refine ⟨.mark '|' :: (ts₂ ++ us), .alt e₁ e, .alt hd₁ hd, ?_, fun cs vs hcs => ?_⟩
    · rw [Expr.lang, hl, hl₂, List.map_cons, List.sum_cons]
    · -- the line is blanks, a bar, the branch and a line feed; the lines after it follow
      have htail := hspell cs vs hcs
      have hbranch := hs₂.append (.blank rfl htail) (separated_of_head_mark rfl (Or.inr (by decide : isBlank '\n' = true)))
      have hbar : Spells ('|' :: ' ' :: (rb.toList ++ '\n' :: ((String.join lines ++
          String.ofList (List.replicate n ' ') ++ ";\n").toList ++ cs)))
          (.mark '|' :: (ts₂ ++ (us ++ .mark ';' :: vs))) := .mark rfl (.blank rfl hbranch)
      have hall := spells_blanks_append n hbar
      rw [hline, String.join_cons]
      simpa using hall

/-- A body's language is the union of its branches' languages. -/
theorem lang_eq_sum_branches (t : Term) : t.lang = (t.branches.map Term.lang).sum := by
  cases t <;> simp [Term.branches, Term.altLang_eq_sum]

theorem namesOk_of_mem_branches {t b : Term} (hn : NamesOk t) (hb : b ∈ t.branches) :
    NamesOk b := by
  cases t with
  | choice bs => exact namesOk_of_mem hn hb
  | _ =>
    simp only [Term.branches, List.mem_singleton] at hb
    exact hb ▸ hn

/-- The name and the equals sign that start a rule. -/
theorem spells_lead {name : String} (hname : IsName name) {cs : List Char} {ts : List Token}
    (h : Spells cs ts) : Spells ((name ++ " = ").toList ++ cs) (.word name :: .mark '=' :: ts) := by
  have hs : Spells (name.toList ++ ' ' :: '=' :: ' ' :: cs)
      (.word (String.ofList name.toList) :: .mark '=' :: ts) :=
    .word name.toList hname.1 hname.2.1 (by simp [isWordChar])
      (.blank rfl (.mark rfl (.blank rfl h)))
  rw [String.ofList_toList] at hs
  simpa using hs

/-- **The block of a production reads as its rule**: the name, `=`, an expression of
the body's language and `;`, followed by whatever comes after the block. -/
theorem production_means {p : Production} {block : String} (hname : IsName p.name)
    (hn : NamesOk p.body) (h : p.toEbnf = .ok block) :
    ∃ ts e, Derives .expression ts e ∧ e.lang = p.body.lang ∧ ∀ cs us, Spells cs us →
      Spells (block.toList ++ cs) (.word p.name :: .mark '=' :: (ts ++ .mark ';' :: us)) := by
  have hlang := lang_eq_sum_branches p.body
  have hbr : ∀ b ∈ p.body.branches, NamesOk b := fun b hb => namesOk_of_mem_branches hn hb
  unfold Production.toEbnf at h
  split at h
  · cases h
  · -- one branch: rendered on the line of the name, without parentheses
    rename_i branch hb
    obtain ⟨text, hr, h⟩ := bind_eq_ok.1 h
    cases h
    obtain ⟨ts, e, hs, hd, hl⟩ := render_means (hbr branch (by simp [hb])) hr
    refine ⟨ts, e, .expression hd, ?_, fun cs us hcs => ?_⟩
    · rw [hlang, hb, hl, List.map_singleton, List.sum_singleton]
    · have hclose : Spells (' ' :: ';' :: '\n' :: cs) (.mark ';' :: us) :=
        .blank rfl (.mark rfl (.blank rfl hcs))
      have hbody := hs.append hclose
        (separated_of_head_mark rfl (Or.inr (by decide : isBlank ' ' = true)))
      simpa using spells_lead hname hbody
  · -- several branches: the first on the line of the name, the others below it
    rename_i first rest _ hb
    obtain ⟨head, hhead, h⟩ := bind_eq_ok.1 h
    obtain ⟨lines, hlines, h⟩ := bind_eq_ok.1 h
    cases h
    have hfor : List.Forall₂ (fun b line => ∃ rb, b.renderBranch = .ok rb ∧
        line = String.ofList (List.replicate (p.name.length + 1) ' ') ++ "| " ++ rb ++ "\n")
        rest lines :=
      (mapM_eq_ok.1 hlines).imp fun b line hbl => by
        obtain ⟨rb, hrb, hpure⟩ := bind_eq_ok.1 hbl
        cases hpure
        exact ⟨rb, hrb, rfl⟩
    obtain ⟨ts₁, e₁, hs₁, hd₁, hl₁⟩ := renderBranch_means (hbr first (by simp [hb])) hhead
    obtain ⟨us, e, hd, hl, hspell⟩ := branch_lines_means (p.name.length + 1) hfor
      (fun b hb' => hbr b (by simp [hb, hb'])) hd₁
    refine ⟨ts₁ ++ us, e, hd, ?_, fun cs vs hcs => ?_⟩
    · rw [hlang, hb, hl, hl₁, List.map_cons, List.sum_cons]
    · have hbody := hs₁.append (.blank rfl (hspell cs vs hcs))
        (separated_of_head_mark rfl (Or.inr (by decide : isBlank '\n' = true)))
      simpa using spells_lead hname hbody

/-- The blocks of the productions read as their rules, in order. -/
theorem productions_means :
    ∀ {ps : List Production} {blocks : List String},
      List.Forall₂ (fun p block => p.toEbnf = .ok block) ps blocks →
      (∀ p ∈ ps, IsName p.name) → (∀ p ∈ ps, NamesOk p.body) →
      ∃ toks rules, Spells (String.join blocks).toList toks ∧ DerivesRules toks rules ∧
        rules.map (·.1) = ps.map (·.name) ∧
        List.Forall₂ (fun r p => r.2.lang = p.body.lang) rules ps
  | [], [], .nil, _, _ => ⟨[], [], by simpa using Spells.nil, .nil, rfl, .nil⟩
  | p :: ps, block :: blocks, .cons hp hps, hnames, hrefs => by
    obtain ⟨toks, rules, hs, hd, hmap, hl⟩ := productions_means hps
      (fun q hq => hnames q (List.mem_cons_of_mem p hq))
      (fun q hq => hrefs q (List.mem_cons_of_mem p hq))
    have hname := hnames p List.mem_cons_self
    obtain ⟨ts, e, hde, hle, hspell⟩ := production_means hname (hrefs p List.mem_cons_self) hp
    refine ⟨_, (p.name, e) :: rules, ?_, .cons hname hde hd, ?_, .cons hle hl⟩
    · rw [String.join_cons, String.toList_append]
      exact hspell _ _ hs
    · rw [List.map_cons, List.map_cons, hmap]

end Documents

/-- **The EBNF document of a grammar reads as the grammar**: if every production name and
every name a body refers to is a meta-identifier, the rendered text splits into tokens
that read as one rule per production, and in no other way; the rules come in the order
of the productions, each named for its production and describing the language of its
body. -/
theorem ebnf_text_reads_as_grammar {g : Grammar} {text : String}
    (hnames : ∀ p ∈ g.productions, IsName p.name)
    (hrefs : ∀ p ∈ g.productions, ∀ n ∈ p.body.references, IsName n)
    (hrender : Renderer.render .ebnf g = .ok text) :
    ∃ rules, ParsesAs text rules ∧ (∀ rules', ParsesAs text rules' → rules' = rules) ∧
      rules.map (·.1) = g.productions.map (·.name) ∧
      List.Forall₂ (fun r p => r.2.lang = p.body.lang) rules g.productions := by
  obtain ⟨blocks, hblocks, htext⟩ := bind_eq_ok.1 hrender
  cases htext
  obtain ⟨toks, rules, hs, hd, hmap, hl⟩ := productions_means (mapM_eq_ok.1 hblocks) hnames hrefs
  have hparse : ParsesAs (String.join blocks) rules := ⟨toks, lex_of_spells hs, hd⟩
  exact ⟨rules, hparse, fun _ h => h.unique hparse, hmap, hl⟩

/-- Lists of items separated by commas, an item being `x`, a list between `open` and
`close`, or two or three `y`; the marks are productions of their own. -/
def listsGrammar : Grammar where
  productions :=
    [⟨"list", .sequence [.nonTerminal "item",
        .repetition 0 none (.sequence [.nonTerminal "comma", .nonTerminal "item"])]⟩,
     ⟨"item", .choice [.nonTerminal "x",
        .sequence [.nonTerminal "open", .nonTerminal "list", .nonTerminal "close"],
        .repetition 2 (some 3) (.nonTerminal "y")]⟩]

theorem lists_ebnf_reads_as_grammar :
    (∀ p ∈ listsGrammar.productions, IsName p.name) ∧
    (∀ p ∈ listsGrammar.productions, ∀ n ∈ p.body.references, IsName n) ∧
    Renderer.render .ebnf listsGrammar = .ok ("list = item, \x7bcomma, item\x7d ;\n" ++
      "item = x\n     | (open, list, close)\n     | 2 * y, [y]\n     ;\n") ∧
    ∃ rules, ParsesAs ("list = item, \x7bcomma, item\x7d ;\n" ++
      "item = x\n     | (open, list, close)\n     | 2 * y, [y]\n     ;\n") rules ∧
      (∀ rules', ParsesAs ("list = item, \x7bcomma, item\x7d ;\n" ++
        "item = x\n     | (open, list, close)\n     | 2 * y, [y]\n     ;\n") rules' →
          rules' = rules) ∧
      rules.map (·.1) = listsGrammar.productions.map (·.name) ∧
      List.Forall₂ (fun r p => r.2.lang = p.body.lang) rules listsGrammar.productions :=
  have hnames : ∀ p ∈ listsGrammar.productions, IsName p.name := by decide +kernel
  have hrefs : ∀ p ∈ listsGrammar.productions, ∀ n ∈ p.body.references, IsName n := by
    decide +kernel
  have hrender : Renderer.render .ebnf listsGrammar = .ok ("list = item, \x7bcomma, item\x7d ;\n" ++
      "item = x\n     | (open, list, close)\n     | 2 * y, [y]\n     ;\n") := by
    decide +kernel
  ⟨hnames, hrefs, hrender, ebnf_text_reads_as_grammar hnames hrefs hrender⟩

end Ebnf

end GrammarDoc
