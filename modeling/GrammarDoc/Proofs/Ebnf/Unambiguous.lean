import Mathlib.Algebra.Ring.Int.Defs
import GrammarDoc.Proofs.Ebnf.Syntax
/-!
# One reading of a text

The grammar of `Derives` reads a list of tokens in at most one way, and a text splits
into rules in at most one way (`ParsesAs.unique`).

The argument counts brackets. `depth` is the number of brackets a list of tokens
leaves open. What reads at any level is `Balanced`: it closes every bracket it opens
and never one it has not opened. What reads at the level of a sequence has no `|`
outside brackets, and what reads at the level of a factor no `,` either (`Inner`); no
`;` is read at all. So where `a | b` could be split two ways, the shorter left part
would be balanced and followed by a `|` outside brackets in the longer one
(`split_unique`), and the same holds for `,` and for the `;` that ends a rule.
-/

namespace GrammarDoc

namespace Ebnf

/-- `1` for an opening bracket, `-1` for a closing one, `0` for other tokens. -/
def Token.delta : Token → ℤ
  | .mark c => if c ∈ ['(', '[', '\x7b'] then 1 else if c ∈ [')', ']', '\x7d'] then -1 else 0
  | _ => 0

/-- The number of brackets the tokens open and do not close. -/
def depth (ts : List Token) : ℤ := (ts.map Token.delta).sum

@[simp] theorem depth_nil : depth [] = 0 := rfl

@[simp] theorem depth_cons (t : Token) (ts : List Token) :
    depth (t :: ts) = t.delta + depth ts := by
  simp [depth]

@[simp] theorem depth_append (a b : List Token) : depth (a ++ b) = depth a + depth b := by
  simp [depth]

/-- The tokens close every bracket they open, and never one they have not opened. -/
structure Balanced (ts : List Token) : Prop where
  closed : depth ts = 0
  nonneg : ∀ p q, p ++ q = ts → 0 ≤ depth p

/-- Every `c` among the tokens stands inside brackets. -/
def Inner (c : Char) (ts : List Token) : Prop :=
  ∀ p q, p ++ .mark c :: q = ts → 0 < depth p

/-! ### Balanced tokens -/

section Balance

theorem balanced_nil : Balanced [] :=
  ⟨rfl, fun p q h => by rw [(List.append_eq_nil_iff.1 h).1, depth_nil]⟩

theorem Balanced.cons {t : Token} {ts : List Token} (ht : t.delta = 0) (h : Balanced ts) :
    Balanced (t :: ts) := by
  have hc := h.closed
  refine ⟨by rw [depth_cons]; omega, fun p q hpq => ?_⟩
  rcases List.append_eq_cons_iff.1 hpq with ⟨rfl, -⟩ | ⟨p', rfl, hp'⟩
  · exact le_rfl
  · have hnn := h.nonneg p' q hp'.symm
    rw [depth_cons]
    omega

theorem Balanced.append {a b : List Token} (ha : Balanced a) (hb : Balanced b) :
    Balanced (a ++ b) := by
  have hca := ha.closed
  have hcb := hb.closed
  refine ⟨by rw [depth_append]; omega, fun p q hpq => ?_⟩
  -- a prefix either ends inside `a`, or takes all of `a` and a prefix of `b`
  rcases List.append_eq_append_iff.1 hpq with ⟨m, rfl, -⟩ | ⟨m, rfl, hm⟩
  · exact ha.nonneg p m rfl
  · have hnn := hb.nonneg m q hm.symm
    rw [depth_append]
    omega

/-- Tokens between a pair of brackets. -/
theorem Balanced.enclosed {o c : Char} {ts : List Token} (ho : (Token.mark o).delta = 1)
    (hc : (Token.mark c).delta = -1) (h : Balanced ts) :
    Balanced (.mark o :: (ts ++ [.mark c])) := by
  have hts := h.closed
  refine ⟨by simp only [depth_cons, depth_append, depth_nil]; omega, fun p q hpq => ?_⟩
  rcases List.append_eq_cons_iff.1 hpq with ⟨rfl, -⟩ | ⟨p', rfl, hp'⟩
  · exact le_rfl
  · rw [depth_cons]
    -- inside the brackets the depth is never negative; with the closing one it is `-1`
    rcases List.append_eq_append_iff.1 hp' with ⟨m, rfl, hm⟩ | ⟨m, rfl, -⟩
    · rcases List.append_eq_cons_iff.1 hm.symm with ⟨rfl, -⟩ | ⟨m', rfl, hm'⟩
      · simp only [List.append_nil]
        omega
      · rw [(List.nil_eq_append_iff.1 hm').1]
        simp only [depth_append, depth_cons, depth_nil]
        omega
    · have hnn := h.nonneg p' m rfl
      omega

end Balance

/-! ### Separators inside brackets -/

section Separators

theorem inner_nil (c : Char) : Inner c [] := fun p q h => by
  rw [List.append_eq_nil_iff] at h
  exact absurd h.2 (List.cons_ne_nil _ _)

theorem inner_of_not_mem {c : Char} {ts : List Token} (h : .mark c ∉ ts) : Inner c ts :=
  fun p _ hpq => absurd (hpq ▸ List.mem_append_right p List.mem_cons_self) h

theorem Inner.cons {c : Char} {t : Token} {ts : List Token} (hne : t ≠ .mark c)
    (ht : t.delta = 0) (h : Inner c ts) : Inner c (t :: ts) := fun p q hpq => by
  rcases List.append_eq_cons_iff.1 hpq with ⟨-, hq⟩ | ⟨p', rfl, hp'⟩
  · exact absurd (List.cons.inj hq).1.symm hne
  · have hlt := h p' q hp'.symm
    rw [depth_cons]
    omega

theorem Inner.append {c : Char} {a b : List Token} (ha : Inner c a) (hb : Inner c b)
    (hbal : Balanced a) : Inner c (a ++ b) := fun p q hpq => by
  have hca := hbal.closed
  rcases List.append_eq_append_iff.1 hpq with ⟨m, rfl, hm⟩ | ⟨m, rfl, hm⟩
  · -- the separator lies in `a`, or is the first token of `b`
    rcases List.append_eq_cons_iff.1 hm.symm with ⟨rfl, hb'⟩ | ⟨m', rfl, -⟩
    · have h0 := hb [] q hb'.symm
      exact absurd h0 (lt_irrefl 0)
    · exact ha p m' rfl
  · -- the separator lies in `b`, after all of `a`
    have hlt := hb m q hm.symm
    rw [depth_append]
    omega

/-- A separator that is not a bracket stands inside the brackets around tokens. -/
theorem Inner.enclosed {x o c : Char} {ts : List Token} (ho : (Token.mark o).delta = 1)
    (hxo : x ≠ o) (hxc : x ≠ c) (h : Balanced ts) :
    Inner x (.mark o :: (ts ++ [.mark c])) := fun p q hpq => by
  rcases List.append_eq_cons_iff.1 hpq with ⟨-, hq⟩ | ⟨p', rfl, hp'⟩
  · exact absurd (Token.mark.inj (List.cons.inj hq).1) hxo
  · rw [depth_cons]
    rcases List.append_eq_append_iff.1 hp' with ⟨m, rfl, hm⟩ | ⟨m, rfl, -⟩
    · -- the token after all of the inside is the closing bracket
      rcases List.append_eq_cons_iff.1 hm.symm with ⟨rfl, hm'⟩ | ⟨m', rfl, hm'⟩
      · exact absurd (Token.mark.inj (List.cons.inj hm').1) hxc
      · exact absurd (List.nil_eq_append_iff.1 hm').2 (List.cons_ne_nil _ _)
    · have hnn := h.nonneg p' m rfl
      omega

/-- **A separator outside brackets splits balanced pieces in one way only.** -/
theorem split_unique {c : Char} {a b a' b' : List Token} (ha : depth a = 0)
    (ha' : depth a' = 0) (hi : Inner c a) (hi' : Inner c a')
    (h : a ++ .mark c :: b = a' ++ .mark c :: b') : a = a' ∧ b = b' := by
  rcases List.append_eq_append_iff.1 h with ⟨m, rfl, hm⟩ | ⟨m, rfl, hm⟩
  · -- `a'` extends `a`: the separator after `a` would stand outside brackets in `a'`
    rcases List.append_eq_cons_iff.1 hm.symm with ⟨rfl, hb⟩ | ⟨m', rfl, hm'⟩
    · exact ⟨(List.append_nil a).symm, (List.cons.inj hb).2.symm⟩
    · have hlt := hi' a m' rfl
      omega
  · rcases List.append_eq_cons_iff.1 hm.symm with ⟨rfl, hb⟩ | ⟨m', rfl, hm'⟩
    · exact ⟨List.append_nil a', (List.cons.inj hb).2⟩
    · have hlt := hi a' m' rfl
      omega

/-- A balanced piece followed by a separator does not read where the separator must
stand inside brackets. -/
theorem not_inner_split {c : Char} {a b : List Token} (ha : depth a = 0) :
    ¬ Inner c (a ++ .mark c :: b) := fun h => by
  have hlt := h a b rfl
  omega

end Separators

/-! ### The shape of what reads -/

/-- What reads at level `l`: balanced, with `|` inside brackets from the level of a
sequence on, `,` inside brackets from the level of a factor on, and no `;`. -/
structure Shaped (l : Level) (ts : List Token) : Prop where
  balanced : Balanced ts
  bar : 1 ≤ l.rank → Inner '|' ts
  comma : 2 ≤ l.rank → Inner ',' ts
  semicolon : .mark ';' ∉ ts

section Shapes

theorem shaped_of_neutral {l : Level} {t : Token} (ht : t.delta = 0) (hbar : t ≠ .mark '|')
    (hcomma : t ≠ .mark ',') (hsemi : t ≠ .mark ';') : Shaped l [t] :=
  ⟨balanced_nil.cons ht, fun _ => (inner_nil _).cons hbar ht,
    fun _ => (inner_nil _).cons hcomma ht, by simpa using hsemi.symm⟩

theorem Shaped.enclosed {l : Level} {o c : Char} {ts : List Token}
    (ho : (Token.mark o).delta = 1) (hc : (Token.mark c).delta = -1)
    (hbar : '|' ≠ o ∧ '|' ≠ c) (hcomma : ',' ≠ o ∧ ',' ≠ c) (hsemi : ';' ≠ o ∧ ';' ≠ c)
    (h : Shaped .expression ts) : Shaped l (.mark o :: (ts ++ [.mark c])) := by
  refine ⟨h.balanced.enclosed ho hc, fun _ => Inner.enclosed ho hbar.1 hbar.2 h.balanced,
    fun _ => Inner.enclosed ho hcomma.1 hcomma.2 h.balanced, ?_⟩
  simp only [List.mem_cons, List.mem_append, Token.mark.injEq, List.not_mem_nil, or_false]
  rintro (he | he | he)
  · exact hsemi.1 he
  · exact h.semicolon he
  · exact hsemi.2 he

/-- **Everything a derivation reads has the shape of its level.** -/
theorem Derives.shaped {l : Level} {ts : List Token} {a : Expr} (h : Derives l ts a) :
    Shaped l ts := by
  induction h with
  | alt _ _ iht ihu =>
    refine ⟨iht.balanced.append ((ihu.balanced).cons rfl), fun h => absurd h (by decide),
      fun h => absurd h (by decide), ?_⟩
    simp only [List.mem_append, List.mem_cons, Token.mark.injEq]
    rintro (he | he | he)
    · exact iht.semicolon he
    · exact absurd he (by decide)
    · exact ihu.semicolon he
  | expression _ ih => exact ⟨ih.balanced, fun h => absurd h (by decide),
      fun h => absurd h (by decide), ih.semicolon⟩
  | seq _ _ iht ihu =>
    refine ⟨iht.balanced.append ((ihu.balanced).cons rfl), fun _ => ?_,
      fun h => absurd h (by decide), ?_⟩
    · exact (iht.bar (by decide)).append ((ihu.bar (by decide)).cons (by decide) rfl)
        iht.balanced
    · simp only [List.mem_append, List.mem_cons, Token.mark.injEq]
      rintro (he | he | he)
      · exact iht.semicolon he
      · exact absurd he (by decide)
      · exact ihu.semicolon he
  | sequence _ ih => exact ⟨ih.balanced, fun _ => ih.bar (by decide),
      fun h => absurd h (by decide), ih.semicolon⟩
  | times _ _ ih =>
    refine ⟨(ih.balanced.cons rfl).cons rfl,
      fun _ => ((ih.bar (by decide)).cons (by decide) rfl).cons (by simp) rfl,
      fun _ => ((ih.comma (by decide)).cons (by decide) rfl).cons (by simp) rfl, ?_⟩
    simp only [List.mem_cons, Token.mark.injEq, reduceCtorEq, false_or]
    rintro (he | he)
    · exact absurd he (by decide)
    · exact ih.semicolon he
  | factor _ ih => exact ⟨ih.balanced, fun _ => ih.bar (by decide),
      fun _ => ih.comma (by decide), ih.semicolon⟩
  | terminal text => exact shaped_of_neutral rfl (by simp) (by simp) (by simp)
  | ident _ => exact shaped_of_neutral rfl (by simp) (by simp) (by simp)
  | group _ ih => exact ih.enclosed rfl rfl (by decide) (by decide) (by decide)
  | optional _ ih => exact ih.enclosed rfl rfl (by decide) (by decide) (by decide)
  | repeated _ ih => exact ih.enclosed rfl rfl (by decide) (by decide) (by decide)

end Shapes

/-! ### One reading -/

section Readings

theorem IsCount.unique {w : String} {k k' : ℕ} (h : IsCount w k) (h' : IsCount w k') :
    k = k' :=
  h.2.2.symm.trans h'.2.2

/-- A primary is one token or starts with a bracket, never a word followed by more. -/
theorem not_derives_primary_word {w : String} {t : Token} {ts : List Token} {a : Expr} :
    ¬ Derives .primary (.word w :: t :: ts) a := by
  intro h
  generalize hx : Token.word w :: t :: ts = x at h
  cases h <;> simp at hx

theorem enclosed_inj {o c : Char} {ts ts' : List Token}
    (h : .mark o :: (ts' ++ [.mark c]) = .mark o :: (ts ++ [.mark c])) : ts' = ts := by
  simpa using h

/-- **The grammar reads a list of tokens in at most one way.** -/
theorem Derives.unique {l : Level} {ts : List Token} {a : Expr} (h : Derives l ts a) :
    ∀ {b : Expr}, Derives l ts b → a = b := by
  induction h with
  | @alt ts us a₁ a₂ hts _ iht ihu =>
    intro b hb
    generalize hx : ts ++ Token.mark '|' :: us = x at hb
    cases hb with
    | alt hts' hus' =>
      -- both left parts are balanced with no `|` outside brackets: the splits agree
      obtain ⟨rfl, rfl⟩ := split_unique hts.shaped.balanced.closed
        hts'.shaped.balanced.closed (hts.shaped.bar (by decide)) (hts'.shaped.bar (by decide))
        hx
      rw [iht hts', ihu hus']
    | expression hs =>
      exact absurd (hx ▸ hs.shaped.bar (by decide)) (not_inner_split hts.shaped.balanced.closed)
  | expression hs ih =>
    intro b hb
    cases hb with
    | alt hts' _ =>
      exact absurd (hs.shaped.bar (by decide)) (not_inner_split hts'.shaped.balanced.closed)
    | expression hs' => exact ih hs'
  | @seq ts us a₁ a₂ hts _ iht ihu =>
    intro b hb
    generalize hx : ts ++ Token.mark ',' :: us = x at hb
    cases hb with
    | seq hts' hus' =>
      obtain ⟨rfl, rfl⟩ := split_unique hts.shaped.balanced.closed
        hts'.shaped.balanced.closed (hts.shaped.comma (by decide))
        (hts'.shaped.comma (by decide)) hx
      rw [iht hts', ihu hus']
    | sequence hs =>
      exact absurd (hx ▸ hs.shaped.comma (by decide))
        (not_inner_split hts.shaped.balanced.closed)
  | sequence hs ih =>
    intro b hb
    cases hb with
    | seq hts' _ =>
      exact absurd (hs.shaped.comma (by decide)) (not_inner_split hts'.shaped.balanced.closed)
    | sequence hs' => exact ih hs'
  | @times w k ts a hw _ ih =>
    intro b hb
    generalize hx : Token.word w :: Token.mark '*' :: ts = x at hb
    cases hb with
    | times hw' hts' =>
      simp only [List.cons.injEq, Token.word.injEq, true_and] at hx
      obtain ⟨rfl, rfl⟩ := hx
      rw [hw'.unique hw, ih hts']
    | factor hp => exact absurd (hx ▸ hp) not_derives_primary_word
  | factor hp ih =>
    intro b hb
    cases hb with
    | times _ _ => exact absurd hp not_derives_primary_word
    | factor hp' => exact ih hp'
  | terminal text =>
    intro b hb
    generalize hx : [Token.terminal text] = x at hb
    cases hb <;> simp_all
  | ident _ =>
    intro b hb
    generalize hx : [Token.word _] = x at hb
    cases hb <;> simp_all
  | @group ts a _ ih =>
    intro b hb
    generalize hx : Token.mark '(' :: (ts ++ [Token.mark ')']) = x at hb
    cases hb with
    | group hts' =>
      rw [ih (enclosed_inj hx ▸ hts')]
    | _ => simp at hx
  | @optional ts a _ ih =>
    intro b hb
    generalize hx : Token.mark '[' :: (ts ++ [Token.mark ']']) = x at hb
    cases hb with
    | optional hts' =>
      rw [ih (enclosed_inj hx ▸ hts')]
    | _ => simp at hx
  | @repeated ts a _ ih =>
    intro b hb
    generalize hx : Token.mark '\x7b' :: (ts ++ [Token.mark '\x7d']) = x at hb
    cases hb with
    | repeated hts' =>
      rw [ih (enclosed_inj hx ▸ hts')]
    | _ => simp at hx

/-- Tokens read as rules in at most one way: each rule ends at the first `;`. -/
theorem DerivesRules.unique {ts : List Token} {rs : List (String × Expr)}
    (h : DerivesRules ts rs) : ∀ {rs'}, DerivesRules ts rs' → rs = rs' := by
  induction h with
  | nil =>
    intro rs' h'
    cases h'
    rfl
  | @cons n ts us e rs _ hd _ ih =>
    intro rs' h'
    generalize hx : Token.word n :: Token.mark '=' :: (ts ++ Token.mark ';' :: us) = x at h'
    cases h' with
    | cons _ hd' hrs' =>
      simp only [List.cons.injEq, Token.word.injEq, true_and] at hx
      obtain ⟨rfl, hsplit⟩ := hx
      obtain ⟨rfl, rfl⟩ := split_unique hd.shaped.balanced.closed hd'.shaped.balanced.closed
        (inner_of_not_mem hd.shaped.semicolon) (inner_of_not_mem hd'.shaped.semicolon) hsplit
      rw [hd.unique hd', ih hrs']
    | nil => simp at hx

/-- **A text reads as rules in at most one way.** -/
theorem ParsesAs.unique {text : String} {rs rs' : List (String × Expr)}
    (h : ParsesAs text rs) (h' : ParsesAs text rs') : rs = rs' := by
  obtain ⟨ts, hlex, hd⟩ := h
  obtain ⟨ts', hlex', hd'⟩ := h'
  have hts : ts = ts' := Option.some.inj (hlex.symm.trans hlex')
  subst hts
  exact hd.unique hd'

end Readings

end Ebnf

end GrammarDoc
