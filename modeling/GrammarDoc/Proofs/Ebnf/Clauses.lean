import Mathlib.Algebra.Order.Interval.Set.Monoid
import Mathlib.Algebra.Order.Group.Nat
import Mathlib.Algebra.Group.Pointwise.Set.Basic
import Mathlib.Algebra.GroupWithZero.Nat
import GrammarDoc.Ebnf.Clause
/-!
# The clauses of a repetition, exactly

A repetition of a body `X` is written with at most two clauses, each of one of five
forms, and each form lets the body occur a number of times from an interval:

| form | text | occurrences |
| --- | --- | --- |
| `star` | `{X}` | `0` and more |
| `opt` | `[X]` | `0` to `1` |
| `upTo k` | `k * [X]` | `0` to `k` |
| `once` | `X` | `1` |
| `times k` | `k * X` | `k` |

Written one after the other, the clauses allow the sums of their occurrences: the
pointwise sum of their intervals. `Ebnf.clauses` refuses exactly the bounds that no
forms can meet (a greatest count below the least, or zero occurrences only); for all
other bounds, over the whole 64-bit range, it picks one or two forms whose
multipliers are at least two and whose intervals add up to the bounds exactly. In
particular the count `max - min` of the second clause is only ever taken where it
is the true difference.

Main statement: `clauses_cover_bounds_exactly`.
-/

namespace GrammarDoc

namespace Ebnf

open Pointwise

/-- A clause that a repetition of a body `X` is written with. -/
inductive ClauseForm where
  /-- `{X}`: any number of times. -/
  | star
  /-- `[X]`: once or not at all. -/
  | opt
  /-- `k * [X]`: at most `k` times. -/
  | upTo (k : ℕ)
  /-- `X`: the body as it is, once. -/
  | once
  /-- `k * X`: exactly `k` times. -/
  | times (k : ℕ)
  deriving DecidableEq, Repr

namespace ClauseForm

/-- The clause written for a body, with its precedence. The body of `k * X` is put in
parentheses unless it is a primary; brackets need none. -/
def operand (body : Operand) : ClauseForm → Operand
  | .star => ⟨"\x7b" ++ body.text ++ "\x7d", .primary⟩
  | .opt => ⟨"[" ++ body.text ++ "]", .primary⟩
  | .upTo k => ⟨Nat.repr k ++ " * [" ++ body.text ++ "]", .factor⟩
  | .once => body
  | .times k =>
    ⟨Nat.repr k ++ " * " ++
      (if body.precedence = .primary then body.text else "(" ++ body.text ++ ")"), .factor⟩

/-- A multiplier, where the clause writes one, is at least two. -/
def Valid : ClauseForm → Prop
  | .upTo k => 2 ≤ k
  | .times k => 2 ≤ k
  | _ => True

/-- The numbers of times the clause lets the body occur. -/
def counts : ClauseForm → Set ℕ
  | .star => Set.Ici 0
  | .opt => Set.Icc 0 1
  | .upTo k => Set.Icc 0 k
  | .once => Set.Icc 1 1
  | .times k => Set.Icc k k

end ClauseForm

/-- The numbers from `lo` to `hi`, or from `lo` on when there is no `hi`. -/
def countRange (lo : ℕ) : Option ℕ → Set ℕ
  | some hi => Set.Icc lo hi
  | none => Set.Ici lo

/-- Exactly `m` occurrences followed by a range from zero: the range shifted by `m`. -/
theorem Icc_self_add_countRange (m : ℕ) (hi : Option ℕ) :
    Set.Icc m m + countRange 0 hi = countRange m (hi.map (m + ·)) := by
  rw [Set.Icc_self, Set.singleton_add]
  cases hi with
  | none => rw [countRange, Set.image_const_add_Ici, add_zero, Option.map_none, countRange]
  | some k => rw [countRange, Set.image_const_add_Icc, add_zero, Option.map_some, countRange]

/-- Putting an operand where a primary is needed brackets it unless it is one. -/
theorem Operand.at_primary (o : Operand) :
    o.at .primary = if o.precedence = .primary then o.text else "(" ++ o.text ++ ")" := by
  unfold Operand.at
  cases o.precedence <;> rfl

/-! ### The clause builders -/

section Builders

variable {k : UInt64}

/-- A count that is neither zero nor one is at least two. -/
theorem two_le_toNat (h0 : k ≠ 0) (h1 : k ≠ 1) : 2 ≤ k.toNat := by
  have h0' : k.toNat ≠ 0 := fun h => h0 (UInt64.toNat_inj.1 (by rw [h]; rfl))
  have h1' : k.toNat ≠ 1 := fun h => h1 (UInt64.toNat_inj.1 (by rw [h]; rfl))
  omega

/-- `times` writes the body itself for a count of one and `k * X` for a greater count. -/
theorem times_eq_operand (hk : k ≠ 0) (body : Operand) :
    ∃ f : ClauseForm, times k body = f.operand body ∧ f.Valid ∧
      f.counts = Set.Icc k.toNat k.toNat := by
  by_cases h1 : k = 1
  · subst h1
    exact ⟨.once, by simp [times, ClauseForm.operand], trivial, rfl⟩
  · have hk2 := two_le_toNat hk h1
    refine ⟨.times k.toNat, ?_, hk2, rfl⟩
    simp [times, h1, ClauseForm.operand, Operand.at_primary]

/-- `upTo` writes `[X]` for a count of one and `k * [X]` for a greater count. -/
theorem upTo_eq_operand (hk : k ≠ 0) (body : Operand) :
    ∃ f : ClauseForm, upTo k body = f.operand body ∧ f.Valid ∧ f.counts = Set.Icc 0 k.toNat := by
  by_cases h1 : k = 1
  · subst h1
    exact ⟨.opt, by simp [upTo, times, ClauseForm.operand], trivial, rfl⟩
  · have hk2 := two_le_toNat hk h1
    refine ⟨.upTo k.toNat, ?_, hk2, rfl⟩
    -- the multiplier and the opening bracket are written as one piece of text
    have hmark : Nat.repr k.toNat ++ " * " ++ "[" = Nat.repr k.toNat ++ " * [" := by
      rw [String.append_assoc]
      rfl
    simp [upTo, times, h1, ClauseForm.operand, Operand.at_primary, ← String.append_assoc, hmark]

theorem repeated_eq_operand (body : Operand) : repeated body = ClauseForm.star.operand body :=
  rfl

end Builders

/-! ### Refused and accepted bounds -/

section Bounds

variable {min : UInt64} {max : Option UInt64}

/-- A greatest count below the least, and zero occurrences only, have no clauses. -/
theorem clauses_refused (body : Operand)
    (h : (∃ m, max = some m ∧ m < min) ∨ (min = 0 ∧ max = some 0)) :
    ∃ e, clauses min max body = .error e := by
  rcases h with ⟨m, rfl, hlt⟩ | ⟨rfl, rfl⟩
  · exact ⟨.invertedBounds min m, by simp [clauses, hlt]⟩
  · exact ⟨.neverOccurs, by simp [clauses]⟩

/-- The occurrences of two clauses written one after the other. -/
theorem counts_pair (f₁ f₂ : ClauseForm) :
    ([f₁, f₂].map ClauseForm.counts).sum = f₁.counts + f₂.counts := by
  rw [List.map_cons, List.map_cons, List.map_nil, List.sum_cons, List.sum_cons, List.sum_nil,
    add_zero]

/-- Every other pair of bounds gets one or two clauses of the five forms, with
multipliers of at least two, whose occurrences add up to the bounds. -/
theorem clauses_accepted (body : Operand)
    (h : ¬ ((∃ m, max = some m ∧ m < min) ∨ (min = 0 ∧ max = some 0))) :
    ∃ forms : List ClauseForm, clauses min max body = .ok (forms.map (·.operand body)) ∧
      forms ≠ [] ∧ forms.length ≤ 2 ∧ (∀ f ∈ forms, f.Valid) ∧
      (forms.map ClauseForm.counts).sum = countRange min.toNat (max.map (·.toNat)) := by
  cases max with
  | none =>
    by_cases hmin : min = 0
    · -- no bound at all: `{X}`
      subst hmin
      exact ⟨[.star], rfl, by simp, by simp, List.forall_mem_singleton.2 trivial,
        List.sum_singleton⟩
    · -- a least count only: `m * X, {X}`
      obtain ⟨f, hf, hv, hc⟩ := times_eq_operand hmin body
      refine ⟨[f, .star], by simp [clauses, hmin, hf, repeated_eq_operand], by simp, by simp,
        List.forall_mem_cons.2 ⟨hv, List.forall_mem_singleton.2 trivial⟩, ?_⟩
      rw [counts_pair, hc]
      exact Icc_self_add_countRange min.toNat none
  | some hi =>
    have hle : min ≤ hi := UInt64.not_lt.1 fun hlt => h (Or.inl ⟨hi, rfl, hlt⟩)
    by_cases hmin : min = 0
    · -- no least count: `k * [X]`
      have hhi : hi ≠ 0 := fun h0 => h (Or.inr ⟨hmin, by rw [h0]⟩)
      obtain ⟨f, hf, hv, hc⟩ := upTo_eq_operand hhi body
      refine ⟨[f], by simp [clauses, hmin, hhi, hf], by simp, by simp,
        List.forall_mem_singleton.2 hv, ?_⟩
      rw [List.map_singleton, List.sum_singleton, hc, hmin]
      rfl
    · by_cases heq : min = hi
      · -- equal bounds: `m * X`
        subst heq
        obtain ⟨f, hf, hv, hc⟩ := times_eq_operand hmin body
        refine ⟨[f], by simp [clauses, hmin, hf], by simp, by simp,
          List.forall_mem_singleton.2 hv, ?_⟩
        rw [List.map_singleton, List.sum_singleton, hc]
        rfl
      · -- both bounds: `m * X, (k - m) * [X]`, where `k - m` is the true difference
        have hdiff : (hi - min).toNat = hi.toNat - min.toNat := UInt64.toNat_sub_of_le _ _ hle
        have hlt : min.toNat < hi.toNat := by
          have hle' := UInt64.le_iff_toNat_le.1 hle
          have hne : min.toNat ≠ hi.toNat := fun he => heq (UInt64.toNat_inj.1 he)
          omega
        have hd : hi - min ≠ 0 := fun h0 => by
          have hz : (hi - min).toNat = 0 := by rw [h0]; rfl
          omega
        obtain ⟨f₁, hf₁, hv₁, hc₁⟩ := times_eq_operand hmin body
        obtain ⟨f₂, hf₂, hv₂, hc₂⟩ := upTo_eq_operand hd body
        have hlt' : ¬ hi < min := UInt64.not_lt.2 hle
        refine ⟨[f₁, f₂], by simp [clauses, hlt', hmin, heq, hf₁, hf₂], by simp, by simp,
          List.forall_mem_cons.2 ⟨hv₁, List.forall_mem_singleton.2 hv₂⟩, ?_⟩
        have hend : min.toNat + (hi - min).toNat = hi.toNat := by omega
        have hsum := Icc_self_add_countRange min.toNat (some (hi - min).toNat)
        rw [Option.map_some, hend] at hsum
        rw [counts_pair, hc₁, hc₂]
        exact hsum

end Bounds

/-- **The clauses of a repetition are exact for every pair of bounds.** They are
refused exactly when the greatest count is below the least or both are zero.
Otherwise there are one or two of them, each of the five forms `{X}`, `[X]`,
`k * [X]`, `X` and `k * X` with no multiplier below two, and the numbers of
occurrences they allow together are exactly those from the least count to the
greatest, or from the least count on when there is no greatest. -/
theorem clauses_cover_bounds_exactly (min : UInt64) (max : Option UInt64) (body : Operand) :
    ((∃ e, clauses min max body = .error e) ↔
      (∃ m, max = some m ∧ m < min) ∨ (min = 0 ∧ max = some 0)) ∧
    (¬ ((∃ m, max = some m ∧ m < min) ∨ (min = 0 ∧ max = some 0)) →
      ∃ forms : List ClauseForm, clauses min max body = .ok (forms.map (·.operand body)) ∧
        forms ≠ [] ∧ forms.length ≤ 2 ∧ (∀ f ∈ forms, f.Valid) ∧
        (forms.map ClauseForm.counts).sum = countRange min.toNat (max.map (·.toNat))) := by
  refine ⟨⟨fun ⟨e, he⟩ => ?_, clauses_refused body⟩, clauses_accepted body⟩
  -- accepted bounds give clauses, not a fault
  by_contra hnot
  obtain ⟨forms, hok, -⟩ := clauses_accepted body hnot
  rw [hok] at he
  cases he

end Ebnf

end GrammarDoc
