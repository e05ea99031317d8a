import Mathlib.Computability.Language
import GrammarDoc.Term.Basic
/-!
# The language of a term

A term describes a set of words. The letters of a word are atoms: the texts of
literals and the names of productions, kept apart; a reference is one atom and is
never expanded. A literal or a reference describes the word of its one atom, a
sequence the product of its items' languages, a choice their union, and a
repetition the union of the body's powers between its bounds (`powers`).

EBNF has no clause for a repetition between bounds, only `k * X`, `[X]` and `{X}`.
The products of such clauses describe the same unions: `pow_mul_kstar` for a least
count and no greatest, `one_add_pow` for a greatest count alone, and
`pow_mul_one_add_pow` for both.
-/

namespace GrammarDoc

/-- The letters of the words a grammar describes. -/
inductive Atom where
  /-- The text of a literal. -/
  | lit (text : String)
  /-- The name of a production. -/
  | ref (name : String)
  deriving DecidableEq, Repr

section Powers

variable {α : Type} (L : Language α)

/-- The words made of between `lo` and `hi` words of `L`, with no greatest number
when `hi` is none. -/
def powers (lo : ℕ) (hi : Option ℕ) : Language α :=
  {w | ∃ k, lo ≤ k ∧ (∀ m ∈ hi, k ≤ m) ∧ w ∈ L ^ k}

variable {L}

theorem mem_powers {w : List α} {lo : ℕ} {hi : Option ℕ} :
    w ∈ powers L lo hi ↔ ∃ k, lo ≤ k ∧ (∀ m ∈ hi, k ≤ m) ∧ w ∈ L ^ k := Iff.rfl

theorem mem_pow_add {w : List α} {m j : ℕ} :
    w ∈ L ^ (m + j) ↔ ∃ a ∈ L ^ m, ∃ b ∈ L ^ j, a ++ b = w := by
  rw [pow_add, Language.mem_mul]

variable (L)

/-- Exactly `m` words. -/
theorem pow_eq_powers (m : ℕ) : L ^ m = powers L m (some m) := by
  ext w
  constructor
  · intro hw
    exact ⟨m, le_rfl, fun _ hm => (Option.mem_some_iff.1 hm) ▸ le_rfl, hw⟩
  · rintro ⟨k, hlo, hhi, hw⟩
    have hk : k = m := le_antisymm (hhi m rfl) hlo
    exact hk ▸ hw

/-- `{X}`: any number of words. -/
theorem kstar_eq_powers : KStar.kstar L = powers L 0 none := by
  ext w
  rw [Language.kstar_eq_iSup_pow, Language.mem_iSup, mem_powers]
  constructor
  · rintro ⟨k, hw⟩
    exact ⟨k, Nat.zero_le k, fun _ hm => absurd hm (by simp), hw⟩
  · rintro ⟨k, -, -, hw⟩
    exact ⟨k, hw⟩

/-- `m * X, {X}`: at least `m` words. -/
theorem pow_mul_kstar (m : ℕ) : L ^ m * KStar.kstar L = powers L m none := by
  ext w
  rw [kstar_eq_powers, Language.mem_mul, mem_powers]
  constructor
  · rintro ⟨a, ha, b, ⟨j, -, -, hb⟩, rfl⟩
    exact ⟨m + j, Nat.le_add_right m j, fun _ hm => absurd hm (by simp),
      mem_pow_add.2 ⟨a, ha, b, hb, rfl⟩⟩
  · rintro ⟨k, hmk, -, hw⟩
    obtain ⟨j, rfl⟩ := Nat.exists_eq_add_of_le hmk
    obtain ⟨a, ha, b, hb, rfl⟩ := mem_pow_add.1 hw
    exact ⟨a, ha, b, ⟨j, Nat.zero_le j, fun _ hm => absurd hm (by simp), hb⟩, rfl⟩

/-- `k * [X]`: at most `k` words. -/
theorem one_add_pow (k : ℕ) : (1 + L) ^ k = powers L 0 (some k) := by
  induction k with
  | zero =>
    rw [pow_zero, ← pow_eq_powers, pow_zero]
  | succ k ih =>
    ext w
    rw [pow_succ, mul_add, mul_one, Language.mem_add, ih, Language.mem_mul, mem_powers,
      mem_powers]
    constructor
    · rintro (⟨j, -, hj, hw⟩ | ⟨a, ⟨j, -, hj, ha⟩, b, hb, rfl⟩)
      · exact ⟨j, Nat.zero_le j, fun m hm => (Option.mem_some_iff.1 hm) ▸
          Nat.le_succ_of_le (hj k rfl), hw⟩
      · refine ⟨j + 1, Nat.zero_le _, fun m hm => (Option.mem_some_iff.1 hm) ▸
          Nat.succ_le_succ (hj k rfl), ?_⟩
        rw [pow_succ]
        exact Language.mem_mul.2 ⟨a, ha, b, hb, rfl⟩
    · rintro ⟨i, -, hi, hw⟩
      have hik : i ≤ k + 1 := hi (k + 1) rfl
      -- at most `k` words come from the first factor; exactly `k + 1` need the last
      rcases Nat.lt_or_eq_of_le hik with hlt | rfl
      · exact Or.inl ⟨i, Nat.zero_le i, fun m hm => (Option.mem_some_iff.1 hm) ▸
          Nat.le_of_lt_succ hlt, hw⟩
      · rw [pow_succ, Language.mem_mul] at hw
        obtain ⟨a, ha, b, hb, rfl⟩ := hw
        exact Or.inr ⟨a, ⟨k, Nat.zero_le k, fun m hm => (Option.mem_some_iff.1 hm) ▸ le_rfl,
          ha⟩, b, hb, rfl⟩

/-- `m * X, d * [X]`: between `m` and `m + d` words. -/
theorem pow_mul_one_add_pow (m d : ℕ) : L ^ m * (1 + L) ^ d = powers L m (some (m + d)) := by
  ext w
  rw [one_add_pow, Language.mem_mul, mem_powers]
  constructor
  · rintro ⟨a, ha, b, ⟨j, -, hj, hb⟩, rfl⟩
    have hjd : j ≤ d := hj d rfl
    exact ⟨m + j, Nat.le_add_right m j, fun n hn => (Option.mem_some_iff.1 hn) ▸
      Nat.add_le_add_left hjd m, mem_pow_add.2 ⟨a, ha, b, hb, rfl⟩⟩
  · rintro ⟨k, hmk, hk, hw⟩
    have hkd : k ≤ m + d := hk (m + d) rfl
    obtain ⟨j, rfl⟩ := Nat.exists_eq_add_of_le hmk
    obtain ⟨a, ha, b, hb, rfl⟩ := mem_pow_add.1 hw
    exact ⟨a, ha, b, ⟨j, Nat.zero_le j, fun n hn => (Option.mem_some_iff.1 hn) ▸ by omega,
      hb⟩, rfl⟩

end Powers

namespace Term

mutual

/-- The words the term describes. -/
def lang : Term → Language Atom
  | .literal text => {[.lit text]}
  | .nonTerminal name => {[.ref name]}
  | .sequence items => seqLang items
  | .choice branches => altLang branches
  | .repetition min max body => powers body.lang min.toNat (max.map (·.toNat))

/-- The words made of one word of each term, in order. -/
def seqLang : List Term → Language Atom
  | [] => 1
  | t :: ts => t.lang * seqLang ts

/-- The words of any of the terms. -/
def altLang : List Term → Language Atom
  | [] => 0
  | t :: ts => t.lang + altLang ts

end

@[simp] theorem lang_literal (text : String) : (literal text).lang = {[.lit text]} := rfl

@[simp] theorem lang_nonTerminal (name : String) :
    (nonTerminal name).lang = {[.ref name]} := rfl

@[simp] theorem lang_sequence (items : List Term) : (sequence items).lang = seqLang items := rfl

@[simp] theorem lang_choice (branches : List Term) :
    (choice branches).lang = altLang branches := rfl

@[simp] theorem lang_repetition (min : Count) (max : Option Count) (body : Term) :
    (repetition min max body).lang = powers body.lang min.toNat (max.map (·.toNat)) := rfl

@[simp] theorem seqLang_nil : seqLang [] = 1 := rfl

@[simp] theorem seqLang_cons (t : Term) (ts : List Term) :
    seqLang (t :: ts) = t.lang * seqLang ts := rfl

@[simp] theorem altLang_nil : altLang [] = 0 := rfl

@[simp] theorem altLang_cons (t : Term) (ts : List Term) :
    altLang (t :: ts) = t.lang + altLang ts := rfl

theorem seqLang_eq_prod (ts : List Term) : seqLang ts = (ts.map lang).prod := by
  induction ts with
  | nil => rfl
  | cons t ts ih => rw [seqLang_cons, ih, List.map_cons, List.prod_cons]

theorem altLang_eq_sum (ts : List Term) : altLang ts = (ts.map lang).sum := by
  induction ts with
  | nil => rfl
  | cons t ts ih => rw [altLang_cons, ih, List.map_cons, List.sum_cons]

end Term

end GrammarDoc
