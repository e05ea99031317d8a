import Mathlib.Data.List.Forall2
/-!
# Outcomes of checks and readers

The checks, readers and printers of this library return `Except`: a value, or the
first fault found. The rules here take such outcomes apart. The first four, tagged
for `simp`, evaluate a `do` block whose steps are known; the others invert a bind,
a map and a map over a list that succeeded.
-/

namespace GrammarDoc

section Outcome

variable {ε α β : Type}

/-- Outcomes are equal when both are values or both faults, and these are equal; so a
check on a given input can be evaluated. -/
instance instDecidableEqExceptOutcome [DecidableEq ε] [DecidableEq α] : DecidableEq (Except ε α)
  | .ok a, .ok b => if h : a = b then isTrue (h ▸ rfl) else isFalse fun e => by cases e; exact h rfl
  | .error a, .error b =>
    if h : a = b then isTrue (h ▸ rfl) else isFalse fun e => by cases e; exact h rfl
  | .ok _, .error _ => isFalse fun e => by cases e
  | .error _, .ok _ => isFalse fun e => by cases e

@[simp] theorem pure_eq_ok (a : α) : (pure a : Except ε α) = .ok a := rfl

@[simp] theorem throw_eq_error (e : ε) : (throw e : Except ε α) = .error e := rfl

@[simp] theorem ok_bind (a : α) (f : α → Except ε β) : (Except.ok a >>= f) = f a := rfl

@[simp] theorem error_bind (e : ε) (f : α → Except ε β) :
    (Except.error e >>= f) = .error e := rfl

theorem bind_eq_ok {x : Except ε α} {f : α → Except ε β} {b : β} :
    x >>= f = .ok b ↔ ∃ a, x = .ok a ∧ f a = .ok b := by
  cases x <;> simp

theorem map_eq_ok {x : Except ε α} {f : α → β} {b : β} :
    f <$> x = .ok b ↔ ∃ a, x = .ok a ∧ f a = b := by
  cases x <;> simp

/-- An outcome is a value exactly when its option is that value; the option can be
compared where the faults cannot. -/
theorem toOption_eq_some_iff {x : Except ε α} {a : α} : x.toOption = some a ↔ x = .ok a := by
  cases x <;> simp [Except.toOption]

/-- **A list mapped without fault has one result per member, in order.** -/
theorem mapM_eq_ok {f : α → Except ε β} :
    ∀ {xs : List α} {ys : List β}, xs.mapM f = .ok ys ↔ List.Forall₂ (fun x y => f x = .ok y) xs ys
  | [], ys => by cases ys <;> simp
  | x :: xs, ys => by
    rw [List.mapM_cons]
    constructor
    · intro h
      obtain ⟨y, hy, h⟩ := bind_eq_ok.1 h
      obtain ⟨ys', hys, h⟩ := bind_eq_ok.1 h
      cases h
      exact List.Forall₂.cons hy (mapM_eq_ok.1 hys)
    · rintro (_ | ⟨hy, hys⟩)
      simp [hy, mapM_eq_ok.2 hys]

/-- Every member on the right of a pairing has a partner on the left. -/
theorem exists_mem_of_forall₂ {R : α → β → Prop} {xs : List α} {ys : List β}
    (h : List.Forall₂ R xs ys) {y : β} (hy : y ∈ ys) : ∃ x ∈ xs, R x y := by
  induction h with
  | nil => cases hy
  | @cons x y' xs ys hxy _ ih =>
    rcases List.mem_cons.1 hy with rfl | hy
    · exact ⟨x, List.mem_cons_self, hxy⟩
    · obtain ⟨x', hx', hr⟩ := ih hy
      exact ⟨x', List.mem_cons_of_mem _ hx', hr⟩

/-- Every result of a list mapped without fault comes from one of its members. -/
theorem exists_mem_of_mapM_eq_ok {f : α → Except ε β} {xs : List α} {ys : List β}
    (h : xs.mapM f = .ok ys) {y : β} (hy : y ∈ ys) : ∃ x ∈ xs, f x = .ok y :=
  exists_mem_of_forall₂ (mapM_eq_ok.1 h) hy

/-! ### The first of several faults -/

/-- The outcome reports the first of the faults: it fails with the first if there is
one, and has a value if there is none. -/
def ReportsFirst (r : Except ε α) : List ε → Prop
  | [] => ∃ a, r = .ok a
  | e :: _ => r = .error e

@[simp] theorem reportsFirst_nil {r : Except ε α} : ReportsFirst r [] ↔ ∃ a, r = .ok a :=
  Iff.rfl

@[simp] theorem reportsFirst_cons {r : Except ε α} {e : ε} {es : List ε} :
    ReportsFirst r (e :: es) ↔ r = .error e :=
  Iff.rfl

theorem ReportsFirst.pure (a : α) : ReportsFirst (Pure.pure a : Except ε α) [] := ⟨a, rfl⟩

/-- An outcome that reports the first of the faults has a value exactly when there is
no fault. -/
theorem ReportsFirst.exists_ok_iff {r : Except ε α} {es : List ε} (h : ReportsFirst r es) :
    (∃ a, r = .ok a) ↔ es = [] := by
  cases es with
  | nil => exact iff_of_true h rfl
  | cons e es =>
    rw [reportsFirst_cons.1 h]
    simp

/-- Steps run in turn report the first fault of the first step, else of the rest, where
the faults of the rest need hold only after a first step that has a value. -/
theorem ReportsFirst.bind_eq {x : Except ε α} {f : α → Except ε β} {es fs : List ε}
    (hx : ReportsFirst x es) (hf : ∀ a, x = .ok a → ReportsFirst (f a) fs) :
    ReportsFirst (x >>= f) (es ++ fs) := by
  cases es with
  | nil =>
    obtain ⟨a, rfl⟩ := hx
    exact hf a rfl
  | cons e es =>
    rw [reportsFirst_cons.1 hx]
    rfl

/-- **Steps run in turn report the first fault of the first step, else of the rest.** -/
theorem ReportsFirst.bind {x : Except ε α} {f : α → Except ε β} {es fs : List ε}
    (hx : ReportsFirst x es) (hf : ∀ a, ReportsFirst (f a) fs) :
    ReportsFirst (x >>= f) (es ++ fs) :=
  hx.bind_eq fun a _ => hf a

/-- A step that cannot fail reports what the step before it reports. -/
theorem ReportsFirst.bind_ok {x : Except ε α} {f : α → Except ε β} {es : List ε}
    (hx : ReportsFirst x es) (hf : ∀ a, ∃ b, f a = .ok b) : ReportsFirst (x >>= f) es := by
  have h : ReportsFirst (x >>= f) (es ++ []) := hx.bind_eq fun a _ => hf a
  rwa [List.append_nil] at h

theorem ReportsFirst.map {x : Except ε α} {es : List ε} (g : α → β) (hx : ReportsFirst x es) :
    ReportsFirst (g <$> x) es := by
  cases es with
  | nil =>
    obtain ⟨a, rfl⟩ := hx
    exact ⟨g a, rfl⟩
  | cons e es =>
    rw [reportsFirst_cons.1 hx]
    rfl

/-- A list mapped member by member reports the first fault of the first member that
has one. -/
theorem ReportsFirst.mapM {f : α → Except ε β} {F : α → List ε} :
    ∀ {xs : List α}, (∀ x ∈ xs, ReportsFirst (f x) (F x)) → ReportsFirst (xs.mapM f) (xs.flatMap F)
  | [], _ => ⟨[], rfl⟩
  | x :: xs, h => by
    rw [List.mapM_cons, List.flatMap_cons]
    exact (h x List.mem_cons_self).bind fun y =>
      (ReportsFirst.mapM fun x' hx' => h x' (List.mem_cons_of_mem x hx')).bind_ok fun _ => ⟨_, rfl⟩

end Outcome

end GrammarDoc
