import GrammarDoc.Proofs.Definition.RoundTrip
/-!
# The schema of definition files

A grammar definition is a JSON object. Its keys are rule keys `<n>` with a non-empty
name `n`, and each value is a non-empty array of terms. A term is

* a string, a token;
* a non-empty array of terms, a sequence;
* an object, read by the first of the keys `choice`, `optional` and `repeat` that it
  has, its other keys ignored: a non-empty array of terms under `choice`; a term under
  `optional`; or a term under `repeat`, with the bounds `min` and `max` each absent,
  null or a count, and `max` not below `min` when both are counts.

`IsTermValue` and `IsDefinition` state this schema without the loader. The loader
accepts exactly the definitions of the schema, and it reports the first fault of a
definition in document order (`definitionFaults`): keys in object order, a key before
its value, the alternatives of a value from left to right, and the term values in
pre-order (`termNodes`), each node's own faults before those below it. A node's own
faults are looked for in a fixed order: an array is empty; an object's `choice` is no
array, or an empty one; its `min` is no allowed bound, then its `max`, then the two are
out of order; it has none of the operator keys; the value is no string, array or
object.

Main statement: `definition_loader_accepts_schema`.
-/

namespace GrammarDoc

namespace Definition

open Json

/-! ### The schema -/

/-- A bound of a repetition as the schema allows it: absent, null, or a count. -/
inductive BoundAllowed : Option Value → Prop
  | absent : BoundAllowed none
  | null : BoundAllowed (some .null)
  | count (n : Count) : BoundAllowed (some (.number (.count n)))

/-- The bounds of a repetition object are in order: a greatest count given together
with a least count is not below it. -/
def BoundsOrdered (fields : List (String × Value)) : Prop :=
  ∀ lo hi, fields.lookup "min" = some (.number (.count lo)) →
    fields.lookup "max" = some (.number (.count hi)) → lo ≤ hi

/-- The JSON values that the schema of definition files allows as terms. -/
inductive IsTermValue : Value → Prop
  /-- A string: a token. -/
  | token (s : String) : IsTermValue (.string s)
  /-- A non-empty array of terms: a sequence. -/
  | sequence {items : List Value} : items ≠ [] → (∀ item ∈ items, IsTermValue item) →
      IsTermValue (.array items)
  /-- An object with a non-empty array of terms under `choice`. -/
  | choice {fields : List (String × Value)} {branches : List Value} :
      fields.lookup "choice" = some (.array branches) → branches ≠ [] →
      (∀ branch ∈ branches, IsTermValue branch) → IsTermValue (.object fields)
  /-- An object without `choice`, with a term under `optional`. -/
  | optional {fields : List (String × Value)} {body : Value} :
      fields.lookup "choice" = none → fields.lookup "optional" = some body →
      IsTermValue body → IsTermValue (.object fields)
  /-- An object without `choice` and `optional`, with a term under `repeat` and
  allowed bounds in order. -/
  | repetition {fields : List (String × Value)} {body : Value} :
      fields.lookup "choice" = none → fields.lookup "optional" = none →
      fields.lookup "repeat" = some body → BoundAllowed (fields.lookup "min") →
      BoundAllowed (fields.lookup "max") → BoundsOrdered fields → IsTermValue body →
      IsTermValue (.object fields)

/-- A key of the form `<n>` with a non-empty name `n`. -/
def IsRuleKey (key : String) : Prop := ∃ n, n ≠ "" ∧ key = "<" ++ n ++ ">"

/-- The JSON values that the schema allows as grammar definitions: objects whose keys
are rule keys and whose values are non-empty arrays of terms. -/
def IsDefinition (v : Value) : Prop :=
  ∃ fields, v = .object fields ∧ ∀ kv ∈ fields, IsRuleKey kv.1 ∧
    ∃ alternatives, kv.2 = .array alternatives ∧ alternatives ≠ [] ∧
      ∀ a ∈ alternatives, IsTermValue a

/-- The keys that the loader reads as names are the rule keys. -/
theorem isSome_nameOf?_iff (key : String) : (nameOf? key).isSome ↔ IsRuleKey key := by
  constructor
  · intro h
    obtain ⟨n, hn⟩ := Option.isSome_iff_exists.1 h
    obtain ⟨hne, hkey⟩ := nameOf?_eq_some hn
    refine ⟨n, hne, String.toList_inj.1 ?_⟩
    simp [hkey]
  · rintro ⟨n, hne, rfl⟩
    exact Option.isSome_iff_exists.2 ⟨n, nameOf?_referenceToken hne⟩

instance : DecidablePred IsRuleKey := fun key =>
  decidable_of_iff _ (isSome_nameOf?_iff key)

/-! ### The term values of a definition -/

/-- The values the loader reads as terms directly below a term value: the items of an
array, the branches of a choice, the body of an optional or of a repetition. A choice
whose branches are no array has none. -/
def termChildren : Value → List Value
  | .array items => items
  | .object fields =>
    match fields.lookup "choice" with
    | some (.array branches) => branches
    | some _ => []
    | none =>
      match fields.lookup "optional" with
      | some body => [body]
      | none => (fields.lookup "repeat").toList
  | _ => []

theorem sizeOf_lt_of_mem_termChildren {v c : Value} (h : c ∈ termChildren v) :
    sizeOf c < sizeOf v := by
  match v with
  | .array items =>
    have := List.sizeOf_lt_of_mem (show c ∈ items from h)
    simp only [Value.array.sizeOf_spec]
    omega
  | .object fields =>
    simp only [termChildren] at h
    split at h
    · rename_i branches hc
      have h₁ := sizeOf_lookup_lt hc
      have h₂ := List.sizeOf_lt_of_mem h
      simp only [Value.array.sizeOf_spec] at h₁
      simp only [Value.object.sizeOf_spec]
      omega
    · cases h
    · split at h
      · rename_i body ho
        rw [List.mem_singleton] at h
        subst h
        have := sizeOf_lookup_lt ho
        simp only [Value.object.sizeOf_spec]
        omega
      · obtain ⟨body, hr, rfl⟩ : ∃ body, fields.lookup "repeat" = some body ∧ body = c := by
          simpa using h
        have := sizeOf_lookup_lt hr
        simp only [Value.object.sizeOf_spec]
        omega
  | .null | .bool _ | .number _ | .string _ => cases h

/-- The term values at and below a term value, in pre-order: the value, then those
below each of its children from left to right. -/
def termNodes (v : Value) : List Value :=
  v :: (termChildren v).attach.flatMap fun c => termNodes c.1
termination_by sizeOf v
decreasing_by exact sizeOf_lt_of_mem_termChildren c.2

theorem termNodes_eq (v : Value) : termNodes v = v :: (termChildren v).flatMap termNodes := by
  rw [termNodes, List.flatMap_subtype (fun _ _ => rfl), List.unattach_attach]

/-! ### Faults, in document order -/

/-- The fault of a bound that is not absent, null or a count. -/
def boundFaults (key : String) (which : Bound) : Option Value → List DefinitionError
  | none | some .null | some (.number (.count _)) => []
  | some _ => [.badBound key which]

/-- The count a bound gives, if it is one. -/
def countOf : Option Value → Option Count
  | some (.number (.count n)) => some n
  | _ => none

/-- The fault of a repetition whose bounds are both counts, the greatest below the
least. -/
def orderFaults (key : String) (fields : List (String × Value)) : List DefinitionError :=
  match countOf (fields.lookup "min"), countOf (fields.lookup "max") with
  | some lo, some hi => if hi < lo then [.invertedBounds key] else []
  | _, _ => []

/-- The faults of a term value on its own, those below it aside, in the order they are
looked for, reported for the production under `key`. -/
def ownFaults (key : String) : Value → List DefinitionError
  | .string _ => []
  | .array [] => [.emptySequence key]
  | .array (_ :: _) => []
  | .object fields =>
    match fields.lookup "choice" with
    | some (.array []) => [.emptyChoice key]
    | some (.array (_ :: _)) => []
    | some _ => [.choiceNotArray key]
    | none =>
      match fields.lookup "optional" with
      | some _ => []
      | none =>
        match fields.lookup "repeat" with
        | some _ =>
          boundFaults key .min (fields.lookup "min") ++ boundFaults key .max (fields.lookup "max") ++
            orderFaults key fields
        | none => [.noOperator key]
  | _ => [.unexpectedValue key]

/-- The faults of a term value, node by node in pre-order. -/
def termFaults (key : String) (v : Value) : List DefinitionError :=
  (termNodes v).flatMap (ownFaults key)

/-- The fault of a key that is no rule key. -/
def keyFaults (key : String) : List DefinitionError :=
  if IsRuleKey key then [] else [.invalidName key]

/-- The faults of the value under a key: it is no array, an empty one, or the faults of
its alternatives from left to right. -/
def rulesFaults (key : String) : Value → List DefinitionError
  | .array [] => [.noAlternatives key]
  | .array alternatives => alternatives.flatMap (termFaults key)
  | _ => [.rulesNotArray key]

/-- The faults of a definition in document order: for each key in object order, the
key's own fault and then those of its value. -/
def definitionFaults : Value → List DefinitionError
  | .object fields => fields.flatMap fun kv => keyFaults kv.1 ++ rulesFaults kv.1 kv.2
  | _ => [.notAnObject]

theorem termFaults_eq (key : String) (v : Value) :
    termFaults key v = ownFaults key v ++ (termChildren v).flatMap (termFaults key) := by
  rw [termFaults, termNodes_eq, List.flatMap_cons, List.flatMap_assoc]
  rfl

/-! ### The schema, node by node -/

section Schema

variable {key : String}

theorem boundFaults_eq_nil_iff {which : Bound} {b : Option Value} :
    boundFaults key which b = [] ↔ BoundAllowed b := by
  constructor
  · intro h
    unfold boundFaults at h
    split at h
    · exact .absent
    · exact .null
    · exact .count _
    · cases h
  · rintro (_ | _ | n) <;> rfl

theorem countOf_eq_some {b : Option Value} {n : Count} :
    countOf b = some n ↔ b = some (.number (.count n)) := by
  unfold countOf
  split <;> simp_all

theorem orderFaults_eq_nil_iff {fields : List (String × Value)} :
    orderFaults key fields = [] ↔ BoundsOrdered fields := by
  unfold orderFaults BoundsOrdered
  simp only [← countOf_eq_some]
  split
  · rename_i lo hi hlo hhi
    simp [hlo, hhi, UInt64.not_lt]
  · rename_i hnot
    simp only [true_iff]
    intro lo hi hlo hhi
    exact (hnot lo hi hlo hhi).elim

/-- A term of the schema has no fault of its own, and the values below it are terms. -/
theorem ownFaults_of_isTermValue (key : String) {v : Value} (h : IsTermValue v) :
    ownFaults key v = [] ∧ ∀ c ∈ termChildren v, IsTermValue c := by
  cases h with
  | token s => exact ⟨rfl, by simp [termChildren]⟩
  | sequence hne hall =>
    obtain ⟨a, as, rfl⟩ := List.exists_cons_of_ne_nil hne
    exact ⟨rfl, hall⟩
  | choice hch hne hall =>
    obtain ⟨b, bs, rfl⟩ := List.exists_cons_of_ne_nil hne
    exact ⟨by simp [ownFaults, hch], by simpa [termChildren, hch] using hall⟩
  | optional hch ho hb =>
    exact ⟨by simp [ownFaults, hch, ho], by simpa [termChildren, hch, ho] using hb⟩
  | repetition hch ho hr hmin hmax hord hb =>
    refine ⟨?_, by simpa [termChildren, hch, ho, hr] using hb⟩
    simp [ownFaults, hch, ho, hr, boundFaults_eq_nil_iff.2 hmin, boundFaults_eq_nil_iff.2 hmax,
      orderFaults_eq_nil_iff.2 hord]

/-- A value with no fault of its own, whose values below are terms, is a term. -/
theorem isTermValue_of_ownFaults {v : Value} (h : ownFaults key v = [])
    (hc : ∀ c ∈ termChildren v, IsTermValue c) : IsTermValue v := by
  match v with
  | .string s => exact .token s
  | .array [] => cases h
  | .array (a :: as) => exact .sequence (List.cons_ne_nil _ _) hc
  | .object fields =>
    -- the operator keys in the order the loader looks for them
    simp only [ownFaults] at h
    simp only [termChildren] at hc
    split at h
    · cases h
    · rename_i hch
      simp only [hch] at hc
      exact .choice hch (List.cons_ne_nil _ _) hc
    · cases h
    · rename_i hch
      simp only [hch] at hc h
      split at h
      · rename_i body ho
        simp only [ho] at hc
        exact .optional hch ho (hc body List.mem_cons_self)
      · rename_i ho
        simp only [ho] at hc h
        split at h
        · rename_i body hr
          simp only [hr, Option.toList_some] at hc
          rw [List.append_eq_nil_iff, List.append_eq_nil_iff] at h
          exact .repetition hch ho hr (boundFaults_eq_nil_iff.1 h.1.1)
            (boundFaults_eq_nil_iff.1 h.1.2) (orderFaults_eq_nil_iff.1 h.2) (hc body List.mem_cons_self)
        · cases h
  | .null => cases h
  | .bool _ => cases h
  | .number _ => cases h

/-- **A value is a term of the schema exactly when none of the term values at and below
it has a fault.** -/
theorem isTermValue_iff_termFaults_eq_nil (key : String) (v : Value) :
    IsTermValue v ↔ termFaults key v = [] := by
  induction v using termNodes.induct with
  | case1 v ih =>
    rw [termFaults_eq, List.append_eq_nil_iff, List.flatMap_eq_nil_iff]
    -- below the value, being a term and having no fault agree by induction
    have hbelow : (∀ c ∈ termChildren v, IsTermValue c) ↔
        ∀ c ∈ termChildren v, termFaults key c = [] :=
      forall₂_congr fun c hc => ih ⟨c, hc⟩
    rw [← hbelow]
    exact ⟨fun h => ownFaults_of_isTermValue key h, fun h => isTermValue_of_ownFaults h.1 h.2⟩

theorem keyFaults_eq_nil_iff : keyFaults key = [] ↔ IsRuleKey key := by
  unfold keyFaults
  split <;> simp_all

theorem rulesFaults_eq_nil_iff {rules : Value} :
    rulesFaults key rules = [] ↔ ∃ alternatives, rules = .array alternatives ∧
      alternatives ≠ [] ∧ ∀ a ∈ alternatives, IsTermValue a := by
  match rules with
  | .array [] => simp [rulesFaults]
  | .array (a :: as) =>
    simp only [rulesFaults, List.flatMap_eq_nil_iff, Value.array.injEq, exists_eq_left',
      ne_eq, reduceCtorEq, not_false_eq_true, true_and]
    exact forall₂_congr fun v _ => (isTermValue_iff_termFaults_eq_nil key v).symm
  | .null | .bool _ | .number _ | .string _ | .object _ => simp [rulesFaults]

/-- **A value is a definition of the schema exactly when it has no fault.** -/
theorem definitionFaults_eq_nil_iff (v : Value) : definitionFaults v = [] ↔ IsDefinition v := by
  match v with
  | .object fields =>
    simp only [definitionFaults, List.flatMap_eq_nil_iff, List.append_eq_nil_iff,
      keyFaults_eq_nil_iff, rulesFaults_eq_nil_iff, IsDefinition, Value.object.injEq,
      exists_eq_left']
  | .null | .bool _ | .number _ | .string _ | .array _ => simp [definitionFaults, IsDefinition]

end Schema

/-! ### The loader reports the first fault -/

section Loader

variable {key : String}

theorem bound_reportsFirst (key : String) (fields : List (String × Value)) (which : Bound) :
    ReportsFirst (bound key fields which) (boundFaults key which (fields.lookup which.key)) := by
  unfold bound boundFaults
  cases fields.lookup which.key with
  | none => exact ⟨none, rfl⟩
  | some v =>
    cases v with
    | null => exact ⟨none, rfl⟩
    | number n =>
      cases n with
      | count n => exact ⟨some n, rfl⟩
      | _ => rfl
    | _ => rfl

theorem bound_eq_ok {fields : List (String × Value)} {which : Bound} {b : Option Count}
    (h : bound key fields which = .ok b) : b = countOf (fields.lookup which.key) := by
  -- absent and null read as no count, a count as itself, and nothing else is read
  unfold bound at h
  split at h <;> cases h <;> simp only [countOf, *]

theorem orderFaults_of_bounds {fields : List (String × Value)} {lo hi : Option Count}
    (hlo : bound key fields .min = .ok lo) (hhi : bound key fields .max = .ok hi) :
    orderFaults key fields = if hi.any (· < lo.getD 0) then [.invertedBounds key] else [] := by
  have hl := bound_eq_ok hlo
  have hh := bound_eq_ok hhi
  simp only [Bound.key] at hl hh
  rw [orderFaults, ← hl, ← hh]
  cases lo <;> cases hi <;> simp

theorem term_reportsFirst (key : String) (v : Value) : ReportsFirst (term key v) (termFaults key v) := by
  fun_induction term key v with
  | case1 token =>
    rw [termFaults_eq]
    exact ⟨_, rfl⟩
  | case2 =>
    rw [termFaults_eq]
    rfl
  | case3 items hne ih =>
    obtain ⟨a, as, rfl⟩ := List.exists_cons_of_ne_nil hne
    rw [termFaults_eq, List.mapM_subtype (fun _ _ => rfl), List.unattach_attach]
    exact (ReportsFirst.mapM ih).bind_ok fun _ => ⟨_, rfl⟩
  | case4 fields hc =>
    rw [termFaults_eq]
    simp only [ownFaults, termChildren, hc]
    rfl
  | case5 fields branches hne hc ih =>
    obtain ⟨b, bs, rfl⟩ := List.exists_cons_of_ne_nil hne
    rw [termFaults_eq, List.mapM_subtype (fun _ _ => rfl), List.unattach_attach]
    simp only [ownFaults, termChildren, hc, List.nil_append]
    exact (ReportsFirst.mapM ih).bind_ok fun _ => ⟨_, rfl⟩
  | case6 fields val _ hnot hc =>
    -- the value under `choice` is no array
    rw [termFaults_eq]
    cases val with
    | array branches => exact (hnot branches rfl).elim
    | _ => simp only [ownFaults, termChildren, hc]; rfl
  | case7 fields hc body ho ih =>
    rw [termFaults_eq]
    simp only [ownFaults, termChildren, hc, ho, List.flatMap_singleton, List.nil_append]
    exact ih.bind_ok fun _ => ⟨_, rfl⟩
  | case8 fields hc ho body hr ih =>
    -- the bounds, their order, then the body
    rw [termFaults_eq]
    simp only [ownFaults, termChildren, hc, ho, hr, Option.toList_some, List.flatMap_singleton,
      List.append_assoc]
    refine (bound_reportsFirst key fields .min).bind_eq fun lo hlo => ?_
    refine (bound_reportsFirst key fields .max).bind_eq fun hi hhi => ?_
    rw [orderFaults_of_bounds hlo hhi]
    split
    · rfl
    · exact ih.bind_ok fun _ => ⟨_, rfl⟩
  | case9 fields hc ho hr =>
    rw [termFaults_eq]
    simp only [ownFaults, termChildren, hc, ho, hr]
    rfl
  | case10 v hs _ ha ho =>
    rw [termFaults_eq]
    cases v with
    | string token => exact (hs token rfl).elim
    | array items => exact (ha items rfl).elim
    | object fields => exact (ho fields rfl).elim
    | _ => rfl
/-- A production's key is read before its value. -/
theorem production_reportsFirst (key : String) (rules : Value) :
    ReportsFirst (production key rules) (keyFaults key ++ rulesFaults key rules) := by
  unfold production keyFaults
  cases hn : nameOf? key with
  | none =>
    have hkey : ¬ IsRuleKey key := by
      rw [← isSome_nameOf?_iff, hn]
      simp
    rw [if_neg hkey]
    rfl
  | some name =>
    rw [if_pos ((isSome_nameOf?_iff key).1 (by rw [hn]; rfl)), List.nil_append]
    match rules with
    | .array [] => rfl
    | .array (a :: as) =>
      exact (ReportsFirst.mapM fun v _ => term_reportsFirst key v).bind_ok fun _ => ⟨_, rfl⟩
    | .null | .bool _ | .number _ | .string _ | .object _ => rfl

/-- Reading a definition reports its first fault, key by key in object order. -/
theorem productions_reportsFirst (v : Value) :
    ReportsFirst (productions v) (definitionFaults v) := by
  match v with
  | .object fields => exact ReportsFirst.mapM fun kv _ => production_reportsFirst kv.1 kv.2
  | .null | .bool _ | .number _ | .string _ | .array _ => rfl

end Loader

/-- **The loader accepts exactly the definitions of the schema, and reports the first
fault in document order.** For every JSON value, productions are read from it exactly
when it is a definition of the schema; otherwise reading fails with the first of its
faults, taken key by key in object order, each key before its value, the alternatives
of a value from left to right, and the term values in pre-order with each one's own
faults in the order the loader looks for them. -/
theorem definition_loader_accepts_schema (v : Value) :
    ((∃ ps, productions v = .ok ps) ↔ IsDefinition v) ∧
      ReportsFirst (productions v) (definitionFaults v) := by
  have h := productions_reportsFirst v
  exact ⟨h.exists_ok_iff.trans (definitionFaults_eq_nil_iff v), h⟩

end Definition

end GrammarDoc
