import GrammarDoc.Json.Read.Value
/-!
# Objects read from JSON text have distinct keys

A key written twice in an object keeps its first place and takes the later value,
so no object the reader returns holds a key twice. `Reader.Yields r P` says that
whatever `r` returns satisfies `P`; it passes through binds and through the
bracket reader `enclosed`, so a loop of the reader is checked one round at a time.

Main statement: `Json.parse_keys_nodup`, the top-level keys of a parsed text are
distinct. Equality of values is decidable, so a value read from a given text can be
checked by evaluation.
-/

namespace GrammarDoc

namespace Json

/-! ### Comparing values -/

mutual

/-- Equality of values is decidable, by comparing constructors and then fields. -/
def Value.decEq : (a b : Value) → Decidable (a = b)
  | .null, .null => isTrue rfl
  | .bool x, .bool y =>
    if h : x = y then isTrue (h ▸ rfl) else isFalse (fun e => by cases e; exact h rfl)
  | .number x, .number y =>
    if h : x = y then isTrue (h ▸ rfl) else isFalse (fun e => by cases e; exact h rfl)
  | .string x, .string y =>
    if h : x = y then isTrue (h ▸ rfl) else isFalse (fun e => by cases e; exact h rfl)
  | .array xs, .array ys =>
    match Value.decEqList xs ys with
    | isTrue h => isTrue (h ▸ rfl)
    | isFalse h => isFalse (fun e => by cases e; exact h rfl)
  | .object xs, .object ys =>
    match Value.decEqFields xs ys with
    | isTrue h => isTrue (h ▸ rfl)
    | isFalse h => isFalse (fun e => by cases e; exact h rfl)
  | .null, .bool _ | .null, .number _ | .null, .string _ | .null, .array _ | .null, .object _
  | .bool _, .null | .bool _, .number _ | .bool _, .string _ | .bool _, .array _
  | .bool _, .object _ | .number _, .null | .number _, .bool _ | .number _, .string _
  | .number _, .array _ | .number _, .object _ | .string _, .null | .string _, .bool _
  | .string _, .number _ | .string _, .array _ | .string _, .object _ | .array _, .null
  | .array _, .bool _ | .array _, .number _ | .array _, .string _ | .array _, .object _
  | .object _, .null | .object _, .bool _ | .object _, .number _ | .object _, .string _
  | .object _, .array _ => isFalse (fun e => by cases e)

/-- Equality of lists of values is decidable, item by item. -/
def Value.decEqList : (xs ys : List Value) → Decidable (xs = ys)
  | [], [] => isTrue rfl
  | [], _ :: _ => isFalse (fun e => by cases e)
  | _ :: _, [] => isFalse (fun e => by cases e)
  | x :: xs, y :: ys =>
    match Value.decEq x y, Value.decEqList xs ys with
    | isTrue h, isTrue t => isTrue (by subst h t; rfl)
    | isFalse h, _ => isFalse (fun e => by cases e; exact h rfl)
    | _, isFalse t => isFalse (fun e => by cases e; exact t rfl)

/-- Equality of field lists is decidable, field by field, key before value. -/
def Value.decEqFields : (xs ys : List (String × Value)) → Decidable (xs = ys)
  | [], [] => isTrue rfl
  | [], _ :: _ => isFalse (fun e => by cases e)
  | _ :: _, [] => isFalse (fun e => by cases e)
  | (k, x) :: xs, (k', y) :: ys =>
    if hk : k = k' then
      match Value.decEq x y, Value.decEqFields xs ys with
      | isTrue h, isTrue t => isTrue (by subst hk h t; rfl)
      | isFalse h, _ => isFalse (fun e => by cases e; exact h rfl)
      | _, isFalse t => isFalse (fun e => by cases e; exact t rfl)
    else isFalse (fun e => by cases e; exact hk rfl)

end

instance : DecidableEq Value := Value.decEq

/-- The keys of an object, in order; other values have none. -/
def Value.keys : Value → List String
  | .object fields => fields.map (·.1)
  | _ => []

/-- Setting a field adds its key at the end if it is new, and keeps the keys as
they are if it is not. -/
theorem keys_insertField (fields : List (String × Value)) (key : String) (v : Value) :
    (insertField fields key v).map (·.1) =
      if key ∈ fields.map (·.1) then fields.map (·.1) else fields.map (·.1) ++ [key] := by
  induction fields with
  | nil => simp [insertField]
  | cons kv rest ih =>
    obtain ⟨k, w⟩ := kv
    by_cases hk : k = key
    · subst hk
      simp [insertField]
    · have hk' : key ≠ k := Ne.symm hk
      by_cases hr : key ∈ rest.map (·.1) <;> simp_all [insertField]

theorem nodup_keys_insertField {fields : List (String × Value)} (key : String) (v : Value)
    (h : (fields.map (·.1)).Nodup) : ((insertField fields key v).map (·.1)).Nodup := by
  rw [keys_insertField]
  split
  · exact h
  · rename_i hnew
    refine List.nodup_append.2 ⟨h, by simp, fun a ha b hb => ?_⟩
    rw [List.mem_singleton.1 hb]
    exact fun hak => hnew (hak ▸ ha)

namespace Reader

variable {α β : Type}

/-- Whatever the reader returns satisfies `P`. -/
def Yields (r : Reader α) (P : α → Prop) : Prop :=
  ∀ c a c', r c = .ok a c' → P a

theorem yields_pure {a : α} {P : α → Prop} (h : P a) : Yields (pure a) P := by
  intro c b c' hr
  cases hr
  exact h

theorem yields_bind {x : Reader α} {f : α → Reader β} {P : β → Prop}
    (h : ∀ a, Yields (f a) P) : Yields (x >>= f) P := by
  intro c b c' hr
  simp only [bind, EStateM.bind] at hr
  split at hr
  · exact h _ _ _ _ hr
  · cases hr

/-- What a bind returns, its continuation returned from what the first step
returned. -/
theorem yields_bind_of {x : Reader α} {f : α → Reader β} {Q : α → Prop} {P : β → Prop}
    (hx : Yields x Q) (hf : ∀ a, Q a → Yields (f a) P) : Yields (x >>= f) P := by
  intro c b c' hr
  simp only [bind, EStateM.bind] at hr
  split at hr
  · exact hf _ (hx _ _ _ ‹_›) _ _ _ hr
  · cases hr

theorem yields_throw {e : SyntaxError} {P : α → Prop} : Yields (throw e : Reader α) P := by
  intro c b c' hr
  cases hr

theorem yields_fail {fault : Fault} {P : α → Prop} : Yields (fail fault : Reader α) P :=
  yields_bind fun _ => yields_throw

/-- What the bracket reader returns is what its body returned. -/
theorem yields_enclosed {body : Reader α} {close : Reader Unit} {P : α → Prop}
    (h : Yields body P) : Yields (Read.enclosed body close) P := by
  intro c a c' hr
  simp only [Read.enclosed] at hr
  split at hr
  · split at hr
    · cases hr
      exact h _ _ _ ‹_›
    · cases hr
  · split at hr <;> cases hr

end Reader

namespace Read

open Reader

/-- Each round of reading fields sets one field, so the keys stay distinct. -/
theorem fieldsFor_yields_nodup (inner : Reader Value) :
    ∀ (n : Nat) (first : Bool) (acc : List (String × Value)), (acc.map (·.1)).Nodup →
      Yields (fieldsFor inner n first acc) fun fs => (fs.map (·.1)).Nodup
  | 0, _, acc, h => yields_pure h
  | n + 1, first, acc, h => by
    unfold fieldsFor
    refine yields_bind fun ob => ?_
    cases ob with
    | none => exact yields_fail
    | some b =>
      have next : ∀ kv : String × Value,
          Yields (fieldsFor inner n false (insertField acc kv.1 kv.2))
            fun fs => (fs.map (·.1)).Nodup :=
        fun kv => fieldsFor_yields_nodup inner n false _ (nodup_keys_insertField kv.1 kv.2 h)
      dsimp only
      split
      · exact yields_pure h
      split
      · exact yields_bind fun _ => yields_bind fun _ => yields_bind fun _ => next _
      split
      · exact yields_bind fun _ => yields_bind fun _ => next _
      · exact yields_bind fun _ => yields_bind fun _ => next _

/-- Every value read has distinct top-level keys, whatever reads the values inside. -/
theorem valueWith_yields_nodup (inner : Option (Reader Value)) :
    Yields (valueWith inner) fun v => v.keys.Nodup := by
  unfold valueWith
  refine yields_bind fun ob => ?_
  cases ob with
  | none => exact yields_fail
  | some b =>
    have scalar : ∀ v : Value, (∀ fields, v ≠ .object fields) → v.keys.Nodup := by
      intro v hv
      cases v <;> simp_all [Value.keys]
    dsimp only
    split
    · exact yields_bind fun _ => yields_bind fun _ => yields_pure (scalar _ (by simp))
    split
    · exact yields_bind fun _ => yields_bind fun _ => yields_pure (scalar _ (by simp))
    split
    · exact yields_bind fun _ => yields_bind fun _ => yields_pure (scalar _ (by simp))
    split
    · exact yields_bind fun _ => yields_bind fun _ => yields_pure (scalar _ (by simp))
    split
    · exact yields_bind fun _ => yields_pure (scalar _ (by simp))
    split
    · exact yields_bind fun _ => yields_bind fun _ => yields_pure (scalar _ (by simp))
    split
    · cases inner with
      | none => exact yields_fail
      | some r =>
        exact yields_bind fun _ => yields_enclosed <| yields_bind fun _ => yields_bind fun _ =>
          yields_pure (scalar _ (by simp))
    split
    · cases inner with
      | none => exact yields_fail
      | some r =>
        exact yields_bind fun _ => yields_enclosed <| yields_bind fun n =>
          yields_bind_of (fieldsFor_yields_nodup r n true [] List.nodup_nil) fun fs hfs =>
            yields_pure hfs
    · exact yields_fail

theorem value_yields_nodup (depth : Nat) : Yields (value depth) fun v => v.keys.Nodup := by
  cases depth <;> exact valueWith_yields_nodup _

theorem document_yields_nodup : Yields document fun v => v.keys.Nodup := by
  refine yields_bind_of (value_yields_nodup 127) fun v hv => yields_bind fun ob => ?_
  cases ob with
  | none => exact yields_pure hv
  | some _ => exact yields_fail

end Read

/-- **A parsed text has distinct top-level keys.** -/
theorem parse_keys_nodup {text : Filtered} {v : Value} (h : parse text = .ok v) :
    v.keys.Nodup := by
  unfold parse at h
  split at h
  · cases h
    exact Read.document_yields_nodup _ _ _ ‹_›
  · cases h

end Json

end GrammarDoc
