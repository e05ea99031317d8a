import GrammarDoc.Grammar.Basic
import GrammarDoc.Definition.Token
import GrammarDoc.Definition.Error
import GrammarDoc.Json.Value
/-!
# Reading grammars from definition files

A definition is a JSON object whose keys are reference tokens `<name>` and whose
values are non-empty arrays of alternatives; one alternative is the body, several
are a choice. A term is

* a string: a token, see `Definition.ofToken`;
* a non-empty array: the sequence of its items, or the item itself if it is alone;
* an object, read by the first of its keys among `choice`, `optional` and
  `repeat`, others ignored: `choice` holds a non-empty array of branches,
  `optional` a term, and `repeat` a term with the optional counts `min` (0 if
  absent or null) and `max` (unbounded if absent or null).

The first fault in document order is reported: keys in object order, a key
before its value, an array's emptiness before its items, an operator's own
fields before the terms inside it, `min` before `max`.
-/

namespace GrammarDoc

namespace Definition

open Json

/-- The name of a key of the form `<name>` with a non-empty name. -/
def nameOf? (key : String) : Option String :=
  match enclosed? '<' '>' key.toList with
  | some name@(_ :: _) => some (String.ofList name)
  | _ => none

/-- A bound of a repetition object: absent or null means none, else it must be a count. -/
def bound (key : String) (fields : List (String × Value)) (which : Bound) :
    Except DefinitionError (Option Count) :=
  match fields.lookup which.key with
  | none => .ok none
  | some .null => .ok none
  | some (.number (.count n)) => .ok (some n)
  | some _ => .error (.badBound key which)

/-- The sequence of the items, or the item itself if it is alone. -/
def sequenceOf : List Term → Term
  | [t] => t
  | ts => .sequence ts

/-- The term a JSON value describes, in the production under `key`. -/
def term (key : String) (v : Value) : Except DefinitionError Term :=
  match v with
  | .string token => .ok (ofToken token)
  | .array [] => .error (.emptySequence key)
  | .array items => do
    let ts ← items.attach.mapM fun ⟨item, _⟩ => term key item
    pure (sequenceOf ts)
  | .object fields =>
    match hc : fields.lookup "choice" with
    | some (.array []) => .error (.emptyChoice key)
    | some (.array branches) => do
      let ts ← branches.attach.mapM fun ⟨branch, _⟩ => term key branch
      pure (.choice ts)
    | some _ => .error (.choiceNotArray key)
    | none =>
      match ho : fields.lookup "optional" with
      | some body => do pure (Term.optional (← term key body))
      | none =>
        match hr : fields.lookup "repeat" with
        | some body => do
          let lo ← bound key fields .min
          let hi ← bound key fields .max
          if hi.any (· < lo.getD 0) then throw (.invertedBounds key)
          pure (.repetition (lo.getD 0) hi (← term key body))
        | none => .error (.noOperator key)
  | _ => .error (.unexpectedValue key)
termination_by sizeOf v
decreasing_by
  all_goals first
    | (have h := List.sizeOf_lt_of_mem ‹_ ∈ items›; simp; omega)
    | (have h := sizeOf_lookup_lt hc; have h' := List.sizeOf_lt_of_mem ‹_ ∈ branches›
       simp_all; omega)
    | (have h := sizeOf_lookup_lt ho; simp; omega)
    | (have h := sizeOf_lookup_lt hr; simp; omega)

/-- The production under one key of a definition. -/
def production (key : String) (rules : Value) : Except DefinitionError Production := do
  let some name := nameOf? key | throw (.invalidName key)
  match rules with
  | .array [] => throw (.noAlternatives key)
  | .array alternatives => do
    let ts ← alternatives.mapM (term key)
    pure ⟨name, Term.ofAlternatives ts⟩
  | _ => throw (.rulesNotArray key)

/-- The productions of a definition, in the order of its keys. -/
def productions : Value → Except DefinitionError (List Production)
  | .object fields => fields.mapM fun (key, rules) => production key rules
  | _ => .error .notAnObject

end Definition

end GrammarDoc
