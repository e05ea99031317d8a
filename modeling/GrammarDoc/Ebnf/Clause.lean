import GrammarDoc.Ebnf.Operand
import GrammarDoc.Ebnf.Inexpressible
/-!
# Repetitions as EBNF clauses

EBNF has three ways to repeat a primary `X`: `{X}` for any number of times,
`[X]` for at most once, and `k * X` for exactly `k` times. A repetition between
`min` and `max` times becomes one or two such clauses, written one after the
other:

| bounds | clauses |
| --- | --- |
| `0` to unbounded | `{X}` |
| `m` to unbounded | `m * X`, `{X}` |
| `0` to `k` | `k * [X]` |
| `m` to `m` | `m * X` |
| `m` to `k` | `m * X`, `(k - m) * [X]` |

A count of one is left out (`1 * X` is `X`), and the body is put in parentheses
where it binds looser than a primary. No clause form allows zero occurrences
only, and bounds with `max < min` describe nothing, so both are refused.
-/

namespace GrammarDoc

namespace Ebnf

/-- The body exactly `count` times: the body itself for a count of one. -/
def times (count : UInt64) (body : Operand) : Operand :=
  if count = 1 then body
  else ⟨Nat.repr count.toNat ++ " * " ++ body.at .primary, .factor⟩

/-- The body at most `count` times. -/
def upTo (count : UInt64) (body : Operand) : Operand :=
  times count ⟨"[" ++ body.text ++ "]", .primary⟩

/-- The body any number of times. -/
def repeated (body : Operand) : Operand :=
  ⟨"\x7b" ++ body.text ++ "\x7d", .primary⟩

/-- The clauses that together repeat the body between `min` and `max` times. -/
def clauses (min : UInt64) (max : Option UInt64) (body : Operand) :
    Except Inexpressible (List Operand) :=
  match max with
  | some hi =>
    if hi < min then .error (.invertedBounds min hi)
    else if min = 0 then
      if hi = 0 then .error .neverOccurs else .ok [upTo hi body]
    else if min = hi then .ok [times min body]
    else .ok [times min body, upTo (hi - min) body]
  | none =>
    if min = 0 then .ok [repeated body] else .ok [times min body, repeated body]

end Ebnf

end GrammarDoc
