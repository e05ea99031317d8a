/-!
# Grammar terms

A term is the right-hand side of a production: a literal text, a reference to a
production by name, a sequence of terms, a choice between branches, or a
repetition of a body between a least count and an optional greatest count.
Counts are 64-bit words, the width of the machines the definition files are
written for; every count that a definition file can state fits in one.

Main definitions:
* `Term`, with the usual repetitions `Term.exactly`, `Term.optional`,
  `Term.zeroOrMore` and `Term.oneOrMore`;
* `Term.references`, the names a term mentions, left to right, with repeats.
-/

namespace GrammarDoc

/-- How often a repeated body occurs: a 64-bit word. -/
abbrev Count := UInt64

/-- The right-hand side of a production. -/
inductive Term where
  /-- A text that stands for itself. -/
  | literal (text : String)
  /-- A reference to the production named `name`; it is never expanded. -/
  | nonTerminal (name : String)
  /-- The items one after another. -/
  | sequence (items : List Term)
  /-- Exactly one of the branches. -/
  | choice (branches : List Term)
  /-- The body at least `min` times and, if `max` is given, at most `max` times. -/
  | repetition (min : Count) (max : Option Count) (body : Term)
  deriving Inhabited, Repr

namespace Term

/-- The body exactly `n` times. -/
def exactly (n : Count) (body : Term) : Term := .repetition n (some n) body

/-- The body between `lo` and `hi` times. -/
def between (lo hi : Count) (body : Term) : Term := .repetition lo (some hi) body

/-- The body `n` or more times. -/
def atLeast (n : Count) (body : Term) : Term := .repetition n none body

/-- The body once or not at all. -/
def optional (body : Term) : Term := .repetition 0 (some 1) body

/-- The body any number of times. -/
def zeroOrMore (body : Term) : Term := atLeast 0 body

/-- The body once or more. -/
def oneOrMore (body : Term) : Term := atLeast 1 body

/-- The body of a production with the given alternatives: the only one if there is
one, else the choice between them (also when there is none). -/
def ofAlternatives : List Term → Term
  | [t] => t
  | ts => .choice ts

mutual

/-- Equality of terms is decidable, by comparing constructors and then fields. -/
def decEq : (a b : Term) → Decidable (a = b)
  | .literal x, .literal y =>
    if h : x = y then isTrue (h ▸ rfl) else isFalse (fun e => by cases e; exact h rfl)
  | .nonTerminal x, .nonTerminal y =>
    if h : x = y then isTrue (h ▸ rfl) else isFalse (fun e => by cases e; exact h rfl)
  | .sequence xs, .sequence ys =>
    match decEqList xs ys with
    | isTrue h => isTrue (h ▸ rfl)
    | isFalse h => isFalse (fun e => by cases e; exact h rfl)
  | .choice xs, .choice ys =>
    match decEqList xs ys with
    | isTrue h => isTrue (h ▸ rfl)
    | isFalse h => isFalse (fun e => by cases e; exact h rfl)
  | .repetition m n b, .repetition m' n' b' =>
    if hm : m = m' then
      if hn : n = n' then
        match decEq b b' with
        | isTrue h => isTrue (by subst hm hn h; rfl)
        | isFalse h => isFalse (fun e => by cases e; exact h rfl)
      else isFalse (fun e => by cases e; exact hn rfl)
    else isFalse (fun e => by cases e; exact hm rfl)
  | .literal _, .nonTerminal _ | .literal _, .sequence _ | .literal _, .choice _
  | .literal _, .repetition .. | .nonTerminal _, .literal _ | .nonTerminal _, .sequence _
  | .nonTerminal _, .choice _ | .nonTerminal _, .repetition .. | .sequence _, .literal _
  | .sequence _, .nonTerminal _ | .sequence _, .choice _ | .sequence _, .repetition ..
  | .choice _, .literal _ | .choice _, .nonTerminal _ | .choice _, .sequence _
  | .choice _, .repetition .. | .repetition .., .literal _ | .repetition .., .nonTerminal _
  | .repetition .., .sequence _ | .repetition .., .choice _ => isFalse (fun e => by cases e)

/-- Equality of term lists is decidable, element by element. -/
def decEqList : (xs ys : List Term) → Decidable (xs = ys)
  | [], [] => isTrue rfl
  | [], _ :: _ => isFalse (fun e => by cases e)
  | _ :: _, [] => isFalse (fun e => by cases e)
  | x :: xs, y :: ys =>
    match decEq x y, decEqList xs ys with
    | isTrue h, isTrue t => isTrue (by subst h t; rfl)
    | isFalse h, _ => isFalse (fun e => by cases e; exact h rfl)
    | _, isFalse t => isFalse (fun e => by cases e; exact t rfl)

end

instance : DecidableEq Term := decEq

mutual

/-- The names of the productions a term refers to, left to right, with repeats. -/
def references : Term → List String
  | .literal _ => []
  | .nonTerminal name => [name]
  | .sequence items => referencesAll items
  | .choice branches => referencesAll branches
  | .repetition _ _ body => body.references

/-- The references of each term of a list, one list after another. -/
def referencesAll : List Term → List String
  | [] => []
  | t :: ts => t.references ++ referencesAll ts

end

@[simp] theorem referencesAll_nil : referencesAll [] = [] := by simp [referencesAll]

@[simp] theorem referencesAll_cons (t : Term) (ts : List Term) :
    referencesAll (t :: ts) = t.references ++ referencesAll ts := by simp [referencesAll]

/-- The references of a list are those of its terms in turn. -/
theorem referencesAll_eq_flatMap (ts : List Term) :
    referencesAll ts = ts.flatMap references := by
  induction ts with
  | nil => simp
  | cons t ts ih => simp [ih]

end Term

end GrammarDoc
