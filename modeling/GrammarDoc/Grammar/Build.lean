import GrammarDoc.Grammar.Basic
import GrammarDoc.Grammar.Error
import GrammarDoc.Term.Normalize
/-!
# Building a grammar

A builder collects productions in declaration order. Building checks them in a
fixed order and reports the first fault found:

1. a name that an earlier production already has;
2. a malformed node, taking the productions in order and each body in pre-order:
   an empty sequence, an empty choice, or a repetition whose greatest count is
   below its least;
3. a reference to a name that no production has, earlier or later, again in
   production order and left to right within a body.

A list that passes becomes a grammar whose bodies are normalised.
-/

namespace GrammarDoc

/-- The first entry of the list that equals an entry before it. -/
def firstRepeated (names : List String) : Option String :=
  go [] names
where
  /-- The first entry of the rest that is in `seen` or repeats within the rest. -/
  go (seen : List String) : List String → Option String
    | [] => none
    | n :: rest => if n ∈ seen then some n else go (n :: seen) rest

namespace Term

mutual

/-- The first malformed node of a term in pre-order, as a fault of `production`. -/
def checkShape (production : String) : Term → Except GrammarError Unit
  | .literal _ => pure ()
  | .nonTerminal _ => pure ()
  | .sequence [] => throw (.emptySequence production)
  | .sequence items => checkShapeAll production items
  | .choice [] => throw (.emptyChoice production)
  | .choice branches => checkShapeAll production branches
  | .repetition min max body =>
    match max with
    | some hi => if hi < min then throw (.invertedBounds production min hi)
      else body.checkShape production
    | none => body.checkShape production

/-- The first malformed node among the terms of a list, taken in order. -/
def checkShapeAll (production : String) : List Term → Except GrammarError Unit
  | [] => pure ()
  | t :: ts => do
    t.checkShape production
    checkShapeAll production ts

end

end Term

/-- A list of productions being collected, in declaration order. -/
structure Builder where
  /-- The productions so far, first declared first. -/
  productions : List Production := []
  deriving Inhabited, Repr

namespace Builder

/-- Adds a production with the given alternatives: the body is the only
alternative if there is one, else the choice between them. -/
def define (b : Builder) (name : String) (alternatives : List Term) : Builder :=
  { productions := b.productions ++ [⟨name, Term.ofAlternatives alternatives⟩] }

/-- Adds productions read from elsewhere, after those already there. -/
def extend (b : Builder) (more : List Production) : Builder :=
  { productions := b.productions ++ more }

/-- The first reference to a name that no production has. -/
def firstUndefined (ps : List Production) : Option String :=
  (ps.flatMap (·.body.references)).find? (fun n => !(ps.map (·.name)).contains n)

/-- The first malformed node over the productions, taken in order. -/
def checkShapes : List Production → Except GrammarError Unit
  | [] => pure ()
  | p :: ps => do
    p.body.checkShape p.name
    checkShapes ps

/-- The grammar of the collected productions, or the first fault in the order
of the module header. -/
def build (b : Builder) : Except GrammarError Grammar := do
  if let some name := firstRepeated (b.productions.map (·.name)) then
    throw (.duplicate name)
  checkShapes b.productions
  if let some name := firstUndefined b.productions then
    throw (.undefined name)
  pure ⟨b.productions.map fun p => ⟨p.name, p.body.normalize⟩⟩

end Builder

end GrammarDoc
