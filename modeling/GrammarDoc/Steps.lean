import GrammarDoc.Definition.File
/-!
# Assembling a grammar step by step

A grammar is assembled from a list of steps, each adding productions at the end:
one defined directly, or all those of a definition file. A file that fails to
load ends the assembly there.
-/

namespace GrammarDoc

/-- One step of assembling a grammar. -/
inductive BuildStep where
  /-- Add the productions of a file. -/
  | load (file : SourceFile)
  /-- Add a production with the given alternatives. -/
  | define (name : String) (alternatives : List Term)

namespace Builder

/-- The outcome of each step that ran, and the builder after them all. A failed
load ends the run: its outcome is the last, and there is no builder. -/
def runSteps (b : Builder) : List BuildStep → List (Except ParsingError Unit) × Option Builder
  | [] => ([], some b)
  | .define name alternatives :: rest =>
    let (outcomes, final) := (b.define name alternatives).runSteps rest
    (.ok () :: outcomes, final)
  | .load file :: rest =>
    match b.load file with
    | .error e => ([.error e], none)
    | .ok b' =>
      let (outcomes, final) := b'.runSteps rest
      (.ok () :: outcomes, final)

end Builder

end GrammarDoc
