import GrammarDoc.Renderer
/-!
# The command line

`grammar-doc [-o FILE] RENDERER GRAMMAR...` loads the grammar files in order,
builds one grammar from them, and writes it with the named renderer to standard
output or to `FILE`. This module reads the arguments and words the messages; the
program itself only performs the reads and writes.
-/

namespace GrammarDoc

/-- What the command line asks for. -/
structure Invocation where
  /-- Where to write, if not to standard output. -/
  output : Option String
  /-- The renderer's name or alias. -/
  renderer : String
  /-- The grammar files, loaded in this order. -/
  grammars : List String
  deriving Inhabited, Repr, DecidableEq

namespace Invocation

/-- How the command is used. -/
def usage : String :=
  "Usage: grammar-doc [-o <OUTPUT>] <RENDERER> <GRAMMAR>..."

/-- The invocation the arguments describe, gathering the output option wherever it
stands and the other arguments in order. -/
def parseFrom (output : Option String) (positional : List String) :
    List String → Except String Invocation
  | [] =>
    match positional.reverse with
    | renderer :: grammar :: grammars => .ok ⟨output, renderer, grammar :: grammars⟩
    | _ => .error ("error: the renderer and at least one grammar are required\n\n" ++ usage)
  | "-o" :: path :: rest => parseFrom (some path) positional rest
  | "--output" :: path :: rest => parseFrom (some path) positional rest
  | ["-o"] => .error ("error: a value is required for '--output <OUTPUT>'\n\n" ++ usage)
  | ["--output"] => .error ("error: a value is required for '--output <OUTPUT>'\n\n" ++ usage)
  | arg :: rest => parseFrom output (arg :: positional) rest

/-- The invocation the arguments describe, or why there is none. -/
def parse (args : List String) : Except String Invocation := parseFrom none [] args

end Invocation

/-- The text padded with blanks to at least `width` characters. -/
def padRight (text : String) (width : Nat) : String :=
  text ++ String.ofList (List.replicate (width - text.length) ' ')

/-- The message for a renderer name that finds nothing, listing those there are. -/
def unknownRendererMessage (name : String) : String :=
  "Unknown renderer: " ++ name ++ "\nAvailable renderers:\n" ++
    String.join (Renderer.all.map fun r => "  " ++ padRight r.name 8 ++ " " ++ r.description ++ "\n")

end GrammarDoc
