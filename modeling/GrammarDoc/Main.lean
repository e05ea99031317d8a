import GrammarDoc.Command
import GrammarDoc.Definition.File
/-!
# The grammar-doc program

Reads the files the command line names and writes the rendered grammar; every
decision is made by `GrammarDoc.Invocation`, `GrammarDoc.Builder` and
`GrammarDoc.Renderer`.
-/

open GrammarDoc

/-- The bytes of a file, or why it could not be opened. -/
def readSource (path : String) : IO (Except OpenError ByteArray) := do
  try
    return .ok (← IO.FS.readBinFile path)
  catch e =>
    match e with
    | .noFileOrDirectory .. => return .error .notFound
    | _ => return .error (.other (toString e))

/-- Loads every grammar file in order, or reports the first that fails. -/
def loadAll (paths : List String) : IO (Except ParsingError Builder) := do
  let mut builder : Builder := {}
  for path in paths do
    match builder.load ⟨path, ← readSource path⟩ with
    | .error e => return .error e
    | .ok b => builder := b
  return .ok builder

/-- Runs the command line. -/
def main (args : List String) : IO UInt32 := do
  match Invocation.parse args with
  | .error message =>
    IO.eprintln message
    return 1
  | .ok inv =>
    let some renderer := Renderer.find? inv.renderer
      | IO.eprint (unknownRendererMessage inv.renderer); return 1
    match ← loadAll inv.grammars with
    | .error e =>
      IO.eprintln e.message
      return 1
    | .ok builder =>
      match builder.build with
      | .error e =>
        IO.eprintln e.message
        return 1
      | .ok grammar =>
        match renderer.render grammar with
        | .error e =>
          IO.eprintln e.message
          return 1
        | .ok text =>
          match inv.output with
          | none =>
            IO.print text
            return 0
          | some path =>
            try
              IO.FS.writeFile path text
              return 0
            catch e =>
              IO.eprintln ("Could not create " ++ path ++ ": " ++ toString e)
              return 1
