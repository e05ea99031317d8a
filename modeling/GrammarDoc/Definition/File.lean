import GrammarDoc.Definition.Decode
import GrammarDoc.Grammar.Build
import GrammarDoc.Json.Read.Value
/-!
# Loading definition files

Loading a file opens it, strips its comments, reads it as JSON and reads the
JSON as productions. Whatever fails is reported with the file's name.
-/

namespace GrammarDoc

/-- Why a file could not be opened. -/
inductive OpenError where
  /-- There is no such file. -/
  | notFound
  /-- Any other reason, in the system's words. -/
  | other (reason : String)
  deriving Inhabited, Repr, DecidableEq

/-- The system's words for the reason. -/
def OpenError.message : OpenError → String
  | .notFound => "No such file or directory (os error 2)"
  | .other reason => reason

/-- A definition file as the loader finds it. -/
structure SourceFile where
  /-- The name the file is reported by. -/
  name : String
  /-- Its bytes, or why it could not be opened. -/
  contents : Except OpenError ByteArray

/-- The stage at which loading a file failed. -/
inductive LoadFault where
  /-- The file could not be opened. -/
  | unopened (e : OpenError)
  /-- The text is not JSON. -/
  | notJson (e : Json.SyntaxError)
  /-- The JSON is not a grammar definition. -/
  | definition (e : Definition.DefinitionError)
  deriving Inhabited, Repr

/-- The words for the fault. -/
def LoadFault.message : LoadFault → String
  | .unopened e => "Could not open file: " ++ e.message
  | .notJson e => "Invalid JSON syntax: " ++ e.message
  | .definition e => e.message

/-- A failed load, with the name of its file. -/
structure ParsingError where
  /-- The file's name. -/
  file : String
  /-- What went wrong. -/
  fault : LoadFault
  deriving Inhabited, Repr

/-- The file's name followed by the fault's words. -/
def ParsingError.message (e : ParsingError) : String :=
  "ParsingError in " ++ e.file ++ ": " ++ e.fault.message

namespace SourceFile

/-- The productions the file defines, in order. -/
def load (f : SourceFile) : Except ParsingError (List Production) :=
  let fail := fun fault => Except.error (ParsingError.mk f.name fault)
  match f.contents with
  | .error e => fail (.unopened e)
  | .ok bytes =>
    match Json.parse (Json.Filtered.ofBytes bytes.toList) with
    | .error e => fail (.notJson e)
    | .ok v =>
      match Definition.productions v with
      | .error e => fail (.definition e)
      | .ok ps => .ok ps

end SourceFile

/-- The builder with the file's productions added after its own. -/
def Builder.load (b : Builder) (f : SourceFile) : Except ParsingError Builder :=
  b.extend <$> f.load

end GrammarDoc
