import GrammarDoc.Ebnf.Layout
import GrammarDoc.Definition.Encode
import GrammarDoc.Json.Writer
/-!
# Renderers

The ways a grammar can be written out, in a fixed order: as an ISO 14977 EBNF
document and as a JSON grammar definition. A renderer is found by its name or by
one of its aliases, compared exactly.
-/

namespace GrammarDoc

/-- An output format for grammars. -/
inductive Renderer where
  /-- ISO/IEC 14977 Extended BNF. -/
  | ebnf
  /-- The JSON grammar definition format that files are loaded from. -/
  | json
  deriving Inhabited, Repr, DecidableEq

namespace Renderer

/-- Every renderer, in registry order. -/
def all : List Renderer := [.ebnf, .json]

/-- The canonical name. -/
def name : Renderer → String
  | .ebnf => "ebnf"
  | .json => "json"

/-- Other names that find the renderer. -/
def aliases : Renderer → List String
  | .ebnf => ["ISO14977"]
  | .json => []

/-- One line about the format. -/
def description : Renderer → String
  | .ebnf => "ISO/IEC 14977 Extended BNF"
  | .json => "JSON grammar definition"

/-- The first renderer whose name or one of whose aliases is exactly `query`. -/
def find? (query : String) : Option Renderer :=
  all.find? fun r => r.name == query || r.aliases.contains query

/-- The full text of the grammar in this format. Only EBNF can fail, on a term it
cannot express; the JSON text ends with a line feed. -/
def render : Renderer → Grammar → Except Ebnf.Inexpressible String
  | .ebnf, g => g.toEbnf
  | .json, g => .ok (g.toDefinition.pretty 0 ++ "\n")

end Renderer

end GrammarDoc
