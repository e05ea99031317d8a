import GrammarDoc.Term.Basic
import GrammarDoc.Term.Normalize
import GrammarDoc.Grammar.Basic
import GrammarDoc.Grammar.Error
import GrammarDoc.Grammar.Build
import GrammarDoc.Text.Printable
import GrammarDoc.Text.GraphemeExtend
import GrammarDoc.Text.Quoted
import GrammarDoc.Ebnf.Operand
import GrammarDoc.Ebnf.Inexpressible
import GrammarDoc.Ebnf.Clause
import GrammarDoc.Ebnf.Print
import GrammarDoc.Ebnf.Layout
import GrammarDoc.Json.Value
import GrammarDoc.Json.Writer
import GrammarDoc.Definition.Token
import GrammarDoc.Definition.Encode
import GrammarDoc.Renderer
import GrammarDoc.Json.Comments
import GrammarDoc.Json.SyntaxError
import GrammarDoc.Text.Utf8
import GrammarDoc.Text.Binary64
import GrammarDoc.Json.Read.Cursor
import GrammarDoc.Json.Read.Number
import GrammarDoc.Json.Read.String
import GrammarDoc.Json.Read.Value
import GrammarDoc.Definition.Error
import GrammarDoc.Definition.Decode
import GrammarDoc.Definition.File
import GrammarDoc.Command
import GrammarDoc.Main
import GrammarDoc.Steps
import GrammarDoc.Proofs.Outcome
import GrammarDoc.Proofs.Term.Nodes
import GrammarDoc.Proofs.Term.Normal
import GrammarDoc.Proofs.Build
import GrammarDoc.Proofs.Json.Keys
import GrammarDoc.Proofs.Definition.Shape
import GrammarDoc.Proofs.Definition.RoundTrip
import GrammarDoc.Proofs.Definition.Schema
import GrammarDoc.Proofs.Term.Language
import GrammarDoc.Proofs.Ebnf.Syntax
import GrammarDoc.Proofs.Ebnf.Unambiguous
import GrammarDoc.Proofs.Ebnf.Meaning
import GrammarDoc.Proofs.Ebnf.Operands
import GrammarDoc.Proofs.Ebnf.Clauses
import GrammarDoc.Proofs.Term.NormalForm
import GrammarDoc.Proofs.Ebnf.Refusal
import GrammarDoc.Proofs.Ebnf.Layout
