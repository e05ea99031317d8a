/-!
# Syntax errors of JSON text

A syntax error names what was wrong and, in most cases, where: the line (from 1)
and the column (the number of bytes read on that line, so the column of the last
byte read). An error raised by the comment filter carries no position until a
surrounding array or object places it where reading stopped.
-/

namespace GrammarDoc

namespace Json

/-- A place in JSON text. -/
structure Position where
  /-- The line, from 1. -/
  line : Nat
  /-- The bytes read on the line. -/
  column : Nat
  deriving Inhabited, Repr, DecidableEq

/-- What is wrong with a JSON text. -/
inductive Fault where
  | eofInList
  | eofInObject
  | eofInString
  | eofInValue
  | expectedColon
  | expectedCommaOrBracket
  | expectedCommaOrBrace
  | expectedIdent
  | expectedValue
  | invalidEscape
  | invalidNumber
  | numberOutOfRange
  | invalidUnicode
  | controlCharacter
  | keyNotString
  | loneSurrogate
  | trailingComma
  | trailingCharacters
  | unexpectedEndOfHexEscape
  | recursionLimit
  /-- The comment filter refused a byte or the text ended inside a string or comment. -/
  | unreadable
  deriving Inhabited, Repr, DecidableEq

/-- The words for each fault. -/
def Fault.message : Fault → String
  | .eofInList => "EOF while parsing a list"
  | .eofInObject => "EOF while parsing an object"
  | .eofInString => "EOF while parsing a string"
  | .eofInValue => "EOF while parsing a value"
  | .expectedColon => "expected `:`"
  | .expectedCommaOrBracket => "expected `,` or `]`"
  | .expectedCommaOrBrace => "expected `,` or `\x7d`"
  | .expectedIdent => "expected ident"
  | .expectedValue => "expected value"
  | .invalidEscape => "invalid escape"
  | .invalidNumber => "invalid number"
  | .numberOutOfRange => "number out of range"
  | .invalidUnicode => "invalid unicode code point"
  | .controlCharacter => "control character (\\u0000-\\u001F) found while parsing a string"
  | .keyNotString => "key must be a string"
  | .loneSurrogate => "lone leading surrogate in hex escape"
  | .trailingComma => "trailing comma"
  | .trailingCharacters => "trailing characters"
  | .unexpectedEndOfHexEscape => "unexpected end of hex escape"
  | .recursionLimit => "recursion limit exceeded"
  | .unreadable => "invalid data"

/-- A fault and, if known, where it was found. -/
structure SyntaxError where
  /-- What is wrong. -/
  fault : Fault
  /-- Where, if known. -/
  position : Option Position
  deriving Inhabited, Repr, DecidableEq

namespace SyntaxError

/-- The error with `p` as its position if it has none yet. -/
def place (e : SyntaxError) (p : Position) : SyntaxError :=
  match e.position with
  | some _ => e
  | none => { e with position := some p }

/-- The fault's words, followed by its position if known. -/
def message (e : SyntaxError) : String :=
  match e.position with
  | some p =>
    e.fault.message ++ " at line " ++ Nat.repr p.line ++ " column " ++ Nat.repr p.column
  | none => e.fault.message

end SyntaxError

end Json

end GrammarDoc
