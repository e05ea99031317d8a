/-!
# Comments in JSON text

Definition files may hold C-style comments. A filter reads the text byte by byte
and hands on each byte, with comment bytes replaced by blanks, before the JSON
reader sees it. It follows where it stands:

* in code, a double quote opens a string and a slash may open a comment;
* in a string, a double quote closes it and a backslash escapes the next byte;
* after a slash, a star opens a block comment and a second slash a line comment;
  any other byte is refused, and the filter stays after the slash;
* a block comment ends at the first star followed by a slash;
* a line comment ends at a line feed, which is handed on.

The slash, the star and every byte of a comment become blanks, line feeds of
block comments included. Reading past the end fails, every time, when the text
ends inside a string, after a lone slash or inside a block comment.
-/

namespace GrammarDoc

namespace Json

/-- Where the comment filter stands. -/
inductive Mode where
  /-- In JSON code. -/
  | code
  /-- In a string. -/
  | string
  /-- Right after a backslash in a string. -/
  | escape
  /-- Right after a slash in code. -/
  | slash
  /-- In a block comment. -/
  | block
  /-- In a block comment, right after a star. -/
  | blockStar
  /-- In a line comment. -/
  | line
  deriving Inhabited, Repr, DecidableEq

/-- What the filter hands on for one byte of text. -/
inductive Piece where
  /-- A byte for the reader: the text's own byte or a blank in its place. -/
  | byte (b : UInt8)
  /-- A byte the filter refused: the byte after a slash that opens no comment. -/
  | refused
  deriving Inhabited, Repr, DecidableEq

/-- A filtered text: the pieces in order, and whether reading past them fails. -/
structure Filtered where
  /-- One piece per byte of the text. -/
  pieces : List Piece
  /-- The text ends inside a string, after a lone slash, or inside a block comment. -/
  endsOpen : Bool
  deriving Inhabited, Repr, DecidableEq

/-- The blank that stands for a comment byte. -/
def blank : UInt8 := 32

namespace Mode

/-- The piece handed on for one byte, and where the filter stands after it. -/
def step : Mode → UInt8 → Piece × Mode
  | .code, b =>
    if b = 34 then (.byte b, .string) else if b = 47 then (.byte blank, .slash) else (.byte b, .code)
  | .string, b =>
    if b = 34 then (.byte b, .code) else if b = 92 then (.byte b, .escape) else (.byte b, .string)
  | .escape, b => (.byte b, .string)
  | .slash, b =>
    if b = 42 then (.byte blank, .block) else if b = 47 then (.byte blank, .line)
    else (.refused, .slash)
  | .block, b => (.byte blank, if b = 42 then .blockStar else .block)
  | .blockStar, b =>
    (.byte blank, if b = 47 then .code else if b = 42 then .blockStar else .block)
  | .line, b => if b = 10 then (.byte b, .code) else (.byte blank, .line)

/-- The pieces for a run of bytes, and where the filter stands after them. -/
def run : Mode → List UInt8 → List Piece × Mode
  | m, [] => ([], m)
  | m, b :: bs =>
    let (p, m') := m.step b
    let (ps, m'') := m'.run bs
    (p :: ps, m'')

/-- Whether reading fails when the text ends here. -/
def isOpen : Mode → Bool
  | .code | .line => false
  | _ => true

end Mode

/-- The text as the JSON reader sees it. -/
def Filtered.ofBytes (bytes : List UInt8) : Filtered :=
  let (pieces, m) := Mode.code.run bytes
  ⟨pieces, m.isOpen⟩

/-- The filter hands on one piece per byte. -/
theorem length_run (m : Mode) (bytes : List UInt8) : (m.run bytes).1.length = bytes.length := by
  induction bytes generalizing m with
  | nil => rfl
  | cons b bs ih => simp [Mode.run, ih]

end Json

end GrammarDoc
