import GrammarDoc.Json.Comments
import GrammarDoc.Json.SyntaxError
/-!
# Reading position in filtered JSON text

A reader takes the pieces of a filtered text one at a time. Taking a byte counts
it: a line feed starts the next line at column 0, any other byte adds one to the
column. Taking a refused piece fails without counting, and so does reading past
the end of a text that ends open. A reader may look at the next byte without
consuming it; the byte is counted when it is first looked at, and the next read
hands it on without taking another piece.

Loops of the reader take an explicit bound on their rounds: every round but the
last consumes a byte, so `Cursor.budget`, one more than the bytes left, is always
enough.
-/

namespace GrammarDoc

namespace Json

/-- Where a reader stands in a filtered text. -/
structure Cursor where
  /-- The pieces not yet taken. -/
  pieces : List Piece
  /-- Whether reading past the last piece fails. -/
  endsOpen : Bool
  /-- The line of the last byte taken, from 1. -/
  line : Nat := 1
  /-- The bytes taken on that line. -/
  column : Nat := 0
  /-- A byte looked at but not yet consumed. -/
  ahead : Option UInt8 := none
  deriving Inhabited, Repr

namespace Cursor

/-- The start of a filtered text. -/
def start (f : Filtered) : Cursor := { pieces := f.pieces, endsOpen := f.endsOpen }

/-- Where the reader stands. -/
def position (c : Cursor) : Position := ⟨c.line, c.column⟩

/-- One more than the bytes that can still be consumed. -/
def budget (c : Cursor) : Nat := c.pieces.length + (if c.ahead.isSome then 1 else 0) + 1

end Cursor

/-- A reader of filtered JSON text: it may fail, and keeps its place either way. -/
abbrev Reader := EStateM SyntaxError Cursor

namespace Reader

/-- Fails with the fault at the current position. -/
def fail (fault : Fault) : Reader α := do
  throw ⟨fault, some (← get).position⟩

/-- The failure of the comment filter, which has no position yet. -/
def unreadable : SyntaxError := ⟨.unreadable, none⟩

/-- Takes the next piece of text, counting its byte. -/
def take : Reader (Option UInt8) := do
  let c ← get
  match c.pieces with
  | .byte b :: rest =>
    if b = 10 then set { c with pieces := rest, line := c.line + 1, column := 0 }
    else set { c with pieces := rest, column := c.column + 1 }
    pure (some b)
  | .refused :: rest =>
    set { c with pieces := rest }
    throw unreadable
  | [] => if c.endsOpen then throw unreadable else pure none

/-- The next byte, without consuming it. -/
def peek : Reader (Option UInt8) := do
  match (← get).ahead with
  | some b => pure (some b)
  | none =>
    let r ← take
    modify fun c => { c with ahead := r }
    pure r

/-- Consumes and returns the next byte. -/
def next : Reader (Option UInt8) := do
  let c ← get
  match c.ahead with
  | some b =>
    set { c with ahead := none }
    pure (some b)
  | none => take

/-- Consumes the byte looked at. -/
def discard : Reader Unit := modify fun c => { c with ahead := none }

/-- The next byte without consuming it, or 0 at the end of the text. -/
def peekOrZero : Reader UInt8 := do pure ((← peek).getD 0)

/-- The bound for a loop that starts here. -/
def budget : Reader Nat := do pure (← get).budget

/-- Space, line feed, tab and carriage return. -/
def isBlank (b : UInt8) : Bool := b = 32 || b = 10 || b = 9 || b = 13

/-- Skips blanks for at most `n` rounds and looks at the byte after them. -/
def skipBlankFor : Nat → Reader (Option UInt8)
  | 0 => peek
  | n + 1 => do
    match ← peek with
    | some b =>
      if isBlank b then
        discard
        skipBlankFor n
      else pure (some b)
    | none => pure none

/-- Skips blanks and looks at the byte after them. -/
def skipBlank : Reader (Option UInt8) := do skipBlankFor (← budget)

end Reader

end Json

end GrammarDoc
