import GrammarDoc.Json.Read.Cursor
import GrammarDoc.Text.Utf8
/-!
# Reading JSON strings

A string runs from its opening double quote to the next unescaped one. A
control byte below 0x20 may not stand in it. A backslash escapes a double quote,
a backslash, a slash, or one of `b f n r t` for backspace, form feed, line feed,
carriage return and tab; or starts `u` and four hexadecimal digits, which are
read in full before they are judged. A code point from a leading surrogate
must be followed at once by a backslash, `u` and the code point of a trailing
surrogate; the pair stands for one character. A trailing surrogate on its own
is refused.

The bytes of the string must be UTF-8. This is checked when the closing quote
has been read. An ill-formed sequence is reported at the column of the closing
quote less the number of bytes the string holds from the start of that sequence
on, where an escape counts as the bytes it stands for.
-/

namespace GrammarDoc

namespace Json

namespace Read

open Reader

/-- The next byte of a string, which may not be missing. -/
def nextInString : Reader UInt8 := do
  match ← next with
  | some b => pure b
  | none => fail .eofInString

/-- The next byte of a string without consuming it, which may not be missing. -/
def peekInString : Reader UInt8 := do
  match ← peek with
  | some b => pure b
  | none => fail .eofInString

/-- The value of a hexadecimal digit. -/
def hexValue (b : UInt8) : Option Nat :=
  if 48 ≤ b && b ≤ 57 then some (b.toNat - 48)
  else if 97 ≤ b && b ≤ 102 then some (b.toNat - 87)
  else if 65 ≤ b && b ≤ 70 then some (b.toNat - 55)
  else none

/-- Four hexadecimal digits, read in full before they are judged. -/
def hexQuad : Reader Nat := do
  let a ← nextInString
  let b ← nextInString
  let c ← nextInString
  let d ← nextInString
  match hexValue a, hexValue b, hexValue c, hexValue d with
  | some w, some x, some y, some z => pure (((w * 16 + x) * 16 + y) * 16 + z)
  | _, _, _, _ => fail .invalidEscape

/-- The bytes of a `u` escape, from its digits on. -/
def unicodeEscape : Reader (List UInt8) := do
  let n ← hexQuad
  if 0xDC00 ≤ n ∧ n ≤ 0xDFFF then fail .loneSurrogate
  else if n < 0xD800 ∨ 0xDBFF < n then pure (Text.Utf8.encode n)
  else
    if (← peekInString) = 92 then discard
    else
      discard
      fail .unexpectedEndOfHexEscape
    if (← peekInString) = 117 then discard
    else
      discard
      fail .unexpectedEndOfHexEscape
    let low ← hexQuad
    if low < 0xDC00 ∨ 0xDFFF < low then fail .loneSurrogate
    else pure (Text.Utf8.encode (0x10000 + (n - 0xD800) * 0x400 + (low - 0xDC00)))

/-- The bytes an escape stands for, from the byte after the backslash on. -/
def escape : Reader (List UInt8) := do
  let b ← nextInString
  if b = 34 || b = 92 || b = 47 then pure [b]
  else if b = 98 then pure [8]
  else if b = 102 then pure [12]
  else if b = 110 then pure [10]
  else if b = 114 then pure [13]
  else if b = 116 then pure [9]
  else if b = 117 then unicodeEscape
  else fail .invalidEscape

/-- The text of the bytes read, or the position of the first ill-formed sequence:
as many columns before the current one as the string holds bytes from it on. -/
def closeString (bytes : List UInt8) : Reader String := do
  match Text.Utf8.decode bytes with
  | .ok chars => pure (String.ofList chars)
  | .error valid =>
    let c ← get
    throw ⟨.invalidUnicode, some ⟨c.line, c.column - (bytes.length - valid)⟩⟩

/-- The rest of a string for at most `n` rounds; `acc` holds the bytes so far, last first. -/
def stringFor : Nat → List UInt8 → Reader String
  | 0, acc => closeString acc.reverse
  | n + 1, acc => do
    let b ← nextInString
    if b = 34 then closeString acc.reverse
    else if b = 92 then
      let bytes ← escape
      stringFor n (bytes.reverse ++ acc)
    else if b < 0x20 then fail .controlCharacter
    else stringFor n (b :: acc)

/-- A string, from the byte after its opening quote on. -/
def string : Reader String := do stringFor (← budget) []

end Read

end Json

end GrammarDoc
