import GrammarDoc.Text.Printable
import GrammarDoc.Text.GraphemeExtend
/-!
# Quoted text with visible escapes

`Text.quoted s` writes `s` between double quotes so that every character can be
seen: NUL, tab, carriage return and line feed as backslash followed by `0`, `t`,
`r`, `n`; the backslash and the double quote behind a backslash; grapheme
extenders and unprintable characters as a backslash, `u` and the code point in
lowercase hexadecimal without leading zeros, in braces; every other character,
the apostrophe included, as itself.
-/

namespace GrammarDoc

namespace Text

/-- The digits of `n` in lowercase hexadecimal, without leading zeros. -/
def hexDigits (n : Nat) : String := String.ofList (Nat.toDigits 16 n)

/-- How one character appears inside `quoted`. -/
def visible (c : Char) : String :=
  if c = '\x00' then "\\0"
  else if c = '\t' then "\\t"
  else if c = '\r' then "\\r"
  else if c = '\n' then "\\n"
  else if c = '\\' then "\\\\"
  else if c = '"' then "\\\""
  else if isGraphemeExtend c || !isPrintable c then "\\u\x7b" ++ hexDigits c.toNat ++ "\x7d"
  else c.toString

/-- The text between double quotes, each character written as `visible` says. -/
def quoted (s : String) : String :=
  "\"" ++ String.join (s.toList.map visible) ++ "\""

end Text

end GrammarDoc
