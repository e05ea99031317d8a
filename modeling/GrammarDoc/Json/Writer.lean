import GrammarDoc.Json.Value
/-!
# Writing JSON text

`Json.Value.pretty` lays a value out over lines: every array element and object
field on a line of its own, indented by four spaces per level of nesting, with
`": "` between a key and its value; an empty array is `[]` and an empty object a
pair of braces. Strings escape the double quote, the backslash and the control
characters below U+0020: backspace, form feed, line feed, carriage return and
tab by their letter, the others as `\u00` and two lowercase hexadecimal digits.
Every other character, U+007F and line separators included, stands as itself.
-/

namespace GrammarDoc

namespace Json

/-- Two lowercase hexadecimal digits of a number below 256. -/
def hexByte (n : Nat) : String :=
  let digit (d : Nat) : Char := if d < 10 then Char.ofNat (48 + d) else Char.ofNat (87 + d)
  String.ofList [digit (n / 16 % 16), digit (n % 16)]

/-- How one character is written inside a JSON string. -/
def escapeChar (c : Char) : String :=
  if c = '"' then "\\\""
  else if c = '\\' then "\\\\"
  else if c = '\x08' then "\\b"
  else if c = '\x0c' then "\\f"
  else if c = '\n' then "\\n"
  else if c = '\r' then "\\r"
  else if c = '\t' then "\\t"
  else if c.toNat < 0x20 then "\\u00" ++ hexByte c.toNat
  else c.toString

/-- The JSON string literal of a text. -/
def quote (s : String) : String :=
  "\"" ++ String.join (s.toList.map escapeChar) ++ "\""

/-- The decimal digits of an integer, with a minus sign if negative. -/
def intText (i : Int) : String :=
  if i < 0 then "-" ++ Nat.repr i.natAbs else Nat.repr i.toNat

/-- The JSON text of a number. -/
def Number.text : Number → String
  | .count n => Nat.repr n.toNat
  | .negative m => "-" ++ Nat.repr m.toNat
  | .decimal neg sig exp => (if neg then "-" else "") ++ Nat.repr sig.toNat ++ "e" ++ intText exp

/-- Four spaces per level. -/
def indentation (depth : Nat) : String := String.ofList (List.replicate (4 * depth) ' ')

namespace Value

mutual

/-- The value laid out over lines, as if it stood `depth` levels deep. -/
def pretty (depth : Nat) : Value → String
  | .null => "null"
  | .bool b => if b then "true" else "false"
  | .number n => n.text
  | .string s => quote s
  | .array [] => "[]"
  | .array items => "[" ++ prettyItems (depth + 1) true items ++ "\n" ++ indentation depth ++ "]"
  | .object [] => "\x7b\x7d"
  | .object fields =>
    "\x7b" ++ prettyFields (depth + 1) true fields ++ "\n" ++ indentation depth ++ "\x7d"

/-- Array elements, each on a new line at `depth`, separated by commas. -/
def prettyItems (depth : Nat) (first : Bool) : List Value → String
  | [] => ""
  | v :: vs =>
    (if first then "\n" else ",\n") ++ indentation depth ++ v.pretty depth ++
      prettyItems depth false vs

/-- Object fields, each on a new line at `depth`, separated by commas. -/
def prettyFields (depth : Nat) (first : Bool) : List (String × Value) → String
  | [] => ""
  | (k, v) :: rest =>
    (if first then "\n" else ",\n") ++ indentation depth ++ quote k ++ ": " ++ v.pretty depth ++
      prettyFields depth false rest

end

end Value

end Json

end GrammarDoc
