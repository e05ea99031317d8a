import GrammarDoc.Json.Read.Number
import GrammarDoc.Json.Read.String
/-!
# Reading JSON values

A value is read after any blanks: `null`, `true` or `false` spelt out, a number,
a string, an array or an object. Arrays and objects may nest 127 deep; the next
one is refused where its bracket stands. After the elements of an array or the
fields of an object the reader looks for the closing bracket even when an element
failed, and a failure that has no position yet, one from the comment filter, is
placed where reading stopped after that. A whole text is one value and blanks.

In an object a key written twice keeps its first place and takes the later value.
-/

namespace GrammarDoc

namespace Json

namespace Read

open Reader

/-- The bytes of a word after its first, one by one. -/
def word : List UInt8 → Reader Unit
  | [] => pure ()
  | b :: rest => do
    match ← next with
    | none => fail .eofInValue
    | some c => if c = b then word rest else fail .expectedIdent

/-- Runs `body`, then `close` whatever `body` gave. The first failure wins, and one
without a position is placed where reading stopped. -/
def enclosed (body : Reader α) (close : Reader Unit) : Reader α := fun c =>
  match body c with
  | .ok v c' =>
    match close c' with
    | .ok _ c'' => .ok v c''
    | .error e c'' => .error (e.place c''.position) c''
  | .error e c' =>
    match close c' with
    | .ok _ c'' => .error (e.place c''.position) c''
    | .error _ c'' => .error (e.place c''.position) c''

/-- An element that starts with the byte looked at. -/
def element (inner : Reader Value) : Option UInt8 → Reader Value
  | none => fail .eofInValue
  | some b => if b = 93 then fail .trailingComma else inner

/-- Array elements for at most `n` rounds; `acc` holds those read, last first. -/
def elementsFor (inner : Reader Value) : Nat → Bool → List Value → Reader (List Value)
  | 0, _, acc => pure acc.reverse
  | n + 1, first, acc => do
    match ← skipBlank with
    | none => fail .eofInList
    | some b =>
      if b = 93 then pure acc.reverse
      else
        let start ← if b = 44 && !first then do discard; skipBlank
          else if first then pure (some b)
          else fail .expectedCommaOrBracket
        let v ← element inner start
        elementsFor inner n false (v :: acc)

/-- The closing bracket of an array. -/
def closeArray : Reader Unit := do
  match ← skipBlank with
  | some b =>
    if b = 93 then discard
    else if b = 44 then
      discard
      let after ← tryCatch (some <$> skipBlank) fun _ => pure none
      if after = some (some 93) then fail .trailingComma else fail .trailingCharacters
    else fail .trailingCharacters
  | none => fail .eofInList

/-- The colon between a key and its value. -/
def colon : Reader Unit := do
  match ← skipBlank with
  | some b => if b = 58 then discard else fail .expectedColon
  | none => fail .eofInObject

/-- A field that starts with the byte looked at. -/
def field (inner : Reader Value) : Option UInt8 → Reader (String × Value)
  | none => fail .eofInValue
  | some b =>
    if b = 34 then do
      discard
      let key ← string
      colon
      let v ← inner
      pure (key, v)
    else if b = 125 then fail .trailingComma
    else fail .keyNotString

/-- Object fields for at most `n` rounds; `acc` holds those read. -/
def fieldsFor (inner : Reader Value) :
    Nat → Bool → List (String × Value) → Reader (List (String × Value))
  | 0, _, acc => pure acc
  | n + 1, first, acc => do
    match ← skipBlank with
    | none => fail .eofInObject
    | some b =>
      if b = 125 then pure acc
      else
        let start ← if b = 44 && !first then do discard; skipBlank
          else if first then pure (some b)
          else fail .expectedCommaOrBrace
        let (key, v) ← field inner start
        fieldsFor inner n false (insertField acc key v)

/-- The closing brace of an object. -/
def closeObject : Reader Unit := do
  match ← skipBlank with
  | some b =>
    if b = 125 then discard
    else if b = 44 then fail .trailingComma
    else fail .trailingCharacters
  | none => fail .eofInObject

/-- A value whose arrays and objects read their elements with `inner`, or are
refused if there is none. -/
def valueWith (inner : Option (Reader Value)) : Reader Value := do
  match ← skipBlank with
  | none => fail .eofInValue
  | some b =>
    if b = 110 then do discard; word [117, 108, 108]; pure .null
    else if b = 116 then do discard; word [114, 117, 101]; pure (.bool true)
    else if b = 102 then do discard; word [97, 108, 115, 101]; pure (.bool false)
    else if b = 45 then do discard; pure (.number (← number false))
    else if isDigit b then do pure (.number (← number true))
    else if b = 34 then do discard; pure (.string (← string))
    else if b = 91 then
      match inner with
      | none => fail .recursionLimit
      | some r => do
        discard
        enclosed (do pure (.array (← elementsFor r (← budget) true []))) closeArray
    else if b = 123 then
      match inner with
      | none => fail .recursionLimit
      | some r => do
        discard
        enclosed (do pure (.object (← fieldsFor r (← budget) true []))) closeObject
    else fail .expectedValue

/-- A value with room for `depth` more levels of arrays and objects inside it. -/
def value : Nat → Reader Value
  | 0 => valueWith none
  | depth + 1 => valueWith (some (value depth))

/-- A whole text: one value, nested at most 127 deep, and blanks. -/
def document : Reader Value := do
  let v ← value 127
  match ← skipBlank with
  | some _ => fail .trailingCharacters
  | none => pure v

end Read

/-- The value of a filtered JSON text, or its first syntax error. -/
def parse (text : Filtered) : Except SyntaxError Value :=
  match Read.document.run (Cursor.start text) with
  | .ok v _ => .ok v
  | .error e _ => .error e

end Json

end GrammarDoc
