import GrammarDoc.Json.Read.Cursor
import GrammarDoc.Json.Value
import GrammarDoc.Text.Binary64
/-!
# Reading JSON numbers

A number is an optional minus, an integer part without leading zeros, an optional
fraction and an optional exponent. The integer digits are gathered into a 64-bit
significand; once the next digit would overflow it, the remaining integer digits
only raise the power of ten, and further fraction digits are dropped. An
exponent beyond 2^31 - 1 makes the number zero, unless the exponent is positive
and the significand is not zero, which is out of range. A number with a fraction
or an exponent is out of range when its binary64 value, computed as
`Text.Binary64.productOverflows` says, would be infinite, or its power of ten
exceeds 308 with a non-zero significand.

Integers without fraction or exponent are kept exactly: non-negative ones as
counts, negative ones down to -2^63 as `negative`, and -0 and those below -2^63
as decimals.
-/

namespace GrammarDoc

namespace Json

namespace Read

open Reader

/-- Whether the byte is a decimal digit. -/
def isDigit (b : UInt8) : Bool := 48 ≤ b && b ≤ 57

/-- The value of a digit byte. -/
def digitValue (b : UInt8) : Nat := b.toNat - 48

/-- The largest 64-bit word. -/
def maxCount : Nat := Nat.pow 2 64 - 1

/-- The largest 32-bit signed integer, the greatest exponent read as written. -/
def maxExponent : Nat := Nat.pow 2 31 - 1

/-- Whether a byte starts an exponent. -/
def isExponentMark (b : UInt8) : Bool := b = 101 || b = 69

/-- The number `significand * 10 ^ exponent`, negated unless `positive`, or out of range. -/
def decimal (positive : Bool) (significand : Nat) (exponent : Int) : Reader Number :=
  if significand ≠ 0 ∧ 0 ≤ exponent ∧
      (308 < exponent ∨ Text.Binary64.productOverflows significand exponent.toNat) then
    fail .numberOutOfRange
  else pure (.decimal (!positive) significand.toUInt64 exponent)

/-- Skips digits for at most `n` rounds. -/
def skipDigitsFor : Nat → Reader Unit
  | 0 => pure ()
  | n + 1 => do
    if isDigit (← peekOrZero) then
      discard
      skipDigitsFor n
    else pure ()

/-- The digits of an exponent after its first, for at most `n` rounds. -/
def exponentDigitsFor (positive : Bool) (significand : Nat) (start : Int) (up : Bool) :
    Nat → Nat → Reader Number
  | 0, e => decimal positive significand (if up then start + e else start - e)
  | n + 1, e => do
    let b ← peekOrZero
    if isDigit b then
      discard
      let e' := e * 10 + digitValue b
      if e' > maxExponent then
        if significand ≠ 0 ∧ up then fail .numberOutOfRange
        else
          skipDigitsFor (← budget)
          pure (.decimal (!positive) 0 0)
      else exponentDigitsFor positive significand start up n e'
    else decimal positive significand (if up then start + e else start - e)

/-- An exponent, from its mark on, added to the power of ten `start`. -/
def exponent (positive : Bool) (significand : Nat) (start : Int) : Reader Number := do
  discard
  let sign ← peekOrZero
  let up ← if sign = 43 then do discard; pure true
    else if sign = 45 then do discard; pure false
    else pure true
  match ← next with
  | none => fail .eofInValue
  | some b =>
    if isDigit b then exponentDigitsFor positive significand start up (← budget) (digitValue b)
    else fail .invalidNumber

/-- The rest of a number after the digits it keeps: an exponent or nothing. -/
def afterDigits (positive : Bool) (significand : Nat) (power : Int) : Reader Number := do
  if isExponentMark (← peekOrZero) then exponent positive significand power
  else decimal positive significand power

/-- Fraction digits for at most `n` rounds; `taken` of them are already in the significand. -/
def fractionFor (positive : Bool) (before : Int) : Nat → Nat → Nat → Reader Number
  | 0, significand, taken => afterDigits positive significand (before - taken)
  | n + 1, significand, taken => do
    let b ← peekOrZero
    if isDigit b then
      let s := significand * 10 + digitValue b
      if s > maxCount then
        skipDigitsFor (← budget)
        afterDigits positive significand (before - taken)
      else
        discard
        fractionFor positive before n s (taken + 1)
    else if taken = 0 then
      match ← peek with
      | some _ => fail .invalidNumber
      | none => fail .eofInValue
    else afterDigits positive significand (before - taken)

/-- A fraction, from its point on. -/
def fraction (positive : Bool) (significand : Nat) (before : Int) : Reader Number := do
  discard
  fractionFor positive before (← budget) significand 0

/-- Integer digits past the 64-bit significand, each raising the power of ten. -/
def longIntegerFor (positive : Bool) (significand : Nat) : Nat → Nat → Reader Number
  | 0, power => decimal positive significand power
  | n + 1, power => do
    let b ← peekOrZero
    if isDigit b then
      discard
      longIntegerFor positive significand n (power + 1)
    else if b = 46 then fraction positive significand power
    else if isExponentMark b then exponent positive significand power
    else decimal positive significand power

/-- The end of a number whose integer part is `significand`. -/
def integerEnd (positive : Bool) (significand : Nat) : Reader Number := do
  let b ← peekOrZero
  if b = 46 then fraction positive significand 0
  else if isExponentMark b then exponent positive significand 0
  else if positive then pure (.count significand.toUInt64)
  else if significand = 0 then pure (.decimal true 0 0)
  else if significand ≤ Nat.pow 2 63 then pure (.negative significand.toUInt64)
  else pure (.decimal true significand.toUInt64 0)

/-- Integer digits after the first, for at most `n` rounds. -/
def integerDigitsFor (positive : Bool) : Nat → Nat → Reader Number
  | 0, significand => integerEnd positive significand
  | n + 1, significand => do
    let b ← peekOrZero
    if isDigit b then
      let s := significand * 10 + digitValue b
      if s > maxCount then longIntegerFor positive significand (← budget) 0
      else
        discard
        integerDigitsFor positive n s
    else integerEnd positive significand

/-- A number from its first digit on; the minus, if any, is already consumed. -/
def number (positive : Bool) : Reader Number := do
  match ← next with
  | none => fail .eofInValue
  | some b =>
    if b = 48 then
      if isDigit (← peekOrZero) then fail .invalidNumber else integerEnd positive 0
    else if isDigit b then integerDigitsFor positive (← budget) (digitValue b)
    else fail .invalidNumber

end Read

end Json

end GrammarDoc
