/-!
# Binary64 overflow of decimal numbers

A reader that turns `s * 10^e` into a binary64 number by rounding `s` to binary64,
multiplying by the binary64 value of `10^e`, and rounding the product, gets an
infinity exactly when that product is at least `2^1024 - 2^970`: this is the
largest finite binary64 number plus half its last unit, and a tie there rounds
to the even neighbour, which is `2^1024`. Rounding is to nearest with ties to
even, so a natural number keeps its 53 leading bits, rounded.
-/

namespace GrammarDoc

namespace Text

namespace Binary64

/-- The natural number rounded to 53 significant bits, to nearest, ties to even. -/
def round (n : Nat) : Nat :=
  if n < Nat.pow 2 53 then n
  else
    let shift := n.log2 + 1 - 53
    let unit := Nat.pow 2 shift
    let q := n / unit
    let r := n % unit
    let half := unit / 2
    if r > half ∨ (r = half ∧ q % 2 = 1) then (q + 1) * unit else q * unit

/-- The least magnitude that rounds to infinity. -/
def overflowThreshold : Nat := Nat.pow 2 1024 - Nat.pow 2 970

/-- Whether the binary64 product of `s` and `10^e`, each rounded first, is infinite. -/
def productOverflows (s e : Nat) : Bool :=
  round s * round (Nat.pow 10 e) ≥ overflowThreshold

end Binary64

end Text

end GrammarDoc
