/-!
# Decimals

How a decimal number is held as a double. Of its digits the leading ones are kept, as many as make a
number of 64 bits. That number is rounded to a double and multiplied by the double nearest to the
power of ten that is left. The result may differ in its last place from the double nearest to the
decimal, which decides on which side of the range a number at its edge falls.
-/

namespace UiRecovery.Json

/-- Append decimal digits to `n` up to the first that would need more than 64 bits; the rest is left
over. -/
def appendDigits (n : Nat) : List Char → Nat × List Char
  | [] => (n, [])
  | d :: ds =>
    let m := 10 * n + (d.toNat - '0'.toNat)
    if m < UInt64.size then appendDigits m ds else (n, d :: ds)

/-- The digits that are kept of a whole part and of the places after its point, and the power of ten
that goes with them. A whole part that is cut short may still be continued by the places. -/
def leadingDigits (whole places : List Char) : Nat × Int :=
  let (n, wholeLeft) := appendDigits 0 whole
  let (m, placesLeft) := appendDigits n places
  (m, wholeLeft.length - (places.length - placesLeft.length : Nat))

/-- The number with 53 significant bits that is nearest to `n`; of two that are equally near, the
even one. -/
def nearestDouble (n : Nat) : Nat :=
  let unit := Nat.pow 2 (n.log2 - 52)
  let below := n / unit
  let rest := n % unit
  if unit < 2 * rest ∨ (unit = 2 * rest ∧ below % 2 = 1) then (below + 1) * unit else below * unit

/-- The least magnitude that rounds to an infinite double. -/
def doubleLimit : Nat := Nat.pow 2 1024 - Nat.pow 2 970

/-- Whether `significand * 10 ^ exponent`, for a significand of 64 bits, is held as a finite double.
A power of ten beyond the range is refused unless it scales zero. -/
def isFinite (significand : Nat) (exponent : Int) : Bool :=
  if significand = 0 ∨ exponent < 0 then true
  else if 308 < exponent then false
  else nearestDouble significand * nearestDouble (Nat.pow 10 exponent.toNat) < doubleLimit

end UiRecovery.Json
