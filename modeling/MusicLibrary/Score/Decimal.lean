import MusicLibrary.Score

/-!
# Scores from decimals

The score nearest to a decimal fraction. Halfway between two scores it is the one whose magnitude is
even; what is too large for a number becomes infinity.
-/

namespace MusicLibrary.Score

/-- The score of a magnitude and a sign. -/
def ofMagnitude (negative : Bool) (magnitude : Nat) : Score :=
  ⟨.ofNat (magnitude + if negative then 0x8000000000000000 else 0)⟩

/-- The whole number nearest to `n / d`; of two it is the even one. -/
def roundRatio (n d : Nat) : Nat :=
  let q := n / d
  let r := n % d
  if 2 * r < d then q else if d < 2 * r then q + 1 else q + q % 2

/-- The magnitude of the score nearest to `n / d`. The value is counted in units of the smallest
score, and its last binary place is the one that leaves 53 places. -/
def magnitudeOfRatio (n d : Nat) : Nat :=
  let scaled := n <<< 1074
  let place := Nat.log2 (scaled / d) - 52
  min ((place <<< 52) + roundRatio scaled (d <<< place)) infinity

/-- Exponents of ten beyond this have no finite score, for any number of digits that is written. -/
def decimalBound : Nat := 400

/-- The score nearest to `digits * 10 ^ exponent`. -/
def ofDecimal (negative : Bool) (digits : Nat) (exponent : Int) : Score :=
  let size : Int := (Nat.toDigits 10 digits).length + exponent
  if digits = 0 ∨ size < -decimalBound then ofMagnitude negative 0
  else if decimalBound < size then ofMagnitude negative infinity
  else if 0 ≤ exponent then
    ofMagnitude negative (magnitudeOfRatio (digits * Nat.pow 10 exponent.toNat) 1)
  else ofMagnitude negative (magnitudeOfRatio digits (Nat.pow 10 (-exponent).toNat))

/-- The score nearest to a whole number. -/
def ofInt (n : Int) : Score := ofDecimal (n < 0) n.natAbs 0

/-- The score that is no number. -/
def nan (negative : Bool) : Score := ofMagnitude negative 0x7FF8000000000000

/-- The infinite score. -/
def infinite (negative : Bool) : Score := ofMagnitude negative infinity

end MusicLibrary.Score
