/-!
The double-precision number nearest to a fraction, as bits. A fraction between two neighbours goes
to the nearer one, a fraction half-way between them to the one with an even last bit; a fraction
beyond the largest finite number goes to infinity.
-/

namespace PluginBuild.Decimal

def roundDiv (num den : Nat) : Nat :=
  let q := num / den
  let r := num % den
  if den < 2 * r ∨ (2 * r = den ∧ q % 2 = 1) then q + 1 else q

/-- The exponent of the last binary place that a double has room for near a fraction: 53 places are
kept, but none below the smallest subnormal number. -/
def lastPlace (num den : Nat) : Int :=
  let e : Int := (Nat.log2 num : Int) - (Nat.log2 den : Int)
  let isBelow := if 0 ≤ e then num < den * Nat.pow 2 e.toNat else num * Nat.pow 2 (-e).toNat < den
  let top := if isBelow then e - 1 else e
  max (top - 52) (-1074)

def infinityBits : Nat := 0x7FF * Nat.pow 2 52

/-- The bits of the double nearest to `num / den`. The significand and its place determine the bits
as one sum, in which a significand rounded up to the next power of two carries into the exponent. -/
def nearestBits (num den : Nat) : UInt64 :=
  if num = 0 then 0
  else
    let place := lastPlace num den
    let significand :=
      if 0 ≤ place then roundDiv num (den * Nat.pow 2 place.toNat)
      else roundDiv (num * Nat.pow 2 (-place).toNat) den
    UInt64.ofNat (min infinityBits ((place + 1074).toNat * Nat.pow 2 52 + significand))

def digitCount (n : Nat) : Nat := (Nat.toDigits 10 n).length

/-- The bits of the double nearest to `mantissa · 10 ^ exponent`. Numbers out of all range are
settled by their size alone. -/
def decimalBits (mantissa : Nat) (exponent : Int) : UInt64 :=
  let size := (digitCount mantissa : Int) + exponent
  if mantissa = 0 ∨ size < -330 then 0
  else if 320 < size then UInt64.ofNat infinityBits
  else if 0 ≤ exponent then nearestBits (mantissa * Nat.pow 10 exponent.toNat) 1
  else nearestBits mantissa (Nat.pow 10 (-exponent).toNat)

end PluginBuild.Decimal
