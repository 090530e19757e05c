import PluginBuild.Decimal.Nearest

/-!
The decimal of fewest digits that reads back as a given double-precision number. Of two such
decimals the nearer one is taken.
-/

namespace PluginBuild.Decimal

structure Ratio where
  num : Nat
  den : Nat

def magnitude (bits : Nat) : Ratio :=
  let exponent : Nat := bits / Nat.pow 2 52 % Nat.pow 2 11
  let fraction := bits % Nat.pow 2 52
  let significand := if exponent = 0 then fraction else Nat.pow 2 52 + fraction
  let place : Int := ((max exponent 1 : Nat) : Int) - 1075
  if 0 ≤ place then ⟨significand * Nat.pow 2 place.toNat, 1⟩
  else ⟨significand, Nat.pow 2 (-place).toNat⟩

def leadingPlace (r : Ratio) : Int :=
  if r.den ≤ r.num then digitCount (r.num / r.den) - 1
  else
    let j := digitCount (r.den / r.num)
    if r.den ≤ r.num * Nat.pow 10 (j - 1) then -((j : Int) - 1) else -(j : Int)

structure Scaled where
  digits : Nat
  exponent : Int
  deriving DecidableEq, Repr

/-- The two neighbours of a fraction on the grid of multiples of a power of ten that read back, the
nearer one first. -/
def neighbours (bits : UInt64) (r : Ratio) (exponent : Int) : List Scaled :=
  let (num, den) :=
    if 0 ≤ exponent then (r.num, r.den * Nat.pow 10 exponent.toNat)
    else (r.num * Nat.pow 10 (-exponent).toNat, r.den)
  let below := num / den
  let order := if 2 * (num % den) ≤ den then [below, below + 1] else [below + 1, below]
  (order.filter fun n => decimalBits n exponent == bits).map (⟨·, exponent⟩)

/-- The shortest decimal that reads back as a positive finite number. Seventeen digits always do. -/
def shortest (bits : UInt64) : Scaled :=
  let r := magnitude bits.toNat
  let top := leadingPlace r
  match (List.range 17).findSome? fun n : Nat => (neighbours bits r (top - (n : Int))).head? with
  | some d => d
  | none => ⟨0, 0⟩

end PluginBuild.Decimal
