import PluginBuild.Decimal.Nearest

/-!
Decimal numerals: digits, a fraction and an exponent, read as a number of tenths.
-/

namespace PluginBuild.Decimal

def natOfDigits (digits : List Char) : Nat :=
  digits.foldl (fun n c => 10 * n + (c.toNat - 48)) 0

structure Numeral where
  whole : List Char
  fraction : List Char
  exponent : Int

def exponentOf : List Char → Int
  | '-' :: digits => -(natOfDigits digits : Int)
  | '+' :: digits => natOfDigits digits
  | digits => natOfDigits digits

def Numeral.read (text : List Char) : Numeral :=
  let isMark (c : Char) : Bool := c == 'e' || c == 'E'
  let number := text.takeWhile (!isMark ·)
  let exponent := (text.dropWhile (!isMark ·)).drop 1
  ⟨number.takeWhile (· != '.'), (number.dropWhile (· != '.')).drop 1, exponentOf exponent⟩

def Numeral.bits (n : Numeral) : UInt64 :=
  decimalBits (natOfDigits (n.whole ++ n.fraction)) (n.exponent - n.fraction.length)

end PluginBuild.Decimal
