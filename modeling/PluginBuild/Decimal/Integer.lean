import PluginBuild.Text.Blank

/-!
Integers as a user writes them: with a sign or without, in the digits of any writing system, with
single underscores between digits and blanks around.
-/

namespace PluginBuild.Decimal

open PluginBuild.Text

def zeroDigits : List Nat := [
  48, 1632, 1776, 1984, 2406, 2534, 2662, 2790, 2918, 3046, 3174, 3302, 3430, 3558, 3664, 3792,
  3872, 4160, 4240, 6112, 6160, 6470, 6608, 6784, 6800, 6992, 7088, 7232, 7248, 42528, 43216,
  43264, 43472, 43504, 43600, 44016, 65296, 66720, 68912, 69734, 69872, 69942, 70096, 70384, 70736,
  70864, 71248, 71360, 71472, 71904, 72016, 72784, 73040, 73120, 92768, 92864, 93008, 120782,
  120792, 120802, 120812, 120822, 123200, 123632, 125264, 130032]

def digitValue? (c : Char) : Option Nat :=
  (zeroDigits.find? fun first => first ≤ c.toNat && c.toNat < first + 10).map (c.toNat - ·)

def digitValues? : List Char → Option (List Nat)
  | [] => some []
  | '_' :: c :: rest => do return (← digitValue? c) :: (← digitValues? rest)
  | c :: rest => do return (← digitValue? c) :: (← digitValues? rest)

def maxIntegerDigits : Nat := 4300

def natural? (digits : List Char) : Option Nat :=
  match digits with
  | [] | '_' :: _ => none
  | digits => do
    let values ← digitValues? digits
    if maxIntegerDigits < values.length then none
    else some (values.foldl (fun n d => 10 * n + d) 0)

def integer? (s : String) : Option Int :=
  match (strip s).toList with
  | '-' :: digits => (natural? digits).map fun n => -Int.ofNat n
  | '+' :: digits => (natural? digits).map Int.ofNat
  | digits => (natural? digits).map Int.ofNat

end PluginBuild.Decimal
