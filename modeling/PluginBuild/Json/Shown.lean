import PluginBuild.Decimal.Shortest
import PluginBuild.Json.Value
import PluginBuild.Text.Pieces
import PluginBuild.Text.Quoted

/-!
Values as messages show them. A floating-point number has a point or an exponent; it is written
positionally from 0.0001 up to below 10 ^ 16.
-/

namespace PluginBuild.Json

open PluginBuild.Text

def zeros (n : Nat) : String := String.ofList (List.replicate n '0')

def shownDecimal (digits : String) (point : Int) : String :=
  let count : Int := digits.length
  if -4 < point ∧ point ≤ 16 then
    if point ≤ 0 then "0." ++ zeros (-point).toNat ++ digits
    else if count ≤ point then digits ++ zeros (point - count).toNat ++ ".0"
    else
      String.ofList (digits.toList.take point.toNat) ++ "." ++
        String.ofList (digits.toList.drop point.toNat)
  else
    let exponent := point - 1
    let size := toString exponent.natAbs
    let rest := digits.toList.drop 1
    String.ofList (digits.toList.take 1) ++ (if rest.isEmpty then "" else "." ++ String.ofList rest)
      ++ (if exponent < 0 then "e-" else "e+") ++ zeros (2 - size.length) ++ size

def shownFloat (bits : UInt64) : String :=
  let magnitude := bits &&& 0x7FFFFFFFFFFFFFFF
  if 0x7FF0000000000000 < magnitude then "nan"
  else
    let sign := if bits == magnitude then "" else "-"
    if magnitude == 0x7FF0000000000000 then sign ++ "inf"
    else if magnitude == 0 then sign ++ "0.0"
    else
      let d := Decimal.shortest magnitude
      let digits := toString d.digits
      sign ++ shownDecimal digits (digits.length + d.exponent)

mutual

def Value.shown : Value → String
  | .null => "None"
  | .bool b => if b then "True" else "False"
  | .int n => toString n
  | .float bits => shownFloat bits
  | .string s => quoted s
  | .array values => "[" ++ join ", " (shownAll values) ++ "]"
  | .object members => "\x7b" ++ join ", " (shownMembers members) ++ "\x7d"

def shownAll : List Value → List String
  | [] => []
  | v :: rest => v.shown :: shownAll rest

def shownMembers : List (String × Value) → List String
  | [] => []
  | (key, v) :: rest => (quoted key ++ ": " ++ v.shown) :: shownMembers rest

end

end PluginBuild.Json
