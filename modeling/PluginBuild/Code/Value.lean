import PluginBuild.Json.Shown
import PluginBuild.Script.Tree

/-!
Values of expressions that are known before the script runs.
-/

namespace PluginBuild.Code

open PluginBuild.Script PluginBuild.Text

inductive Value where
  | none
  | bool (b : Bool)
  | ellipsis
  | int (n : Int)
  | float (x : Float)
  | complex (re im : Float)
  | text (s : String)
  | bytes (b : Bytes)
  | tuple (values : List Value)

def Value.ofConstant : Constant → Value
  | .none => .none
  | .bool b => .bool b
  | .ellipsis => .ellipsis
  | .int n => .int n
  | .float bits => .float (Float.ofBits bits)
  | .imaginary bits => .complex 0.0 (Float.ofBits bits)
  | .text s => .text s
  | .bytes b => .bytes b

def Value.typeName : Value → String
  | .none => "NoneType"
  | .bool _ => "bool"
  | .ellipsis => "ellipsis"
  | .int _ => "int"
  | .float _ => "float"
  | .complex _ _ => "complex"
  | .text _ => "str"
  | .bytes _ => "bytes"
  | .tuple _ => "tuple"

def Value.isTrue : Value → Bool
  | .none => false
  | .bool b => b
  | .ellipsis => true
  | .int n => n != 0
  | .float x => x != 0.0
  | .complex re im => re != 0.0 || im != 0.0
  | .text s => s != ""
  | .bytes b => !b.isEmpty
  | .tuple values => !values.isEmpty

/-- Whether a value is the only one that is written as it is, so that it may be told apart by
identity. -/
def Value.isSingle : Value → Bool
  | .none | .bool _ | .ellipsis => true
  | _ => false

def Value.int? : Value → Option Int
  | .int n => some n
  | .bool b => some (if b then 1 else 0)
  | _ => Option.none

def floatOfInt? (n : Int) : Option Float :=
  let x := Float.ofInt n
  if x.isInf then Option.none else some x

def Value.parts? (v : Value) : Option (Float × Float) :=
  match v with
  | .float x => some (x, 0.0)
  | .complex re im => some (re, im)
  | v => v.int?.bind fun n => (floatOfInt? n).map (·, 0.0)

def Value.isSameKey : Value → Value → Bool
  | .none, .none => true
  | .text s, .text t => s == t
  | .bytes a, .bytes b => a == b
  | v, w =>
    match v.int?, w.int? with
    | some m, some n => m == n
    | _, _ =>
      match v.parts?, w.parts? with
      | some (a, b), some (c, d) => a == c && b == d
      | _, _ => false

def quotedByte (quote : Char) (b : UInt8) : List Char :=
  let c := Char.ofNat b.toNat
  if b < 0x80 then quotedChar quote c else '\\' :: 'x' :: hexDigits 2 b.toNat

def quotedBytes (b : Bytes) : String :=
  let quote := quoteFor (b.map fun x => Char.ofNat x.toNat)
  String.ofList ('b' :: quote :: b.flatMap (quotedByte quote) ++ [quote])

def shownPart (x : Float) : String :=
  let s := Json.shownFloat x.toBits
  if endsWith s ".0" then String.ofList (s.toList.take (s.length - 2)) else s

def Value.shown : Value → String
  | .none => "None"
  | .bool b => if b then "True" else "False"
  | .ellipsis => "Ellipsis"
  | .int n => toString n
  | .float x => Json.shownFloat x.toBits
  | .complex re im =>
    if re.toBits == 0 then shownPart im ++ "j"
    else
      let sign := if startsWith (shownPart im) "-" then "" else "+"
      "(" ++ shownPart re ++ sign ++ shownPart im ++ "j)"
  | .text s => quoted s
  | .bytes b => quotedBytes b
  | .tuple _ => "()"

end PluginBuild.Code
