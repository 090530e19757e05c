import PluginBuild.Code.Value
import PluginBuild.Decimal.Nearest

/-!
Operators on known values. An operator has no result where it would fail when the script runs, and
where its result would be too large to be worth keeping: integers above 128 bits, texts above 4096
characters, tuples above 256 items.
-/

namespace PluginBuild.Code

open PluginBuild.Script PluginBuild.Text

def maxBits : Nat := 128

def maxTextLength : Nat := 4096

def maxItems : Nat := 256

/-- How many items a repeated tuple may get, those of the tuples in it included. -/
def maxNestedItems : Nat := 1024

def bitCount (n : Int) : Nat := if n = 0 then 0 else Nat.log2 n.natAbs + 1

/-- An operator on numbers: two integers, two floating-point numbers or two complex ones. The wider
type decides. -/
def onNumbers (ints : Int → Int → Option Value) (floats : Float → Float → Option Value)
    (complexes : Float × Float → Float × Float → Option Value) (v w : Value) : Option Value :=
  match v.int?, w.int? with
  | some m, some n => ints m n
  | _, _ => do
    let (a, b) ← v.parts?
    let (c, d) ← w.parts?
    match v, w with
    | .complex _ _, _ | _, .complex _ _ => complexes (a, b) (c, d)
    | _, _ => floats a c

def add? : Value → Value → Option Value
  | .text s, .text t => some (.text (s ++ t))
  | .bytes a, .bytes b => some (.bytes (a ++ b))
  | .tuple a, .tuple b => some (.tuple (a ++ b))
  | v, w => onNumbers (fun m n => some (.int (m + n))) (fun x y => some (.float (x + y)))
      (fun (a, b) (c, d) => some (.complex (a + c) (b + d))) v w

def sub? : Value → Value → Option Value :=
  onNumbers (fun m n => some (.int (m - n))) (fun x y => some (.float (x - y)))
    (fun (a, b) (c, d) => some (.complex (a - c) (b - d)))

mutual

def Value.itemCount : Value → Nat
  | .tuple values => itemCounts values
  | _ => 0

def itemCounts : List Value → Nat
  | [] => 0
  | v :: rest => 1 + v.itemCount + itemCounts rest

end

def repeated? {α : Type} (limit : Nat) (count : Int) (items : List α) : Option (List α) :=
  if items.isEmpty then some []
  else if 0 ≤ count ∧ count.toNat ≤ limit / items.length then
    some (List.replicate count.toNat items).flatten
  else none

def repeat? (count : Int) : Value → Option Value
  | .text s => (repeated? maxTextLength count s.toList).map fun cs => .text (String.ofList cs)
  | .bytes b => (repeated? maxTextLength count b).map .bytes
  | .tuple values => do
    let items ← repeated? maxItems count values
    if count * (Value.tuple values).itemCount ≤ maxNestedItems then some (.tuple items) else none
  | _ => none

def mult? (v w : Value) : Option Value :=
  match v, w with
  | .text _, _ | .bytes _, _ | .tuple _, _ => w.int?.bind (repeat? · v)
  | _, .text _ | _, .bytes _ | _, .tuple _ => v.int?.bind (repeat? · w)
  | _, _ =>
    onNumbers
      (fun m n => if bitCount m + bitCount n ≤ maxBits ∨ m = 0 ∨ n = 0 then some (.int (m * n)) else none)
      (fun x y => some (.float (x * y)))
      (fun (a, b) (c, d) => some (.complex (a * c - b * d) (a * d + b * c))) v w

def quotient? (m n : Int) : Option Float :=
  let x := Float.ofBits (Decimal.nearestBits m.natAbs n.natAbs)
  if n = 0 ∨ x.isInf then none else some (if (m < 0) = (n < 0) then x else -x)

def div? : Value → Value → Option Value :=
  onNumbers (fun m n => (quotient? m n).map .float)
    (fun x y => if y == 0.0 then none else some (.float (x / y)))
    (fun (a, b) (c, d) =>
      let size := c * c + d * d
      if size == 0.0 then none
      else some (.complex ((a * c + b * d) / size) ((b * c - a * d) / size)))

def floorDiv? : Value → Value → Option Value :=
  onNumbers (fun m n => if n = 0 then none else some (.int (Int.fdiv m n)))
    (fun x y => if y == 0.0 then none else some (.float (x / y).floor)) (fun _ _ => none)

/-- Texts and bytes are not formatted ahead of time. -/
def mod? : Value → Value → Option Value :=
  onNumbers (fun m n => if n = 0 then none else some (.int (Int.fmod m n)))
    (fun x y => if y == 0.0 then none else some (.float (x - (x / y).floor * y))) (fun _ _ => none)

def complexPow? (a b c d : Float) : Option Value :=
  if c == 0.0 && d == 0.0 then some (.complex 1.0 0.0)
  else if a == 0.0 && b == 0.0 then
    if d != 0.0 || c < 0.0 then none else some (.complex 0.0 0.0)
  else
    let size := Float.sqrt (a * a + b * b)
    let angle := Float.atan2 b a
    let length := Float.pow size c * Float.exp (-d * angle)
    let turn := angle * c + d * Float.log size
    let re := length * Float.cos turn
    let im := length * Float.sin turn
    if re.isInf || im.isInf then none else some (.complex re im)

/-- Powers of floating-point numbers. A negative base has a complex power for an exponent that is
no integer. -/
def floatPow? (x y : Float) : Option Value :=
  if x == 0.0 && y < 0.0 then none
  else if x < 0.0 && y.floor != y then complexPow? x 0.0 y 0.0
  else
    let z := Float.pow x y
    if z.isInf && !x.isInf && !y.isInf then none else some (.float z)

def pow? : Value → Value → Option Value :=
  onNumbers
    (fun m n =>
      if n < 0 then do floatPow? (← floatOfInt? m) (← floatOfInt? n)
      else if n = 0 then some (.int 1)
      else if m = 0 then some (.int 0)
      else if bitCount m ≤ maxBits / n.toNat then some (.int (Int.pow m n.toNat))
      else none)
    floatPow? (fun (a, b) (c, d) => complexPow? a b c d)

def onInts (f : Int → Int → Option Int) (v w : Value) : Option Value := do
  (← f (← v.int?) (← w.int?)) |> Value.int |> some

def lShift? : Value → Value → Option Value :=
  onInts fun m n =>
    if n < 0 then none
    else if m = 0 then some 0
    else if bitCount m + n.toNat ≤ maxBits then some (m * Int.pow 2 n.toNat)
    else none

def rShift? : Value → Value → Option Value :=
  onInts fun m n =>
    if n < 0 then none
    else if bitCount m < n.toNat then some (if m < 0 then -1 else 0)
    else some (Int.fdiv m (Int.pow 2 n.toNat))

def onBits (f : Nat → Nat → Nat) (m n : Int) : Int :=
  let width := max (bitCount m) (bitCount n) + 1
  let size := Int.pow 2 width
  let r : Int := f (m % size).toNat (n % size).toNat
  if Int.pow 2 (width - 1) ≤ r then r - size else r

def bitwise? (f : Nat → Nat → Nat) (v w : Value) : Option Value := do
  let r := onBits f (← v.int?) (← w.int?)
  match v, w with
  | .bool _, .bool _ => some (.bool (r != 0))
  | _, _ => some (.int r)

def binary? (op : BinaryOp) (v w : Value) : Option Value :=
  match op with
  | .add => add? v w
  | .sub => sub? v w
  | .mult => mult? v w
  | .div => div? v w
  | .floorDiv => floorDiv? v w
  | .mod => mod? v w
  | .pow => pow? v w
  | .lShift => lShift? v w
  | .rShift => rShift? v w
  | .bitOr => bitwise? Nat.lor v w
  | .bitXor => bitwise? Nat.xor v w
  | .bitAnd => bitwise? Nat.land v w
  | .matMult => none

def unary? (op : UnaryOp) (v : Value) : Option Value :=
  match op with
  | .not => some (.bool !v.isTrue)
  | .invert => v.int?.map fun n => .int (-n - 1)
  | .plus | .minus =>
    let isMinus := op == .minus
    match v with
    | .float x => some (.float (if isMinus then -x else x))
    | .complex re im => some (if isMinus then .complex (-re) (-im) else .complex re im)
    | v => v.int?.map fun n => .int (if isMinus then -n else n)

def item? {α : Type} (items : List α) (index : Int) : Option α :=
  if 0 ≤ index then items[index.toNat]?
  else if (-index).toNat ≤ items.length then items[items.length - (-index).toNat]?
  else none

def subscript? (v index : Value) : Option Value :=
  index.int?.bind fun i =>
    match v with
    | .text s => (item? s.toList i).map fun c => .text (String.singleton c)
    | .bytes b => (item? b i).map fun x => .int x.toNat
    | .tuple values => item? values i
    | _ => none

end PluginBuild.Code
