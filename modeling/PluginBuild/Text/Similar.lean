/-!
How alike two texts are. The longest stretch that stands in both is found, then the longest ones on
either side of it, and so on; the texts are alike when these stretches make up most of them.
-/

namespace PluginBuild.Text

def agreement : List Char → List Char → Nat
  | a :: as, b :: bs => if a = b then agreement as bs + 1 else 0
  | _, _ => 0

structure Stretch where
  first : Nat
  second : Nat
  length : Nat

/-- The longest stretch that stands in both texts; of several the one that begins earliest, in the
first text above all. -/
def longestStretch (a b : List Char) : Stretch :=
  (List.range a.length).foldl (fun best i =>
    (List.range b.length).foldl (fun best j =>
      let length := agreement (a.drop i) (b.drop j)
      if best.length < length then ⟨i, j, length⟩ else best) best) ⟨0, 0, 0⟩

def sharedCount : Nat → List Char → List Char → Nat
  | 0, _, _ => 0
  | n + 1, a, b =>
    let s := longestStretch a b
    if s.length = 0 then 0
    else
      sharedCount n (a.take s.first) (b.take s.second) + s.length
        + sharedCount n (a.drop (s.first + s.length)) (b.drop (s.second + s.length))

def likeness (a b : String) : Nat × Nat :=
  (2 * sharedCount a.length a.toList b.toList, a.length + b.length)

def isAtLeast (x y : Nat × Nat) : Bool := y.1 * x.2 ≤ x.1 * y.2

def minLikeness : Nat × Nat := (3, 5)

def maxAlike : Nat := 3

def alike (candidates : List String) (word : String) : List String :=
  let scored := (candidates.map fun c => (likeness c word, c)).filter (isAtLeast ·.1 minLikeness)
  let best := scored.mergeSort fun (x, c) (y, d) =>
    isAtLeast x y && (!isAtLeast y x || d ≤ c)
  ((best.take maxAlike).map (·.2)).mergeSort fun a b => a ≤ b

end PluginBuild.Text
