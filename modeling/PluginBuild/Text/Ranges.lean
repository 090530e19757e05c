/-!
Sets of code points as sorted tables. A table lists the code points at which membership changes,
so a code point is a member when an odd number of them lies at or below it.
-/

namespace PluginBuild.Text

/-- A set of code points by its change points: the first code point of a range, the first after
it, the first of the next range, and so on, in increasing order. -/
structure Ranges where
  changes : Array Nat

def Ranges.countUpTo (changes : Array Nat) (n lo hi : Nat) : Nat :=
  if h : lo < hi then
    let mid := (lo + hi) / 2
    if changes.getD mid 0 ≤ n then countUpTo changes n (mid + 1) hi
    else countUpTo changes n lo mid
  else lo
termination_by hi - lo

/-- Membership: the number of change points at or below `n` is odd. -/
def Ranges.contains (table : Ranges) (n : Nat) : Bool :=
  Ranges.countUpTo table.changes n 0 table.changes.size % 2 == 1

end PluginBuild.Text
