/-!
# Searching sorted arrays

`Sorted.count p xs` finds by bisection how many entries satisfy `p`, provided that those which do
stand in front of those which do not. Membership and lookup in an ascending table follow from it.
-/

namespace Caddyfile.Sorted

variable {κ α : Type}

/-- Bisects between `lo` and `hi`. Everything before `lo` satisfies `p`, and nothing from `hi` on
does. -/
def countFrom (p : α → Bool) (xs : Array α) (lo hi : Nat) : Nat :=
  if lo < hi then
    let mid := lo + (hi - lo) / 2
    match xs[mid]? with
    | some x => if p x then countFrom p xs (mid + 1) hi else countFrom p xs lo mid
    | none => lo
  else lo
termination_by hi - lo

def count (p : α → Bool) (xs : Array α) : Nat :=
  countFrom p xs 0 xs.size

def contains (names : Array String) (name : String) : Bool :=
  names[count (· < name) names]? = some name

def lookup [LT κ] [DecidableLT κ] [DecidableEq κ] (table : Array (κ × α)) (key : κ) : Option α :=
  (table[count (·.1 < key) table]?).bind fun entry =>
    if entry.1 = key then some entry.2 else none

end Caddyfile.Sorted
