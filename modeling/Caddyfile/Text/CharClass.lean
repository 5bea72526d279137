import Caddyfile.Sorted

/-!
# Classes of characters

A class is kept as the ascending list of the code points where membership changes: the first one is
in, from the second on characters are out, and so on. A character belongs to the class if an odd
number of changes lies at or below it.
-/

namespace Caddyfile

structure CharClass where
  changes : Array Nat

namespace CharClass

def contains (k : CharClass) (c : Char) : Bool :=
  Sorted.count (· ≤ c.toNat) k.changes % 2 = 1

end CharClass

/-- Blank characters in the sense of Unicode's White_Space. -/
def CharClass.blank : CharClass where
  changes := #[
  0x9, 0xE, 0x20, 0x21, 0x85, 0x86, 0xA0, 0xA1, 0x1680, 0x1681, 0x2000, 0x200B, 0x2028, 0x202A,
  0x202F, 0x2030, 0x205F, 0x2060, 0x3000, 0x3001]

namespace Text

def trimStart (cs : List Char) : List Char :=
  cs.dropWhile CharClass.blank.contains

def trim (cs : List Char) : List Char :=
  (trimStart (trimStart cs).reverse).reverse

end Text

end Caddyfile
