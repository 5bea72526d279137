/-!
# Numerals

Whole numbers written in digits. Letters of either case serve as digits above nine.
-/

namespace Caddyfile.Text

def digit? (base : Nat) (c : Char) : Option Nat :=
  let n :=
    if c.isDigit then some (c.toNat - '0'.toNat)
    else if c.isLower then some (c.toNat - 'a'.toNat + 10)
    else if c.isUpper then some (c.toNat - 'A'.toNat + 10)
    else none
  n.filter (· < base)

def numeral? (base : Nat) (cs : List Char) : Option Nat :=
  cs.foldlM (fun n c => (digit? base c).map (base * n + ·)) 0

/-- At least one decimal digit, and perhaps a plus sign before it. -/
def number? (cs : List Char) : Option Nat :=
  let digits := if cs.head? = some '+' then cs.drop 1 else cs
  if digits.isEmpty then none else numeral? 10 digits

end Caddyfile.Text
