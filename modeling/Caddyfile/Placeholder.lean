/-!
# Braces of placeholders

A word may hold placeholders, which are written in braces and resolved at run time. `balance` says
whether the braces of a word pair up; a brace right after a backslash does not count.
-/

namespace Caddyfile.Placeholder

inductive Balance where
  | balanced
  | unclosed
  | unmatched
deriving DecidableEq, Repr

/-- The balance of a text that `depth` open braces precede; `escaped` says that a backslash does. -/
def balanceFrom : Nat → Bool → List Char → Balance
  | depth, _, [] => if depth = 0 then .balanced else .unclosed
  | depth, escaped, c :: cs =>
    if c = '{' && !escaped then balanceFrom (depth + 1) false cs
    else if c = '}' && !escaped then
      match depth with
      | 0 => .unmatched
      | depth + 1 => balanceFrom depth false cs
    else balanceFrom depth (c = '\\') cs

def balance (text : String) : Balance :=
  balanceFrom 0 false text.toList

end Caddyfile.Placeholder
