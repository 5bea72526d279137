import Caddyfile.Token.Scanner

/-!
# Tokens grouped by their braces

`Forest.ofTokens` pairs each opening brace with the brace that closes it, as a stack would. A block
that nothing closes holds everything up to the end of the text. A closing brace with nothing to
close splits the text: the tokens before it and those after it are grouped on their own.
-/

namespace Caddyfile

inductive Forest where
  | nil
  | word (token : Token) (rest : Forest)
  | block (opener : Token) (inside : Forest) (closer : Option Token) (rest : Forest)
deriving DecidableEq, Repr

namespace Forest

/-- A grouped text: the tokens before the first stray closing brace, then each stray closing brace
with the tokens after it. -/
structure Split where
  first : Forest
  later : List (Token × Forest)
deriving DecidableEq, Repr

/-- Puts one token in front of a grouped text. An opening brace takes what stands before the first
stray closing brace, which is then no longer stray. -/
def Split.cons (t : Token) (s : Split) : Split :=
  match t.kind with
  | .bare | .quoted => ⟨word t s.first, s.later⟩
  | .closing => ⟨nil, (t, s.first) :: s.later⟩
  | .opening =>
    match s.later with
    | [] => ⟨block t s.first none nil, []⟩
    | (closer, rest) :: later => ⟨block t s.first (some closer) rest, later⟩
  | .finish => s

def ofTokens (ts : List Token) : Split :=
  ts.foldr Split.cons ⟨nil, []⟩

end Forest

end Caddyfile
