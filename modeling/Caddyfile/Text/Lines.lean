/-!
# Lines of a text

A line ends with a line feed. `lines` cuts the line feeds out, so that a text always has one line
more than it has line feeds; `pieces` keeps each line feed with its line, and nothing follows the
last one.
-/

namespace Caddyfile.Text

def lines : List Char → List (List Char)
  | [] => [[]]
  | c :: cs => if c = '\n' then [] :: lines cs else (lines cs).modifyHead (c :: ·)

def pieces : List Char → List (List Char)
  | [] => []
  | c :: cs =>
    if c = '\n' then [c] :: pieces cs
    else
      match pieces cs with
      | [] => [[c]]
      | piece :: rest => (c :: piece) :: rest

def dropEnd (c : Char) (cs : List Char) : List Char :=
  if cs.getLast? = some c then cs.dropLast else cs

def dropLineEnd (piece : List Char) : List Char :=
  if piece.getLast? = some '\n' then dropEnd '\r' piece.dropLast else piece

end Caddyfile.Text
