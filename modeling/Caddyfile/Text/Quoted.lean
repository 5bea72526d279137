import Caddyfile.Text.Invisible

/-!
# Quoted names in messages

Messages show a name between double quotes. Quotes and backslashes in it are escaped, and so is
every character that could not be seen, the common ones by a letter and the others by their code
point in hexadecimal.
-/

namespace Caddyfile.Text

def escape (c : Char) : List Char :=
  match c with
  | '"' => ['\\', '"']
  | '\\' => ['\\', '\\']
  | '\t' => ['\\', 't']
  | '\n' => ['\\', 'n']
  | '\r' => ['\\', 'r']
  | '\x00' => ['\\', '0']
  | c =>
    if CharClass.invisible.contains c then
      ['\\', 'u', '{'] ++ Nat.toDigits 16 c.toNat ++ ['}']
    else [c]

def quoted (s : String) : String :=
  "\"" ++ String.ofList (s.toList.flatMap escape) ++ "\""

end Caddyfile.Text
