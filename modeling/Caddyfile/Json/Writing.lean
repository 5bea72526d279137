import Caddyfile.Json

/-!
# Writing JSON

The compact form: no blanks, fields in order, and only quotes, backslashes and control characters
escaped.
-/

namespace Caddyfile.Json

def hexDigit (n : Nat) : Char :=
  Char.ofNat (if n < 10 then '0'.toNat + n else 'a'.toNat + (n - 10))

def escapeChar (c : Char) : List Char :=
  match c with
  | '"' => ['\\', '"']
  | '\\' => ['\\', '\\']
  | '\x08' => ['\\', 'b']
  | '\x0c' => ['\\', 'f']
  | '\n' => ['\\', 'n']
  | '\r' => ['\\', 'r']
  | '\t' => ['\\', 't']
  | c =>
    if c < ' ' then ['\\', 'u', '0', '0', hexDigit (c.toNat / 16), hexDigit (c.toNat % 16)]
    else [c]

def writeString (s : String) : String :=
  "\"" ++ String.ofList (s.toList.flatMap escapeChar) ++ "\""

mutual

def write : Json → String
  | null => "null"
  | bool true => "true"
  | bool false => "false"
  | whole n => toString n
  | decimal d => d.write
  | string s => writeString s
  | array items => "[" ++ writeItems items ++ "]"
  | object fields => "\x7b" ++ writeFields fields ++ "\x7d"

def writeItems : List Json → String
  | [] => ""
  | [item] => write item
  | item :: items => write item ++ "," ++ writeItems items

def writeFields : List (String × Json) → String
  | [] => ""
  | [(key, item)] => writeString key ++ ":" ++ write item
  | (key, item) :: fields => writeString key ++ ":" ++ write item ++ "," ++ writeFields fields

end

end Caddyfile.Json
