/-!
# Percent signs

A byte may be written as a percent sign and two hexadecimal digits. Each part of an address has a
set of characters that are always written so; characters outside of ASCII are in every set.
-/

namespace Caddyfile.Uri

/-! ## Writing -/

def isControl (c : Char) : Bool :=
  c < ' ' || c = '\x7f'

def inFragment (c : Char) : Bool :=
  isControl c || c = ' ' || c = '"' || c = '<' || c = '>' || c = '\x60'

def inPath (c : Char) : Bool :=
  inFragment c || c = '#' || c = '?' || c = '{' || c = '}'

def inUser (c : Char) : Bool :=
  inPath c || c = '/' || c = ':' || c = ';' || c = '=' || c = '@' || c = '[' || c = '\\' || c = ']'
    || c = '^' || c = '|'

def inQuery (c : Char) : Bool :=
  isControl c || c = ' ' || c = '"' || c = '#' || c = '<' || c = '>'

/-- Queries of the web's own schemes also escape the apostrophe. -/
def inWebQuery (c : Char) : Bool :=
  inQuery c || c = '\''

def hexDigit (n : Nat) : Char :=
  Char.ofNat (if n < 10 then '0'.toNat + n else 'A'.toNat + (n - 10))

def escapeByte (b : UInt8) : List Char :=
  ['%', hexDigit (b.toNat / 16), hexDigit (b.toNat % 16)]

def escape (inSet : Char → Bool) (cs : List Char) : List Char :=
  cs.flatMap fun c =>
    if c.toNat < 0x80 && !inSet c then [c] else (String.utf8EncodeChar c).flatMap escapeByte

/-! ## Reading -/

def hexValue? (b : UInt8) : Option UInt8 :=
  if 48 ≤ b && b ≤ 57 then some (b - 48)
  else if 65 ≤ b && b ≤ 70 then some (b - 55)
  else if 97 ≤ b && b ≤ 102 then some (b - 87)
  else none

/-- Replaces each escape by its byte. A percent sign that begins no escape stands for itself. -/
def unescape : List UInt8 → List UInt8
  | [] => []
  | [b] => [b]
  | [b, c] => [b, c]
  | b :: c :: d :: bs =>
    match hexValue? c, hexValue? d with
    | some high, some low =>
      if b = 37 then (16 * high + low) :: unescape bs else b :: unescape (c :: d :: bs)
    | _, _ => b :: unescape (c :: d :: bs)

end Caddyfile.Uri
