import Caddyfile.Json
import Caddyfile.Text.Numeral

/-!
# Reading JSON

`Json.parse` reads one value with blanks around it and refuses anything else. Strings are read in
two steps: first into code units, where an escape gives one unit, then into characters, where two
surrogate units make one character.
-/

namespace Caddyfile.Json

def skipBlanks (cs : List Char) : List Char :=
  cs.dropWhile fun c => c = ' ' || c = '\t' || c = '\n' || c = '\r'

/-! ## Strings -/

def shortEscape? (c : Char) : Option Char :=
  match c with
  | '"' | '\\' | '/' => some c
  | 'b' => some '\x08'
  | 'f' => some '\x0c'
  | 'n' => some '\n'
  | 'r' => some '\r'
  | 't' => some '\t'
  | _ => none

def readUnits : List Char → Option (List Nat × List Char)
  | [] => none
  | '"' :: cs => some ([], cs)
  | '\\' :: 'u' :: a :: b :: c :: d :: cs => do
    let unit ← Text.numeral? 16 [a, b, c, d]
    let (units, rest) ← readUnits cs
    return (unit :: units, rest)
  | '\\' :: e :: cs => do
    let c ← shortEscape? e
    let (units, rest) ← readUnits cs
    return (c.toNat :: units, rest)
  | c :: cs =>
    if c = '\\' || c < ' ' then none
    else do
      let (units, rest) ← readUnits cs
      return (c.toNat :: units, rest)

/-- Characters from code units. A surrogate unit without its partner is refused. -/
def joinUnits : List Nat → Option (List Char)
  | [] => some []
  | [u] => if 0xD800 ≤ u ∧ u < 0xE000 then none else some [Char.ofNat u]
  | u :: v :: units =>
    if 0xD800 ≤ u ∧ u < 0xDC00 then
      if 0xDC00 ≤ v ∧ v < 0xE000 then
        (joinUnits units).map (Char.ofNat (0x10000 + (u - 0xD800) * 0x400 + (v - 0xDC00)) :: ·)
      else none
    else if 0xDC00 ≤ u ∧ u < 0xE000 then none
    else (joinUnits (v :: units)).map (Char.ofNat u :: ·)

/-- The string whose opening quote has just been read. -/
def readString (cs : List Char) : Option (String × List Char) := do
  let (units, rest) ← readUnits cs
  let chars ← joinUnits units
  return (String.ofList chars, rest)

/-! ## Numbers -/

def digitsValue (digits : List Char) : Nat :=
  digits.foldl (fun n c => 10 * n + (c.toNat - '0'.toNat)) 0

def isWholePart (digits : List Char) : Bool :=
  digits ≠ [] && (digits.head? ≠ some '0' || digits.length = 1)

def readFraction : List Char → Option (List Char × List Char)
  | '.' :: cs =>
    let digits := cs.takeWhile Char.isDigit
    if digits.isEmpty then none else some (digits, cs.dropWhile Char.isDigit)
  | cs => some ([], cs)

def readExponent : List Char → Option (Int × List Char)
  | [] => some (0, [])
  | e :: cs =>
    if e = 'e' || e = 'E' then
      let (negative, body) := match cs with
        | '-' :: ds => (true, ds)
        | '+' :: ds => (false, ds)
        | ds => (false, ds)
      let digits := body.takeWhile Char.isDigit
      let n : Int := digitsValue digits
      if digits.isEmpty then none
      else some (if negative then -n else n, body.dropWhile Char.isDigit)
    else some (0, e :: cs)

/-- A number that is too large for a binary number of the usual size is refused. -/
def ofDecimal? (d : Decimal) : Option Json :=
  d.binary?.map fun _ => decimal d

def isWhole (n : Int) : Bool :=
  Int64.minValue.toInt ≤ n && n < UInt64.size

def readNumber (cs : List Char) : Option (Json × List Char) := do
  let negative := cs.head? = some '-'
  let body := if negative then cs.drop 1 else cs
  let digits := body.takeWhile Char.isDigit
  guard (isWholePart digits)
  let afterWhole := body.dropWhile Char.isDigit
  let (fraction, afterFraction) ← readFraction afterWhole
  let (exponent, rest) ← readExponent afterFraction
  let n := digitsValue digits
  -- Nothing was read behind the whole part exactly if the rest is as long as it was.
  if rest.length = afterWhole.length && !(negative && n = 0) && isWhole (if negative then -n else n)
  then return (whole (if negative then -n else n), rest)
  else
    let number ← ofDecimal? ⟨negative, digitsValue (digits ++ fraction), exponent - fraction.length⟩
    return (number, rest)

/-! ## Values -/

def dropWord (word : String) (cs : List Char) : Option (List Char) :=
  if word.toList.isPrefixOf cs then some (cs.drop word.length) else none

mutual

/-- Reads one value. Arrays and objects may be nested up to the depth; the bound limits how often
the three readers call each other. -/
def readValue (depth : Nat) : Nat → List Char → Option (Json × List Char)
  | 0, _ => none
  | bound + 1, cs =>
    match skipBlanks cs with
    | '"' :: rest => (readString rest).map fun (s, rest) => (string s, rest)
    | '[' :: rest =>
      if depth = 0 then none
      else
        match skipBlanks rest with
        | ']' :: rest => some (array [], rest)
        | rest => (readItems (depth - 1) bound rest).map fun (items, rest) => (array items, rest)
    | '{' :: rest =>
      if depth = 0 then none
      else
        match skipBlanks rest with
        | '}' :: rest => some (object [], rest)
        | rest =>
          (readFields (depth - 1) bound rest).map fun (fields, rest) => (object fields, rest)
    | cs =>
      (dropWord "null" cs).map (null, ·)
        <|> (dropWord "true" cs).map (bool true, ·)
        <|> (dropWord "false" cs).map (bool false, ·)
        <|> readNumber cs

def readItems (depth : Nat) : Nat → List Char → Option (List Json × List Char)
  | 0, _ => none
  | bound + 1, cs => do
    let (item, rest) ← readValue depth bound cs
    match skipBlanks rest with
    | ',' :: rest =>
      let (items, rest) ← readItems depth bound rest
      return (item :: items, rest)
    | ']' :: rest => return ([item], rest)
    | _ => none

def readFields (depth : Nat) : Nat → List Char → Option (List (String × Json) × List Char)
  | 0, _ => none
  | bound + 1, cs =>
    match skipBlanks cs with
    | '"' :: rest => do
      let (key, rest) ← readString rest
      match skipBlanks rest with
      | ':' :: rest =>
        let (item, rest) ← readValue depth bound rest
        match skipBlanks rest with
        | ',' :: rest =>
          let (fields, rest) ← readFields depth bound rest
          return ((key, item) :: fields, rest)
        | '}' :: rest => return ([(key, item)], rest)
        | _ => none
      | _ => none
    | _ => none

end

def maxDepth : Nat := 127

/-- Reads one value and gives the text behind it. Each pair of nested calls reads at least one
character, so twice the length of the text is a bound that no text exceeds. -/
def readFirst (cs : List Char) : Option (Json × List Char) :=
  readValue maxDepth (2 * cs.length + 2) cs

def parse (text : String) : Option Json := do
  let (value, rest) ← readFirst text.toList
  guard (skipBlanks rest).isEmpty
  return value

end Caddyfile.Json
