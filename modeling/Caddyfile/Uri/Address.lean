import Caddyfile.Text.Numeral
import Caddyfile.Uri.Problem

/-!
# Numbers as hosts

A host may be a number of 32 bits in one to four parts, or a number of 128 bits in eight pieces of
which a run of zeros may be left out.
-/

namespace Caddyfile.Uri

open Text (numeral?)

def splitAt (isSeparator : Char → Bool) : List Char → List (List Char)
  | [] => [[]]
  | c :: cs =>
    match splitAt isSeparator cs with
    | [] => [[]]
    | part :: parts => if isSeparator c then [] :: part :: parts else (c :: part) :: parts

/-! ## Four parts -/

/-- A part may be written in base sixteen behind `0x` and in base eight behind `0`. -/
def ipv4Part? : List Char → Option Nat
  | [] => none
  | '0' :: 'x' :: cs | '0' :: 'X' :: cs => numeral? 16 cs
  | '0' :: c :: cs => numeral? 8 (c :: cs)
  | cs => numeral? 10 cs

/-- A host whose last part is a number must be a number as a whole. One point may stand behind the
last part. -/
def endsInNumber (host : List Char) : Bool :=
  let parts := splitAt (· = '.') host
  let last := match parts.reverse with
    | [] :: before :: _ => before
    | last :: _ => last
    | [] => []
  (!last.isEmpty && last.all Char.isDigit) || (ipv4Part? last).isSome

/-- The last part fills the bytes that the parts before it leave. -/
def ipv4OfParts? (parts : List Nat) : Option Nat := do
  let last ← parts.getLast?
  let front := parts.dropLast
  guard (front.length ≤ 3 && front.all (· ≤ 255) && last < 1 <<< (8 * (4 - front.length)))
  return front.foldl (fun n part => 256 * n + part) 0 <<< (8 * (4 - front.length)) + last

def readIpv4 (host : List Char) : Except Problem Nat :=
  let parts := splitAt (· = '.') host
  let parts := if parts.getLast? = some [] then parts.dropLast else parts
  match (parts.mapM ipv4Part?).bind ipv4OfParts? with
  | some n => .ok n
  | none => .error .badIpv4

def writeIpv4 (n : Nat) : String :=
  ".".intercalate ([3, 2, 1, 0].map fun i => toString (n >>> (8 * i) % 256))

/-! ## Eight pieces -/

def ipv6Piece? (cs : List Char) : Option Nat :=
  if cs.isEmpty || 4 < cs.length then none else numeral? 16 cs

def ipv4Byte? (cs : List Char) : Option Nat :=
  if cs.isEmpty || 3 < cs.length || (cs.head? = some '0' && 1 < cs.length) then none
  else (numeral? 10 cs).filter (· ≤ 255)

/-- The last two pieces may be written as four bytes. -/
def ipv6Tail? (cs : List Char) : Option (List Nat) :=
  match (splitAt (· = '.') cs).mapM ipv4Byte? with
  | some [a, b, c, d] => some [256 * a + b, 256 * c + d]
  | _ => (ipv6Piece? cs).map fun n => [n]

def ipv6Pieces? (isLast : Bool) (cs : List Char) : Option (List Nat) :=
  if cs.isEmpty then some []
  else
    let parts := splitAt (· = ':') cs
    match parts.getLast? with
    | none => none
    | some last => do
      let front ← parts.dropLast.mapM ipv6Piece?
      let tail ← if isLast then ipv6Tail? last else (ipv6Piece? last).map fun n => [n]
      return front ++ tail

def splitGap : List Char → Option (List Char × List Char)
  | ':' :: ':' :: cs => some ([], cs)
  | c :: cs => (splitGap cs).map fun (front, back) => (c :: front, back)
  | [] => none

def ipv6? (cs : List Char) : Option (List Nat) :=
  match splitGap cs with
  | none => do
    let pieces ← ipv6Pieces? true cs
    guard (pieces.length = 8)
    return pieces
  | some (front, back) => do
    let front ← ipv6Pieces? false front
    let back ← ipv6Pieces? true back
    guard (front.length + back.length < 8)
    return front ++ List.replicate (8 - front.length - back.length) 0 ++ back

def readIpv6 (cs : List Char) : Except Problem (List Nat) :=
  match ipv6? cs with
  | some pieces => .ok pieces
  | none => .error .badIpv6

def zeros (pieces : List Nat) : Nat :=
  (pieces.takeWhile (· = 0)).length

def longestGap (pieces : List Nat) : Nat × Nat :=
  (List.range pieces.length).foldl (fun best i =>
    let n := zeros (pieces.drop i)
    if best.2 < n then (i, n) else best) (0, 0)

def writePieces (pieces : List Nat) : String :=
  ":".intercalate (pieces.map fun n => String.ofList (Nat.toDigits 16 n))

/-- The first of the longest runs of at least two zeros is left out. -/
def writeIpv6 (pieces : List Nat) : String :=
  let (start, n) := longestGap pieces
  if n < 2 then writePieces pieces
  else writePieces (pieces.take start) ++ "::" ++ writePieces (pieces.drop (start + n))

end Caddyfile.Uri
