import Caddyfile.Text.CharClass

/-!
# Foreign letters in plain ones

A label with letters beyond ASCII is written in two parts with a hyphen between them. The first
holds its ASCII characters. The second says where the others go. They come by ascending code point,
and each is one number: the count of places that were passed over since the last one, where passing
the end of the label means the next code point. A number is written with its lowest digit first, in
base 36, but the weights of the digits depend on the numbers before it.
-/

namespace Caddyfile.Uri.Domain.Punycode

def base : Nat := 36

/-- The least digit that another digit follows, for the digit at place `k`, counted in steps of the
base. -/
def threshold (bias k : Nat) : Nat :=
  min (max (k - bias) 1) 26

theorem threshold_pos (bias k : Nat) : 0 < threshold bias k := by
  simp only [threshold]
  omega

def firstBias : Nat := 72

/-- Divides a number until it is small. The bias grows by the base with each division, and in the end
by a share of the base that grows with what is left. -/
def scale (n k : Nat) : Nat :=
  if h : 455 < n then scale (n / 35) (k + base)
  else k + base * n / (n + 38)
termination_by n
decreasing_by omega

/-- The bias behind the number `n`, with which the label has `count` letters: the next number is
expected to be smaller. The first one says little about the others. -/
def adapt (n count : Nat) (isFirst : Bool) : Nat :=
  let n := if isFirst then n / 700 else n / 2
  scale (n + n / count) 0

def digitChar (d : Nat) : Char :=
  Char.ofNat (if d < 26 then 'a'.toNat + d else '0'.toNat + (d - 26))

def digitValue? (c : Char) : Option Nat :=
  if c.isLower then some (c.toNat - 'a'.toNat)
  else if c.isDigit then some (c.toNat - '0'.toNat + 26)
  else none

def isAscii (c : Char) : Bool :=
  c.toNat < 0x80

def firstCode : Nat := 0x80

/-! ## Reading -/

structure Reader where
  label : List Char
  code : Nat := firstCode
  bias : Nat := firstBias
  place : Nat := 0
  /-- The number so far, counted from the beginning of the label. -/
  value : Nat := 0
  weight : Nat := 1
  k : Nat := base

def limit : Nat := UInt32.size

def Reader.insert? (r : Reader) (value : Nat) : Option Reader :=
  let count := r.label.length + 1
  let code := r.code + value / count
  let place := value % count
  if code.isValidChar then
    some {
      label := r.label.take place ++ Char.ofNat code :: r.label.drop place
      code
      bias := adapt (value - r.place) count (r.place = 0)
      place := place + 1
      value := place + 1 }
  else none

def Reader.step? (r : Reader) (c : Char) : Option Reader := do
  let digit ← digitValue? c
  let value := r.value + digit * r.weight
  let t := threshold r.bias r.k
  if limit ≤ value then none
  else if digit < t then r.insert? value
  else
    let weight := r.weight * (base - t)
    if limit ≤ weight then none else some { r with value, weight, k := r.k + base }

def halves (cs : List Char) : List Char × List Char :=
  let digits := (cs.reverse.takeWhile (· ≠ '-')).reverse
  let plain := cs.take (cs.length - digits.length - 1)
  if plain.isEmpty then ([], cs) else (plain, digits)

def decode? (cs : List Char) : Option (List Char) := do
  let (label, digits) := halves cs
  if label.all isAscii then
    let r ← digits.foldlM Reader.step? { label }
    if r.k = base then some r.label else none
  else none

/-! ## Writing -/

def digits (bias k n : Nat) : List Char :=
  let t := threshold bias k
  if n < t then [digitChar n]
  else digitChar (t + (n - t) % (base - t)) :: digits bias (k + base) ((n - t) / (base - t))
termination_by n
decreasing_by
  have := threshold_pos bias k
  have := Nat.div_le_self (n - threshold bias k) (base - threshold bias k)
  omega

structure Writer where
  digits : List Char := []
  /-- The places that were passed over since the last letter. -/
  passed : Nat := 0
  bias : Nat := firstBias
  plain : Nat
  /-- How many letters have been written, of either kind. -/
  count : Nat := plain

def Writer.meet (code : Nat) (w : Writer) (c : Char) : Writer :=
  if c.toNat < code then { w with passed := w.passed + 1 }
  else if c.toNat = code then
    { digits := w.digits ++ Punycode.digits w.bias base w.passed
      bias := adapt w.passed (w.count + 1) (w.count = w.plain)
      plain := w.plain
      count := w.count + 1 }
  else w

/-- Writes the letters of the given code points, which ascend, where `next` is the first one that
has not been looked at. -/
def Writer.writeCodes (label : List Char) (next : Nat) (w : Writer) : List Nat → Writer
  | [] => w
  | code :: codes =>
    let w := { w with passed := w.passed + (code - next) * (w.count + 1) }
    let w := label.foldl (Writer.meet code) w
    Writer.writeCodes label (code + 1) { w with passed := w.passed + 1 } codes

def encode (label : List Char) : List Char :=
  let plain := label.filter isAscii
  let codes := ((label.filter (!isAscii ·)).map Char.toNat).mergeSort.eraseDups
  let w := Writer.writeCodes label firstCode { plain := plain.length } codes
  (if plain.isEmpty then [] else plain ++ ['-']) ++ w.digits

end Caddyfile.Uri.Domain.Punycode
