/-!
# Numbers with a fraction or an exponent

Such a number stands for the binary number with 53 digits that is nearest to it, and it is written
with the fewest decimal digits that stand for the same binary number.
-/

namespace Caddyfile

/-- `digits` times ten to the power `exponent`. -/
structure Decimal where
  negative : Bool
  digits : Nat
  exponent : Int
deriving DecidableEq, Repr

namespace Decimal

/-! ## The nearest binary number -/

/-- `significand` times two to the power `exponent`. -/
structure Binary where
  significand : Nat
  exponent : Int
deriving DecidableEq, Repr

/-- The whole number nearest to a quotient, the even one if two are as near. -/
def roundQuotient (n d : Nat) : Nat :=
  let low := n / d
  let rest := n % d
  if 2 * rest < d || (2 * rest = d && low % 2 = 0) then low else low + 1

/-- Rounds `n / d` to 53 binary digits, or fewer where the exponent would fall below the least. -/
def nearest (n d : Nat) : Binary :=
  let rough : Int := (n.log2 : Int) - d.log2 - 53
  let scaled := fun (e : Int) => (n <<< (-e).toNat, d <<< e.toNat)
  let exact := if (scaled rough).1 < (scaled rough).2 <<< 53 then rough else rough + 1
  let e := max exact (-1074)
  let m := roundQuotient (scaled e).1 (scaled e).2
  if m = 1 <<< 53 then ⟨1 <<< 52, e + 1⟩ else ⟨m, e⟩

def quotient (digits : Nat) (exponent : Int) : Nat × Nat :=
  (digits * Nat.pow 10 exponent.toNat, Nat.pow 10 (-exponent).toNat)

def width (n : Nat) : Nat :=
  (Nat.toDigits 10 n).length

/-- The binary number that `d` stands for; `none` if `d` is too large. The first two cases keep the
powers of ten small. -/
def binary? (d : Decimal) : Option Binary :=
  let order := d.exponent + width d.digits
  if d.digits = 0 || order < -330 then some ⟨0, -1074⟩
  else if 310 < order then none
  else
    let (n, m) := quotient d.digits d.exponent
    let b := nearest n m
    if 971 < b.exponent then none else some b

/-! ## The fewest digits -/

/-- The exponent `k` with `10 ^ (k - 1) ≤ n / d < 10 ^ k`, for `n / d` within the range of binary
numbers. -/
def order (n d : Nat) : Int :=
  if d ≤ n then width (n / d)
  else 1 - ((List.range 330).find? fun j => d ≤ n * Nat.pow 10 j).getD 330

/-- The decimal number with that many digits that stands for `b` and is nearest to it. -/
def withWidth? (b : Binary) (count : Nat) : Option (Nat × Int) :=
  let (n, d) := (b.significand <<< b.exponent.toNat, 1 <<< (-b.exponent).toNat)
  let s := order n d - count
  -- The binary number in units of ten to the power `s`.
  let (u, v) := (n * Nat.pow 10 (-s).toNat, d * Nat.pow 10 s.toNat)
  let readsBack := fun (c : Nat) =>
    let (n, d) := quotient c s
    decide (nearest n d = b)
  let low := u / v
  match readsBack low, readsBack (low + 1) with
  | true, true => some (if 2 * (u % v) ≤ v then low else low + 1, s)
  | true, false => some (low, s)
  | false, true => some (low + 1, s)
  | false, false => none

def shortest (b : Binary) : Nat × Int :=
  ((List.range 17).findSome? fun i => withWidth? b (i + 1)).getD (b.significand, b.exponent)

/-! ## Writing -/

def layout (digits : Nat) (exponent : Int) : String :=
  let ds := Nat.toDigits 10 digits
  let point := exponent + ds.length
  let zeros := fun (n : Int) => List.replicate n.toNat '0'
  if 0 ≤ exponent && point ≤ 16 then String.ofList (ds ++ zeros exponent ++ ['.', '0'])
  else if 0 < point && point ≤ 16 then
    String.ofList (ds.take point.toNat ++ ['.'] ++ ds.drop point.toNat)
  else if -5 < point && point ≤ 0 then String.ofList (['0', '.'] ++ zeros (-point) ++ ds)
  else
    let fraction := if ds.length = 1 then [] else '.' :: ds.drop 1
    String.ofList (ds.take 1 ++ fraction) ++ s!"e{point - 1}"

def write (d : Decimal) : String :=
  let sign := if d.negative then "-" else ""
  match d.binary? with
  | none => sign ++ "inf"
  | some b =>
    if b.significand = 0 then sign ++ "0.0"
    else
      let (digits, exponent) := shortest b
      sign ++ layout digits exponent

end Decimal

end Caddyfile
