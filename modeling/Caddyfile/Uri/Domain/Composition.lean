import Caddyfile.Uri.Domain.Marks

/-!
# One form for equal texts

A letter with marks can be written in several ways that mean the same. A text is brought into one
form in three steps: every character is taken apart, marks at one letter are put in the order of
their classes, and what makes one character is put together again.
-/

namespace Caddyfile.Uri.Domain

/-! ## Syllables

Korean syllables follow each other by their first, second and third part. The third may be missing:
its place before the first of its row stands for that. -/

def syllableBase : Nat := 0xAC00

def initialBase : Nat := 0x1100

def vowelBase : Nat := 0x1161

def finalBase : Nat := 0x11A7

def initials : Nat := 19

def vowels : Nat := 21

def finals : Nat := 28

def placeIn? (base length n : Nat) : Option Nat :=
  if base ≤ n && n < base + length then some (n - base) else none

def splitSyllable? (c : Char) : Option (List Char) :=
  (placeIn? syllableBase (initials * vowels * finals) c.toNat).map fun i =>
    let body := [Char.ofNat (initialBase + i / (vowels * finals)),
      Char.ofNat (vowelBase + i % (vowels * finals) / finals)]
    if i % finals = 0 then body else body ++ [Char.ofNat (finalBase + i % finals)]

/-- A first and a second part make a syllable, to which a third part may be added. -/
def joinSyllable? (a b : Char) : Option Char :=
  match placeIn? initialBase initials a.toNat, placeIn? vowelBase vowels b.toNat with
  | some i, some v => some (Char.ofNat (syllableBase + (i * vowels + v) * finals))
  | _, _ =>
    match placeIn? syllableBase (initials * vowels * finals) a.toNat,
        placeIn? finalBase finals b.toNat with
    | some s, some f =>
      if s % finals = 0 && 0 < f then some (Char.ofNat (a.toNat + f)) else none
    | _, _ => none

/-! ## Taking apart and putting together -/

def takeApart : (steps : Nat) → Char → List Char
  | 0, c => [c]
  | steps + 1, c =>
    match splitSyllable? c with
    | some parts => parts
    | none => ((lookup? composed c).map (·.flatMap (takeApart steps))).getD [c]

/-- No character has more than one letter and three marks. -/
def maxSteps : Nat := 3

def join? (a b : Char) : Option Char :=
  (joinSyllable? a b).or
    ((composed.find? (·.2 = [a, b])).map fun entry => Char.ofNat entry.1)

/-- Puts a character before an ordered text: a mark goes behind the marks of lower classes. -/
def place (c : Char) : List Char → List Char
  | [] => [c]
  | d :: rest =>
    if 0 < markClass d && markClass d < markClass c then d :: place c rest else c :: d :: rest

def order (cs : List Char) : List Char :=
  cs.foldr place []

/-- Joins to the character `first` what can be joined to it. The marks between it and the rest, given
in reverse, could not be joined, and a mark behind one of its own class or of a higher one is out
of reach. -/
def joinAll (first : Char) (between : List Char) : List Char → List Char
  | [] => first :: between.reverse
  | c :: rest =>
    let reached := between.head?.all (markClass · < markClass c)
    match if reached then join? first c else none with
    | some made => joinAll made between rest
    | none =>
      if markClass c = 0 then first :: (between.reverse ++ joinAll c [] rest)
      else joinAll first (c :: between) rest

def compose (cs : List Char) : List Char :=
  match order (cs.flatMap (takeApart maxSteps)) with
  | [] => []
  | c :: rest => joinAll c [] rest

end Caddyfile.Uri.Domain
