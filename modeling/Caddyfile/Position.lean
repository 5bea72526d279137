/-!
# Places in a text

Lines and columns both start at zero and count characters. A line ends with a line feed; a carriage
return takes no column of its own. Positions are ordered line first, and a span is half open.

Both are counted without a bound. Texts are assumed to be short enough for counters of 32 bits: they
have fewer than 2³² lines, and fewer than 2³² characters on each.
-/

namespace Caddyfile

structure Position where
  line : Nat
  column : Nat
deriving DecidableEq, Repr

namespace Position

instance : LE Position where
  le p q := p.line < q.line ∨ p.line = q.line ∧ p.column ≤ q.column

instance : LT Position where
  lt p q := p.line < q.line ∨ p.line = q.line ∧ p.column < q.column

instance (p q : Position) : Decidable (p ≤ q) :=
  inferInstanceAs (Decidable (p.line < q.line ∨ p.line = q.line ∧ p.column ≤ q.column))

instance (p q : Position) : Decidable (p < q) :=
  inferInstanceAs (Decidable (p.line < q.line ∨ p.line = q.line ∧ p.column < q.column))

def step (p : Position) (c : Char) : Position :=
  if c = '\n' then ⟨p.line + 1, 0⟩ else if c = '\r' then p else ⟨p.line, p.column + 1⟩

def after (p : Position) (cs : List Char) : Position :=
  cs.foldl step p

theorem after_append (p : Position) (u v : List Char) : p.after (u ++ v) = (p.after u).after v := by
  simp [after]

/-! ## Offsets -/

/-- Characters before the place `line` lines and then `column` characters further on. A column past
the end of its line stands for that end, and a line past the last one for the end of the text. Here
every character but the line feed counts, the carriage return too. -/
def offsetFrom : Nat → Nat → List Char → Nat
  | _, _, [] => 0
  | 0, 0, _ => 0
  | 0, column + 1, c :: cs => if c = '\n' then 0 else offsetFrom 0 column cs + 1
  | line + 1, column, c :: cs => offsetFrom (if c = '\n' then line else line + 1) column cs + 1

def offset (p : Position) (source : String) : Nat :=
  offsetFrom p.line p.column source.toList

end Position

structure Span where
  start : Position
  stop : Position
deriving DecidableEq, Repr

namespace Span

def contains (s : Span) (p : Position) : Bool :=
  s.start ≤ p ∧ p < s.stop

/-- Where the span begins and ends in `source`, counted in characters. A span that ends before it
starts is empty. -/
def offsets (s : Span) (source : String) : Nat × Nat :=
  (s.start.offset source, max (s.stop.offset source) (s.start.offset source))

end Span

end Caddyfile
