import Caddyfile.Position
import Caddyfile.Text.CharClass
import Caddyfile.Text.Lines
import Caddyfile.Text.Quoted

/-!
# Texts with caret lines

A text may say which errors it is expected to give: below a line stand lines whose first character
is a caret. The carets mark columns of the line above, and what follows them has to occur in the
message. `Caret.check` compares these expectations with the errors observed, in any order.
-/

namespace Caddyfile

namespace Caret

open Text (trim trimStart)

def isNote (line : List Char) : Bool :=
  (trimStart line).head? = some '^'

def strip (annotated : String) : String :=
  String.ofList ((Text.pieces annotated.toList).filter (!isNote ·)).flatten

structure Expectation where
  span : Span
  label : String
deriving DecidableEq, Repr

structure Observed where
  span : Span
  message : String
deriving DecidableEq, Repr

/-- What an annotation says about the line with that number: the columns of its first run of
carets, and the text behind them. -/
def ofLine (target : Nat) (line : List Char) : Expectation :=
  let start := (line.takeWhile (· ≠ '^')).length
  let marked := line.dropWhile (· ≠ '^')
  let width := (marked.takeWhile (· = '^')).length
  let label := trim (marked.dropWhile (· = '^'))
  ⟨⟨⟨target, start⟩, ⟨target, start + width⟩⟩, String.ofList label⟩

inductive Failure where
  | noLineAbove (line : String)
  | mismatch (source : String) (missing : List Expectation) (unexpected : List Observed)
deriving DecidableEq, Repr

/-- The expectations of the lines; `above` counts the lines of the text seen so far. -/
def collect : Nat → List (List Char) → Except Failure (List Expectation)
  | _, [] => .ok []
  | above, line :: rest =>
    if isNote line then
      match above with
      | 0 => .error (.noLineAbove (String.ofList line))
      | target + 1 => (collect above rest).map (ofLine target line :: ·)
    else collect (above + 1) rest

def expectations (annotated : String) : Except Failure (List Expectation) :=
  collect 0 ((Text.pieces annotated.toList).map Text.dropLineEnd)

/-! ## Comparing -/

def occursIn (needle : List Char) : List Char → Bool
  | [] => needle.isEmpty
  | c :: cs => needle.isPrefixOf (c :: cs) || occursIn needle cs

def Expectation.meets (e : Expectation) (o : Observed) : Bool :=
  o.span = e.span && occursIn e.label.toList o.message.toList

/-- Takes for each expectation the first error left that meets it. What remains on either side is
given back. -/
def pair : List Expectation → List Observed → List Expectation × List Observed
  | [], observed => ([], observed)
  | e :: expected, observed =>
    if observed.any e.meets then pair expected (observed.eraseP e.meets)
    else
      let tail := pair expected observed
      (e :: tail.1, tail.2)

def check (annotated : String) (observed : List Observed) : Except Failure Unit :=
  match expectations annotated with
  | .error failure => .error failure
  | .ok expected =>
    match pair expected observed with
    | ([], []) => .ok ()
    | (missing, unexpected) => .error (.mismatch (strip annotated) missing unexpected)

/-! ## Messages -/

def describe (s : Span) : String :=
  s!"{s.start.line}:{s.start.column}-{s.stop.line}:{s.stop.column}"

def Failure.message : Failure → String
  | noLineAbove line => s!"annotation {Text.quoted line} has no source line above it"
  | mismatch source missing unexpected =>
    "annotated errors do not match\n--- source ---\n" ++ source
      ++ String.join (missing.map fun e =>
        s!"\nexpected but not reported: {describe e.span} {Text.quoted e.label}")
      ++ String.join (unexpected.map fun o =>
        s!"\nreported but not expected: {describe o.span} {Text.quoted o.message}")

end Caret

end Caddyfile
