import Caddyfile.Fault
import Caddyfile.Finding

/-!
# Reports for the terminal

A report names a place by line and column, both counted from one. They are found again from the
character offset, and here more characters end a line than the line feed: the carriage return, alone
or with a line feed, the vertical tab, the form feed, and the line ends of Unicode.
-/

namespace Caddyfile

structure Report where
  severity : Severity
  message : String
  filename : String
  place : Position
  label : String
  help? : Option String
deriving DecidableEq, Repr

namespace Report

/-- Whether `c`, followed by `rest`, ends a line. A carriage return leaves it to the line feed
behind it, and where the text ends there is no further line. -/
def endsLine (c : Char) (rest : List Char) : Bool :=
  match rest with
  | [] => false
  | next :: _ =>
    if c = '\r' then next != '\n'
    else ['\n', '\x0b', '\x0c', '\u0085', '\u2028', '\u2029'].contains c

def locate : Nat → Position → List Char → Position
  | 0, p, _ => p
  | offset + 1, p, [] => ⟨p.line, p.column + offset + 1⟩
  | offset + 1, p, c :: cs =>
    locate offset (if endsLine c cs then ⟨p.line + 1, 0⟩ else ⟨p.line, p.column + 1⟩) cs

def placeAt (source : String) (offset : Nat) : Position :=
  locate offset ⟨0, 0⟩ source.toList

def placeOf (source : String) (s : Span) : Position :=
  placeAt source (s.offsets source).1

def onOneLine (source : String) (s : Span) : Bool :=
  let o := s.offsets source
  (placeAt source o.1).line = (placeAt source (max o.1 (o.2 - 1))).line

/-- Help stands beside a mark on one line; a mark that runs over several has none. -/
def ofFault (filename source : String) (f : Fault) : Report where
  severity := .error
  message := f.message
  filename := filename
  place := placeOf source f.span
  label := f.cause.label
  help? := if onOneLine source f.span then f.cause.help? else none

def ofFinding (filename source : String) (f : Finding) : Report where
  severity := f.severity
  message := f.message
  filename := filename
  place := placeOf source f.span
  label := f.message
  help? := none

def header (r : Report) : String :=
  match r.severity with
  | .error => s!"Error: {r.message}"
  | .warning => s!"Warning: {r.message}"

def location (r : Report) : String :=
  s!"{r.filename}:{r.place.line + 1}:{r.place.column + 1}"

def render (r : Report) : String :=
  let help := r.help?.elim "" fun help => s!"  help: {help}\n"
  s!"{r.header}\n  at {r.location}: {r.label}\n{help}"

end Report

end Caddyfile
