import Caddyfile.Document
import Caddyfile.Fault
import Caddyfile.Forest

/-!
# Reading documents

A text is scanned, its tokens are grouped by braces, and the groups are read as sites and
directives. Reading always gives a document and lists the faults met on the way, those of unclosed
blocks last.

The global options are a block that stands in front of everything else. Any other block without a
directive or an address is stray: inside a block its directives count as the block's own, outside
of all blocks they are left out.
-/

namespace Caddyfile

namespace Document

structure Contents where
  directives : List Directive
  faults : List Fault
deriving DecidableEq, Repr

namespace Contents

def append (a b : Contents) : Contents :=
  ⟨a.directives ++ b.directives, a.faults ++ b.faults⟩

def cons (d : Directive) (a : Contents) : Contents :=
  ⟨d :: a.directives, a.faults⟩

end Contents

structure Header where
  name : Token
  args : List Token
deriving DecidableEq, Repr

namespace Header

def accepts (h : Header) (t : Token) : Bool :=
  t.line = h.name.line

def push (h : Header) (t : Token) : Header :=
  ⟨h.name, h.args ++ [t]⟩

def plain (h : Header) : Directive :=
  ⟨h.name, h.args, none, [], h.name.line⟩

def withBlock (h : Header) (opener : Token) (body : List Directive) (lastLine : Nat) : Directive :=
  ⟨h.name, h.args, some opener, body, lastLine⟩

end Header

def closingLine (finish : Nat) (closer : Option Token) : Nat :=
  closer.elim finish Token.line

/-- Adds to the contents of a block what the block itself may have wrong: inside too many others
its contents do not count, and an open end comes after every other fault. -/
def settle (depth : Nat) (opener : Token) (closer : Option Token) (unclosed : Fault.Cause)
    (inside : Contents) : Contents :=
  if depth < maxDepth then
    match closer with
    | some _ => inside
    | none => ⟨inside.directives, inside.faults ++ [⟨unclosed, opener.span⟩]⟩
  else ⟨[], [⟨.tooDeep, opener.span⟩]⟩

/-- The directives of a block that lies inside `depth` blocks, itself included. `pending` is the
directive whose words are being read; `finish` is the last line of the text. -/
def contents (finish : Nat) : Nat → Option Header → Forest → Contents
  | _, none, .nil => ⟨[], []⟩
  | _, some h, .nil => ⟨[h.plain], []⟩
  | depth, none, .word t rest => contents finish depth (some ⟨t, []⟩) rest
  | depth, some h, .word t rest =>
    if h.accepts t then contents finish depth (some (h.push t)) rest
    else (contents finish depth (some ⟨t, []⟩) rest).cons h.plain
  | depth, none, .block opener inside closer rest =>
    let own := settle depth opener closer .unclosedBlock (contents finish (depth + 1) none inside)
    let stray : Contents := ⟨[], [⟨.strayOpen, opener.span⟩]⟩
    (stray.append own).append (contents finish depth none rest)
  | depth, some h, .block opener inside closer rest =>
    let own := settle depth opener closer (.unclosedDirective h.name.value)
      (contents finish (depth + 1) none inside)
    let d := h.withBlock opener own.directives (closingLine finish closer)
    Contents.append ⟨[d], own.faults⟩ (contents finish depth none rest)

def topBlock (finish : Nat) (opener : Token) (inside : Forest) (closer : Option Token)
    (unclosed : Fault.Cause) : Contents :=
  settle 0 opener closer unclosed (contents finish 1 none inside)

/-! ## Sites -/

structure Stretch where
  sites : List Site
  faults : List Fault
deriving DecidableEq, Repr

namespace Stretch

def append (a b : Stretch) : Stretch :=
  ⟨a.sites ++ b.sites, a.faults ++ b.faults⟩

end Stretch

/-- The addresses of a site read so far; `last` is the latest of them. -/
structure Heading where
  first : Token
  others : List Token
  last : Token
deriving DecidableEq, Repr

namespace Heading

def start (t : Token) : Heading :=
  ⟨t, [], t⟩

/-- Addresses go on along the line where the last one ends, and over line ends after a comma. -/
def accepts (h : Heading) (t : Token) : Bool :=
  t.line = h.last.stop.line || h.last.value.toList.getLast? = some ','

def push (h : Heading) (t : Token) : Heading :=
  ⟨h.first, h.others ++ [t], t⟩

def plain (h : Heading) : Stretch :=
  ⟨[⟨h.first, h.others, [], h.first.line⟩], [⟨.missingBlock, h.last.span⟩]⟩

def withBlock (h : Heading) (body : Contents) (lastLine : Nat) : Stretch :=
  ⟨[⟨h.first, h.others, body.directives, lastLine⟩], body.faults⟩

end Heading

def stretch (finish : Nat) : Option Heading → Forest → Stretch
  | none, .nil => ⟨[], []⟩
  | some h, .nil => h.plain
  | none, .word t rest => stretch finish (some (.start t)) rest
  | some h, .word t rest =>
    if h.accepts t then stretch finish (some (h.push t)) rest
    else h.plain.append (stretch finish (some (.start t)) rest)
  | none, .block opener inside closer rest =>
    let body := topBlock finish opener inside closer .unclosedBlock
    Stretch.append ⟨[], ⟨.strayOpen, opener.span⟩ :: body.faults⟩ (stretch finish none rest)
  | some h, .block opener inside closer rest =>
    let body := topBlock finish opener inside closer (.unclosedSite h.first.value)
    (h.withBlock body (closingLine finish closer)).append (stretch finish none rest)

/-- The stretches that follow stray closing braces. -/
def laterStretches (finish : Nat) : List (Token × Forest) → Stretch
  | [] => ⟨[], []⟩
  | (closer, forest) :: later =>
    let own := stretch finish none forest
    Stretch.append ⟨own.sites, ⟨.strayClose, closer.span⟩ :: own.faults⟩
      (laterStretches finish later)

end Document

structure Reading where
  document : Document
  faults : List Fault
deriving DecidableEq, Repr

namespace Document

/-- Reads grouped tokens. The global options are a block with nothing in front of it. -/
def ofForest (finish : Nat) (s : Forest.Split) : Reading :=
  let later := laterStretches finish s.later
  match s.first with
  | .block opener inside closer rest =>
    let body := topBlock finish opener inside closer .unclosedGlobals
    let sites := (stretch finish none rest).append later
    ⟨⟨some ⟨opener, body.directives, closingLine finish closer⟩, sites.sites⟩,
      body.faults ++ sites.faults⟩
  | forest =>
    let sites := (stretch finish none forest).append later
    ⟨⟨none, sites.sites⟩, sites.faults⟩

/-- Reads tokens, the last of which tells where the text ends. -/
def ofTokens (ts : List Token) : Reading :=
  ofForest (ts.getLast?.elim 0 Token.line) (Forest.ofTokens ts)

def read (source : String) : Reading :=
  ofTokens (tokens source)

end Document

end Caddyfile
