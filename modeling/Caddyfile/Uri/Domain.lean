import Caddyfile.Uri.Domain.Composition
import Caddyfile.Uri.Domain.Direction
import Caddyfile.Uri.Domain.Joining
import Caddyfile.Uri.Domain.Letters
import Caddyfile.Uri.Domain.Punycode

/-!
# Names of hosts

A name is a list of labels with dots between them. It may be written with letters of any script, but
it is looked up in ASCII, so that all ways to write a name give the same one.
-/

namespace Caddyfile.Uri.Domain

/-- ASCII characters that would end the host or could not be looked up. -/
def isForbidden (c : Char) : Bool :=
  c ≤ ' ' || c = '\x7f' || c = '%' || c = '#' || c = '/' || c = ':' || c = '<' || c = '>' || c = '?'
    || c = '@' || c = '[' || c = '\\' || c = ']' || c = '^' || c = '|'

def encoded? : List Char → Option (List Char)
  | 'x' :: 'n' :: '-' :: '-' :: rest => some rest
  | _ => none

def isLabel (label : List Char) : Bool :=
  label.all isPlain && !label.head?.any mark.contains && joinersFit [] label

/-- The label that is meant. What an encoded one stands for could not be written in ASCII, and it has
the form that its own letters would have got. -/
def readLabel? (label : List Char) : Option (List Char) :=
  match encoded? label with
  | none => if isLabel label then some label else none
  | some code =>
    (Punycode.decode? code).filter fun label =>
      !label.all Punycode.isAscii && (encoded? label).isNone && compose label = label && isLabel label

def writeLabel (label : List Char) : List Char :=
  if label.all Punycode.isAscii then label else "xn--".toList ++ Punycode.encode label

def toAscii? (cs : List Char) : Option (List Char) := do
  let letters ← cs.mapM meaning?
  let name := compose letters.flatten
  if name.any isForbidden then none
  else
    let labels ← (name.splitOn '.').mapM readLabel?
    let mixed := labels.any (·.any isLeftward)
    if mixed && !labels.all hasOneDirection then none
    else some (['.'].intercalate (labels.map writeLabel))

end Caddyfile.Uri.Domain
