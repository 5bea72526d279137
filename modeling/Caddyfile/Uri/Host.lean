import Caddyfile.Uri.Address
import Caddyfile.Uri.Domain
import Caddyfile.Uri.Escape

/-!
# Hosts

A host is a name or a number. The web's own schemes and files want names that can be looked up;
under any other scheme a name is kept as it is.
-/

namespace Caddyfile.Uri

def bracketed? : List Char → Option (Except Problem String)
  | '[' :: cs =>
    some (if cs.getLast? = some ']' then
      (readIpv6 cs.dropLast).map fun pieces => s!"[{writeIpv6 pieces}]"
    else .error .badIpv6)
  | _ => none

/-- Escapes in a name are undone before anything else is done with it. -/
def unescapeText? (cs : List Char) : Option (List Char) :=
  (String.fromUTF8? ⟨(unescape (cs.flatMap String.utf8EncodeChar)).toArray⟩).map String.toList

def readHost (cs : List Char) : Except Problem String :=
  match bracketed? cs with
  | some host => host
  | none =>
    match (unescapeText? cs).bind Domain.toAscii? with
    | none => .error .badName
    | some name =>
      if name.isEmpty then .error .emptyHost
      else if endsInNumber name then (readIpv4 name).map writeIpv4
      else .ok (String.ofList name)

def isForbidden (c : Char) : Bool :=
  c = '\x00' || c = ' ' || c = '#' || c = '/' || c = ':' || c = '<' || c = '>' || c = '?' || c = '@'
    || c = '[' || c = '\\' || c = ']' || c = '^' || c = '|'

def readOpaqueHost (cs : List Char) : Except Problem String :=
  match bracketed? cs with
  | some host => host
  | none =>
    if cs.any isForbidden then .error .badCharacter
    else .ok (String.ofList (escape isControl cs))

end Caddyfile.Uri
