import Caddyfile.Uri.Host
import Caddyfile.Uri.Path

/-!
# Addresses

An address is a scheme, perhaps an authority (who answers for it), a path, and perhaps a query and a
fragment. Two ways of writing the same address are read as the same value.
-/

namespace Caddyfile

structure Uri where
  scheme : String
  authority? : Option String
  path : String
  query? : Option String
  fragment? : Option String
deriving DecidableEq, Repr

namespace Uri

def text (u : Uri) : String :=
  u.scheme ++ ":" ++ (u.authority?.map ("//" ++ ·)).getD "" ++ u.path
    ++ (u.query?.map ("?" ++ ·)).getD "" ++ (u.fragment?.map ("#" ++ ·)).getD ""

/-! ## Schemes -/

inductive Kind where
  | file
  /-- The web's own schemes look their hosts up, and each has a port that need not be written. -/
  | web (port : Nat)
  | other
deriving DecidableEq, Repr

def Kind.ofScheme : String → Kind
  | "file" => .file
  | "http" | "ws" => .web 80
  | "https" | "wss" => .web 443
  | "ftp" => .web 21
  | _ => .other

def splitScheme (cs : List Char) : Option (String × List Char) :=
  let scheme := cs.takeWhile fun c => c.isAlphanum || c = '+' || c = '-' || c = '.'
  match scheme.head?.any Char.isAlpha, cs.drop scheme.length with
  | true, ':' :: rest => some (String.ofList (scheme.map Char.toLower), rest)
  | _, _ => none

/-! ## Query and fragment -/

structure Parts where
  body : List Char
  query? : Option (List Char)
  fragment? : Option (List Char)

def parts (cs : List Char) : Parts :=
  let front := cs.takeWhile (· ≠ '#')
  let fragment? := if front.length < cs.length then some (cs.drop (front.length + 1)) else none
  let body := front.takeWhile (· ≠ '?')
  let query? := if body.length < front.length then some (front.drop (body.length + 1)) else none
  ⟨body, query?, fragment?⟩

def Parts.hasTail (p : Parts) : Bool :=
  p.query?.isSome || p.fragment?.isSome

/-! ## Authorities -/

def splitUser (cs : List Char) : Option (List Char × List Char) :=
  let host := (cs.reverse.takeWhile (· ≠ '@')).reverse
  if host.length < cs.length then some (cs.take (cs.length - host.length - 1), host) else none

/-- The name and, behind the first colon, the password; an empty password is left out. -/
def writeUser (cs : List Char) : List Char :=
  let name := cs.takeWhile (· ≠ ':')
  let password := cs.drop (name.length + 1)
  let shown := escape inUser name
    ++ (if password.isEmpty then [] else ':' :: escape inUser password)
  if shown.isEmpty then [] else shown ++ ['@']

def splitPort : Bool → List Char → List Char × List Char
  | _, [] => ([], [])
  | inside, c :: cs =>
    if c = ':' && !inside then ([], c :: cs)
    else
      let (host, rest) := splitPort (if c = '[' then true else if c = ']' then false else inside) cs
      (c :: host, rest)

def readPort (cs : List Char) : Except Problem (Option Nat × List Char) :=
  let digits := cs.takeWhile Char.isDigit
  let rest := cs.drop digits.length
  let port := digits.foldl (fun n c => 10 * n + (c.toNat - '0'.toNat)) 0
  if 65535 < port || rest.head?.any (· ≠ '\\') then .error .badPort
  else .ok (if digits.isEmpty then none else some port, rest)

structure Authority where
  text : String
  rest : List Char

/-- Reads an authority; `followed` says whether the address goes on behind it. -/
def readAuthority (kind : Kind) (followed : Bool) (cs : List Char) : Except Problem Authority := do
  let (user, place) ← match splitUser cs with
    | none => .ok ([], cs)
    | some ([], place) =>
      if place.isEmpty && followed then .error .emptyHost else .ok ([], place)
    | some (user, place) => .ok (writeUser user, place)
  let (name, behind) := splitPort false place
  let host ← match kind with
    | .other => readOpaqueHost name
    | _ => if name.isEmpty then .error .emptyHost else readHost name
  if host.isEmpty && (behind.head? = some ':' || !user.isEmpty) then .error .emptyHost
  let (port?, rest) ← match behind with
    | ':' :: cs => readPort cs
    | cs => .ok (none, cs)
  let port? := port?.filter fun port => kind ≠ .web port
  return ⟨String.ofList user ++ host ++ (port?.map (s!":{·}")).getD "", rest⟩

/-! ## Addresses of each kind -/

def isSlash (c : Char) : Bool :=
  c = '/' || c = '\\'

def webPath (cs : List Char) : String :=
  String.ofList (Path.write (Path.extend false [] (splitAt isSlash (cs.drop 1))))

/-- The authority and the path of a web address. Any number of slashes may stand before the
authority. -/
def readWeb (kind : Kind) (p : Parts) : Except Problem (Option String × String) := do
  let cs := p.body.dropWhile isSlash
  let written := cs.takeWhile (!isSlash ·)
  let rest := cs.drop written.length
  let authority ← readAuthority kind (!rest.isEmpty || p.hasTail) written
  return (some authority.text, webPath rest)

def otherPath (cs : List Char) : String :=
  String.ofList (Path.write (Path.extend false [] (splitAt (· = '/') cs)))

/-- The authority, if any, and the path of an address with a scheme of its own. A path that does not
begin with a slash is not cut into segments. -/
def readOther (p : Parts) : Except Problem (Option String × String) :=
  match p.body with
  | '/' :: '/' :: cs => do
    let written := cs.takeWhile (· ≠ '/')
    let rest := cs.drop written.length
    let authority ← readAuthority .other (!rest.isEmpty || p.hasTail) written
    let path := match authority.rest ++ rest with
      | [] => ""
      | '/' :: cs => otherPath cs
      | cs => otherPath cs
    return (some authority.text, path)
  | '/' :: cs =>
    let path := otherPath cs
    -- Two slashes at the front would be read as the beginning of an authority.
    return (none, if ['/', '/'].isPrefixOf path.toList then "/." ++ path else path)
  | cs => return (none, String.ofList (escape isControl cs))

def filePath (segments : List (List Char)) : String :=
  let segments := segments.dropWhile List.isEmpty
  if segments.isEmpty then "/" else String.ofList (Path.write segments)

/-- The host and the path of a file. The host is left out where it is the machine itself, and where
the path begins with the letter of a drive. -/
def readFile (p : Parts) : Except Problem (Option String × String) :=
  match p.body with
  | [] => return (some "", "/")
  | a :: cs =>
    if !isSlash a then return (some "", filePath (Path.extend true [] (splitAt isSlash (a :: cs))))
    else
      match cs with
      | [] => return (some "", "/")
      | b :: after =>
        if !isSlash b then return (some "", filePath (Path.extend true [] (splitAt isSlash cs)))
        else do
          let name := after.takeWhile (!isSlash ·)
          let behind := after.drop name.length
          let host ← if name.isEmpty || Path.isDrive name then .ok "" else readHost name
          if host.isEmpty || host = "localhost" then
            let written := if Path.isDrive name then after else behind
            return (some "", filePath (Path.extend true [] (splitAt isSlash written)))
          else
            let segments := Path.extend true [] (splitAt isSlash (behind.drop 1))
            let onDrive := segments.head?.any Path.isDrive
            return (some (if onDrive then "" else host), filePath segments)

/-! ## Reading -/

/-- Controls and blanks around an address do not belong to it, nor do tabs and line ends in it. -/
def clean (cs : List Char) : List Char :=
  let trimmed := ((cs.dropWhile (· ≤ ' ')).reverse.dropWhile (· ≤ ' ')).reverse
  trimmed.filter fun c => c ≠ '\t' && c ≠ '\n' && c ≠ '\r'

def parse (s : String) : Except Problem Uri :=
  match splitScheme (clean s.toList) with
  | none => .error .relative
  | some (scheme, cs) => do
    let p := parts cs
    let kind := Kind.ofScheme scheme
    let (authority?, path) ← match kind with
      | .file => readFile p
      | .web port => readWeb (.web port) p
      | .other => readOther p
    let inSet := if kind = .other then inQuery else inWebQuery
    return ⟨scheme, authority?, path, p.query?.map fun q => String.ofList (escape inSet q),
      p.fragment?.map fun f => String.ofList (escape inFragment f)⟩

end Uri

end Caddyfile
