import Caddyfile.Json.Reading

/-!
# Settings of the user

A small TOML file that may set the level of logging. Each line is blank, a comment, or the one key
`log_level` with a string; a second occurrence of the key, or anything else, makes the file
malformed.
-/

namespace Caddyfile

/-! ## Levels of logging -/

inductive Level where
  | off
  | error
  | warn
  | info
  | debug
  | trace
deriving DecidableEq, Repr

namespace Level

def all : List Level :=
  [off, error, warn, info, debug, trace]

def name : Level → String
  | off => "off"
  | error => "error"
  | warn => "warn"
  | info => "info"
  | debug => "debug"
  | trace => "trace"

/-- A level is written as a name in letters of either case or as its number. Nothing at all stands
for errors only. -/
def ofString? (s : String) : Option Level :=
  let cs := s.toList
  match Text.number? cs with
  | some n => all[n]?
  | none => if cs.isEmpty then some error else all.find? (·.name.toList = cs.map Char.toLower)

def showsWarnings : Level → Bool
  | off | error => false
  | warn | info | debug | trace => true

def isVerbose : Level → Bool
  | debug | trace => true
  | off | error | warn | info => false

end Level

/-! ## The file -/

structure Settings where
  logLevel? : Option String
deriving DecidableEq, Repr

namespace Settings

def isPlain (c : Char) : Bool :=
  c = '\t' || ' ' ≤ c && c ≠ '\x7f'

def isBareKey (c : Char) : Bool :=
  c.isAlphanum || c = '_' || c = '-'

def skipBlanks (cs : List Char) : List Char :=
  cs.dropWhile fun c => c = ' ' || c = '\t'

/-! ### Strings -/

/-- Cuts a text at the first `closing`, which is dropped. With `escapes`, a backslash takes the
character after it along; `escaped` says that one has just been read. -/
def cutAt (closing : List Char) (escapes escaped : Bool) :
    List Char → Option (List Char × List Char)
  | [] => none
  | c :: cs =>
    if !escaped && closing.isPrefixOf (c :: cs) then some ([], (c :: cs).drop closing.length)
    else
      (cutAt closing escapes (escapes && !escaped && c = '\\') cs).map fun (body, rest) =>
        (c :: body, rest)

inductive Escape where
  /-- Not at all; `folding` says that blanks and line ends are passed over. -/
  | plain (folding : Bool)
  | begun
  /-- A backslash and blanks, which have to reach the end of the line. -/
  | folding
  /-- `left` more digits of a code point, after digits worth `code`. -/
  | code (left code : Nat)

def shortEscape? (c : Char) : Option Char :=
  if c = '/' then none else Json.shortEscape? c

/-- Replaces the escapes in the body of a string. A backslash at the end of a line takes away the
line end and the blanks after it. -/
def unescape : Escape → List Char → Option (List Char)
  | .plain _, [] => some []
  | _, [] => none
  | .plain fold, c :: cs =>
    if fold && (c = ' ' || c = '\t' || c = '\n') then unescape (.plain true) cs
    else if c = '\\' then unescape .begun cs
    else (unescape (.plain false) cs).map (c :: ·)
  | .begun, c :: cs =>
    if c = 'u' then unescape (.code 4 0) cs
    else if c = 'U' then unescape (.code 8 0) cs
    else if c = ' ' || c = '\t' then unescape .folding cs
    else if c = '\n' then unescape (.plain true) cs
    else
      match shortEscape? c with
      | none => none
      | some e => (unescape (.plain false) cs).map (e :: ·)
  | .folding, c :: cs =>
    if c = ' ' || c = '\t' then unescape .folding cs
    else if c = '\n' then unescape (.plain true) cs
    else none
  | .code left code, c :: cs =>
    match Text.digit? 16 c with
    | none => none
    | some digit =>
      let code := 16 * code + digit
      if 1 < left then unescape (.code (left - 1) code) cs
      else if code.isValidChar then (unescape (.plain false) cs).map (Char.ofNat code :: ·)
      else none

def readShort (quote : Char) (cs : List Char) : Option (List Char × List Char) := do
  let (body, rest) ← cutAt [quote] (quote = '"') false cs
  guard (body.all isPlain)
  let value ← if quote = '"' then unescape (.plain false) body else some body
  return (value, rest)

def unifyLines : List Char → Option (List Char)
  | [] => some []
  | '\r' :: '\n' :: cs => (unifyLines cs).map ('\n' :: ·)
  | c :: cs => if isPlain c || c = '\n' then (unifyLines cs).map (c :: ·) else none

/-- A string between three quotes, which may run over several lines. A line end right at its start
does not count, and up to two more quotes at its end do. -/
def readLong (quote : Char) (cs : List Char) : Option (List Char × List Char) := do
  let (body, rest) ← cutAt [quote, quote, quote] (quote = '"') false cs
  let extra := (rest.take 2).takeWhile (· = quote)
  let body ← unifyLines (body ++ extra)
  let body := if body.head? = some '\n' then body.drop 1 else body
  let value ← if quote = '"' then unescape (.plain false) body else some body
  return (value, rest.drop extra.length)

def readString : List Char → Option (List Char × List Char)
  | [] => none
  | c :: cs =>
    if c ≠ '"' && c ≠ '\'' then none
    else if [c, c].isPrefixOf cs then readLong c (cs.drop 2)
    else readShort c cs

/-! ### Lines -/

def readKey (cs : List Char) : Option (List Char × List Char) :=
  let bare := cs.takeWhile isBareKey
  if !bare.isEmpty then some (bare, cs.dropWhile isBareKey)
  else
    match cs with
    | '"' :: cs => readShort '"' cs
    | '\'' :: cs => readShort '\'' cs
    | _ => none

def dropLineEnd : List Char → Option (List Char)
  | [] => some []
  | '\n' :: cs | '\r' :: '\n' :: cs => some cs
  | _ => none

def endLine (cs : List Char) : Option (List Char) :=
  match skipBlanks cs with
  | '#' :: cs => dropLineEnd (cs.dropWhile isPlain)
  | cs => dropLineEnd cs

def readLine (cs : List Char) : Option (Option String × List Char) :=
  match endLine cs with
  | some rest => some (none, rest)
  | none => do
    let (key, rest) ← readKey (skipBlanks cs)
    guard (key = "log_level".toList)
    match skipBlanks rest with
    | '=' :: rest =>
      let (value, rest) ← readString (skipBlanks rest)
      return (some (String.ofList value), ← endLine rest)
    | _ => none

def readValues (cs : List Char) : Option (List String) :=
  if cs.isEmpty then some []
  else
    match readLine cs with
    | none => none
    | some (value?, rest) =>
      -- A line takes at least one character.
      if rest.length < cs.length then (readValues rest).map (value?.toList ++ ·) else none
termination_by cs.length

/-- Reads the text of a settings file. A byte order mark in front of it is passed over. -/
def parse (text : String) : Option Settings :=
  let cs := text.toList
  match readValues (if cs.head? = some '\ufeff' then cs.drop 1 else cs) with
  | some [] => some ⟨none⟩
  | some [value] => some ⟨some value⟩
  | _ => none

/-! ## Loading -/

inductive Stored where
  | missing
  | directory
  | content (bytes : ByteArray)

inductive Problem where
  | directory
  | notText
  | malformed
deriving DecidableEq, Repr

namespace Problem

def summary (path : String) : Problem → String
  | directory | notText => s!"Failed to read config at {path}"
  | malformed => s!"Failed to parse config at {path}"

def detail? : Problem → Option String
  | directory => some "Is a directory (os error 21)"
  | notText => some "stream did not contain valid UTF-8"
  | malformed => none

def message (path : String) (p : Problem) : String :=
  p.detail?.elim (p.summary path) fun detail => s!"{p.summary path}: {detail}"

end Problem

def load : Stored → Except Problem (Option Settings)
  | .missing => .ok none
  | .directory => .error .directory
  | .content bytes =>
    match String.fromUTF8? bytes with
    | none => .error .notText
    | some text =>
      match parse text with
      | none => .error .malformed
      | some settings => .ok (some settings)

end Settings

end Caddyfile
