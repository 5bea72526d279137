import Caddyfile.Manual
import Caddyfile.Position
import Caddyfile.Text.Alphanumeric
import Caddyfile.Text.Lines

/-!
# Help on the word at the cursor

A word is a run of letters, digits, underscores and hyphens. The cursor touches the word on either
side of it; a column past the end of the line stands for that end.
-/

namespace Caddyfile.Editor

def isWordChar (c : Char) : Bool :=
  CharClass.alphanumeric.contains c || c = '_' || c = '-'

structure Word where
  text : List Char
  first : Nat
  last : Nat
deriving DecidableEq, Repr

def wordTouching (line : List Char) (column : Nat) : Option Word :=
  let cursor := min column line.length
  let left := ((line.take cursor).reverse.takeWhile isWordChar).reverse
  let right := (line.drop cursor).takeWhile isWordChar
  if left.isEmpty && right.isEmpty then none
  else some ⟨left ++ right, cursor - left.length, cursor + right.length⟩

def lineAt? (source : String) (line : Nat) : Option (List Char) :=
  (Text.lines source.toList)[line]?.map fun cs => (cs.reverse.dropWhile (· = '\r')).reverse

def wordAt (source : String) (p : Position) : Option Word :=
  (lineAt? source p.line).bind (wordTouching · p.column)

structure Hover where
  text : String
  span : Span
deriving DecidableEq, Repr

def hoverAt (source : String) (p : Position) : Option Hover :=
  (wordAt source p).bind fun w =>
    (Manual.lookup (String.ofList w.text)).map fun text =>
      ⟨text, ⟨⟨p.line, w.first⟩, ⟨p.line, w.last⟩⟩⟩

end Caddyfile.Editor
