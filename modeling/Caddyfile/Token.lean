import Caddyfile.Position

/-!
# Tokens

A token is a bare word, a quoted string, a brace that opens or closes a block, or the end of the
text. It keeps its text as written, quotes included, and the place of its first character.
-/

namespace Caddyfile

namespace Token

inductive Kind where
  | bare
  | quoted
  | opening
  | closing
  | finish
deriving DecidableEq, Repr

namespace Kind

def isWord : Kind → Bool
  | bare | quoted => true
  | opening | closing | finish => false

def describe : Kind → String
  | bare => "identifier"
  | quoted => "string"
  | opening => "'\x7b'"
  | closing => "'\x7d'"
  | finish => "end of input"

end Kind

end Token

structure Token where
  kind : Token.Kind
  text : String
  start : Position
deriving DecidableEq, Repr

namespace Token

def line (t : Token) : Nat :=
  t.start.line

def stop (t : Token) : Position :=
  t.start.after t.text.toList

def span (t : Token) : Span :=
  ⟨t.start, t.stop⟩

def isWord (t : Token) : Bool :=
  t.kind.isWord

/-- Drops the opening quote, and the same character at the end if it is there. -/
def unquote : List Char → List Char
  | [] => []
  | q :: inner => if inner.getLast? = some q then inner.dropLast else inner

/-- What the token stands for: a quoted string without its quotes, anything else as written.
Escapes are kept. -/
def value (t : Token) : String :=
  match t.kind with
  | .quoted => String.ofList (unquote t.text.toList)
  | _ => t.text

end Token

end Caddyfile
