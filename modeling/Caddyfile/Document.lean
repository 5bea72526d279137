import Caddyfile.Token

/-!
# Documents

A document is an optional block of global options, then sites and snippets. Their blocks hold
directives, and a directive may hold more of them.
-/

namespace Caddyfile

/-- A name, the arguments on its line, and perhaps a block. `lastLine` is the line where the block
ends, or the line of the name if there is no block. -/
structure Directive where
  name : Token
  args : List Token
  opener : Option Token
  body : List Directive
  lastLine : Nat
deriving Repr

namespace Directive

def firstLine (d : Directive) : Nat :=
  d.name.line

def title (d : Directive) : String :=
  d.name.value

def firstArg? (d : Directive) : Option String :=
  d.args.head?.map Token.value

def hasBody (d : Directive) : Bool :=
  d.firstLine < d.lastLine

def encloses (d : Directive) (line : Nat) : Bool :=
  d.firstLine < line && line < d.lastLine

/-! ### Equality -/

mutual

def decEq : (d e : Directive) → Decidable (d = e)
  | ⟨name, args, opener, body, lastLine⟩, ⟨name', args', opener', body', lastLine'⟩ =>
    match decEqList body body' with
    | isTrue hb =>
      decidable_of_decidable_of_iff
        (p := name = name' ∧ args = args' ∧ opener = opener' ∧ lastLine = lastLine') (by simp [hb])
    | isFalse hb => isFalse (by simp [hb])

def decEqList : (ds es : List Directive) → Decidable (ds = es)
  | [], [] => isTrue rfl
  | [], _ :: _ => isFalse (by simp)
  | _ :: _, [] => isFalse (by simp)
  | d :: ds, e :: es =>
    match decEq d e with
    | isFalse hd => isFalse (by simp [hd])
    | isTrue hd =>
      match decEqList ds es with
      | isFalse hs => isFalse (by simp [hs])
      | isTrue hs => isTrue (by rw [hd, hs])

end

instance : DecidableEq Directive :=
  decEq

end Directive

structure Globals where
  opener : Token
  directives : List Directive
  lastLine : Nat
deriving DecidableEq, Repr

namespace Globals

def firstLine (g : Globals) : Nat :=
  g.opener.line

end Globals

/-- One or more addresses and a block. Without a block, `lastLine` is the line of the first
address. -/
structure Site where
  address : Token
  others : List Token
  directives : List Directive
  lastLine : Nat
deriving DecidableEq, Repr

namespace Site

def addresses (s : Site) : List Token :=
  s.address :: s.others

def firstLine (s : Site) : Nat :=
  s.address.line

def encloses (s : Site) (line : Nat) : Bool :=
  s.firstLine < line && line < s.lastLine

def parenthesized? : List Char → Option (List Char)
  | '(' :: inner =>
    if 2 ≤ inner.length && inner.getLast? = some ')' then some inner.dropLast else none
  | _ => none

/-- The name of the snippet that the block declares: its first address is a name in parentheses. -/
def snippet? (s : Site) : Option String :=
  (parenthesized? s.address.value.toList).map String.ofList

def isSnippet (s : Site) : Bool :=
  s.snippet?.isSome

end Site

structure Document where
  globals : Option Globals
  sites : List Site
deriving DecidableEq, Repr

end Caddyfile
