import Caddyfile.Document
import Caddyfile.Text.Lines
import Caddyfile.Vocabulary

/-!
# What may be typed at the cursor

The first word of a line names a directive, and which names are valid depends on the blocks around
the line. A second word can be completed only after `import`, where it names a snippet.
-/

namespace Caddyfile

namespace Cursor

inductive Context where
  | nothing
  | siteDirective
  | subdirective (parent : String) (names : Array String)
  | snippet (typed : String)
  /-- In a block whose form is not known name by name. -/
  | freeform
deriving DecidableEq, Repr

def Context.names? : Context → Option (Array String)
  | siteDirective => some Vocabulary.siteDirectives
  | subdirective _ names => some names
  | nothing | snippet _ | freeform => none

def isBlank (c : Char) : Bool :=
  c = ' ' || c = '\t'

/-- The part of a line before the cursor, from its first word on. -/
def typedText (line : List Char) (column : Nat) : List Char :=
  ((Text.dropEnd '\r' line).take column).dropWhile isBlank

def importTarget? (typed : List Char) : Option (List Char) :=
  let keyword := "import".toList
  if !keyword.isPrefixOf typed then none
  else
    let rest := typed.drop keyword.length
    let target := rest.dropWhile isBlank
    -- At least one blank has to stand between the keyword and its argument.
    if target.length < rest.length && !target.any isBlank then some target else none

/-! ## The blocks around a line -/

def inBlock (line : Nat) (parent : String) (names : Array String) (body : List Directive) :
    Context :=
  match body.find? (·.encloses line) with
  | none => .subdirective parent names
  | some sub =>
    match sub.firstArg? with
    | none => .nothing
    | some arg =>
      match Vocabulary.nestedNames? sub.title arg with
      | none => .nothing
      | some nested => .subdirective s!"{sub.title} {arg}" nested

mutual

/-- Among directives at site level: the first one whose block holds the line decides. -/
def inDirectives (line : Nat) : List Directive → Context
  | [] => .siteDirective
  | d :: ds => if d.encloses line then inDirective line d else inDirectives line ds

def inDirective (line : Nat) : Directive → Context
  | ⟨token, _, _, body, _⟩ =>
    let name := token.value
    if Vocabulary.isContainer name then inDirectives line body
    else
      match Vocabulary.bodyOf name with
      | .unmodeled => .nothing
      | .freeform => .freeform
      | .names allowed => inBlock line name allowed body

end

def onLine (d : Document) (line : Nat) : Context :=
  match d.sites.find? (·.encloses line) with
  | none => .nothing
  | some site => inDirectives line site.directives

end Cursor

/-- What may be typed at a position of the text that the document was read from. -/
def Document.contextAt (d : Document) (source : String) (p : Position) : Cursor.Context :=
  match (Text.lines source.toList)[p.line]? with
  | none => .nothing
  | some line =>
    let typed := Cursor.typedText line p.column
    if !typed.any Cursor.isBlank then Cursor.onLine d p.line
    else
      match Cursor.importTarget? typed with
      | none => .nothing
      | some target => .snippet (String.ofList target)

end Caddyfile
