import Caddyfile.Document
import Caddyfile.Finding
import Caddyfile.Vocabulary

/-!
# Reviewing documents

`Document.review` judges the names of a document against the vocabulary, imports against the
snippets that the document declares, and the placeholders in addresses and arguments. Findings on
names come first, those of the global options before those of the sites; findings on placeholders
follow in the same order.
-/

namespace Caddyfile

/-! ## Snippets -/

def insertName (name : String) : List String → List String
  | [] => [name]
  | n :: ns =>
    if name < n then name :: n :: ns
    else if name = n then n :: ns
    else n :: insertName name ns

/-- The snippets that a document declares, each once and in ascending order. -/
def Document.snippetNames (d : Document) : List String :=
  (d.sites.filterMap Site.snippet?).foldr insertName []

namespace Review

/-- Files are imported by path or pattern. -/
def isFile (target : List Char) : Bool :=
  target.any (fun c => c = '/' || c = '\\' || c = '*') || target.head? = some '.'

/-- A placeholder as a whole is resolved at run time. -/
def isPlaceholder (target : List Char) : Bool :=
  target.head? = some '{' && target.getLast? = some '}'

def isMatcher (name : String) : Bool :=
  name.toList.head? = some '@'

def ofImport (snippets : Array String) (d : Directive) : List Finding :=
  match d.args with
  | [] => []
  | arg :: _ =>
    let target := arg.value
    if isFile target.toList || isPlaceholder target.toList then []
    else if Sorted.contains snippets target then []
    else [⟨.undefinedSnippet target, arg.span⟩]

def ofGlobal (snippets : Array String) (d : Directive) : List Finding :=
  let name := d.title
  if isMatcher name then []
  else if !Vocabulary.isGlobalOption name then [⟨.unknownOption name, d.name.span⟩]
  else if name = "import" then ofImport snippets d
  else []

/-! ## Blocks with a vocabulary of their own -/

/-- A directive in the block of the subdirective `sub` of `parent`, which takes `allowed`. -/
def ofNested (snippets : Array String) (parent sub : String) (allowed : Array String)
    (d : Directive) : List Finding :=
  let name := d.title
  if isMatcher name then []
  else if name = "import" then ofImport snippets d
  else if Sorted.contains allowed name then []
  else [⟨.unknownNested name parent sub, d.name.span⟩]

def ofSubdirective (snippets : Array String) (parent : String) (allowed : Array String)
    (d : Directive) : List Finding :=
  let name := d.title
  if isMatcher name then []
  else if name = "import" then ofImport snippets d
  else if !Sorted.contains allowed name then
    match Vocabulary.home? name with
    | some home => [⟨.misplacedInside name parent home, d.name.span⟩]
    | none => [⟨.unknownSubdirective name parent, d.name.span⟩]
  else
    match d.firstArg? with
    | none => []
    | some arg =>
      match Vocabulary.nestedNames? name arg with
      | none => []
      | some nested => d.body.flatMap (ofNested snippets parent s!"{name} {arg}" nested)

/-! ## Site level -/

mutual

/-- A directive in a site, in a snippet, or in the block of a container. A snippet may be imported
into any block, so a name that belongs in some other block may stand in it. -/
def ofDirective (snippets : Array String) (inSnippet : Bool) : Directive → List Finding
  | ⟨token, args, opener, body, lastLine⟩ =>
    let name := token.value
    if isMatcher name then []
    else if !Vocabulary.isSiteDirective name then
      match Vocabulary.home? name with
      | some home => if inSnippet then [] else [⟨.misplaced name home, token.span⟩]
      | none => [⟨.unknownDirective name, token.span⟩]
    else if name = "import" then ofImport snippets ⟨token, args, opener, body, lastLine⟩
    else if Vocabulary.isContainer name then ofDirectives snippets inSnippet body
    else
      match Vocabulary.bodyOf name with
      | .names allowed => body.flatMap (ofSubdirective snippets name allowed)
      | .freeform | .unmodeled => []

def ofDirectives (snippets : Array String) (inSnippet : Bool) : List Directive → List Finding
  | [] => []
  | d :: ds => ofDirective snippets inSnippet d ++ ofDirectives snippets inSnippet ds

end

def ofSite (snippets : Array String) (s : Site) : List Finding :=
  ofDirectives snippets s.isSnippet s.directives

/-! ## Placeholders -/

mutual

def arguments : Directive → List Token
  | ⟨_, args, _, body, _⟩ => args ++ argumentsOf body

def argumentsOf : List Directive → List Token
  | [] => []
  | d :: ds => arguments d ++ argumentsOf ds

end

def placeholderWords (d : Document) : List Token :=
  d.globals.elim [] (fun g => argumentsOf g.directives)
    ++ d.sites.flatMap fun s => s.addresses ++ argumentsOf s.directives

def ofWord (t : Token) : Option Finding :=
  (Placeholder.balance t.text).cause?.map (⟨·, t.span⟩)

end Review

def Document.warnings (d : Document) : List Finding :=
  let snippets := d.snippetNames.toArray
  d.globals.elim [] (fun g => g.directives.flatMap (Review.ofGlobal snippets))
    ++ d.sites.flatMap (Review.ofSite snippets)

def Document.review (d : Document) : List Finding :=
  d.warnings ++ (Review.placeholderWords d).filterMap Review.ofWord

end Caddyfile
