import Caddyfile.Cursor
import Caddyfile.Document.Reading
import Caddyfile.Review

/-!
# Completions at the cursor
-/

namespace Caddyfile.Editor

namespace Completion

inductive Kind where
  | directive
  | subdirective
  | snippet
deriving DecidableEq, Repr

end Completion

structure Completion where
  label : String
  kind : Completion.Kind
  detail? : Option String
deriving DecidableEq, Repr

namespace Completion

def ofContext (d : Document) : Cursor.Context → List Completion
  | .siteDirective => Vocabulary.siteDirectives.toList.map (⟨·, .directive, none⟩)
  | .subdirective parent names =>
    names.toList.map (⟨·, .subdirective, some s!"{parent} subdirective"⟩)
  | .snippet typed =>
    (d.snippetNames.filter fun name => typed.toList.isPrefixOf name.toList).map
      (⟨·, .snippet, some "snippet"⟩)
  | .nothing | .freeform => []

end Completion

def completionsAt (source : String) (p : Position) : List Completion :=
  let d := (Document.read source).document
  Completion.ofContext d (d.contextAt source p)

end Caddyfile.Editor
