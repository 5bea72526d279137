import Caddyfile.Document.Reading
import Caddyfile.Review

/-!
# Notices

What an editor shows about a text: its structural faults, then the findings of the review.
-/

namespace Caddyfile.Editor

structure Notice where
  span : Span
  severity : Severity
  message : String
deriving DecidableEq, Repr

namespace Notice

def ofFault (f : Fault) : Notice :=
  ⟨f.span, .error, f.message⟩

def ofFinding (f : Finding) : Notice :=
  ⟨f.span, f.severity, f.message⟩

end Notice

def notices (source : String) : List Notice :=
  let r := Document.read source
  r.faults.map Notice.ofFault ++ r.document.review.map Notice.ofFinding

end Caddyfile.Editor
