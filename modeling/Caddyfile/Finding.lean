import Caddyfile.Placeholder
import Caddyfile.Position
import Caddyfile.Text.Quoted

/-!
# Findings

What a review can say about the words of a document. Names in the wrong place are worth a warning;
placeholders whose braces do not pair up are errors.
-/

namespace Caddyfile

inductive Severity where
  | error
  | warning
deriving DecidableEq, Repr

def Severity.word : Severity → String
  | error => "error"
  | warning => "warning"

namespace Finding

inductive Cause where
  | unknownOption (name : String)
  | unknownDirective (name : String)
  /-- A name at site level that belongs in the block of `home`. -/
  | misplaced (name home : String)
  | unknownSubdirective (name parent : String)
  /-- A name in the block of `parent` that belongs in the block of `home`. -/
  | misplacedInside (name parent home : String)
  /-- A name in the block of a subdirective; `sub` is the subdirective with its first argument. -/
  | unknownNested (name parent sub : String)
  | undefinedSnippet (name : String)
  | unclosedPlaceholder
  | unmatchedPlaceholder
deriving DecidableEq, Repr

namespace Cause

open Text (quoted)

def severity : Cause → Severity
  | unclosedPlaceholder | unmatchedPlaceholder => .error
  | _ => .warning

def message : Cause → String
  | unknownOption name => s!"unknown global option {quoted name}"
  | unknownDirective name => s!"unknown directive {quoted name}"
  | misplaced name home =>
    s!"{quoted name} must appear inside a {quoted home} block, not at the site level"
  | unknownSubdirective name parent =>
    s!"unknown subdirective {quoted name} for {quoted parent}"
  | misplacedInside name parent home =>
    s!"{quoted name} is not valid inside {quoted parent}; "
      ++ s!"it must appear inside a {quoted home} block"
  | unknownNested name parent sub =>
    s!"unknown subdirective {quoted name} for {quoted parent} {quoted sub}"
  | undefinedSnippet name => s!"undefined snippet {quoted name}"
  | unclosedPlaceholder => "unclosed placeholder: '\x7b' without matching '\x7d'"
  | unmatchedPlaceholder => "unmatched '\x7d': no opening '\x7b' for this placeholder"

end Cause

end Finding

structure Finding where
  cause : Finding.Cause
  span : Span
deriving DecidableEq, Repr

namespace Finding

def severity (f : Finding) : Severity :=
  f.cause.severity

def message (f : Finding) : String :=
  f.cause.message

def line (f : Finding) : String :=
  s!"{f.span.start.line + 1}:{f.span.start.column + 1}: {f.severity.word}: {f.message}"

end Finding

def Placeholder.Balance.cause? : Balance → Option Finding.Cause
  | balanced => none
  | unclosed => some .unclosedPlaceholder
  | unmatched => some .unmatchedPlaceholder

end Caddyfile
