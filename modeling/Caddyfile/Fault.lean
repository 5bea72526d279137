import Caddyfile.Position
import Caddyfile.Text.Quoted

/-!
# Structural faults

What can be wrong with the braces of a text. Reading goes on after each of them.
-/

namespace Caddyfile

def maxDepth : Nat := 64

namespace Fault

inductive Cause where
  | strayClose
  /-- An opening brace with no site and no directive in front of it. -/
  | strayOpen
  | missingBlock
  | unclosedGlobals
  | unclosedSite (address : String)
  | unclosedDirective (name : String)
  /-- A block without a directive that is still open at the end. -/
  | unclosedBlock
  /-- A block inside `maxDepth` others, which is passed over. -/
  | tooDeep
deriving DecidableEq, Repr

namespace Cause

def message : Cause → String
  | strayClose => "unexpected '\x7d'"
  | strayOpen => "unexpected '\x7b'"
  | missingBlock => "expected '\x7b' after site address(es)"
  | unclosedGlobals => "unclosed global options block"
  | unclosedSite address => s!"unclosed site block for {Text.quoted address}"
  | unclosedDirective name => s!"unclosed block for directive {Text.quoted name}"
  | unclosedBlock => "unclosed block"
  | tooDeep => s!"blocks nested too deeply (limit {maxDepth})"

def label : Cause → String
  | strayClose => "no open block to close"
  | strayOpen => "block without a directive"
  | missingBlock => "addresses end here"
  | unclosedGlobals | unclosedSite _ | unclosedDirective _ | unclosedBlock => "block opened here"
  | tooDeep => "this block is skipped"

def help? : Cause → Option String
  | strayClose => some "remove this '\x7d'"
  | strayOpen => some "a block must follow a directive name or site address"
  | missingBlock => some "add '\x7b' at the end of the address line"
  | unclosedGlobals | unclosedSite _ | unclosedDirective _ | unclosedBlock =>
    some "add a closing '\x7d'"
  | tooDeep => none

end Cause

end Fault

structure Fault where
  cause : Fault.Cause
  span : Span
deriving DecidableEq, Repr

namespace Fault

def message (f : Fault) : String :=
  f.cause.message

def line (f : Fault) : String :=
  s!"{f.span.start.line + 1}:{f.span.start.column + 1}: {f.message}"

end Fault

end Caddyfile
