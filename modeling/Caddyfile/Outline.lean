import Caddyfile.Document

/-!
# Outlines

A document as indented lines, one for each block and directive. Blocks show the lines they span,
counted from zero. Words appear as written.
-/

namespace Caddyfile

namespace Outline

def words (ts : List Token) : String :=
  " ".intercalate (ts.map Token.text)

def lines (first last : Nat) : String :=
  s!" [{first}-{last}]"

mutual

def ofDirective (depth : Nat) : Directive → String
  | ⟨name, args, opener, body, lastLine⟩ =>
    let extent := if opener.isSome then lines name.line lastLine else ""
    String.ofList (List.replicate (2 * depth) ' ') ++ words (name :: args) ++ extent ++ "\n"
      ++ ofDirectives (depth + 1) body

def ofDirectives (depth : Nat) : List Directive → String
  | [] => ""
  | d :: ds => ofDirective depth d ++ ofDirectives depth ds

end

def ofGlobals (g : Globals) : String :=
  s!"global{lines g.firstLine g.lastLine}\n" ++ ofDirectives 1 g.directives

def ofSite (s : Site) : String :=
  let kind := if s.isSnippet then "snippet" else "site"
  s!"{kind} {words s.addresses}{lines s.firstLine s.lastLine}\n" ++ ofDirectives 1 s.directives

end Outline

def Document.outline (d : Document) : String :=
  d.globals.elim "" Outline.ofGlobals ++ String.join (d.sites.map Outline.ofSite)

end Caddyfile
