import Caddyfile.Editor.Event
import Caddyfile.Json

/-!
# Events from parameters

How events are read from parameters that already have the shape of their message, so that every
field is there and every address is in its normal form.
-/

namespace Caddyfile.Editor.Params

def text? (j : Json) (name : String) : Option String :=
  (j.field? name).bind Json.string?

def position? (j : Json) : Option Position := do
  let line ← (j.field? "line").bind Json.nat?
  let column ← (j.field? "character").bind Json.nat?
  return ⟨line, column⟩

def document? (params : Json) : Option Json :=
  params.field? "textDocument"

def documentUri? (params : Json) : Option String := do
  text? (← document? params) "uri"

def version? (params : Json) : Option Int := do
  ((← document? params).field? "version").bind Json.int?

def opened? (params : Json) : Option Event := do
  return .opened (← documentUri? params) (← version? params) (← text? (← document? params) "text")

/-- A change may say which part of the document it stands for, but only its text is used. -/
def changed? (params : Json) : Option Event := do
  let changes ← (params.field? "contentChanges").bind Json.array?
  return .changed (← documentUri? params) (← version? params) (← changes.mapM (text? · "text"))

def saved? (params : Json) : Option Event := do
  return .saved (← documentUri? params) (text? params "text")

def closed? (params : Json) : Option Event :=
  (documentUri? params).map .closed

def place? (params : Json) : Option (String × Position) := do
  let position ← (params.field? "position").bind position?
  return (← documentUri? params, position)

def hover? (params : Json) : Option Event :=
  (place? params).map fun (uri, position) => .hover uri position

def completion? (params : Json) : Option Event :=
  (place? params).map fun (uri, position) => .completion uri position

end Caddyfile.Editor.Params
