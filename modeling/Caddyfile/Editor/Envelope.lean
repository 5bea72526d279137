import Caddyfile.Editor.Session

/-!
# Messages as JSON

A message says which version of the message format it follows. It is a call of a method, with an
identifier if it wants a response, or the response to an earlier call. Fields that the format does
not know are passed over, but none of its own may be written twice.
-/

namespace Caddyfile.Editor

inductive Envelope where
  | call (message : Message)
  | response
deriving Repr

namespace Envelope

/-- The field of that name, if there is one; `none` if there are several. -/
def once? (fields : List (String × Json)) (name : String) : Option (Option Json) :=
  match fields.filter (·.1 = name) with
  | [] => some none
  | [(_, value)] => some (some value)
  | _ => none

def isVersion : Json → Bool
  | .string s => s = "2.0"
  | _ => false

def isCode : Json → Bool
  | .whole n => Int64.minValue.toInt ≤ n && n ≤ Int64.maxValue.toInt
  | _ => false

def isId (j : Json) : Bool :=
  isCode j || j.string?.isSome || j.isNull

/-- A call from its four parts. A method that is not named is the one without a name. -/
def call? (version method? params? id? : Option Json) : Option Envelope := do
  guard (version.any isVersion)
  let method ← match method? with
    | none => some ""
    | some j => j.string?
  guard (id?.all isId)
  return .call ⟨method, params?, id?⟩

def callOfFields? (fields : List (String × Json)) : Option Envelope := do
  call? (← once? fields "jsonrpc") (← once? fields "method") (← once? fields "params")
    (← once? fields "id")

/-- The parts of a call may also stand in an array, in their order and without those at the end. -/
def callOfItems? (items : List Json) : Option Envelope :=
  if items.length ≤ 4 then call? items[0]? items[1]? items[2]? items[3]? else none

def isFailure : Json → Bool
  | .object fields =>
    fields.all (fun field => ["code", "message", "data"].contains field.1)
      && ((once? fields "code").join.any isCode)
      && ((once? fields "message").join.any (·.string?.isSome))
      && (once? fields "data").isSome
  | .array [code, message, _] => isCode code && message.string?.isSome
  | _ => false

def isResponse (fields : List (String × Json)) : Bool :=
  ((once? fields "jsonrpc").join.any isVersion)
    && ((once? fields "id").join.any isId)
    && ((once? fields "result").join.isSome || (once? fields "error").join.any isFailure)

def ofJson? : Json → Option Envelope
  | .object fields => if isResponse fields then some .response else callOfFields? fields
  | .array items => callOfItems? items
  | _ => none

end Envelope

end Caddyfile.Editor
