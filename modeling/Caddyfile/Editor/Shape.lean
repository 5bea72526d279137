import Caddyfile.Json
import Caddyfile.Text.Quoted
import Caddyfile.Uri.Reading

/-!
# Shapes of values

A shape says which JSON values a part of a message may have, and reads each of them into one form:
records become objects with all their fields, in the order in which the shape lists them, and
addresses are written in their normal way. `Shape.read` also says what the first mistake is.
-/

namespace Caddyfile.Editor

/-! ## Mistakes -/

inductive Mismatch where
  | kind (found : Json) (expected : String)
  | value (found : Json) (expected : String)
  | missing (field : String)
  | choice (found : String) (choices : List String)
  | length (found : Nat) (expected : String)
  | union (title : String)
  | uri (problem : Uri.Problem) (text : String)
deriving Repr

namespace Mismatch

def describe : Json → String
  | .null => "null"
  | .bool true => "boolean `true`"
  | .bool false => "boolean `false`"
  | .whole n => s!"integer `{n}`"
  | .decimal d => s!"floating point `{d.write}`"
  | .string s => s!"string {Text.quoted s}"
  | .array _ => "sequence"
  | .object _ => "map"

def listChoices (choices : List String) : String :=
  match choices with
  | [a] => s!"`{a}`"
  | [a, b] => s!"`{a}` or `{b}`"
  | choices => "one of " ++ ", ".intercalate (choices.map fun c => s!"`{c}`")

def message : Mismatch → String
  | kind found expected => s!"invalid type: {describe found}, expected {expected}"
  | value found expected => s!"invalid value: {describe found}, expected {expected}"
  | missing field => s!"missing field `{field}`"
  | choice found choices => s!"unknown variant `{found}`, expected {listChoices choices}"
  | length found expected => s!"invalid length {found}, expected {expected}"
  | union title => s!"data did not match any variant of untagged enum {title}"
  | uri problem text => s!"{problem.message}: {Text.quoted text}"

end Mismatch

/-! ## Shapes -/

structure Shape where
  read : Json → Except Mismatch Json
  /-- What the field of a record stands for if it is absent; `none` if it must be there. -/
  absent? : Option Json := none
  /-- Whether a record that is written as an array may end before this field. -/
  mayEnd : Bool := false

namespace Shape

/-- Any value at all. An absent field counts as null. -/
def any : Shape where
  read := .ok
  absent? := some .null

def present : Shape where
  read := .ok

def bool : Shape where
  read
    | .bool b => .ok (.bool b)
    | j => .error (.kind j "a boolean")

def text : Shape where
  read
    | .string s => .ok (.string s)
    | j => .error (.kind j "a string")

/-- Whole numbers from `low` up to, but not including, `high`. -/
def integer (title : String) (low high : Int) : Shape where
  read
    | .whole n => if low ≤ n && n < high then .ok (.whole n) else .error (.value (.whole n) title)
    | j => .error (.kind j title)

def unsigned : Shape :=
  integer "u32" 0 UInt32.size

def signed : Shape :=
  integer "i32" Int32.minValue.toInt (Int32.maxValue.toInt + 1)

def number : Shape where
  read
    | .whole n => .ok (.whole n)
    | .decimal d => .ok (.decimal d)
    | j => .error (.kind j "f32")

def uri : Shape where
  read
    | .string s =>
      match Uri.parse s with
      | .ok u => .ok (.string u.text)
      | .error problem => .error (.uri problem s)
    | j => .error (.kind j "a string representing an URL")

/-- One of a few words. Instead of the word there may be an object with the word as its only field
and null in it. -/
def word (choices : List String) : Shape where
  read
    | .string s => if choices.contains s then .ok (.string s) else .error (.choice s choices)
    | .object fields =>
      match Json.sortFields fields with
      | [(s, content)] =>
        if !choices.contains s then .error (.choice s choices)
        else if content.isNull then .ok (.string s)
        else .error (.kind content "unit")
      | _ => .error (.value (.object fields) "map with a single key")
    | j => .error (.kind j "string or map")

def optional (s : Shape) : Shape where
  read j := if j.isNull then .ok .null else s.read j
  absent? := some .null

/-- The shape, or nothing, which then stands for the given value. -/
def default (value : Json) (s : Shape) : Shape :=
  { s with absent? := some value, mayEnd := true }

def list (s : Shape) : Shape where
  read
    | .array items => (items.mapM s.read).map .array
    | j => .error (.kind j "a sequence")

def tuple (length : Nat) (s : Shape) : Shape where
  read
    | .array items =>
      if items.length = length then (items.mapM s.read).map .array
      else .error (.length items.length s!"an array of length {length}")
    | j => .error (.kind j s!"an array of length {length}")

def union (title : String) (shapes : List Shape) : Shape where
  read j :=
    match shapes.findSome? fun s => (s.read j).toOption with
    | some value => .ok value
    | none => .error (.union title)

/-! ## Records -/

abbrev Fields := List (String × Shape)

def readNamed (fields : Fields) (found : List (String × Json)) :
    Except Mismatch (List (String × Json)) :=
  found.filterMapM fun (name, value) =>
    match fields.lookup name with
    | some s => (s.read value).map fun value => some (name, value)
    | none => .ok none

def complete (fields : Fields) (read : List (String × Json)) :
    Except Mismatch (List (String × Json)) :=
  fields.mapM fun (name, s) =>
    match read.lookup name <|> s.absent? with
    | some value => .ok (name, value)
    | none => .error (.missing name)

/-- Fields by their names. What has another name is passed over. -/
def ofObject (fields : Fields) (found : List (String × Json)) : Except Mismatch Json := do
  let read ← readNamed fields (Json.sortFields found)
  return .object (← complete fields read)

/-- Fields by their places, the first of which has the given number. -/
def readPlaced (expected : String) : Nat → Fields → List Json →
    Except Mismatch (List (String × Json))
  | _, [], _ => .ok []
  | i, (name, s) :: fields, item :: items => do
    let value ← s.read item
    return (name, value) :: (← readPlaced expected (i + 1) fields items)
  | i, (name, s) :: fields, [] =>
    match s.mayEnd, s.absent? with
    | true, some value => do return (name, value) :: (← readPlaced expected (i + 1) fields [])
    | _, _ => .error (.length i expected)

def ofArray (expected : String) (fields : Fields) (items : List Json) : Except Mismatch Json := do
  let read ← readPlaced expected 0 fields items
  if fields.length < items.length then .error (.length items.length "fewer elements in array")
  return .object read

def countFields (n : Nat) : String :=
  if n = 1 then "1 element" else s!"{n} elements"

/-- A record is written as an object, or as an array of its fields. -/
def record (title : String) (fields : Fields) : Shape where
  read
    | .object found => ofObject fields found
    | .array items =>
      ofArray s!"struct {title} with {countFields fields.length}" fields items
    | j => .error (.kind j s!"struct {title}")

/-- A record that has the fields of several others is only written as an object. -/
def merged (title : String) (fields : Fields) : Shape where
  read
    | .object found => ofObject fields found
    | j => .error (.kind j s!"struct {title}")

def extended (title : String) (fields : Fields) (other : Shape) : Shape where
  read
    | .object found => do
      let rest := (Json.sortFields found).filter fun field => (fields.lookup field.1).isNone
      let _ ← rest.mapM fun field => other.read field.2
      ofObject fields found
    | j => .error (.kind j s!"struct {title}")

def dictionary (name value : Shape) : Shape where
  read
    | .object found => do
      let fields ← (Json.sortFields found).mapM fun field => do
        let key ← name.read (.string field.1)
        return ((key.string?).getD field.1, ← value.read field.2)
      return .object fields
    | j => .error (.kind j "a map")

/-- A record whose first field tells which of several it is. -/
def tagged (title tag : String) (variants : List (String × Shape)) : Shape where
  read
    | .object found =>
      match (Json.object found).field? tag with
      | none => .error (.missing tag)
      | some (.string name) =>
        match variants.lookup name with
        | some s => s.read (.object (found.filter (·.1 ≠ tag)))
        | none => .error (.choice name (variants.map (·.1)))
      | some j => .error (.kind j "variant identifier")
    | .array (.string name :: items) =>
      match variants.lookup name with
      | some s => s.read (.array items)
      | none => .error (.choice name (variants.map (·.1)))
    | j => .error (.kind j s!"internally tagged enum {title}")

end Shape

end Caddyfile.Editor
