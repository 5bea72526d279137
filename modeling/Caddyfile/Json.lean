import Caddyfile.Decimal

/-!
# JSON values

The values that editor messages are made of. Whole numbers of 64 bits stand apart from all other
numbers: a line number may only be whole. Fields keep the order in which they are written.
-/

namespace Caddyfile

inductive Json where
  | null
  | bool (value : Bool)
  | whole (value : Int)
  | decimal (value : Decimal)
  | string (value : String)
  | array (items : List Json)
  | object (fields : List (String × Json))
deriving Repr, Inhabited

namespace Json

/-- The field of that name; the last one counts if it is written twice. -/
def field? (key : String) : Json → Option Json
  | object fields => (fields.reverse.find? (·.1 = key)).map (·.2)
  | _ => none

def insertField (key : String) (value : Json) : List (String × Json) → List (String × Json)
  | [] => [(key, value)]
  | field :: fields =>
    if key < field.1 then (key, value) :: field :: fields
    else if key = field.1 then (key, value) :: fields
    else field :: insertField key value fields

/-- The fields by ascending name; the last one counts if a name is written twice. -/
def sortFields (fields : List (String × Json)) : List (String × Json) :=
  fields.foldl (fun sorted (key, value) => insertField key value sorted) []

def string? : Json → Option String
  | string s => some s
  | _ => none

def bool? : Json → Option Bool
  | bool b => some b
  | _ => none

def int? : Json → Option Int
  | whole n => some n
  | _ => none

def nat? : Json → Option Nat
  | whole (.ofNat n) => some n
  | _ => none

def array? : Json → Option (List Json)
  | array items => some items
  | _ => none

def fields? : Json → Option (List (String × Json))
  | object fields => some fields
  | _ => none

def isNull : Json → Bool
  | null => true
  | _ => false

end Json

end Caddyfile
