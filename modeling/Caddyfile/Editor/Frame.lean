import Caddyfile.Editor.Envelope
import Caddyfile.Json.Reading
import Caddyfile.Text.CharClass
import Caddyfile.Text.Numeral

/-!
# Messages on a stream of bytes

Each message has a head, a body and nothing else. The head is one or two lines, of which one gives
the length of the body in bytes, and an empty line. The body is a JSON value. A stream with a
mistake is answered once more and then no longer read.
-/

namespace Caddyfile.Editor.Frame

/-! ## Heads -/

/-- What can be made of the bytes that have come: there must be more of them, there is a mistake in
them, or something has been read. -/
inductive Scan (α : Type) where
  | more
  | bad
  | done (value : α) (rest : List UInt8)

def isNameByte (b : UInt8) : Bool :=
  let c := Char.ofNat b.toNat
  c.isAlphanum || "!#$%&'*+-.^_`|~".toList.contains c

def isValueByte (b : UInt8) : Bool :=
  b = 9 || (32 ≤ b && b ≠ 127)

def isBlankByte (b : UInt8) : Bool :=
  b = 32 || b = 9

structure Line where
  name : List UInt8
  value : List UInt8

def readLineEnd : List UInt8 → Scan Unit
  | [] => .more
  | [13] => .more
  | 10 :: rest => .done () rest
  | 13 :: 10 :: rest => .done () rest
  | _ => .bad

def readLineValue (bs : List UInt8) : Scan (List UInt8) :=
  let begun := bs.dropWhile isBlankByte
  let value := begun.takeWhile isValueByte
  match readLineEnd (begun.drop value.length) with
  | .more => .more
  | .bad => .bad
  | .done _ rest => .done (value.reverse.dropWhile isBlankByte).reverse rest

def readLine (bs : List UInt8) : Scan Line :=
  let name := bs.takeWhile isNameByte
  match bs.drop name.length with
  | [] => .more
  | colon :: after =>
    if name.isEmpty || colon ≠ 58 then .bad
    else
      match readLineValue after with
      | .more => .more
      | .bad => .bad
      | .done value rest => .done ⟨name, value⟩ rest

/-- The lines up to the empty one, of which there may be as many as `count` says. -/
def readLines (count : Nat) (bs : List UInt8) : Scan (List Line) :=
  match readLineEnd bs with
  | .more => .more
  | .done _ rest => .done [] rest
  | .bad =>
    match count with
    | 0 => .bad
    | count + 1 =>
      match readLine bs with
      | .more => .more
      | .bad => .bad
      | .done line rest =>
        match readLines count rest with
        | .more => .more
        | .bad => .bad
        | .done lines rest => .done (line :: lines) rest

def text? (bytes : List UInt8) : Option String :=
  String.fromUTF8? ⟨bytes.toArray⟩

def length? (value : List UInt8) : Option Nat := do
  (Text.number? (← text? value).toList).filter (· < UInt64.size)

/-- A line about the type of the body has to say that it is text in UTF-8. -/
def namesUtf8 (value : List UInt8) : Bool :=
  let parts := ((text? value).getD "").splitOn ";"
  let charset := (parts.drop 1).findSome? fun part =>
    let cs := Text.trim part.toList
    let key := "charset=".toList
    if key.isPrefixOf cs then some (String.ofList (cs.drop key.length)) else none
  charset = some "utf-8" || charset = some "utf8"

def lengthName : List UInt8 := "Content-Length".toUTF8.toList

def typeName : List UInt8 := "Content-Type".toUTF8.toList

def isSound (line : Line) : Bool :=
  if line.name = lengthName then (length? line.value).isSome
  else if line.name = typeName then namesUtf8 line.value
  else true

/-- The length that a head gives; the last one counts. -/
def bodyLength? (lines : List Line) : Option Nat := do
  guard (lines.all isSound)
  let line ← lines.reverse.find? (·.name = lengthName)
  length? line.value

/-! ## Bodies -/

inductive Step where
  | wait (kept : List UInt8)
  | bad
  | body (bytes rest : List UInt8)

def next (bytes : List UInt8) : Step :=
  match readLines 2 bytes with
  | .more => .wait bytes
  | .bad => .bad
  | .done lines rest =>
    match bodyLength? lines with
    | none => .bad
    | some n => if rest.length < n then .wait rest else .body (rest.take n) (rest.drop n)

theorem length_readLineEnd_lt {bs rest : List UInt8} {u : Unit}
    (h : readLineEnd bs = .done u rest) : rest.length < bs.length := by
  unfold readLineEnd at h
  split at h <;> cases h <;> simp only [List.length_cons] <;> omega

theorem length_readLineValue_lt {bs rest value : List UInt8}
    (h : readLineValue bs = .done value rest) : rest.length < bs.length := by
  unfold readLineValue at h
  dsimp only at h
  split at h
  · cases h
  · cases h
  · rename_i he
    cases h
    have hend := length_readLineEnd_lt he
    have hdrop := (List.dropWhile_suffix (l := bs) isBlankByte).length_le
    simp only [List.length_drop] at hend
    omega

theorem length_readLine_lt {bs rest : List UInt8} {line : Line}
    (h : readLine bs = .done line rest) : rest.length < bs.length := by
  unfold readLine at h
  dsimp only at h
  split at h
  · cases h
  · rename_i colon after hd
    have hlen := congrArg List.length hd
    simp only [List.length_drop, List.length_cons] at hlen
    split at h
    · cases h
    · split at h
      · cases h
      · cases h
      · rename_i hv
        cases h
        have hvalue := length_readLineValue_lt hv
        omega

theorem length_readLines_lt {count : Nat} {bs rest : List UInt8} {lines : List Line}
    (h : readLines count bs = .done lines rest) : rest.length < bs.length := by
  induction count generalizing bs lines with
  | zero =>
    unfold readLines at h
    split at h
    · cases h
    · rename_i he
      cases h
      exact length_readLineEnd_lt he
    · cases h
  | succ count ih =>
    unfold readLines at h
    split at h
    · cases h
    · rename_i he
      cases h
      exact length_readLineEnd_lt he
    · dsimp only at h
      split at h
      · cases h
      · cases h
      · rename_i hl
        split at h
        · cases h
        · cases h
        · rename_i hm
          cases h
          exact Nat.lt_trans (ih hm) (length_readLine_lt hl)

theorem length_next_lt {bytes body rest : List UInt8} (h : next bytes = .body body rest) :
    rest.length < bytes.length := by
  unfold next at h
  split at h
  · cases h
  · cases h
  · rename_i hl
    split at h
    · cases h
    · split at h
      · cases h
      · cases h
        have hlt := length_readLines_lt hl
        simp only [List.length_drop]
        omega

/-! ## Writing -/

def write (body : Json) : String :=
  let text := body.write
  s!"Content-Length: {text.utf8ByteSize}\r\n\r\n{text}"

def ofNotification (n : Notification) : Json :=
  .object [("jsonrpc", .string "2.0"), ("method", .string n.method), ("params", n.params)]

def ofResponse (id : Json) (response : Except Rejection Json) : Json :=
  let outcome := match response with
    | .ok result => ("result", result)
    | .error rejection => ("error", rejection.toJson)
  .object [("jsonrpc", .string "2.0"), outcome, ("id", id)]

def ofMistake (rejection : Rejection) : Json :=
  ofResponse .null (.error rejection)

/-! ## Conversations -/

/-- The message that a body holds. Text behind a value that is no message goes unnoticed. -/
def envelope (body : List UInt8) : Except Rejection Envelope :=
  match (text? body).bind fun text => Json.readFirst text.toList with
  | none => .error .unreadable
  | some (value, rest) =>
    match Envelope.ofJson? value with
    | none => .error .invalidRequest
    | some envelope =>
      if (Json.skipBlanks rest).isEmpty then .ok envelope else .error .unreadable

/-- What a session makes of one body: the session after it and what is sent back. A body of no bytes
is passed over. -/
def answer (s : Session) (body : List UInt8) : Except Rejection (Session × List Json) :=
  if body.isEmpty then .ok (s, [])
  else
    match envelope body with
    | .error rejection => .error rejection
    | .ok .response => .ok (s, [])
    | .ok (.call m) =>
      let reply := s.receive m
      .ok (reply.session, reply.notifications.map ofNotification
        ++ reply.response?.toList.map (ofResponse (m.id?.getD .null)))

def atEnd (kept : List UInt8) : List Json :=
  if kept.isEmpty then [] else [ofMistake .unreadable]

def converse (s : Session) (bytes : List UInt8) : List Json :=
  if s.phase = .exited then []
  else
    match _h : next bytes with
    | .wait kept => atEnd kept
    | .bad => [ofMistake .unreadable]
    | .body body rest =>
      match answer s body with
      | .error rejection => [ofMistake rejection]
      | .ok (s', sent) => sent ++ converse s' rest
termination_by bytes.length
decreasing_by exact length_next_lt _h

end Caddyfile.Editor.Frame
