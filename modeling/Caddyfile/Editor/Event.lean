import Caddyfile.Editor.Completion
import Caddyfile.Editor.Hover
import Caddyfile.Editor.Notice
import Caddyfile.Editor.Store

/-!
# Events on documents

An event may change the store, publish notices, and ask for an answer. Each of the three is a
function of the store before the event and of the event alone.
-/

namespace Caddyfile.Editor

inductive Event where
  | opened (uri : String) (version : Int) (text : String)
  /-- Each text is the whole document; the last one counts. -/
  | changed (uri : String) (version : Int) (texts : List String)
  | saved (uri : String) (text? : Option String)
  | closed (uri : String)
  | hover (uri : String) (position : Position)
  | completion (uri : String) (position : Position)
deriving DecidableEq, Repr

structure Publication where
  uri : String
  notices : List Notice
  version? : Option Int
deriving DecidableEq, Repr

/-- What an event that asks for something gets. A document that is not open has no answer. -/
inductive Answer where
  | hover (found : Option Hover)
  | completion (items? : Option (List Completion))
deriving DecidableEq, Repr

namespace Event

def uri : Event → String
  | opened uri .. | changed uri .. | saved uri .. => uri
  | closed uri | hover uri .. | completion uri .. => uri

end Event

namespace Store

def after (s : Store) : Event → Store
  | .opened uri _ text => s.insert uri text
  | .changed uri _ texts => texts.getLast?.elim s (s.insert uri)
  | .saved uri text? => text?.elim s (s.insert uri)
  | .closed uri => s.erase uri
  | .hover .. | .completion .. => s

def publications (s : Store) : Event → List Publication
  | .opened uri version text => [⟨uri, notices text, some version⟩]
  | .changed uri version texts => texts.getLast?.toList.map (⟨uri, notices ·, some version⟩)
  | .saved uri text? => (text? <|> s.get? uri).toList.map (⟨uri, notices ·, none⟩)
  | .closed uri => [⟨uri, [], none⟩]
  | .hover .. | .completion .. => []

def answer? (s : Store) : Event → Option Answer
  | .hover uri position => some (.hover ((s.get? uri).bind (hoverAt · position)))
  | .completion uri position => some (.completion ((s.get? uri).map (completionsAt · position)))
  | .opened .. | .changed .. | .saved .. | .closed .. => none

end Store

end Caddyfile.Editor
