import Caddyfile.Uri.Escape

/-!
# Paths

A path is a list of segments. A segment of one dot stands for nothing and one of two dots takes the
segment before it away; a dot may also be written as an escape. A path of files may begin with the
letter of a drive.
-/

namespace Caddyfile.Uri.Path

def isDot (cs : List Char) : Bool :=
  cs = ['.'] || cs = ['%', '2', 'e'] || cs = ['%', '2', 'E']

def isHere (segment : List Char) : Bool :=
  isDot segment

def isUp (segment : List Char) : Bool :=
  (List.range (segment.length + 1)).any fun i => isDot (segment.take i) && isDot (segment.drop i)

/-- A letter and a colon; a bar may stand for the colon. -/
def isDrive : List Char → Bool
  | [letter, mark] => letter.isAlpha && (mark = ':' || mark = '|')
  | _ => false

def dropLast (segments : List (List Char)) : List (List Char) :=
  match segments.getLast? with
  | none => []
  | some last => if isDrive last then segments else segments.dropLast

/-- Adds the segments that are written to those that are there. Where the path ends with dots, an
empty segment stands for what they leave. -/
def extend (ofFile : Bool) : List (List Char) → List (List Char) → List (List Char)
  | segments, [] => segments
  | segments, written :: more =>
    let segment := escape inPath written
    let close := fun (done : List (List Char)) => if more.isEmpty then done ++ [[]] else done
    if isUp segment then extend ofFile (close (dropLast segments)) more
    else if isHere segment then extend ofFile (close segments) more
    else if ofFile && segments.isEmpty && isDrive segment then
      extend ofFile [segment.take 1 ++ [':']] more
    else extend ofFile (segments ++ [segment]) more

def write (segments : List (List Char)) : List Char :=
  segments.flatMap ('/' :: ·)

end Caddyfile.Uri.Path
