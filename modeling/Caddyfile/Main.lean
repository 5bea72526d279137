import Caddyfile.CommandLine
import Caddyfile.Editor.Frame

/-!
# The program

Reads arguments, settings and files, and writes what the command leaves behind.
-/

namespace Caddyfile

open CommandLine

def settingsPath? : IO (Option String) := do
  match ← IO.getEnv "XDG_CONFIG_HOME" with
  | some folder => return some s!"{folder}/caddy-ls/config.toml"
  | none => return (← IO.getEnv "HOME").map fun home => s!"{home}/.config/caddy-ls/config.toml"

def readSettings (path : String) : IO Settings.Stored := do
  try
    return .content (← IO.FS.readBinFile path)
  catch
    | .noFileOrDirectory .. => return .missing
    | _ => return .directory

partial def readAll (stream : IO.FS.Stream) (seen : ByteArray) : IO ByteArray := do
  let chunk ← stream.read 65536
  if chunk.isEmpty then return seen else readAll stream (seen ++ chunk)

def readInput (input : Input) : IO (Option ByteArray) := do
  try
    match input with
    | .stdin => return some (← readAll (← IO.getStdin) .empty)
    | .file path => return some (← IO.FS.readBinFile path)
  catch _ => return none

def send (messages : List Json) : IO Unit := do
  let output ← IO.getStdout
  for message in messages do
    output.putStr (Editor.Frame.write message)
  output.flush

/-- Serves an editor until its messages end, one of them is no message, or it asks to exit. -/
partial def serve (session : Editor.Session) (pending : List UInt8) : IO Unit := do
  if session.phase = .exited then return
  match Editor.Frame.next pending with
  | .bad => send [Editor.Frame.ofMistake .unreadable]
  | .body body rest =>
    match Editor.Frame.answer session body with
    | .error rejection => send [Editor.Frame.ofMistake rejection]
    | .ok (session, sent) =>
      send sent
      serve session rest
  | .wait kept =>
    let chunk ← (← IO.getStdin).read 65536
    if chunk.isEmpty then send (Editor.Frame.atEnd kept)
    else serve session (pending ++ chunk.toList)

def finish (outcome : Outcome) : IO UInt32 := do
  IO.print outcome.output
  for report in outcome.reports do
    IO.eprint report.render
  for failure in outcome.failure? do
    IO.eprintln s!"error: {failure}"
  return outcome.code.toUInt32

def runCommand (level? : Option Level) (command : Command) : IO UInt32 := do
  let path? ← settingsPath?
  let stored ← path?.elim (pure .missing) readSettings
  let log := logging level? (Settings.load stored) (path?.getD "")
  for warning in log.warning? do
    IO.eprintln s!"warning: {warning}"
  if log.level.isVerbose then IO.eprintln s!"logging initialized at level {log.level.name}"
  match command with
  | .serve => serve .start []; return 0
  | .check input => finish (onInput input (check input.name) (← readInput input))
  | .tree input => finish (onInput input tree (← readInput input))

end Caddyfile

def main (args : List String) : IO UInt32 := do
  match Caddyfile.CommandLine.parse none args with
  | none => Caddyfile.finish .usage
  | some .version => Caddyfile.finish .version
  | some (.run level? command) => Caddyfile.runCommand level? command
