import Caddyfile.Document.Reading
import Caddyfile.Outline
import Caddyfile.Report
import Caddyfile.Review
import Caddyfile.Settings

/-!
# The command line

The program checks a file, prints its outline, or serves an editor, which is what it does when no
command is given. The level of logging may be set before or after the command; the later of the two
places wins, and in each it may be set once.
-/

namespace Caddyfile.CommandLine

/-! ## Arguments -/

inductive Input where
  | stdin
  | file (path : String)
deriving DecidableEq, Repr

namespace Input

def ofArgument (arg : String) : Input :=
  if arg = "-" then stdin else file arg

def name : Input → String
  | stdin => "<stdin>"
  | file path => path

def failure : Input → String
  | stdin => "failed to read stdin"
  | file path => s!"failed to read {path}"

end Input

inductive Command where
  | serve
  | check (input : Input)
  | tree (input : Input)
deriving DecidableEq, Repr

inductive Invocation where
  | version
  | run (level? : Option Level) (command : Command)
deriving DecidableEq, Repr

/-- Whether an argument is an option. A single hyphen is not: it names the standard input. -/
def isOption (arg : String) : Bool :=
  arg.toList.head? = some '-' && arg ≠ "-"

/-- The value in an argument of the form `--log-level=value`. -/
def attachedLevel? (arg : String) : Option String :=
  let start := "--log-level=".toList
  if start.isPrefixOf arg.toList then some (String.ofList (arg.toList.drop start.length)) else none

def setLevel (level? : Option Level) (value : String) : Option Level :=
  if level?.isSome then none else Level.ofString? value

def commandOf? (verb : String) (file? : Option String) : Option Command :=
  match verb, file? with
  | "lsp", none => some .serve
  | "check", some file => some (.check (.ofArgument file))
  | "tree", some file => some (.tree (.ofArgument file))
  | _, _ => none

/-- Takes one file as the argument of a command. An empty name is none. -/
def setFile (verb : String) (file? : Option String) (arg : String) : Option String :=
  if verb = "lsp" || file?.isSome || arg.isEmpty then none else some arg

def parseFiles (outer? inner? : Option Level) (verb : String) :
    Option String → List String → Option Invocation
  | file?, [] => (commandOf? verb file?).map (.run (inner? <|> outer?))
  | file?, arg :: args => do parseFiles outer? inner? verb (← setFile verb file? arg) args

def parseRest (outer? : Option Level) (verb : String) :
    Option Level → Option String → List String → Option Invocation
  | inner?, file?, [] => (commandOf? verb file?).map (.run (inner? <|> outer?))
  | inner?, file?, "--" :: args => parseFiles outer? inner? verb file? args
  | inner?, file?, "--log-level" :: value :: args => do
    guard (!isOption value)
    parseRest outer? verb (← setLevel inner? value) file? args
  | inner?, file?, arg :: args =>
    match attachedLevel? arg with
    | some value => do parseRest outer? verb (← setLevel inner? value) file? args
    | none => do
      guard (!isOption arg)
      parseRest outer? verb inner? (← setFile verb file? arg) args

def parse (level? : Option Level) : List String → Option Invocation
  | [] => some (.run level? .serve)
  | "--" :: args => if args.isEmpty then some (.run level? .serve) else none
  | "--version" :: _ => some .version
  | "--log-level" :: value :: args => do
    guard (!isOption value)
    parse (← setLevel level? value) args
  | arg :: args =>
    match attachedLevel? arg with
    | some value => do parse (← setLevel level? value) args
    | none =>
      if "-V".toList.isPrefixOf arg.toList then some .version
      else if ["lsp", "check", "tree"].contains arg then parseRest level? arg none none args
      else none

/-! ## Logging -/

structure Logging where
  level : Level
  warning? : Option String
deriving DecidableEq, Repr

/-- The level given with the arguments comes first, then that of the settings, then warnings. A
warning is kept only if the level in force shows it. -/
def logging (level? : Option Level) (loaded : Except Settings.Problem (Option Settings))
    (path : String) : Logging :=
  let (settled?, warning?) : Option Level × Option String :=
    match loaded with
    | .error problem => (none, some (problem.summary path))
    | .ok settings? =>
      match settings?.bind Settings.logLevel? with
      | none => (none, none)
      | some value =>
        match Level.ofString? value with
        | some level => (some level, none)
        | none =>
          (none, some s!"ignoring invalid log_level {Text.quoted value} in config; using defaults")
  let level := ((level? <|> settled?).getD .warn)
  ⟨level, if level.showsWarnings then warning? else none⟩

/-! ## Commands -/

structure Outcome where
  code : Nat
  output : String
  reports : List Report
  failure? : Option String
deriving DecidableEq, Repr

namespace Outcome

def version : Outcome :=
  ⟨0, "caddy-ls 0.1.0\n", [], none⟩

def usage : Outcome :=
  ⟨2, "", [], none⟩

def unreadable (input : Input) : Outcome :=
  ⟨3, "", [], some input.failure⟩

end Outcome

def reports (filename source : String) : List Report :=
  let r := Document.read source
  r.faults.map (Report.ofFault filename source)
    ++ r.document.review.map (Report.ofFinding filename source)

/-- Faults count for more than findings, and warnings for nothing. -/
def verdict (source : String) : Nat :=
  let r := Document.read source
  if !r.faults.isEmpty then 1
  else if r.document.review.any (·.severity = .error) then 2
  else 0

def check (filename source : String) : Outcome :=
  ⟨verdict source, "", reports filename source, none⟩

def tree (source : String) : Outcome :=
  ⟨0, (Document.read source).document.outline, [], none⟩

/-- Runs a command on the bytes of its input; `none` if there are none to be had. -/
def onInput (input : Input) (run : String → Outcome) (bytes? : Option ByteArray) : Outcome :=
  match bytes?.bind String.fromUTF8? with
  | none => .unreadable input
  | some source => run source

end Caddyfile.CommandLine
