import PhiCalculus.Log.Filter
import PhiCalculus.Session
import PhiCalculus.Tree.Document

/-!
# The command line

Arguments are read from left to right into a command and settings.  A command then has an exit
code and what it writes: results to the standard output, everything else to the other one.
-/

set_option autoImplicit false

namespace PhiCalculus

/-! ## Arguments -/

/-- What the command line asks for. -/
inductive Command where
  | run (file : String)
  | check (file : String)
  | help
  | version
  deriving Repr, DecidableEq

/-- Why the arguments were refused. -/
inductive UsageFault where
  | rootWithoutName
  | withoutFile (command : String)
  | unknownOption (text : String)
  | unexpected (text : String)
  | noCommand
  deriving Repr, DecidableEq

def UsageFault.message : UsageFault → String
  | rootWithoutName => "--root requires an object name"
  | withoutFile command => command ++ " command requires a file"
  | unknownOption text => "Unknown option: " ++ text
  | unexpected text => "Unexpected argument: " ++ text
  | noCommand => "No command given"

/-- A command and the settings for it. -/
structure Invocation where
  command : Command
  settings : Settings
  deriving Repr, DecidableEq

/-- Reads arguments.  Help and version replace any command before them; `run` and `check` take the
next argument as their file and count only as the first command. -/
def readArguments (command : Option Command) (settings : Settings) :
    List String → Except UsageFault Invocation
  | [] =>
    match command with
    | some c => .ok ⟨c, settings⟩
    | none => .error .noCommand
  | "--help" :: rest => readArguments (some .help) settings rest
  | "-h" :: rest => readArguments (some .help) settings rest
  | "--version" :: rest => readArguments (some .version) settings rest
  | "-V" :: rest => readArguments (some .version) settings rest
  | "--trace" :: rest => readArguments command { settings with trace := true } rest
  | ["--root"] => .error .rootWithoutName
  | "--root" :: root :: rest => readArguments command { settings with root := some root } rest
  | ["run"] => .error (.withoutFile "run")
  | "run" :: file :: rest => readArguments (command.or (some (.run file))) settings rest
  | ["check"] => .error (.withoutFile "check")
  | "check" :: file :: rest => readArguments (command.or (some (.check file))) settings rest
  | argument :: _ =>
    if argument.toList.head? == some '-' then .error (.unknownOption argument)
    else .error (.unexpected argument)

/-! ## Output -/

/-- The version of the tool. -/
def version : String := "phic 0.1.0"

/-- How the tool is used, line by line. -/
def usage : List String := [
  version ++ " - object calculus runtime",
  "",
  "Usage: phic run <program.json> [--root NAME] [--trace]",
  "       phic check <program.json>",
  "",
  "Commands:",
  "  run <file>       Dataize the root object and print the result",
  "  check <file>     Validate the program tree",
  "",
  "Options:",
  "  --root NAME      Object to dataize (default: the program's name)",
  "  --trace          Print every dataization step",
  "  --help, -h       Show this help message",
  "  --version, -V    Show the version",
  "",
  "Environment:",
  "  PHIC_ROOT        Same as --root",
  "  PHIC_TRACE       Same as --trace when set to 1, true, yes or on",
  "  PHIC_LOG         Log filter, such as 'info' or 'phic=debug'"]

/-- What a command leaves behind. -/
structure Exit where
  code : Nat
  out : List String := []
  err : List String := []
  deriving Repr, DecidableEq

/-- Why a command failed. -/
inductive CommandFault where
  | failure (f : Failure)
  | tree (f : TreeFault)
  | document
  | file (message : String)
  deriving Repr, DecidableEq

namespace CommandFault

def message : CommandFault → String
  | failure f => f.kind.name ++ ": " ++ f.message
  | tree f => "InvalidTree: " ++ f.message
  | document => "InvalidJson: the document is no program"
  | file message => "Io: " ++ message

/-- 65 for a program that is refused, 70 for a run that fails. -/
def code : CommandFault → Nat
  | failure _ => 70
  | tree _ => 65
  | document => 65
  | file _ => 70

end CommandFault

/-- Ends in an error, after the log lines. -/
def Exit.failed (log : List String) (f : CommandFault) : Exit :=
  { code := f.code, err := log ++ ["Error: " ++ f.message] }

/-- Ends in a result, after the log lines. -/
def Exit.succeeded (log : List String) (result : String) : Exit :=
  { code := 0, out := [result], err := log }

/-! ## Commands -/

/-- The program in a file. -/
def readProgram (source : Except String String) : Except CommandFault Program :=
  match source with
  | .error message => .error (.file message)
  | .ok text =>
    match Program.read? text with
    | some p => .ok p
    | none => .error .document

/-- Where the line about a program that was loaded comes from. -/
def loadedSource : LogSource := ⟨"phic", .info, some ["program", "globals", "message"]⟩

/-- Where the lines of the trace come from. -/
def traceSource : LogSource := ⟨Settings.traceTarget, .debug, some ["message"]⟩

/-- Whether the trace is shown.  Its lines are made only if lines are wanted, whatever they tell. -/
def isTracing (filter : LogFilter) : Bool :=
  filter.shows { traceSource with fields := none } && filter.shows traceSource

/-- The line about a program that was loaded, if it is shown. -/
def loadedLine (filter : LogFilter) (p : Program) (s : State) : List String :=
  if filter.shows loadedSource then
    ["INFO Loaded program program=" ++ p.name ++ " globals=" ++ toString s.globals.length]
  else []

/-- The lines of the trace, in order. -/
def traceLines (s : State) : List String :=
  s.trace.reverse.map fun line => "DEBUG " ++ messageText line

/-- Runs a program that was read.  There is no exit if the run does not end. -/
def runProgram (settings : Settings) (p : Program) : Option Exit :=
  let filter := LogFilter.ofSettings settings
  match p.load with
  | .error f => some (.failed [] (.tree f))
  | .ok s =>
    let loaded := loadedLine filter p s
    match p.root settings.root with
    | .error f => some (.failed loaded (.tree f))
    | .ok name =>
      match dataizeGlobal name { tracing := isTracing filter } s with
      | .answer v s => (s.heap.valueTerm? v).map fun term =>
        .succeeded (loaded ++ traceLines s) term
      | .failure f s => some (.failed (loaded ++ traceLines s) (.failure f))
      | .unfinished => none

/-- Checks a program that was read. -/
def checkProgram (p : Program) : Exit :=
  match p.check with
  | .error f => .failed [] (.tree f)
  | .ok _ =>
    .succeeded [] ("OK " ++ p.name ++ " (" ++ toString p.objects.length ++ " objects)")

/-- Performs a command; `source` gives the text of a file, or why it cannot be read. -/
def perform (i : Invocation) (source : String → Except String String) : Option Exit :=
  match i.command with
  | .help => some { code := 0, err := usage }
  | .version => some { code := 0, out := [version] }
  | .run file =>
    match readProgram (source file) with
    | .error f => some (.failed [] f)
    | .ok p => runProgram i.settings p
  | .check file =>
    match readProgram (source file) with
    | .error f => some (.failed [] f)
    | .ok p => some (checkProgram p)

/-- What the tool does for arguments and an environment. -/
def commandLine (args : List String) (lookup : String → Option String)
    (source : String → Except String String) : Option Exit :=
  match readArguments none (Settings.withEnvironment {} lookup) args with
  | .error f => some { code := 64, err := f.message :: usage }
  | .ok i => perform i source

end PhiCalculus
