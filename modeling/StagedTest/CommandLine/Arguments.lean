import StagedTest.Text.Affix

/-!
# Arguments

What a command line asks for. Options of the whole command stand before the name of the
subcommand, and those of the subcommand behind it. What cannot be understood is refused at once.
What is understood but not allowed (a value that is missing or that counts for nothing, an option
given twice) is refused only when the whole line has been read, because a line that asks for the
version or for help gets it all the same.
-/
namespace StagedTest.CommandLine

/-- How much is logged. -/
inductive LogLevel
  /-- Nothing. -/
  | off
  /-- Failures. -/
  | error
  /-- Also what looks wrong. -/
  | warn
  /-- Also what is done. -/
  | info
  /-- Also how it is done. -/
  | debug
  /-- Everything. -/
  | trace
deriving DecidableEq, Inhabited, Repr

namespace LogLevel

/-- The levels by name. -/
def names : List (String × LogLevel) :=
  [ ("off", .off), ("error", .error), ("warn", .warn), ("info", .info), ("debug", .debug)
  , ("trace", .trace) ]

/-- The level of a name in small or capital letters. -/
def ofName? (name : String) : Option LogLevel := names.lookup name.toLower

end LogLevel

/-- What is to be done. -/
inductive Command
  /-- Run the test of a run file, and write its test cases to a file if one is named. -/
  | run (path : String) (report : Option String) (usesEnvironment : Bool)
  /-- Print the links of the test of a run file. -/
  | requires (path : String)
deriving DecidableEq, Repr

/-- A command with the options of the whole. -/
structure Invocation where
  /-- How much is logged. -/
  logLevel : LogLevel
  /-- The file of the description of the cluster. -/
  kubeconfig : Option String
  /-- What is to be done. -/
  command : Command
deriving DecidableEq, Repr

/-- What a command line asks for. -/
inductive Request
  /-- The version. -/
  | version
  /-- Help. -/
  | help
  /-- A command. -/
  | invoke (invocation : Invocation)
deriving DecidableEq, Repr

/-- Why a command line is refused. -/
inductive UsageError
  /-- An argument means nothing where it stands. -/
  | unexpected (argument : String)
  /-- An option has no value. -/
  | missingValue (option : String)
  /-- A value counts for nothing. -/
  | invalidValue (option value : String)
  /-- An option is given twice. -/
  | repeated (option : String)
  /-- The path of the run file is missing. -/
  | missingPath
  /-- No command is named. -/
  | missingCommand
deriving DecidableEq, Repr

/-- The wording of a refusal. -/
def UsageError.message : UsageError → String
  | .unexpected argument => "unexpected argument '" ++ argument ++ "'"
  | .missingValue option => "option '" ++ option ++ "' needs a value"
  | .invalidValue option value => "invalid value '" ++ value ++ "' for '" ++ option ++ "'"
  | .repeated option => "option '" ++ option ++ "' is given twice"
  | .missingPath => "the path of the run file is missing"
  | .missingCommand => "no command is given"

/-- What has been given so far to an option that takes a value. -/
abbrev Given : Type := List (Option String)

/-- The value of an option that may be given once. -/
def single (option : String) : Given → Except UsageError (Option String)
  | [] => .ok none
  | [some value] => .ok (some value)
  | [none] => .error (.missingValue option)
  | _ => .error (.repeated option)

/-- Whether an argument is an option rather than a value. -/
def isOption (argument : String) : Bool := argument.startsWith "-" && argument ≠ "-"

/-- An argument taken apart at its equals sign. -/
def attached (argument : String) : String × Option String :=
  match Text.splitAt? '=' argument with
  | some (option, value) => (option, some value)
  | none => (argument, none)

/-- Whether an argument asks for help. -/
def asksHelp (argument : String) : Bool := argument == "--help" || argument.startsWith "-h"

/-- Whether an argument asks for the version. -/
def asksVersion (argument : String) : Bool :=
  argument == "--version" || argument.startsWith "-V"

/-- What follows the name of a subcommand, as far as it has been read. -/
structure Tail where
  /-- The path. -/
  path : Option String := none
  /-- What has been given to the option for the report, in reverse order. -/
  reports : Given := []
  /-- How often the variables have been ruled out. -/
  exclusions : Nat := 0

/-- A path that is not empty. -/
def checkPath (option path : String) : Except UsageError String :=
  if path = "" then .error (.invalidValue option path) else .ok path

namespace Tail

/-- Takes a path, of which there may be one. -/
def addPath (tail : Tail) (path : String) : Except UsageError Tail :=
  match tail.path with
  | some _ => .error (.unexpected path)
  | none => (checkPath "path" path).map fun path => { tail with path }

/-- Takes what is given to the option for the report. -/
def addReport (tail : Tail) (path : Option String) : Except UsageError Tail :=
  match path with
  | some path =>
    (checkPath "--report" path).map fun path => { tail with reports := some path :: tail.reports }
  | none => .ok { tail with reports := none :: tail.reports }

/-- Reads the arguments behind two dashes, which are all paths. -/
def readPaths (tail : Tail) : List String → Except UsageError Tail
  | [] => .ok tail
  | path :: rest => do (← tail.addPath path).readPaths rest

/-- Reads the arguments of a subcommand, which has options of its own if it runs a test; nothing
is the result when they ask for help. -/
def read (runs : Bool) (tail : Tail) : List String → Except UsageError (Option Tail)
  | [] => .ok (some tail)
  | argument :: rest =>
    if argument = "--" then (tail.readPaths rest).map some
    else if asksHelp argument then .ok none
    else if !isOption argument then do (← tail.addPath argument).read runs rest
    else if runs && argument == "--no-env" then
      { tail with exclusions := tail.exclusions + 1 }.read runs rest
    else
      match runs && (attached argument).1 == "--report", (attached argument).2 with
      | false, _ => .error (.unexpected argument)
      | true, some value => do (← tail.addReport (some value)).read runs rest
      | true, none =>
        match rest with
        | [] => do (← tail.addReport none).read runs []
        | value :: rest =>
          if isOption value then do (← tail.addReport none).read runs (value :: rest)
          else do (← tail.addReport (some value)).read runs rest

/-- The command of a subcommand's arguments. -/
def command (runs : Bool) (tail : Tail) : Except UsageError Command := do
  let report ← single "--report" tail.reports
  if 1 < tail.exclusions then throw (.repeated "--no-env")
  match tail.path with
  | none => throw .missingPath
  | some path =>
    return if runs then .run path report (tail.exclusions == 0) else .requires path

end Tail

/-- What stands before the name of a subcommand, as far as it has been read. -/
structure Head where
  /-- What has been given to the option for the log, in reverse order. -/
  logLevels : Given := []
  /-- What has been given to the option for the description, in reverse order. -/
  kubeconfigs : Given := []

namespace Head

/-- How much is logged when nothing is said. -/
def defaultLogLevel : LogLevel := .info

/-- The level that is asked for. -/
def logLevel (head : Head) : Except UsageError LogLevel := do
  match ← single "--log-level" head.logLevels with
  | none => return defaultLogLevel
  | some name =>
    match LogLevel.ofName? name with
    | some level => return level
    | none => throw (.invalidValue "--log-level" name)

/-- What is asked for with a subcommand. -/
def finish (head : Head) (runs : Bool) (arguments : List String) : Except UsageError Request := do
  match ← ({} : Tail).read runs arguments with
  | none => return .help
  | some tail =>
    let command ← tail.command runs
    let logLevel ← head.logLevel
    let kubeconfig ← single "--kubeconfig" head.kubeconfigs
    return .invoke { logLevel, kubeconfig, command }

/-- Takes what is given to an option of the whole command. -/
def give (head : Head) (option : String) (value : Option String) : Option Head :=
  match option with
  | "--log-level" => some { head with logLevels := value :: head.logLevels }
  | "--kubeconfig" => some { head with kubeconfigs := value :: head.kubeconfigs }
  | _ => none

/-- Help on the whole command or on one subcommand. -/
def helpOn : List String → Except UsageError Request
  | [] | ["run"] | ["requires"] | ["help"] => .ok .help
  | argument :: _ => .error (.unexpected argument)

/-- Reads a command line. -/
def read (head : Head) : List String → Except UsageError Request
  | [] => .error .missingCommand
  | argument :: rest =>
    if asksVersion argument then .ok .version
    else if asksHelp argument then .ok .help
    else if argument = "help" then helpOn rest
    else if argument = "run" then head.finish true rest
    else if argument = "requires" then head.finish false rest
    else
      let (option, value) := attached argument
      match head.give option value, value, rest with
      | none, _, _ => .error (.unexpected argument)
      | some head, some _, rest => head.read rest
      | some _, none, [] => .error (.missingValue option)
      | some after, none, value :: rest =>
        if isOption value then after.read (value :: rest)
        else ((head.give option (some value)).getD after).read rest

end Head

/-- What a command line asks for. -/
def parse (arguments : List String) : Except UsageError Request := ({} : Head).read arguments

end StagedTest.CommandLine
