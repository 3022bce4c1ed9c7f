import SchemaScript.CommandLine.Arguments
import SchemaScript.CommandLine.Help
import SchemaScript.Log.Filter
import SchemaScript.Text.Blank

/-!
# The program

The program converts one file.  With fewer than two paths it only tells how it
is used; with a blank prefix it refuses to start.  A failure is reported with
its causes, one on each line, and ends the program with a code of its own.
-/

namespace SchemaScript

namespace CommandLine

/-- Why the program did not do what it was asked for. -/
inductive Failure where
  | blankPrefix
  | conversion (error : ConversionError)
deriving Repr, DecidableEq

namespace Failure

def message : Failure → String
  | blankPrefix => "Invalid argument: --prefix must not be empty"
  | conversion error => error.message

def causes : Failure → List String
  | blankPrefix => []
  | conversion error => [error.causeMessage]

def report (failure : Failure) : String :=
  "An error occurred: " ++ failure.message
    ++ String.join (failure.causes.map fun cause => "\n    caused by: " ++ cause)

end Failure

def Arguments.options (arguments : Arguments) : Except Failure Options :=
  if arguments.tablePrefix.any Text.isBlank then
    .error .blankPrefix
  else
    .ok {
      tablePrefix := arguments.tablePrefix
      trailingComma := !arguments.noTrailingComma
      format := arguments.format }

/-- What the program has done. -/
inductive Outcome where
  | usage
  | converted (summary : Summary)
deriving Repr, DecidableEq

def Outcome.message : Outcome → String
  | usage => CommandLine.usage
  | converted summary => s!"T-SQL script has been written to: {summary.output}"

/-- A run of the program with all that it could log. -/
structure Run where
  events : List Log.Event
  result : Except Failure Outcome

def ignoredEvents (arguments : Arguments) : List Log.Event :=
  if arguments.extra.isEmpty then [] else [.ignoredArguments arguments.extra.length]

def run {m : Type → Type} [Monad m] [FileAccess m] [MultiByteReading]
    (arguments : Arguments) : m Run :=
  match arguments.input, arguments.output with
  | some input, some output =>
    match arguments.options with
    | .error failure => return ⟨ignoredEvents arguments, .error failure⟩
    | .ok options => do
      let attempt ← Converter.convertFile { options } input output
      return {
        events := ignoredEvents arguments ++ Log.Event.ofAttempt input attempt
        result :=
          match attempt.result with
          | .error error => .error (.conversion error)
          | .ok summary => .ok (.converted summary) }
  | _, _ => return ⟨[], .ok .usage⟩

/-- What can be seen of the program from outside, its files apart. -/
structure Execution where
  exitCode : Nat
  output : String
  log : List String
deriving Repr, DecidableEq

def Interruption.execution : Interruption → Execution
  | help true => ⟨0, longHelp, []⟩
  | help false => ⟨0, shortHelp, []⟩
  | version => ⟨0, versionText, []⟩
  | _ => ⟨2, "", []⟩

def Run.execution (filter : Log.Filter) (run : Run) : Execution :=
  let log := (run.events.filter filter.passes).flatMap Log.Event.lines
  match run.result with
  | .ok outcome => ⟨0, outcome.message ++ "\n", log⟩
  | .error failure => ⟨1, failure.report ++ "\n", log⟩

/-- Executes the program with a setting for its log and its arguments. -/
def execute {m : Type → Type} [Monad m] [FileAccess m] [MultiByteReading]
    (logSetting : Option String) (texts : List String) : m Execution :=
  match Arguments.parse texts with
  | .error interruption => return interruption.execution
  | .ok arguments => do
    let run ← run arguments
    return run.execution (Log.Filter.ofSettings logSetting arguments.verbose)

end CommandLine

end SchemaScript
