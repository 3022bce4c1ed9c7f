import SchemaScript.Conversion.Options
import SchemaScript.Text.Cut

/-!
# Arguments

The program takes the path of a schema, the path of the output, any number of
further arguments that it ignores, and options, which may stand anywhere before
a double dash.  Arguments are taken in one by one from the left, and the first
problem decides, where a value that stands by itself is judged only after a look
at the argument behind it.
-/

namespace SchemaScript

namespace CommandLine

/-- What the arguments ask for. -/
structure Arguments where
  input : Option String := none
  output : Option String := none
  /-- The arguments after the two paths. -/
  extra : List String := []
  tablePrefix : Option String := none
  noTrailingComma : Bool := false
  givenFormat : Option Format := none
  verbose : Bool := false
deriving Repr, DecidableEq

def Arguments.format (arguments : Arguments) : Format :=
  arguments.givenFormat.getD .sql

/-- What keeps arguments from being carried out. -/
inductive Interruption where
  | unknownArgument
  | invalidValue
  | tooManyValues
  | argumentConflict
  | help (long : Bool)
  | version
deriving Repr, DecidableEq

inductive Switch where
  | noTrailingComma
  | verbose
  | help (long : Bool)
  | version
deriving Repr, DecidableEq

inductive ValueOption where
  | tablePrefix
  | format
deriving Repr, DecidableEq

inductive Opt where
  | switch (switch : Switch)
  | valued (option : ValueOption)
deriving Repr, DecidableEq

def Opt.ofName? (name : String) : Option Opt :=
  [("prefix", valued .tablePrefix), ("format", valued .format),
    ("no-trailing-comma", switch .noTrailingComma), ("verbose", switch .verbose),
    ("help", switch (.help true)), ("version", switch .version)].lookup name

def Switch.ofLetter? (letter : Char) : Option Switch :=
  [('v', verbose), ('h', help false), ('V', version)].lookup letter

/-- What a single argument looks like. -/
inductive Token where
  | positional (value : String)
  /-- A double dash, after which everything is positional. -/
  | endOfOptions
  | letters (letters : List Char)
  /-- Two dashes and a name, perhaps with a value after an equals sign. -/
  | named (name : String) (value : Option String)
deriving Repr, DecidableEq

/-- Tells what an argument looks like; a dash alone is positional. -/
def Token.ofText (text : String) : Token :=
  match text.toList with
  | ['-', '-'] => endOfOptions
  | '-' :: '-' :: body =>
    match Text.cut? ['='] body with
    | some (name, value) => named (String.ofList name) (some (String.ofList value))
    | none => named (String.ofList body) none
  | '-' :: first :: rest => letters (first :: rest)
  | _ => positional text

def Token.problem? : Token → Option Interruption
  | letters row =>
    if (row.head?.bind Switch.ofLetter?).isNone then some .unknownArgument else none
  | named name value =>
    match Opt.ofName? name with
    | none => some .unknownArgument
    | some (.switch _) => if value.isSome then some .tooManyValues else none
    | some (.valued _) => none
  | positional _ => none
  | endOfOptions => none

namespace Arguments

/-- Takes in a positional argument; only a further one may be blank. -/
def addPositional (arguments : Arguments) (value : String) : Except Interruption Arguments :=
  match arguments.input, arguments.output with
  | some _, some _ => .ok { arguments with extra := arguments.extra ++ [value] }
  | some _, none =>
    if value = "" then .error .invalidValue else .ok { arguments with output := some value }
  | none, _ =>
    if value = "" then .error .invalidValue else .ok { arguments with input := some value }

/-- Takes in an option without a value; none may be given twice. -/
def turnOn (arguments : Arguments) : Switch → Except Interruption Arguments
  | .noTrailingComma =>
    if arguments.noTrailingComma then
      .error .argumentConflict
    else
      .ok { arguments with noTrailingComma := true }
  | .verbose =>
    if arguments.verbose then
      .error .argumentConflict
    else
      .ok { arguments with verbose := true }
  | .help long => .error (.help long)
  | .version => .error .version

/-- Takes in an option with its value; none may be given twice. -/
def assign (arguments : Arguments) (value : String) :
    ValueOption → Except Interruption Arguments
  | .tablePrefix =>
    if arguments.tablePrefix.isSome then
      .error .argumentConflict
    else
      .ok { arguments with tablePrefix := some value }
  | .format =>
    if arguments.givenFormat.isSome then
      .error .argumentConflict
    else
      match Format.ofWord? value with
      | some format => .ok { arguments with givenFormat := some format }
      | none => .error .invalidValue

end Arguments

structure Progress where
  arguments : Arguments := {}
  awaiting : Option ValueOption := none
  optionsEnded : Bool := false
deriving Repr, DecidableEq

namespace Progress

def addLetter (arguments : Arguments) (letter : Char) : Except Interruption Arguments :=
  match Switch.ofLetter? letter with
  | some switch => arguments.turnOn switch
  | none => .error .unknownArgument

/-- Takes in an argument where no value is awaited. -/
def addToken (progress : Progress) : Token → Except Interruption Progress
  | .positional value => do
    let arguments ← progress.arguments.addPositional value
    return { progress with arguments }
  | .endOfOptions => .ok { progress with optionsEnded := true }
  | .letters row => do
    let arguments ← row.foldlM addLetter progress.arguments
    return { progress with arguments }
  | .named name value =>
    match Opt.ofName? name, value with
    | none, _ => .error .unknownArgument
    | some (.switch _), some _ => .error .tooManyValues
    | some (.switch switch), none => do
      let arguments ← progress.arguments.turnOn switch
      return { progress with arguments }
    | some (.valued option), some value => do
      let arguments ← progress.arguments.assign value option
      return { progress with arguments }
    | some (.valued option), none => .ok { progress with awaiting := some option }

/--
Takes in one argument.  A value that is awaited must not look like an option;
if it does, the option before it lacks its value.
-/
def step (progress : Progress) (text : String) : Except Interruption Progress :=
  if progress.optionsEnded then
    progress.addToken (.positional text)
  else
    match progress.awaiting, Token.ofText text with
    | none, token => progress.addToken token
    | some option, .positional value => do
      let arguments ← progress.arguments.assign value option
      return { progress with arguments, awaiting := none }
    | some _, token => .error (token.problem?.getD .invalidValue)

/--
What is wrong with the argument behind a value that stands by itself: it is
noticed before the value is judged.
-/
def problemBehind? (progress : Progress) (text : String) (rest : List String) :
    Option Interruption :=
  match progress.optionsEnded, Token.ofText text, rest with
  | false, .positional _, next :: _ => (Token.ofText next).problem?
  | _, _, _ => none

/-- Takes in arguments up to the first problem. -/
def takeIn (progress : Progress) : List String → Except Interruption Progress
  | [] => .ok progress
  | text :: rest =>
    match progress.step text with
    | .ok next => takeIn next rest
    | .error problem => .error ((progress.problemBehind? text rest).getD problem)

/-- Where nothing is wrong, the arguments are taken in step by step. -/
theorem takeIn_eq_ok_iff {progress last : Progress} {texts : List String} :
    progress.takeIn texts = .ok last ↔ texts.foldlM step progress = .ok last := by
  induction texts generalizing progress with
  | nil => exact Iff.rfl
  | cons text rest ih =>
    cases taken : progress.step text with
    | error problem => simp [takeIn, taken, bind, Except.bind]
    | ok next => simp [takeIn, taken, ih, bind, Except.bind]

def finish (progress : Progress) : Except Interruption Arguments :=
  match progress.awaiting with
  | some _ => .error .invalidValue
  | none => .ok progress.arguments

end Progress

def Arguments.parse (texts : List String) : Except Interruption Arguments := do
  let progress ← Progress.takeIn {} texts
  progress.finish

end CommandLine

end SchemaScript
