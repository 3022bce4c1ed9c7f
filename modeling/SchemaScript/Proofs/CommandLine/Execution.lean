import SchemaScript.CommandLine.Program
import SchemaScript.Proofs.CommandLine.Insertion
import SchemaScript.Proofs.Conversion.File

/-!
# What the program does

What comes of a run of the program is decided by what its arguments give.  The
checks come in a fixed order: arguments, paths, the prefix, the conversion
itself.  Only the conversion touches the store, and neither further values nor
the settings of the log matter.
-/

namespace SchemaScript

namespace CommandLine

/-- What is left of a run of the program: its exit code, its output and the store. -/
structure Effect where
  exitCode : Nat
  output : String
  store : Store
deriving DecidableEq

def effectOf [MultiByteReading] (logSetting : Option String) (texts : List String)
    (store : Store) : Effect :=
  let outcome := (execute logSetting texts : StateM Store Execution) store
  ⟨outcome.1.exitCode, outcome.1.output, outcome.2⟩

/-- The options of a conversion that are given, those that are not having their default. -/
def optionsIn (given : List Given) : Options where
  tablePrefix := (valuesIn .tablePrefix given).head?
  trailingComma := .switch .noTrailingComma ∉ given
  format := ((valuesIn .format given).head?.bind Format.ofWord?).getD .sql

/-- The conversion that is asked for, from one path to another. -/
def conversionOf [MultiByteReading] (given : List Given) (input output : String)
    (store : Store) : Attempt × Store :=
  (Converter.convertFile { options := optionsIn given } input output : StateM Store Attempt) store

/-- What comes of the things that are given, if the arguments are accepted. -/
def effectOfGiven [MultiByteReading] (given : List Given) (store : Store) : Effect :=
  match positionalsIn given with
  | input :: output :: _ =>
    if (valuesIn .tablePrefix given).any Text.isBlank then
      ⟨1, "An error occurred: Invalid argument: --prefix must not be empty\n", store⟩
    else
      let conversion := conversionOf given input output store
      match conversion.1.result with
      | .ok summary =>
        ⟨0, "T-SQL script has been written to: " ++ summary.output ++ "\n", conversion.2⟩
      | .error error =>
        ⟨1, "An error occurred: " ++ error.message ++ "\n    caused by: " ++ error.causeMessage
          ++ "\n", conversion.2⟩
  | _ => ⟨0, usage ++ "\n", store⟩

theorem Arguments.Holds.options_eq {arguments : Arguments} {given : List Given}
    (holds : arguments.Holds given) :
    arguments.options =
      if (valuesIn .tablePrefix given).any Text.isBlank then .error .blankPrefix
      else .ok (optionsIn given) := by
  have blank : (valuesIn .tablePrefix given).any Text.isBlank =
      arguments.tablePrefix.any Text.isBlank := by
    rw [← holds.tablePrefix]
    cases arguments.tablePrefix <;> simp
  have comma : (!arguments.noTrailingComma) = decide (.switch .noTrailingComma ∉ given) := by
    rw [Bool.eq_iff_iff, decide_eq_true_iff, ← holds.noTrailingComma]
    simp
  have format : arguments.format = (optionsIn given).format := by
    rw [optionsIn, ← holds.format, Arguments.format]
    cases arguments.givenFormat with
    | none => rfl
    | some format => cases format <;> rfl
  have tablePrefix : arguments.tablePrefix = (optionsIn given).tablePrefix := by
    rw [optionsIn, ← holds.tablePrefix]
    cases arguments.tablePrefix <;> rfl
  rw [Arguments.options, blank, comma, format, tablePrefix]
  rfl

theorem join_singleton (text : String) : String.join [text] = text := by
  rw [String.join_cons, String.join_nil, String.append_empty]

/-- A conversion that fails has one cause, which is told once. -/
theorem report_conversion (error : ConversionError) :
    (Failure.conversion error).report =
      "An error occurred: " ++ error.message ++ "\n    caused by: " ++ error.causeMessage := by
  change "An error occurred: " ++ error.message ++
    String.join ["\n    caused by: " ++ error.causeMessage] = _
  rw [join_singleton]
  generalize error.message = message
  generalize error.causeMessage = cause
  rw [← String.append_assoc]

section Effects

variable [MultiByteReading]

section Runs

variable {texts : List String} {arguments : Arguments} (logSetting : Option String) (store : Store)

theorem effectOf_of_interruption {interruption : Interruption}
    (stopped : Arguments.parse texts = .error interruption) :
    effectOf logSetting texts store =
      ⟨interruption.execution.exitCode, interruption.execution.output, store⟩ := by
  rw [effectOf, execute, stopped]
  rfl

/-- The effect of a run whose arguments are accepted; its log is told, but not looked at. -/
def effectOfRun (arguments : Arguments) (store : Store) : Effect :=
  let outcome := (run arguments : StateM Store Run) store
  let execution := outcome.1.execution (Log.Filter.ofSettings none false)
  ⟨execution.exitCode, execution.output, outcome.2⟩

theorem effectOf_of_run (parsed : Arguments.parse texts = .ok arguments) :
    effectOf logSetting texts store = effectOfRun arguments store := by
  have unlogged (filter other : Log.Filter) (run : Run) :
      (run.execution filter).exitCode = (run.execution other).exitCode ∧
        (run.execution filter).output = (run.execution other).output := by
    obtain ⟨events, result⟩ := run
    cases result <;> exact ⟨rfl, rfl⟩
  rw [effectOf, execute, parsed]
  exact Effect.mk.injEq .. ▸ ⟨(unlogged _ _ _).1, (unlogged _ _ _).2, rfl⟩

theorem effectOfRun_of_few (few : arguments.input = none ∨ arguments.output = none) :
    effectOfRun arguments store = ⟨0, usage ++ "\n", store⟩ := by
  have ran : (run arguments : StateM Store Run) store = (⟨[], .ok .usage⟩, store) := by
    rcases few with none | none
    · rw [run, none]
      rfl
    · rw [run, none]
      cases arguments.input <;> rfl
  rw [effectOfRun, ran]
  rfl

variable {input output : String} (inputs : arguments.input = some input)
  (outputs : arguments.output = some output)

include inputs outputs

theorem effectOfRun_of_refused {failure : Failure} (refused : arguments.options = .error failure) :
    effectOfRun arguments store = ⟨1, failure.report ++ "\n", store⟩ := by
  rw [effectOfRun, run, inputs, outputs]
  simp only [refused]
  rfl

/-- A run with both paths and all options is a conversion, and tells what became of it. -/
theorem run_of_options {options : Options} (chosen : arguments.options = .ok options) :
    let attempt := (Converter.convertFile { options } input output : StateM Store Attempt) store
    (run arguments : StateM Store Run) store =
      (⟨ignoredEvents arguments ++ Log.Event.ofAttempt input attempt.1,
        match attempt.1.result with
        | .error error => .error (.conversion error)
        | .ok summary => .ok (.converted summary)⟩, attempt.2) := by
  rw [run, inputs, outputs]
  simp only [chosen]
  rfl

theorem effectOfRun_of_options {options : Options} (chosen : arguments.options = .ok options) :
    let attempt := (Converter.convertFile { options } input output : StateM Store Attempt) store
    effectOfRun arguments store =
      match attempt.1.result with
      | .ok summary =>
        ⟨0, "T-SQL script has been written to: " ++ summary.output ++ "\n", attempt.2⟩
      | .error error =>
        ⟨1, "An error occurred: " ++ error.message ++ "\n    caused by: " ++ error.causeMessage
          ++ "\n", attempt.2⟩ := by
  intro attempt
  rw [effectOfRun, run_of_options store inputs outputs chosen]
  dsimp only
  cases attempt.1.result with
  | ok summary => rfl
  | error error =>
      dsimp only [Run.execution]
      rw [report_conversion]

end Runs

/-- Neither the values behind the paths nor the wish for a detailed log leave anything behind. -/
theorem effectOfRun_congr {first second : Arguments}
    (same : first.heeded false = second.heeded false) (store : Store) :
    effectOfRun first store = effectOfRun second store := by
  have inputs : first.input = second.input := (congrArg Arguments.input same :)
  have outputs : first.output = second.output := (congrArg Arguments.output same :)
  have options : first.options = second.options := (congrArg Arguments.options same :)
  cases input : second.input with
  | none =>
      rw [effectOfRun_of_few store (.inl (inputs.trans input)),
        effectOfRun_of_few store (.inl input)]
  | some path =>
      cases output : second.output with
      | none =>
          rw [effectOfRun_of_few store (.inr (outputs.trans output)),
            effectOfRun_of_few store (.inr output)]
      | some target =>
          cases chosen : second.options with
          | error failure =>
              rw [effectOfRun_of_refused store (inputs.trans input) (outputs.trans output)
                (options.trans chosen), effectOfRun_of_refused store input output chosen]
          | ok given =>
              rw [effectOfRun_of_options store (inputs.trans input) (outputs.trans output)
                (options.trans chosen), effectOfRun_of_options store input output chosen]

theorem effectOf_congr {texts others : List String} (loud : Bool)
    (same : (Arguments.parse texts).map (Arguments.heeded loud) =
      (Arguments.parse others).map (Arguments.heeded loud))
    (logSetting otherSetting : Option String) (store : Store) :
    effectOf logSetting texts store = effectOf otherSetting others store := by
  cases parsed : Arguments.parse texts with
  | error interruption =>
      cases otherParsed : Arguments.parse others with
      | error other =>
          rw [parsed, otherParsed] at same
          cases same
          rw [effectOf_of_interruption _ _ parsed, effectOf_of_interruption _ _ otherParsed]
      | ok arguments =>
          rw [parsed, otherParsed] at same
          cases same
  | ok arguments =>
      cases otherParsed : Arguments.parse others with
      | error other =>
          rw [parsed, otherParsed] at same
          cases same
      | ok otherArguments =>
          rw [parsed, otherParsed] at same
          have heeded : arguments.heeded false = otherArguments.heeded false :=
            (congrArg (Arguments.heeded false) (Except.ok.inj same) :)
          rw [effectOf_of_run _ _ parsed, effectOf_of_run _ _ otherParsed]
          exact effectOfRun_congr heeded store

/-- What accepted arguments give decides all that is left of a run. -/
theorem effectOf_of_parse {texts : List String} {arguments : Arguments}
    (parsed : Arguments.parse texts = .ok arguments) (logSetting : Option String) (store : Store) :
    effectOf logSetting texts store = effectOfGiven (givens none texts) store := by
  have holds := holds_of_parse parsed
  have options := holds.options_eq
  rw [effectOf_of_run logSetting store parsed, effectOfGiven]
  match positionals : positionalsIn (givens none texts) with
  | [] => exact effectOfRun_of_few store (.inl (by rw [holds.input, positionals]; rfl))
  | [first] => exact effectOfRun_of_few store (.inr (by rw [holds.output, positionals]; rfl))
  | input :: output :: more =>
      have inputs : arguments.input = some input := by rw [holds.input, positionals]; rfl
      have outputs : arguments.output = some output := by rw [holds.output, positionals]; rfl
      dsimp only
      split at options
      · rename_i blank
        rw [if_pos blank]
        exact (effectOfRun_of_refused store inputs outputs options).trans rfl
      · rename_i visible
        rw [if_neg visible]
        exact effectOfRun_of_options store inputs outputs options

section Givens

variable {given : List Given} {input output : String} {more : List String} (store : Store)

theorem effectOfGiven_of_few (few : (positionalsIn given).length < 2) :
    effectOfGiven given store = ⟨0, usage ++ "\n", store⟩ := by
  unfold effectOfGiven
  split
  · rename_i paths
    simp only [paths, List.length_cons] at few
    omega
  · rfl

variable (paths : positionalsIn given = input :: output :: more)

include paths

theorem effectOfGiven_of_blank
    (blank : ∃ name ∈ valuesIn .tablePrefix given, Text.isBlank name = true) :
    effectOfGiven given store =
      ⟨1, "An error occurred: Invalid argument: --prefix must not be empty\n", store⟩ := by
  have any : (valuesIn .tablePrefix given).any Text.isBlank = true := List.any_eq_true.mpr blank
  simp only [effectOfGiven, paths, any, if_true]

theorem effectOfGiven_of_visible
    (visible : ∀ name ∈ valuesIn .tablePrefix given, Text.isBlank name = false) :
    let conversion := conversionOf given input output store
    (∀ summary, conversion.1.result = .ok summary →
      effectOfGiven given store =
        ⟨0, "T-SQL script has been written to: " ++ output ++ "\n", conversion.2⟩) ∧
    ∀ error, conversion.1.result = .error error →
      effectOfGiven given store =
        ⟨1, "An error occurred: " ++ error.message ++ "\n    caused by: " ++ error.causeMessage
          ++ "\n", conversion.2⟩ := by
  intro conversion
  have any : (valuesIn .tablePrefix given).any Text.isBlank = false := by simpa using visible
  refine ⟨fun summary success => ?_, fun error failed => ?_⟩
  · have same : summary.output = output := Converter.output_eq_of_convertFile _ success
    simp only [effectOfGiven, paths, any, Bool.false_eq_true, if_false, success, same,
      conversion]
  · simp only [effectOfGiven, paths, any, Bool.false_eq_true, if_false, failed, conversion]

end Givens

/--
What the program leaves behind, by what its arguments give.  Arguments that are refused, too few
paths and a blank prefix leave the store as it is, in this order of precedence and whatever the
input is like.  Otherwise the program does what the conversion of the first path to the second
does.  The settings of the log change nothing, nor do a value that is put behind the two paths
and the switch for a detailed log, wherever they are put.
-/
theorem effect_by_arguments (logSetting : Option String) (texts : List String) (store : Store) :
    (∀ interruption, Arguments.parse texts = .error interruption →
      (∀ long, interruption ≠ .help long) → interruption ≠ .version →
      effectOf logSetting texts store = ⟨2, "", store⟩) ∧
    (∀ arguments, Arguments.parse texts = .ok arguments →
      (∀ option, (valuesIn option (givens none texts)).length ≤ 1) ∧
      ((positionalsIn (givens none texts)).length < 2 →
        effectOf logSetting texts store = ⟨0, usage ++ "\n", store⟩) ∧
      ∀ input output more, positionalsIn (givens none texts) = input :: output :: more →
        ((∃ name ∈ valuesIn .tablePrefix (givens none texts), Text.isBlank name = true) →
          effectOf logSetting texts store =
            ⟨1, "An error occurred: Invalid argument: --prefix must not be empty\n", store⟩) ∧
        ((∀ name ∈ valuesIn .tablePrefix (givens none texts), Text.isBlank name = false) →
          let conversion := conversionOf (givens none texts) input output store
          (∀ summary, conversion.1.result = .ok summary →
            effectOf logSetting texts store =
              ⟨0, "T-SQL script has been written to: " ++ output ++ "\n", conversion.2⟩) ∧
          ∀ error, conversion.1.result = .error error →
            effectOf logSetting texts store =
              ⟨1, "An error occurred: " ++ error.message ++ "\n    caused by: "
                ++ error.causeMessage ++ "\n", conversion.2⟩)) ∧
    (∀ setting, effectOf setting texts store = effectOf logSetting texts store) ∧
    ∀ before after addition arguments, texts = before ++ after →
      Arguments.parse before = .ok arguments →
      (2 ≤ (positionalsIn (givens none before)).length →
        givens none (before ++ [addition]) = givens none before ++ [.positional addition] →
        effectOf logSetting (before ++ addition :: after) store =
          effectOf logSetting texts store) ∧
      (addition ∈ ["-v", "--verbose"] →
        givens none (before ++ [addition]) = givens none before ++ [.switch .verbose] →
        .switch .verbose ∉ givens none texts →
        effectOf logSetting (before ++ addition :: after) store =
          effectOf logSetting texts store) := by
  refine ⟨?_, ?_, ?_, ?_⟩
  · intro interruption stopped noHelp noVersion
    rw [effectOf_of_interruption logSetting store stopped]
    cases interruption with
    | help long => exact absurd rfl (noHelp long)
    | version => exact absurd rfl noVersion
    | unknownArgument => rfl
    | invalidValue => rfl
    | tooManyValues => rfl
    | argumentConflict => rfl
  · intro arguments parsed
    rw [effectOf_of_parse parsed]
    refine ⟨fun option => (holds_of_parse parsed).length_valuesIn_le option, ?_, ?_⟩
    · intro few
      exact effectOfGiven_of_few store few
    · intro input output more paths
      exact ⟨effectOfGiven_of_blank store paths, effectOfGiven_of_visible store paths⟩
  · intro setting
    exact effectOf_congr true rfl setting logSetting store
  · rintro before after addition arguments rfl parsed
    refine ⟨fun paths gives => ?_, fun spelled gives quiet => ?_⟩
    · exact effectOf_congr true (map_parse_insert_positional parsed paths gives after) _ _ store
    · exact effectOf_congr false (map_parse_insert_verbose parsed spelled gives quiet) _ _ store

end Effects

/--
With one path only, not even a blank prefix is looked at, and with two it stops the program.
A third value and a wish for a detailed log change nothing of a conversion.
-/
theorem effect_by_arguments_smallStore :
    let store := Converter.smallStore none
    effectOf none ["s", "o", "--format", "xml"] store = ⟨2, "", store⟩ ∧
      effectOf none ["s", "--prefix= "] store = ⟨0, usage ++ "\n", store⟩ ∧
      effectOf none ["s", "--prefix= ", "o"] store =
        ⟨1, "An error occurred: Invalid argument: --prefix must not be empty\n", store⟩ ∧
      effectOf none ["s", "o"] store =
        ⟨0, "T-SQL script has been written to: o\n",
          (conversionOf (givens none ["s", "o"]) "s" "o" store).2⟩ ∧
      effectOf none ["s", "o", "more"] store = effectOf none ["s", "o"] store ∧
      effectOf none ["s", "-v", "o"] store = effectOf none ["s", "o"] store := by
  intro store
  obtain ⟨refused, -⟩ := effect_by_arguments none ["s", "o", "--format", "xml"] store
  obtain ⟨-, few, -⟩ := effect_by_arguments none ["s", "--prefix= "] store
  obtain ⟨-, blank, -⟩ := effect_by_arguments none ["s", "--prefix= ", "o"] store
  obtain ⟨-, accepted, -, more⟩ := effect_by_arguments none ["s", "o"] store
  have converted : (conversionOf (givens none ["s", "o"]) "s" "o" store).1.result =
      .ok ⟨"o", "s", 0, 0⟩ := by
    decide +kernel
  refine ⟨?_, ?_, ?_, ?_, ?_, ?_⟩
  · exact refused .invalidValue (by decide +kernel) nofun nofun
  · exact (few _ rfl).2.1 (by decide +kernel)
  · exact ((blank _ rfl).2.2 "s" "o" [] (by decide +kernel)).1 ⟨" ", by decide +kernel⟩
  · obtain ⟨-, -, paths⟩ := accepted _ rfl
    exact ((paths "s" "o" [] (by decide +kernel)).2 (by decide +kernel)).1 _ converted
  · exact (more ["s", "o"] [] "more" _ rfl rfl).1 (by decide +kernel) (by decide +kernel)
  · exact (more ["s"] ["o"] "-v" _ rfl rfl).2 (by simp) (by decide +kernel) (by decide +kernel)

end CommandLine

end SchemaScript
