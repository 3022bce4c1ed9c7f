import SchemaScript.Proofs.CommandLine.Givens
import SchemaScript.Proofs.Text.Cut

/-!
# Options between paths

Options may stand before, between and behind the paths, in any order and in any
of their spellings.  Each of them is taken in at once, with its value, so the
arguments hold the same wherever it stands.  Accepting is followed one given
thing at a time: it fails only for an option that has been given before.
-/

namespace SchemaScript

namespace CommandLine

def ValueOption.word : ValueOption → String
  | tablePrefix => "prefix"
  | format => "format"

/-- An argument that is not blank and does not look like an option. -/
def IsPlainValue (value : String) : Prop :=
  value ≠ "" ∧ value.toList.head? ≠ some '-'

/-- The ways to write one thing that is given; those that ask for help are left out. -/
inductive Given.Writes : Given → List String → Prop where
  | positional (value : String) : Writes (.positional value) [value]
  | apart (option : ValueOption) (value : String) :
      Writes (.assigned option value) ["--" ++ option.word, value]
  | joined (option : ValueOption) (value : String) :
      Writes (.assigned option value) ["--" ++ option.word ++ "=" ++ value]
  | noTrailingComma : Writes (.switch .noTrailingComma) ["--no-trailing-comma"]
  | verboseLetter : Writes (.switch .verbose) ["-v"]
  | verboseWord : Writes (.switch .verbose) ["--verbose"]

/-- A thing that is accepted unless its option has been given before. -/
def Given.IsAcceptable : Given → Prop
  | positional value => IsPlainValue value
  | switch name => name = .noTrailingComma ∨ name = .verbose
  | assigned .tablePrefix value => IsPlainValue value
  | assigned .format value => ∃ format : Format, format.word = value

/-- A choice of options, each of them given once or not at all. -/
structure Choice where
  tablePrefix : Option String
  noTrailingComma : Bool
  format : Option Format
  verbose : Bool

namespace Choice

def givens (choice : Choice) : List Given :=
  choice.tablePrefix.toList.map (.assigned .tablePrefix) ++
    (if choice.noTrailingComma then [.switch .noTrailingComma] else []) ++
    choice.format.toList.map (fun format => .assigned .format format.word) ++
    if choice.verbose then [.switch .verbose] else []

/-- What arguments hold that make this choice and have the given positional values. -/
def arguments (choice : Choice) (positionals : List String) : Arguments where
  input := positionals[0]?
  output := positionals[1]?
  extra := positionals.drop 2
  tablePrefix := choice.tablePrefix
  noTrailingComma := choice.noTrailingComma
  givenFormat := choice.format
  verbose := choice.verbose

end Choice

/-! ### One thing that is given -/

section Tokens

variable {value : String}

theorem ofText_of_plain (plain : IsPlainValue value) :
    Token.ofText value = .positional value := by
  obtain ⟨-, unlike⟩ := plain
  unfold Token.ofText
  split <;> simp_all

theorem ofText_word (option : ValueOption) :
    Token.ofText ("--" ++ option.word) = .named option.word none := by
  cases option <;> decide

theorem ofText_word_value (option : ValueOption) (value : String) :
    Token.ofText ("--" ++ option.word ++ "=" ++ value) = .named option.word (some value) := by
  have free : ¬ [] ++ ['='] <:+: option.word.toList := by cases option <;> decide +kernel
  have cut : Text.cut? ['='] (option.word.toList ++ '=' :: value.toList) =
      some (option.word.toList, value.toList) :=
    Text.cut?_append_of_free (by simp) free value.toList
  have shape : ("--" ++ option.word ++ "=" ++ value).toList =
      '-' :: '-' :: (option.word.toList ++ '=' :: value.toList) := by
    simp
  obtain ⟨first, more, whole⟩ : ∃ first more,
      option.word.toList ++ '=' :: value.toList = first :: more := by
    cases option <;> exact ⟨_, _, rfl⟩
  rw [whole] at cut shape
  unfold Token.ofText
  simp only [shape, cut, String.ofList_toList]

theorem ofName?_word (option : ValueOption) :
    Opt.ofName? option.word = some (.valued option) := by
  cases option <;> decide

theorem isPlainValue_word (format : Format) : IsPlainValue format.word := by
  cases format <;> exact ⟨by decide, by decide⟩

theorem Given.IsAcceptable.plain_of_assigned {option : ValueOption}
    (acceptable : (Given.assigned option value).IsAcceptable) : IsPlainValue value := by
  cases option with
  | tablePrefix => exact acceptable
  | format =>
      obtain ⟨format, rfl⟩ := acceptable
      exact isPlainValue_word format

end Tokens

/-- Between arguments that belong together no value is awaited and options go on. -/
def Progress.between (arguments : Arguments) : Progress :=
  ⟨arguments, none, false⟩

/-- However a thing is written, its arguments are taken in as the thing itself. -/
theorem foldlM_step_of_writes {given : Given} {texts : List String} (writes : given.Writes texts)
    (acceptable : given.IsAcceptable) (arguments : Arguments) :
    texts.foldlM Progress.step (.between arguments) =
      (arguments.accept given).map Progress.between := by
  cases writes with
  | positional value =>
      rw [List.foldlM_cons, Progress.step]
      simp only [Progress.between, ofText_of_plain acceptable, Progress.addToken,
        Arguments.accept]
      cases arguments.addPositional value <;> rfl
  | apart option value =>
      have awaits : Progress.step (.between arguments) ("--" ++ option.word) =
          .ok ⟨arguments, some option, false⟩ := by
        rw [Progress.step]
        simp only [Progress.between, ofText_word, Progress.addToken, ofName?_word]
        rfl
      rw [List.foldlM_cons, awaits]
      change Progress.step ⟨arguments, some option, false⟩ value >>= _ = _
      rw [Progress.step]
      simp only [ofText_of_plain acceptable.plain_of_assigned, Arguments.accept]
      cases arguments.assign value option <;> rfl
  | joined option value =>
      rw [List.foldlM_cons, Progress.step]
      simp only [Progress.between, ofText_word_value, Progress.addToken, ofName?_word,
        Arguments.accept]
      cases arguments.assign value option <;> rfl
  | noTrailingComma =>
      have token : Token.ofText "--no-trailing-comma" = .named "no-trailing-comma" none := by
        decide
      have name : Opt.ofName? "no-trailing-comma" = some (.switch .noTrailingComma) := by decide
      rw [List.foldlM_cons, Progress.step]
      simp only [Progress.between, token, Progress.addToken, name, Arguments.accept]
      cases arguments.turnOn .noTrailingComma <;> rfl
  | verboseLetter =>
      have token : Token.ofText "-v" = .letters ['v'] := by decide
      have letter : Switch.ofLetter? 'v' = some .verbose := by decide
      rw [List.foldlM_cons, Progress.step]
      simp only [Progress.between, token, Progress.addToken, List.foldlM_cons, Progress.addLetter,
        letter, Arguments.accept]
      cases arguments.turnOn .verbose <;> rfl
  | verboseWord =>
      have token : Token.ofText "--verbose" = .named "verbose" none := by decide
      have name : Opt.ofName? "verbose" = some (.switch .verbose) := by decide
      rw [List.foldlM_cons, Progress.step]
      simp only [Progress.between, token, Progress.addToken, name, Arguments.accept]
      cases arguments.turnOn .verbose <;> rfl

theorem foldlM_step_of_written {given : List Given} {written : List (List String)}
    (each : List.Forall₂ Given.Writes given written)
    (acceptable : ∀ item ∈ given, item.IsAcceptable) (arguments : Arguments) :
    written.flatten.foldlM Progress.step (.between arguments) =
      (given.foldlM Arguments.accept arguments).map Progress.between := by
  induction each generalizing arguments with
  | nil => rfl
  | @cons first texts given written head _ ih =>
      obtain ⟨acceptableFirst, acceptableRest⟩ := List.forall_mem_cons.mp acceptable
      rw [List.flatten_cons, List.foldlM_append, foldlM_step_of_writes head acceptableFirst,
        List.foldlM_cons]
      cases arguments.accept first with
      | error interruption => rfl
      | ok later => exact ih acceptableRest later

/-! ### Things that can be accepted -/

def Given.option? : Given → Option Opt
  | positional _ => none
  | switch name => some (.switch name)
  | assigned option _ => some (.valued option)

def optionsGiven (given : List Given) : List Opt :=
  given.filterMap Given.option?

section Acceptance

variable {arguments : Arguments} {before : List Given}

theorem valuesIn_eq_nil {option : ValueOption} (fresh : .valued option ∉ optionsGiven before) :
    valuesIn option before = [] := by
  rw [valuesIn, List.filterMap_eq_nil_iff]
  intro given member
  cases given with
  | positional value => rfl
  | switch switch => rfl
  | assigned other value =>
      have different : other ≠ option := by
        rintro rfl
        exact fresh (List.mem_filterMap.mpr ⟨_, member, rfl⟩)
      simp [Given.valueFor?, different]

theorem not_mem_of_fresh {switch : Switch} (fresh : .switch switch ∉ optionsGiven before) :
    .switch switch ∉ before :=
  fun member => fresh (List.mem_filterMap.mpr ⟨_, member, rfl⟩)

theorem ofWord?_word (format : Format) : Format.ofWord? format.word = some format := by
  cases format <;> decide

theorem Arguments.Holds.exists_accept (holds : arguments.Holds before) {given : Given}
    (acceptable : given.IsAcceptable)
    (fresh : ∀ option, given.option? = some option → option ∉ optionsGiven before) :
    ∃ later, arguments.accept given = .ok later := by
  cases given with
  | positional value =>
      have filled : value ≠ "" := acceptable.1
      simp only [Arguments.accept, Arguments.addPositional, if_neg filled]
      split <;> exact ⟨_, rfl⟩
  | switch switch =>
      have unset := not_mem_of_fresh (fresh _ rfl)
      rcases acceptable with rfl | rfl
      · rw [← holds.noTrailingComma, Bool.not_eq_true] at unset
        exact ⟨_, by simp only [Arguments.accept, Arguments.turnOn, unset]; rfl⟩
      · rw [← holds.verbose, Bool.not_eq_true] at unset
        exact ⟨_, by simp only [Arguments.accept, Arguments.turnOn, unset]; rfl⟩
  | assigned option value =>
      have unset := valuesIn_eq_nil (fresh _ rfl)
      cases option with
      | tablePrefix =>
          rw [← holds.tablePrefix, Option.toList_eq_nil_iff] at unset
          exact ⟨_, by simp only [Arguments.accept, Arguments.assign, unset]; rfl⟩
      | format =>
          obtain ⟨format, rfl⟩ := acceptable
          rw [← holds.format, List.map_eq_nil_iff, Option.toList_eq_nil_iff] at unset
          exact ⟨_, by simp only [Arguments.accept, Arguments.assign, unset, ofWord?_word]; rfl⟩

/-- Things of which no two set the same option are accepted one after another. -/
theorem Arguments.Holds.exists_foldlM_accept {given : List Given} (holds : arguments.Holds before)
    (acceptable : ∀ item ∈ given, item.IsAcceptable)
    (distinct : (optionsGiven (before ++ given)).Nodup) :
    ∃ later, given.foldlM Arguments.accept arguments = .ok later := by
  induction given generalizing arguments before with
  | nil => exact ⟨arguments, rfl⟩
  | cons first given ih =>
      obtain ⟨acceptableFirst, acceptableRest⟩ := List.forall_mem_cons.mp acceptable
      have fresh (option : Opt) (sets : first.option? = some option) :
          option ∉ optionsGiven before := by
        rw [optionsGiven, List.filterMap_append, List.filterMap_cons_some sets] at distinct
        exact fun member => (List.nodup_append.mp distinct).2.2 _ member _ List.mem_cons_self rfl
      obtain ⟨middle, accepted⟩ := holds.exists_accept acceptableFirst fresh
      rw [List.append_cons] at distinct
      obtain ⟨later, acceptedRest⟩ := ih (holds.accept accepted) acceptableRest distinct
      refine ⟨later, ?_⟩
      rw [List.foldlM_cons, accepted]
      exact acceptedRest

end Acceptance

/-! ### Arrangements -/

theorem perm_toList_iff {α : Type} {first second : Option α} :
    first.toList.Perm second.toList ↔ first = second := by
  cases first <;> cases second <;> simp

theorem word_injective : Function.Injective Format.word := by
  intro first second same
  have read := congrArg Format.ofWord? same
  rwa [ofWord?_word, ofWord?_word, Option.some.injEq] at read

namespace Choice

variable (choice : Choice)

theorem valuesIn_tablePrefix : valuesIn .tablePrefix choice.givens = choice.tablePrefix.toList := by
  obtain ⟨tablePrefix, comma, format, verbose⟩ := choice
  cases tablePrefix <;> cases comma <;> cases format <;> cases verbose <;> rfl

theorem valuesIn_format :
    valuesIn .format choice.givens = choice.format.toList.map Format.word := by
  obtain ⟨tablePrefix, comma, format, verbose⟩ := choice
  cases tablePrefix <;> cases comma <;> cases format <;> cases verbose <;> rfl

theorem noTrailingComma_mem_iff :
    .switch .noTrailingComma ∈ choice.givens ↔ choice.noTrailingComma = true := by
  simp [givens]

theorem verbose_mem_iff : .switch .verbose ∈ choice.givens ↔ choice.verbose = true := by
  simp [givens]

theorem nodup_optionsGiven : (optionsGiven choice.givens).Nodup := by
  obtain ⟨tablePrefix, comma, format, verbose⟩ := choice
  cases tablePrefix <;> cases comma <;> cases format <;> cases verbose <;>
    simp [givens, optionsGiven, Given.option?]

end Choice

/-- An arrangement of positional values and options that keeps the order of the values. -/
structure IsArrangement (positionals : List String) (choice : Choice) (given : List Given) :
    Prop where
  perm : given.Perm (positionals.map .positional ++ choice.givens)
  ordered : positionalsIn given = positionals

namespace IsArrangement

variable {positionals : List String} {choice : Choice} {given : List Given}

theorem nodup_optionsGiven (arrangement : IsArrangement positionals choice given) :
    (optionsGiven given).Nodup := by
  have unset : optionsGiven (positionals.map .positional) = [] := by
    simp [optionsGiven, Given.option?]
  rw [optionsGiven, (arrangement.perm.filterMap _).nodup_iff, List.filterMap_append,
    ← optionsGiven, unset]
  exact choice.nodup_optionsGiven

theorem isAcceptable (arrangement : IsArrangement positionals choice given)
    (plain : ∀ value ∈ positionals, IsPlainValue value)
    (plainPrefix : ∀ value ∈ choice.tablePrefix, IsPlainValue value) :
    ∀ item ∈ given, item.IsAcceptable := by
  intro item member
  have origin := arrangement.perm.subset member
  simp only [Choice.givens, List.mem_append, List.mem_map, Option.mem_toList] at origin
  rcases origin with ⟨value, among, rfl⟩ |
    ((⟨value, chosen, rfl⟩ | comma) | ⟨format, -, rfl⟩) | verbose
  · exact plain value among
  · exact plainPrefix value chosen
  · obtain ⟨-, rfl⟩ : _ ∧ item = .switch .noTrailingComma := by simpa using comma
    exact .inl rfl
  · exact ⟨format, rfl⟩
  · obtain ⟨-, rfl⟩ : _ ∧ item = .switch .verbose := by simpa using verbose
    exact .inr rfl

theorem perm_valuesIn (arrangement : IsArrangement positionals choice given)
    (option : ValueOption) : (valuesIn option given).Perm (valuesIn option choice.givens) := by
  have none : valuesIn option (positionals.map .positional) = [] := by
    simp [valuesIn, Given.valueFor?]
  have perm := arrangement.perm.filterMap (Given.valueFor? option)
  rwa [List.filterMap_append, ← valuesIn, ← valuesIn, none] at perm

theorem switch_mem_iff (arrangement : IsArrangement positionals choice given) (switch : Switch) :
    .switch switch ∈ given ↔ .switch switch ∈ choice.givens := by
  rw [arrangement.perm.mem_iff]
  simp

/-- What is arranged decides what is held, and the arrangement does not. -/
theorem eq_arguments (arrangement : IsArrangement positionals choice given)
    {arguments : Arguments} (holds : arguments.Holds given) :
    arguments = choice.arguments positionals := by
  have tablePrefix := arrangement.perm_valuesIn .tablePrefix
  have format := arrangement.perm_valuesIn .format
  have comma := arrangement.switch_mem_iff .noTrailingComma
  have verbose := arrangement.switch_mem_iff .verbose
  rw [← holds.tablePrefix, choice.valuesIn_tablePrefix, perm_toList_iff] at tablePrefix
  rw [← holds.format, choice.valuesIn_format, ← Option.toList_map, ← Option.toList_map,
    perm_toList_iff] at format
  rw [← holds.noTrailingComma, choice.noTrailingComma_mem_iff, ← Bool.eq_iff_iff] at comma
  rw [← holds.verbose, choice.verbose_mem_iff, ← Bool.eq_iff_iff] at verbose
  have input := holds.input
  have output := holds.output
  have extra := holds.extra
  rw [arrangement.ordered] at input output extra
  obtain ⟨⟩ := arguments
  simp only [Choice.arguments, Arguments.mk.injEq]
  exact ⟨input, output, extra, tablePrefix, comma, Option.map_injective word_injective format,
    verbose⟩

end IsArrangement

/--
Every arrangement of positional values and chosen options that keeps the order of the values is
accepted, in every spelling, and always as the same arguments: the first value is the input, the
second the output, the others follow, and the options are as chosen.
-/
theorem parse_of_arrangement {positionals : List String} {choice : Choice}
    (plain : ∀ value ∈ positionals, IsPlainValue value)
    (plainPrefix : ∀ value ∈ choice.tablePrefix, IsPlainValue value)
    {given : List Given} (arrangement : IsArrangement positionals choice given)
    {written : List (List String)} (each : List.Forall₂ Given.Writes given written) :
    Arguments.parse written.flatten =
      .ok {
        input := positionals[0]?
        output := positionals[1]?
        extra := positionals.drop 2
        tablePrefix := choice.tablePrefix
        noTrailingComma := choice.noTrailingComma
        givenFormat := choice.format
        verbose := choice.verbose } := by
  have acceptable := arrangement.isAcceptable plain plainPrefix
  obtain ⟨last, accepted⟩ := Arguments.Holds.start.exists_foldlM_accept acceptable
    arrangement.nodup_optionsGiven
  have held : last = choice.arguments positionals :=
    arrangement.eq_arguments (Arguments.Holds.start.foldlM_accept accepted)
  have taken : Progress.takeIn {} written.flatten = .ok (.between last) := by
    rw [Progress.takeIn_eq_ok_iff]
    refine (foldlM_step_of_written each acceptable {}).trans ?_
    rw [accepted]
    rfl
  rw [Arguments.parse, taken, held]
  rfl

/-- An option may even stand between the values behind the two paths. -/
theorem parse_of_arrangement_mixed :
    Arguments.parse ["-v", "in", "--prefix", "P", "out", "x", "--format=json", "y"] =
      .ok {
        input := some "in"
        output := some "out"
        extra := ["x", "y"]
        tablePrefix := some "P"
        givenFormat := some .json
        verbose := true } := by
  have arrangement : IsArrangement ["in", "out", "x", "y"] ⟨some "P", false, some .json, true⟩
      [.switch .verbose, .positional "in", .assigned .tablePrefix "P", .positional "out",
        .positional "x", .assigned .format "json", .positional "y"] :=
    ⟨by decide +kernel, rfl⟩
  have each : List.Forall₂ Given.Writes
      [.switch .verbose, .positional "in", .assigned .tablePrefix "P", .positional "out",
        .positional "x", .assigned .format "json", .positional "y"]
      [["-v"], ["in"], ["--prefix", "P"], ["out"], ["x"], ["--format=json"], ["y"]] :=
    .cons .verboseLetter <| .cons (.positional _) <| .cons (.apart .tablePrefix "P") <|
      .cons (.positional _) <| .cons (.positional _) <| .cons (.joined .format "json") <|
      .cons (.positional _) .nil
  have plain : ∀ value ∈ ["in", "out", "x", "y"], IsPlainValue value := by
    simp [IsPlainValue]
  have plainPrefix : ∀ value ∈ some "P", IsPlainValue value := by
    simp [IsPlainValue]
  exact parse_of_arrangement plain plainPrefix arrangement each

end CommandLine

end SchemaScript
