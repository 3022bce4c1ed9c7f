import SchemaScript.CommandLine.Arguments
import SchemaScript.Proofs.Stages

/-!
# What arguments say

Read from the left, arguments give positional values, switches and values of
options, in an order that can mix them.  `givens` reads them without asking
whether they are right.  Arguments that are accepted hold exactly what is given:
the first two positional values are the paths, and an option has the one value
that is given for it.
-/

namespace SchemaScript

namespace CommandLine

/-- Something that arguments say. -/
inductive Given where
  | positional (value : String)
  | switch (switch : Switch)
  | assigned (option : ValueOption) (value : String)
deriving Repr, DecidableEq

namespace Given

def positional? : Given → Option String
  | positional value => some value
  | switch _ => none
  | assigned _ _ => none

/-- The value that is given for an option. -/
def valueFor? (option : ValueOption) : Given → Option String
  | positional _ => none
  | switch _ => none
  | assigned given value => if given = option then some value else none

end Given

/-- What a row of letters behind a dash gives; unknown letters give nothing. -/
def givensOfLetters (row : List Char) : List Given :=
  row.filterMap fun letter => (Switch.ofLetter? letter).map Given.switch

/--
What is given by arguments, with the option, if any, that the argument before them left
without its value.
-/
def givens : Option ValueOption → List String → List Given
  | _, [] => []
  | some option, value :: rest => .assigned option value :: givens none rest
  | none, text :: rest =>
    match Token.ofText text with
    | .positional value => .positional value :: givens none rest
    | .endOfOptions => rest.map .positional
    | .letters row => givensOfLetters row ++ givens none rest
    | .named name value =>
      match Opt.ofName? name, value with
      | some (.switch switch), _ => .switch switch :: givens none rest
      | some (.valued option), some value => .assigned option value :: givens none rest
      | some (.valued option), none => givens (some option) rest
      | none, _ => givens none rest

def positionalsIn (given : List Given) : List String :=
  given.filterMap Given.positional?

def valuesIn (option : ValueOption) (given : List Given) : List String :=
  given.filterMap (Given.valueFor? option)

@[simp]
theorem positionalsIn_concat (given : List Given) (last : Given) :
    positionalsIn (given ++ [last]) = positionalsIn given ++ last.positional?.toList := by
  cases last <;> simp [positionalsIn, Given.positional?]

@[simp]
theorem valuesIn_concat (option : ValueOption) (given : List Given) (last : Given) :
    valuesIn option (given ++ [last]) =
      valuesIn option given ++ (last.valueFor? option).toList := by
  rw [valuesIn, List.filterMap_append, ← valuesIn]
  cases found : last.valueFor? option <;> simp [found]

namespace Arguments

/-- Takes in one thing that is given. -/
def accept (arguments : Arguments) : Given → Except Interruption Arguments
  | .positional value => arguments.addPositional value
  | .switch switch => arguments.turnOn switch
  | .assigned option value => arguments.assign value option

end Arguments

/-! ### Arguments are taken in as what they give -/

section Steps

variable {arguments later : Arguments} {progress last : Progress}

theorem accept_of_letters {row : List Char}
    (taken : row.foldlM Progress.addLetter arguments = .ok later) :
    (givensOfLetters row).foldlM Arguments.accept arguments = .ok later := by
  induction row generalizing arguments with
  | nil => exact taken
  | cons letter row ih =>
      rw [List.foldlM_cons, bind_eq_ok_iff] at taken
      obtain ⟨middle, added, taken⟩ := taken
      unfold Progress.addLetter at added
      split at added
      · rename_i switch known
        have head : givensOfLetters (letter :: row) = .switch switch :: givensOfLetters row := by
          simp [givensOfLetters, known]
        rw [head, List.foldlM_cons]
        exact bind_eq_ok_iff.mpr ⟨middle, added, ih taken⟩
      · cases added

theorem text_eq_of_positional {text value : String}
    (plain : Token.ofText text = .positional value) : value = text := by
  unfold Token.ofText at plain
  split at plain
  · cases plain
  · split at plain <;> cases plain
  · cases plain
  · cases plain
    rfl

/-- What is given by the arguments that are still to be taken in. -/
def Progress.givenBy (progress : Progress) (texts : List String) : List Given :=
  if progress.optionsEnded then texts.map .positional else givens progress.awaiting texts

theorem accept_singleton {given : Given} (accepted : arguments.accept given = .ok later) :
    [given].foldlM Arguments.accept arguments = .ok later := by
  rw [List.foldlM_cons, accepted]
  rfl

/-- One argument is taken in as the things that it gives, of which there may be none. -/
theorem accept_of_step {text : String} (stepped : progress.step text = .ok last) :
    ∃ head : List Given, head.foldlM Arguments.accept progress.arguments = .ok last.arguments ∧
      ∀ rest, progress.givenBy (text :: rest) = head ++ last.givenBy rest := by
  obtain ⟨arguments, awaiting, ended⟩ := progress
  cases ended with
  | true =>
      obtain ⟨added, adds, same⟩ := bind_eq_ok_iff.mp stepped
      cases same
      exact ⟨[.positional text], accept_singleton adds, fun _ => rfl⟩
  | false =>
      simp only [Progress.step, Bool.false_eq_true, if_false] at stepped
      cases awaiting with
      | some option =>
          cases token : Token.ofText text with
          | positional value =>
              rw [token] at stepped
              obtain ⟨added, assigns, same⟩ := bind_eq_ok_iff.mp stepped
              cases same
              cases text_eq_of_positional token
              exact ⟨[.assigned option text], accept_singleton assigns, fun _ => rfl⟩
          | endOfOptions => simp [token] at stepped
          | letters row => simp [token] at stepped
          | named name value => simp [token] at stepped
      | none =>
          cases token : Token.ofText text with
          | positional value =>
              rw [token] at stepped
              obtain ⟨added, adds, same⟩ := bind_eq_ok_iff.mp stepped
              cases same
              exact ⟨[.positional value], accept_singleton adds,
                fun _ => by simp [Progress.givenBy, givens, token]⟩
          | endOfOptions =>
              rw [token] at stepped
              cases stepped
              exact ⟨[], rfl, fun _ => by simp [Progress.givenBy, givens, token]⟩
          | letters row =>
              rw [token] at stepped
              obtain ⟨added, adds, same⟩ := bind_eq_ok_iff.mp stepped
              cases same
              exact ⟨givensOfLetters row, accept_of_letters adds,
                fun _ => by simp [Progress.givenBy, givens, token]⟩
          | named name value =>
              simp only [token, Progress.addToken] at stepped
              split at stepped
              · cases stepped
              · cases stepped
              · rename_i switch known
                obtain ⟨added, adds, same⟩ := bind_eq_ok_iff.mp stepped
                cases same
                exact ⟨[.switch switch], accept_singleton adds,
                  fun _ => by simp [Progress.givenBy, givens, token, known]⟩
              · rename_i option value known
                obtain ⟨added, assigns, same⟩ := bind_eq_ok_iff.mp stepped
                cases same
                exact ⟨[.assigned option value], accept_singleton assigns,
                  fun _ => by simp [Progress.givenBy, givens, token, known]⟩
              · rename_i option known
                cases stepped
                exact ⟨[], rfl, fun _ => by simp [Progress.givenBy, givens, token, known]⟩

@[simp]
theorem Progress.givenBy_nil (progress : Progress) : progress.givenBy [] = [] := by
  cases ended : progress.optionsEnded <;> simp [Progress.givenBy, ended, givens]

theorem accept_of_steps {texts : List String}
    (taken : texts.foldlM Progress.step progress = .ok last) :
    ∃ head : List Given, head.foldlM Arguments.accept progress.arguments = .ok last.arguments ∧
      ∀ rest, progress.givenBy (texts ++ rest) = head ++ last.givenBy rest := by
  induction texts generalizing progress with
  | nil =>
      cases taken
      exact ⟨[], rfl, fun _ => rfl⟩
  | cons text texts ih =>
      rw [List.foldlM_cons, bind_eq_ok_iff] at taken
      obtain ⟨middle, stepped, taken⟩ := taken
      obtain ⟨first, accepted, gives⟩ := accept_of_step stepped
      obtain ⟨later, acceptedLater, givesLater⟩ := ih taken
      refine ⟨first ++ later, ?_, fun rest => ?_⟩
      · rw [List.foldlM_append]
        exact bind_eq_ok_iff.mpr ⟨middle.arguments, accepted, acceptedLater⟩
      · rw [List.cons_append, gives, givesLater, List.append_assoc]

end Steps

/-! ### What accepted arguments hold -/

theorem word_of_ofWord? {word : String} {format : Format}
    (read : Format.ofWord? word = some format) : format.word = word := by
  unfold Format.ofWord? at read
  split at read
  · cases read
    exact Eq.symm ‹_›
  · split at read
    · cases read
      exact Eq.symm ‹_›
    · cases read

/-- Arguments hold what is given: paths by their place, and options with the one value given. -/
structure Arguments.Holds (arguments : Arguments) (given : List Given) : Prop where
  input : arguments.input = (positionalsIn given)[0]?
  output : arguments.output = (positionalsIn given)[1]?
  extra : arguments.extra = (positionalsIn given).drop 2
  tablePrefix : arguments.tablePrefix.toList = valuesIn .tablePrefix given
  format : arguments.givenFormat.toList.map Format.word = valuesIn .format given
  noTrailingComma : arguments.noTrailingComma = true ↔ .switch .noTrailingComma ∈ given
  verbose : arguments.verbose = true ↔ .switch .verbose ∈ given

namespace Arguments.Holds

variable {arguments later : Arguments} {before : List Given}

theorem start : Holds {} [] :=
  ⟨rfl, rfl, rfl, rfl, rfl, by simp, by simp⟩

theorem addPositional (holds : Holds arguments before) {value : String}
    (added : arguments.addPositional value = .ok later) :
    Holds later (before ++ [.positional value]) := by
  obtain ⟨input, output, extra, tablePrefix, format, noTrailingComma, verbose⟩ := holds
  unfold Arguments.addPositional at added
  -- Which of the three places is next depends on the number of values before.
  match positionals : positionalsIn before with
  | [] =>
      simp only [input, positionals, List.getElem?_nil] at added
      split at added
      · cases added
      · cases added
        constructor <;> simp_all [Given.positional?, Given.valueFor?]
  | [first] =>
      simp only [input, output, positionals, List.getElem?_cons_zero, List.getElem?_cons_succ,
        List.getElem?_nil] at added
      split at added
      · cases added
      · cases added
        constructor <;> simp_all [Given.positional?, Given.valueFor?]
  | first :: second :: more =>
      simp only [input, output, positionals, List.getElem?_cons_zero,
        List.getElem?_cons_succ] at added
      cases added
      constructor <;> simp_all [Given.positional?, Given.valueFor?]

theorem turnOn (holds : Holds arguments before) {switch : Switch}
    (turned : arguments.turnOn switch = .ok later) : Holds later (before ++ [.switch switch]) := by
  obtain ⟨input, output, extra, tablePrefix, format, noTrailingComma, verbose⟩ := holds
  cases switch with
  | noTrailingComma =>
      simp only [Arguments.turnOn] at turned
      split at turned
      · cases turned
      · cases turned
        constructor <;> simp_all [Given.positional?, Given.valueFor?]
  | verbose =>
      simp only [Arguments.turnOn] at turned
      split at turned
      · cases turned
      · cases turned
        constructor <;> simp_all [Given.positional?, Given.valueFor?]
  | help long => cases turned
  | version => cases turned

theorem assign (holds : Holds arguments before) {option : ValueOption} {value : String}
    (assigned : arguments.assign value option = .ok later) :
    Holds later (before ++ [.assigned option value]) := by
  obtain ⟨input, output, extra, tablePrefix, format, noTrailingComma, verbose⟩ := holds
  cases option with
  | tablePrefix =>
      simp only [Arguments.assign] at assigned
      split at assigned
      · cases assigned
      · rename_i free
        cases assigned
        have none : arguments.tablePrefix = none := by simpa using free
        rw [none] at tablePrefix
        constructor <;> simp_all [Given.positional?, Given.valueFor?]
  | format =>
      simp only [Arguments.assign] at assigned
      split at assigned
      · cases assigned
      · rename_i free
        split at assigned
        · rename_i chosen read
          cases assigned
          have none : arguments.givenFormat = none := by simpa using free
          have word := word_of_ofWord? read
          rw [none] at format
          constructor <;> simp_all [Given.positional?, Given.valueFor?]
        · cases assigned

theorem accept (holds : Holds arguments before) {given : Given}
    (accepted : arguments.accept given = .ok later) : Holds later (before ++ [given]) := by
  cases given with
  | positional value => exact holds.addPositional accepted
  | switch switch => exact holds.turnOn accepted
  | assigned option value => exact holds.assign accepted

theorem foldlM_accept (holds : Holds arguments before) {given : List Given}
    (accepted : given.foldlM Arguments.accept arguments = .ok later) :
    Holds later (before ++ given) := by
  induction given generalizing arguments before with
  | nil =>
      cases accepted
      rwa [List.append_nil]
  | cons first rest ih =>
      rw [List.foldlM_cons, bind_eq_ok_iff] at accepted
      obtain ⟨middle, head, accepted⟩ := accepted
      rw [List.append_cons]
      exact ih (holds.accept head) accepted

/-- No option is given twice. -/
theorem length_valuesIn_le {given : List Given} (holds : Holds arguments given)
    (option : ValueOption) : (valuesIn option given).length ≤ 1 := by
  cases option with
  | tablePrefix =>
      rw [← holds.tablePrefix]
      cases arguments.tablePrefix <;> simp
  | format =>
      rw [← holds.format]
      cases arguments.givenFormat <;> simp

end Arguments.Holds

/-- Behind accepted arguments no value is awaited, and what is given so far has been taken in. -/
structure Progress.Concludes (last : Progress) (texts : List String) : Prop where
  taken : texts.foldlM Progress.step {} = .ok last
  settled : last.awaiting = none
  holds : last.arguments.Holds (givens none texts)
  gives : ∀ rest, givens none (texts ++ rest) = givens none texts ++ last.givenBy rest

theorem exists_concludes {texts : List String} {arguments : Arguments}
    (parsed : Arguments.parse texts = .ok arguments) :
    ∃ last : Progress, last.Concludes texts ∧ last.arguments = arguments := by
  obtain ⟨last, read, finished⟩ := bind_eq_ok_iff.mp parsed
  have taken := Progress.takeIn_eq_ok_iff.mp read
  obtain ⟨head, accepted, gives⟩ := accept_of_steps taken
  have gives (rest : List String) : givens none (texts ++ rest) = head ++ last.givenBy rest :=
    gives rest
  have all : givens none texts = head := by simpa using gives []
  unfold Progress.finish at finished
  split at finished
  · cases finished
  · rename_i settled
    cases finished
    exact ⟨last, ⟨taken, settled, all ▸ Arguments.Holds.start.foldlM_accept accepted,
      all ▸ gives⟩, rfl⟩

/-- Arguments that are accepted hold what is given by them, and nothing else. -/
theorem holds_of_parse {texts : List String} {arguments : Arguments}
    (parsed : Arguments.parse texts = .ok arguments) : arguments.Holds (givens none texts) := by
  obtain ⟨last, concludes, rfl⟩ := exists_concludes parsed
  exact concludes.holds

end CommandLine

end SchemaScript
