import SchemaScript.Proofs.CommandLine.Givens

/-!
# Arguments put between others

Values behind the two paths and the switch for a detailed log can be put
between other arguments.  Two readings are compared, one of them with such an
argument more.  They are refused for the same reason, or both accepted and then
differ in nothing but what this argument says.
-/

namespace SchemaScript

namespace CommandLine

namespace Arguments

/--
What matters of arguments: not the values behind the paths, and the wish for a detailed log only
where it is asked for.
-/
def heeded (loud : Bool) (arguments : Arguments) : Arguments :=
  { arguments with extra := [], verbose := loud && arguments.verbose }

variable {loud : Bool} {first second : Arguments}

/--
What is given is taken in alike by arguments that differ only where it does not matter, and they
go on to differ only there.  A second wish for a detailed log is refused, so it matters.
-/
theorem map_accept_eq (given : Given) (told : loud = true ∨ given ≠ .switch .verbose)
    (same : first.heeded loud = second.heeded loud) :
    (first.accept given).map (heeded loud) = (second.accept given).map (heeded loud) := by
  obtain ⟨input, output, extra, tablePrefix, comma, format, verbose⟩ := first
  obtain ⟨input', output', extra', tablePrefix', comma', format', verbose'⟩ := second
  simp only [heeded, Arguments.mk.injEq, true_and] at same
  obtain ⟨rfl, rfl, rfl, rfl, rfl, verbosity⟩ := same
  cases given with
  | positional value =>
      simp only [accept, addPositional]
      split
      · simp [Except.map, heeded, verbosity]
      · split <;> simp [Except.map, heeded, verbosity]
      · split <;> simp [Except.map, heeded, verbosity]
  | switch switch =>
      cases switch with
      | noTrailingComma =>
          simp only [accept, turnOn]
          split <;> simp [Except.map, heeded, verbosity]
      | verbose =>
          obtain rfl : loud = true := by simpa using told
          obtain rfl : verbose = verbose' := by simpa using verbosity
          simp only [accept, turnOn]
          split <;> simp [Except.map, heeded]
      | help long => rfl
      | version => rfl
  | assigned option value =>
      cases option with
      | tablePrefix =>
          simp only [accept, assign]
          split <;> simp [Except.map, heeded, verbosity]
      | format =>
          simp only [accept, assign]
          split
          · rfl
          · split <;> simp [Except.map, heeded, verbosity]

end Arguments

namespace Progress

def heeded (loud : Bool) (progress : Progress) : Progress :=
  { progress with arguments := progress.arguments.heeded loud }

variable {loud : Bool}

theorem map_addLetters_eq {row : List Char} {first second : Arguments}
    (told : loud = true ∨ .switch .verbose ∉ givensOfLetters row)
    (same : first.heeded loud = second.heeded loud) :
    (row.foldlM addLetter first).map (Arguments.heeded loud) =
      (row.foldlM addLetter second).map (Arguments.heeded loud) := by
  induction row generalizing first second with
  | nil => exact congrArg Except.ok same
  | cons letter row ih =>
      rw [List.foldlM_cons, List.foldlM_cons]
      refine map_bind_eq_map_bind ?_ fun later later' same => ih ?_ same
      · unfold addLetter
        split
        · rename_i switch known
          refine Arguments.map_accept_eq (.switch switch) (told.imp_right ?_) same
          rintro silent ⟨⟩
          exact silent (by simp [givensOfLetters, known])
        · rfl
      · refine told.imp_right fun silent member => silent ?_
        rw [givensOfLetters, List.filterMap_cons]
        split
        · exact member
        · exact List.mem_cons_of_mem _ member

section Steps

variable {first second : Arguments} {text : String}

theorem map_ok_eq (awaiting : Option ValueOption) (ended : Bool) (first second : Arguments)
    (same : first.heeded loud = second.heeded loud) :
    (Except.ok ⟨first, awaiting, ended⟩ : Except Interruption Progress).map (heeded loud) =
      (Except.ok ⟨second, awaiting, ended⟩ : Except Interruption Progress).map
        (heeded loud) := by
  simp only [Except.map, heeded, same]

theorem map_addToken_eq (told : loud = true ∨ .switch .verbose ∉ givens none [text])
    (same : first.heeded loud = second.heeded loud) :
    (addToken ⟨first, none, false⟩ (Token.ofText text)).map (heeded loud) =
      (addToken ⟨second, none, false⟩ (Token.ofText text)).map (heeded loud) := by
  unfold givens at told
  cases token : Token.ofText text with
  | positional value =>
      exact map_bind_eq_map_bind
        (Arguments.map_accept_eq (.positional value) (.inr (by simp)) same) (map_ok_eq none false)
  | endOfOptions => simp only [addToken, Except.map, heeded, same]
  | letters row =>
      simp only [token, givens, List.append_nil] at told
      exact map_bind_eq_map_bind (map_addLetters_eq told same) (map_ok_eq none false)
  | named name value =>
      simp only [token] at told
      simp only [addToken]
      split
      · rfl
      · rfl
      · rename_i switch known
        simp only [known, List.mem_cons, givens] at told
        refine map_bind_eq_map_bind
          (Arguments.map_accept_eq (.switch switch) (told.imp_right ?_) same) (map_ok_eq none false)
        exact fun silent wish => silent (.inl wish.symm)
      · rename_i option value known
        exact map_bind_eq_map_bind
          (Arguments.map_accept_eq (.assigned option value) (.inr (by simp)) same)
          (map_ok_eq none false)
      · simp only [Except.map, heeded, same]

end Steps

variable {first second : Progress} {text : String}

/-- One argument is taken in alike by readings that differ only where it does not matter. -/
theorem map_step_eq (told : loud = true ∨ .switch .verbose ∉ first.givenBy [text])
    (same : first.heeded loud = second.heeded loud) :
    (first.step text).map (heeded loud) = (second.step text).map (heeded loud) := by
  obtain ⟨arguments, awaiting, ended⟩ := first
  obtain ⟨arguments', awaiting', ended'⟩ := second
  simp only [heeded, Progress.mk.injEq] at same
  obtain ⟨same, rfl, rfl⟩ := same
  cases ended with
  | true =>
      exact map_bind_eq_map_bind
        (Arguments.map_accept_eq (.positional text) (.inr (by simp)) same) (map_ok_eq awaiting true)
  | false =>
      cases awaiting with
      | none => exact map_addToken_eq told same
      | some option =>
          simp only [step, Bool.false_eq_true, if_false]
          cases Token.ofText text with
          | positional value =>
              exact map_bind_eq_map_bind
                (Arguments.map_accept_eq (.assigned option value) (.inr (by simp)) same)
                (map_ok_eq none false)
          | endOfOptions => rfl
          | letters row => rfl
          | named name value => rfl

theorem givenBy_head_subset (progress : Progress) (text : String) (rest : List String) :
    progress.givenBy [text] ⊆ progress.givenBy (text :: rest) := by
  obtain ⟨arguments, awaiting, ended⟩ := progress
  cases ended with
  | true => simp [givenBy]
  | false =>
      cases awaiting with
      | some option => simp [givenBy, givens]
      | none =>
          simp only [givenBy, Bool.false_eq_true, if_false, givens]
          cases Token.ofText text with
          | positional value => simp
          | endOfOptions => simp
          | letters row => simp
          | named name value =>
              dsimp only
              split <;> simp

theorem map_takeIn_eq {texts : List String}
    (told : loud = true ∨ .switch .verbose ∉ first.givenBy texts)
    (same : first.heeded loud = second.heeded loud) :
    (first.takeIn texts).map (heeded loud) = (second.takeIn texts).map (heeded loud) := by
  induction texts generalizing first second with
  | nil => exact congrArg Except.ok same
  | cons text rest ih =>
      have toldHead := told.imp_right fun silent member =>
        silent (first.givenBy_head_subset text rest member)
      have steps := map_step_eq toldHead same
      have ended := congrArg optionsEnded same
      simp only [heeded] at ended
      cases stepped : first.step text with
      | error problem =>
          cases stepped' : second.step text with
          | error problem' =>
              rw [stepped, stepped'] at steps
              cases steps
              simp only [takeIn, stepped, stepped', problemBehind?, ended]
          | ok middle' =>
              rw [stepped, stepped'] at steps
              cases steps
      | ok middle =>
          cases stepped' : second.step text with
          | error problem' =>
              rw [stepped, stepped'] at steps
              cases steps
          | ok middle' =>
              rw [stepped, stepped'] at steps
              obtain ⟨head, -, gives⟩ := accept_of_step stepped
              simp only [takeIn, stepped, stepped']
              refine ih (told.imp_right fun silent member => silent ?_) (Except.ok.inj steps)
              rw [gives]
              exact List.mem_append_right _ member

theorem map_finish_eq (same : first.heeded loud = second.heeded loud) :
    first.finish.map (Arguments.heeded loud) = second.finish.map (Arguments.heeded loud) := by
  have settled := congrArg awaiting same
  simp only [heeded] at settled
  unfold finish
  rw [settled]
  split
  · rfl
  · exact congrArg (fun progress => Except.ok progress.arguments) same

theorem takeIn_append {progress last : Progress} {texts : List String}
    (taken : texts.foldlM step progress = .ok last) (rest : List String) :
    progress.takeIn (texts ++ rest) = last.takeIn rest := by
  induction texts generalizing progress with
  | nil =>
      cases taken
      rfl
  | cons text texts ih =>
      rw [List.foldlM_cons, bind_eq_ok_iff] at taken
      obtain ⟨middle, stepped, taken⟩ := taken
      simp only [List.cons_append, takeIn, stepped]
      exact ih taken

end Progress

/-! ### Insertions -/

section Insertions

variable {before : List String} {last later : Progress} {addition : String}

/-- An argument that changes nothing that matters does not change what is read behind it. -/
theorem map_parse_insert (concludes : last.Concludes before) {loud : Bool}
    (stepped : last.step addition = .ok later) (same : later.heeded loud = last.heeded loud)
    {after : List String}
    (told : loud = true ∨ .switch .verbose ∉ givens none (before ++ after)) :
    (Arguments.parse (before ++ addition :: after)).map (Arguments.heeded loud) =
      (Arguments.parse (before ++ after)).map (Arguments.heeded loud) := by
  have toldLater := told.imp_right fun silent member => by
    rw [concludes.gives] at silent
    exact silent (List.mem_append_right _ member)
  refine map_bind_eq_map_bind ?_ fun first second same => Progress.map_finish_eq same
  rw [Progress.takeIn_append concludes.taken, Progress.takeIn_append concludes.taken]
  simp only [Progress.takeIn, stepped]
  exact (Progress.map_takeIn_eq toldLater same.symm).symm

/-- An argument gives a value by itself only where it is taken in as one. -/
theorem step_of_positional (concludes : last.Concludes before)
    (gives : givens none (before ++ [addition]) = givens none before ++ [.positional addition]) :
    last.step addition = last.addToken (.positional addition) := by
  have given : last.givenBy [addition] = [.positional addition] := by
    rw [concludes.gives] at gives
    exact List.append_cancel_left gives
  have settled := concludes.settled
  obtain ⟨arguments, awaiting, ended⟩ := last
  dsimp only at settled
  subst settled
  cases ended with
  | true => rfl
  | false =>
      simp only [Progress.givenBy, Bool.false_eq_true, if_false, givens] at given
      simp only [Progress.step, Bool.false_eq_true, if_false]
      cases token : Token.ofText addition with
      | positional value => rw [text_eq_of_positional token]
      | endOfOptions => simp [token] at given
      | letters row =>
          have switches : ∀ letter : Char,
              (Switch.ofLetter? letter).map Given.switch ≠ some (.positional addition) := by
            intro letter
            cases Switch.ofLetter? letter <;> simp
          have member : .positional addition ∈ givensOfLetters row := by
            simp [token] at given
            simp [given]
          obtain ⟨letter, -, told⟩ := List.mem_filterMap.mp member
          exact absurd told (switches letter)
      | named name value =>
          simp only [token] at given
          split at given <;> simp at given

variable {arguments : Arguments} (parsed : Arguments.parse before = .ok arguments)

include parsed

/-- A value behind the two paths is remembered, and nothing else comes of it. -/
theorem map_parse_insert_positional
    (paths : 2 ≤ (positionalsIn (givens none before)).length)
    (gives : givens none (before ++ [addition]) = givens none before ++ [.positional addition])
    (after : List String) :
    (Arguments.parse (before ++ addition :: after)).map (Arguments.heeded true) =
      (Arguments.parse (before ++ after)).map (Arguments.heeded true) := by
  obtain ⟨last, concludes, -⟩ := exists_concludes parsed
  have holds := concludes.holds
  have input : last.arguments.input = some (positionalsIn (givens none before))[0] := by
    rw [holds.input, List.getElem?_eq_getElem]
  have output : last.arguments.output = some (positionalsIn (givens none before))[1] := by
    rw [holds.output, List.getElem?_eq_getElem]
  have added : last.arguments.addPositional addition =
      .ok { last.arguments with extra := last.arguments.extra ++ [addition] } := by
    rw [Arguments.addPositional]
    simp only [input, output]
  have stepped : last.step addition = .ok { last with
      arguments := { last.arguments with extra := last.arguments.extra ++ [addition] } } := by
    rw [step_of_positional concludes gives, Progress.addToken, added]
    rfl
  exact map_parse_insert concludes stepped rfl (.inl rfl)

/-- The switch for a detailed log is remembered, and nothing else comes of it. -/
theorem map_parse_insert_verbose (spelled : addition ∈ ["-v", "--verbose"])
    (gives : givens none (before ++ [addition]) = givens none before ++ [.switch .verbose])
    {after : List String} (quiet : .switch .verbose ∉ givens none (before ++ after)) :
    (Arguments.parse (before ++ addition :: after)).map (Arguments.heeded false) =
      (Arguments.parse (before ++ after)).map (Arguments.heeded false) := by
  obtain ⟨last, concludes, -⟩ := exists_concludes parsed
  have given : last.givenBy [addition] = [.switch .verbose] := by
    rw [concludes.gives] at gives
    exact List.append_cancel_left gives
  have unset : last.arguments.verbose = false := by
    rw [concludes.gives] at quiet
    have before_quiet := fun member => quiet (List.mem_append_left _ member)
    simpa using mt concludes.holds.verbose.mp before_quiet
  have optionsGoOn : last.optionsEnded = false := by
    rw [Progress.givenBy] at given
    split at given
    · simp at given
    · simpa using ‹¬ last.optionsEnded = true›
  have turned : last.arguments.turnOn .verbose = .ok { last.arguments with verbose := true } := by
    simp only [Arguments.turnOn, unset, Bool.false_eq_true, if_false]
  have stepped : last.step addition =
      .ok { last with arguments := { last.arguments with verbose := true } } := by
    simp only [Progress.step, optionsGoOn, concludes.settled, Bool.false_eq_true, if_false]
    rcases List.mem_pair.mp spelled with rfl | rfl
    · have token : Token.ofText "-v" = .letters ['v'] := by decide
      have letter : Switch.ofLetter? 'v' = some .verbose := by decide
      simp [token, Progress.addToken, Progress.addLetter, letter, turned, optionsGoOn,
        concludes.settled]
    · have token : Token.ofText "--verbose" = .named "verbose" none := by decide
      have name : Opt.ofName? "verbose" = some (.switch .verbose) := by decide
      simp [token, Progress.addToken, name, turned, optionsGoOn, concludes.settled]
  exact map_parse_insert concludes stepped (by simp [Progress.heeded, Arguments.heeded])
    (.inr quiet)

end Insertions

end CommandLine

end SchemaScript
