import SchemaScript.Log.Pattern.Class
import SchemaScript.Text.Alphanumeric

/-!
# Groups of search patterns

A pattern is a row of parts, or several branches of that kind between bars.
Parentheses make a group of a pattern, within which flags can be set and which
can have a name.  A pattern is taken in part by part; what is kept of a part is
how deep it is nested, and whether it can be repeated.
-/

namespace SchemaScript

namespace Log

namespace Pattern

structure Part where
  depth : Nat
  /-- Whether it can be repeated, which flags cannot. -/
  repeatable : Bool := true
deriving Repr, DecidableEq

structure Branches where
  /-- How deep the branches before the last bar are nested. -/
  before : List Nat := []
  /-- The parts of the branch after it, the last one first. -/
  parts : List Part := []
deriving Repr, DecidableEq

namespace Branches

def lastDepth (branches : Branches) : Nat :=
  rowDepth (branches.parts.map Part.depth)

def depth (branches : Branches) : Nat :=
  rowDepth (branches.lastDepth :: branches.before)

def add (branches : Branches) (part : Part) : Branches :=
  { branches with parts := part :: branches.parts }

def branch (branches : Branches) : Branches :=
  { before := branches.lastDepth :: branches.before }

def repeatLast? (branches : Branches) : Option Branches :=
  match branches.parts with
  | ⟨depth, true⟩ :: parts => some { branches with parts := ⟨depth + 1, true⟩ :: parts }
  | _ => none

end Branches

structure Progress where
  flags : Flags := {}
  names : List (List Char) := []
  branches : Branches := {}
  /-- Those around it, each with the flags that are in force again when the group inside ends. -/
  outer : List (Flags × Branches) := []
deriving Repr, DecidableEq

namespace Progress

def add (progress : Progress) (part : Part) : Progress :=
  { progress with branches := progress.branches.add part }

def openGroup (progress : Progress) (flags : Flags) : Progress :=
  { progress with
    flags
    branches := {}
    outer := (progress.flags, progress.branches) :: progress.outer }

def closeGroup? (progress : Progress) : Option Progress :=
  match progress.outer with
  | [] => none
  | (flags, branches) :: outer =>
    some { progress with
      flags
      branches := branches.add ⟨progress.branches.depth + 1, true⟩
      outer }

def isName : List Char → Bool
  | [] => false
  | first :: rest =>
    (first = '_' || Text.isAlphabetic first)
      && rest.all fun char => char ∈ ['_', '.', '[', ']'] || Text.isAlphanumeric char

/-- Opens a group with a name, which no other group may have. -/
def openNamed? (progress : Progress) (text : List Char) : Option (Progress × List Char) :=
  let name := text.takeWhile (· ≠ '>')
  match text.dropWhile (· ≠ '>') with
  | [] => none
  | _ :: rest =>
    if isName name ∧ name ∉ progress.names then
      some ({ progress with names := name :: progress.names }.openGroup progress.flags, rest)
    else
      none

/-- Sets flags, for a group that is opened here or for what comes next in this one. -/
def setFlags? (progress : Progress) (text : List Char) : Option (Progress × List Char) :=
  let row := text.takeWhile fun char => char ≠ ':' && char ≠ ')'
  let flags := progress.flags.update row
  if Flags.isRow row then
    match text.dropWhile fun char => char ≠ ':' && char ≠ ')' with
    | ':' :: rest => some (progress.openGroup flags, rest)
    | ')' :: rest =>
      if row = [] then none else some ({ progress with flags }.add ⟨0, false⟩, rest)
    | _ => none
  else
    none

def stepGroup (progress : Progress) (text : List Char) : Option (Progress × List Char) :=
  match progress.flags.skip text with
  | '?' :: 'P' :: '<' :: rest => progress.openNamed? rest
  | '?' :: '<' :: rest => progress.openNamed? rest
  | '?' :: rest => progress.setFlags? rest
  | rest => some (progress.openGroup progress.flags, rest)

def addSign? (progress : Progress) (sign : Sign) : Option Progress :=
  if sign.isUsable progress.flags then some (progress.add ⟨0, true⟩) else none

def stepBracket (progress : Progress) (text : List Char) : Option (Progress × List Char) :=
  match afterOpening? progress.flags text with
  | none => none
  | some text =>
    (readClass? progress.flags {} [] text).map fun (depth, rest) =>
      (progress.add ⟨depth, true⟩, rest)

/-- Takes in a repetition, whose sign a question mark may follow. -/
def stepRepetition (progress : Progress) (text : List Char) : Option (Progress × List Char) :=
  progress.branches.repeatLast?.map fun branches =>
    ({ progress with branches }, if text.head? = some '?' then text.tail else text)

def stepEscape (progress : Progress) (text : List Char) : Option (Progress × List Char) :=
  match Sign.readEscaped? progress.flags text with
  | none => none
  | some (sign, rest) => (progress.addSign? sign).map (·, rest)

/-- Takes in what comes next in a pattern. -/
def step (progress : Progress) (char : Char) (rest : List Char) :
    Option (Progress × List Char) :=
  match char with
  | '(' => progress.stepGroup rest
  | ')' => progress.closeGroup?.map (·, rest)
  | '|' => some ({ progress with branches := progress.branches.branch }, rest)
  | '[' => progress.stepBracket rest
  | '*' => progress.stepRepetition rest
  | '+' => progress.stepRepetition rest
  | '?' => progress.stepRepetition rest
  | '\x7b' => none
  | '\\' => progress.stepEscape rest
  | '.' => if progress.flags.unicode then some (progress.add ⟨0, true⟩, rest) else none
  | '^' => (progress.addSign? (.edge false)).map (·, rest)
  | '$' => (progress.addSign? (.edge false)).map (·, rest)
  | char => (progress.addSign? (.char char false)).map (·, rest)

theorem openNamed?_length_le {progress next : Progress} {text rest : List Char}
    (read : progress.openNamed? text = some (next, rest)) : rest.length ≤ text.length := by
  have shorter := (List.dropWhile_suffix (· ≠ '>') (l := text)).length_le
  unfold openNamed? at read
  dsimp only at read
  split at read
  · cases read
  · rename_i ending
    rw [ending] at shorter
    split at read <;> cases read
    exact Nat.le_of_succ_le shorter

theorem setFlags?_length_le {progress next : Progress} {text rest : List Char}
    (read : progress.setFlags? text = some (next, rest)) : rest.length ≤ text.length := by
  have shorter := (List.dropWhile_suffix (fun char => char ≠ ':' && char ≠ ')')
    (l := text)).length_le
  unfold setFlags? at read
  dsimp only at read
  split at read
  · split at read
    · rename_i ending
      rw [ending] at shorter
      cases read
      exact Nat.le_of_succ_le shorter
    · rename_i ending
      rw [ending] at shorter
      split at read <;> cases read
      exact Nat.le_of_succ_le shorter
    · cases read
  · cases read

theorem stepGroup_length_le {progress next : Progress} {text rest : List Char}
    (read : progress.stepGroup text = some (next, rest)) : rest.length ≤ text.length := by
  have skipped := progress.flags.skip_length_le text
  unfold stepGroup at read
  split at read
  · rename_i mark
    have shorter := openNamed?_length_le read
    rw [mark] at skipped
    simp only [List.length_cons] at skipped
    omega
  · rename_i mark
    have shorter := openNamed?_length_le read
    rw [mark] at skipped
    simp only [List.length_cons] at skipped
    omega
  · rename_i mark
    have shorter := setFlags?_length_le read
    rw [mark] at skipped
    simp only [List.length_cons] at skipped
    omega
  · cases read
    exact skipped

theorem stepBracket_length_le {progress next : Progress} {text rest : List Char}
    (read : progress.stepBracket text = some (next, rest)) : rest.length ≤ text.length := by
  unfold stepBracket at read
  split at read
  · cases read
  · rename_i opening
    obtain ⟨_, readClass, same⟩ := Option.map_eq_some_iff.mp read
    cases same
    exact Nat.le_trans (readClass?_length_le readClass) (afterOpening?_length_le opening)

theorem stepRepetition_length_le {progress next : Progress} {text rest : List Char}
    (read : progress.stepRepetition text = some (next, rest)) : rest.length ≤ text.length := by
  obtain ⟨_, _, same⟩ := Option.map_eq_some_iff.mp read
  rw [← (Prod.mk.inj same).2]
  split <;> simp

theorem stepEscape_length_le {progress next : Progress} {text rest : List Char}
    (read : progress.stepEscape text = some (next, rest)) : rest.length ≤ text.length := by
  unfold stepEscape at read
  split at read
  · cases read
  · rename_i escaped
    obtain ⟨_, _, same⟩ := Option.map_eq_some_iff.mp read
    cases same
    exact Sign.readEscaped?_length_le escaped

private theorem rest_eq_of_map {α : Type} {found : Option α} {next : α} {text rest : List Char}
    (read : found.map (·, text) = some (next, rest)) : rest = text := by
  obtain ⟨_, _, same⟩ := Option.map_eq_some_iff.mp read
  exact (Prod.mk.inj same).2.symm

theorem step_length_le {progress next : Progress} {char : Char} {text rest : List Char}
    (read : progress.step char text = some (next, rest)) : rest.length ≤ text.length := by
  unfold step at read
  split at read
  · exact stepGroup_length_le read
  · exact Nat.le_of_eq (congrArg List.length (rest_eq_of_map read))
  · cases read
    exact Nat.le_refl _
  · exact stepBracket_length_le read
  · exact stepRepetition_length_le read
  · exact stepRepetition_length_le read
  · exact stepRepetition_length_le read
  · cases read
  · exact stepEscape_length_le read
  · split at read <;> cases read
    exact Nat.le_refl _
  · exact Nat.le_of_eq (congrArg List.length (rest_eq_of_map read))
  · exact Nat.le_of_eq (congrArg List.length (rest_eq_of_map read))
  · exact Nat.le_of_eq (congrArg List.length (rest_eq_of_map read))

def scan (progress : Progress) (text : List Char) : Option Progress :=
  match _ : progress.flags.skip text with
  | [] => some progress
  | char :: rest =>
    match _ : progress.step char rest with
    | none => none
    | some (next, rest) => scan next rest
termination_by text.length
decreasing_by
  rename_i skipped step
  have shorter := progress.flags.skip_length_le text
  rw [skipped, List.length_cons] at shorter
  exact Nat.lt_of_le_of_lt (step_length_le step) shorter

end Progress

end Pattern

end Log

end SchemaScript
