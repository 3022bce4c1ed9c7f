import SchemaScript.Log.Pattern.Sign

/-!
# Classes of search patterns

A class lists characters between brackets: signs, ranges, classes with a name,
and classes inside it, with operators between such lists.  Reading a class tells
how deep it is nested.
-/

namespace SchemaScript

namespace Log

namespace Pattern

/-- How deep parts in a row are nested; one part alone is no row. -/
def rowDepth : List Nat → Nat
  | [] => 0
  | [depth] => depth
  | depths => depths.foldl max 0 + 1

structure OpenClass where
  /-- How deep the operands before the last operator are nested. -/
  left : Option Nat := none
  /-- How deep the members after it are nested. -/
  members : List Nat := []
  /-- Whether nothing but dashes has come, each a member. -/
  leading : Bool := true
deriving Repr, DecidableEq

namespace OpenClass

def add (opened : OpenClass) (depth : Nat) : OpenClass :=
  { opened with members := depth :: opened.members, leading := false }

def depth (opened : OpenClass) : Nat :=
  match opened.left with
  | none => rowDepth opened.members
  | some left => max left (rowDepth opened.members) + 1

def operate (opened : OpenClass) : OpenClass :=
  { left := some opened.depth, leading := false }

end OpenClass

def classNames : List String :=
  ["alnum", "alpha", "ascii", "blank", "cntrl", "digit", "graph", "lower", "print", "punct",
    "space", "upper", "word", "xdigit"]

/-- The rest of a text after the name of a class, which a colon and a bracket end. -/
def afterName? (text : List Char) : Option (List Char) :=
  match text.dropWhile (· ≠ ':') with
  | ':' :: ']' :: rest =>
    if String.ofList (text.takeWhile (· ≠ ':')) ∈ classNames then some rest else none
  | _ => none

/-- Reads the name of a class after a bracket, and whether all others are meant. -/
def readNamed? : List Char → Option (Bool × List Char)
  | ':' :: '^' :: text => (afterName? text).map (true, ·)
  | ':' :: text => (afterName? text).map (false, ·)
  | _ => none

def isNamedMember (flags : Flags) (negated : Bool) : Bool :=
  if flags.unicode then !flags.ignoreCase else !negated

def readClassSign? (flags : Flags) : List Char → Option (Sign × List Char)
  | [] => none
  | '\\' :: rest => Sign.readEscaped? flags rest
  | char :: rest => some (.char char false, rest)

/--
The rest of a text after a member of a class, which is a sign or a range.  A
dash before a bracket or another dash makes no range.
-/
def afterMember? (flags : Flags) (text : List Char) : Option (List Char) :=
  match readClassSign? flags text with
  | none => none
  | some (first, rest) =>
    match flags.skip rest with
    | '-' :: more =>
      if flags.ahead? more = some ']' ∨ flags.ahead? more = some '-' then
        if first.isMember flags then some ('-' :: more) else none
      else
        match readClassSign? flags (flags.skip more) with
        | none => none
        | some (last, rest) => if first.isRange flags last then some rest else none
    | rest => if first.isMember flags then some rest else none

/-- The rest of a text after the opening of a class; one of ASCII cannot mean all others. -/
def afterOpening? (flags : Flags) (text : List Char) : Option (List Char) :=
  match flags.skip text with
  | '^' :: rest => if flags.unicode then some rest else none
  | rest => some rest

inductive ClassStep where
  | inside (opened : OpenClass) (outer : List OpenClass)
  | closed (depth : Nat)

def stepClass (flags : Flags) (opened : OpenClass) (outer : List OpenClass) (char : Char)
    (rest : List Char) : Option (ClassStep × List Char) :=
  if opened.leading ∧ char = '-' then
    if (Sign.char char false).isMember flags then
      some (.inside { opened.add 0 with leading := true } outer, rest)
    else
      none
  else if opened.leading ∧ opened.members = [] ∧ char = ']' then
    if (Sign.char char false).isMember flags then
      some (.inside (opened.add 0) outer, rest)
    else
      none
  else if char = ']' then
    match outer with
    | [] => some (.closed (opened.depth + 1), rest)
    | next :: outer => some (.inside (next.add (opened.depth + 1)) outer, rest)
  else if char = '[' then
    match readNamed? rest with
    | some (negated, rest) =>
      if isNamedMember flags negated then some (.inside (opened.add 0) outer, rest) else none
    | none => (afterOpening? flags rest).map (.inside {} (opened :: outer), ·)
  else if char ∈ ['&', '-', '~'] ∧ rest.head? = some char then
    some (.inside opened.operate outer, rest.tail)
  else
    (afterMember? flags (char :: rest)).map (.inside (opened.add 0) outer, ·)

theorem afterName?_length_le {text rest : List Char} (read : afterName? text = some rest) :
    rest.length ≤ text.length := by
  have shorter := (List.dropWhile_suffix (· ≠ ':') (l := text)).length_le
  unfold afterName? at read
  split at read
  · rename_i ending
    rw [ending] at shorter
    split at read <;> cases read
    simp only [List.length_cons] at shorter
    omega
  · cases read

theorem readNamed?_length_le {text rest : List Char} {negated : Bool}
    (read : readNamed? text = some (negated, rest)) : rest.length ≤ text.length := by
  unfold readNamed? at read
  split at read
  · obtain ⟨_, name, same⟩ := Option.map_eq_some_iff.mp read
    cases same
    exact Nat.le_succ_of_le (Nat.le_succ_of_le (afterName?_length_le name))
  · obtain ⟨_, name, same⟩ := Option.map_eq_some_iff.mp read
    cases same
    exact Nat.le_succ_of_le (afterName?_length_le name)
  · cases read

theorem readClassSign?_length_lt {flags : Flags} {text rest : List Char} {sign : Sign}
    (read : readClassSign? flags text = some (sign, rest)) : rest.length < text.length := by
  unfold readClassSign? at read
  split at read
  · cases read
  · exact Nat.lt_succ_of_le (Sign.readEscaped?_length_le read)
  · cases read
    exact Nat.lt_succ_self _

theorem afterMember?_length_lt {flags : Flags} {text rest : List Char}
    (read : afterMember? flags text = some rest) : rest.length < text.length := by
  unfold afterMember? at read
  split at read
  · cases read
  · rename_i first after readFirst
    have firstShorter := readClassSign?_length_lt readFirst
    have skipped := flags.skip_length_le after
    split at read
    · rename_i more dash
      rw [dash] at skipped
      split at read
      · split at read
        · cases read
          omega
        · cases read
      · split at read
        · cases read
        · rename_i readLast
          have lastShorter := readClassSign?_length_lt readLast
          have skippedMore := flags.skip_length_le more
          simp only [List.length_cons] at skipped
          split at read
          · cases read
            omega
          · cases read
    · split at read
      · cases read
        omega
      · cases read

theorem afterOpening?_length_le {flags : Flags} {text rest : List Char}
    (read : afterOpening? flags text = some rest) : rest.length ≤ text.length := by
  have skipped := flags.skip_length_le text
  unfold afterOpening? at read
  split at read
  · rename_i after negation
    rw [negation, List.length_cons] at skipped
    split at read
    · cases read
      omega
    · cases read
  · cases read
    exact skipped

theorem stepClass_length_le {flags : Flags} {opened : OpenClass} {outer : List OpenClass}
    {char : Char} {text rest : List Char} {step : ClassStep}
    (read : stepClass flags opened outer char text = some (step, rest)) :
    rest.length ≤ text.length := by
  unfold stepClass at read
  split at read
  · split at read <;> cases read
    exact Nat.le_refl _
  · split at read
    · split at read <;> cases read
      exact Nat.le_refl _
    · split at read
      · split at read <;> cases read <;> exact Nat.le_refl _
      · split at read
        · split at read
          · rename_i named
            split at read <;> cases read
            exact readNamed?_length_le named
          · obtain ⟨_, opening, same⟩ := Option.map_eq_some_iff.mp read
            cases same
            exact afterOpening?_length_le opening
        · split at read
          · cases read
            simp
          · obtain ⟨_, member, same⟩ := Option.map_eq_some_iff.mp read
            cases same
            exact Nat.le_of_lt_succ (afterMember?_length_lt member)

/-- Reads a class to its end, and tells how deep it is nested. -/
def readClass? (flags : Flags) (opened : OpenClass) (outer : List OpenClass) (text : List Char) :
    Option (Nat × List Char) :=
  match _ : flags.skip text with
  | [] => none
  | char :: rest =>
    match _ : stepClass flags opened outer char rest with
    | none => none
    | some (.closed depth, rest) => some (depth, rest)
    | some (.inside opened outer, rest) => readClass? flags opened outer rest
termination_by text.length
decreasing_by
  rename_i skipped step
  have shorter := flags.skip_length_le text
  rw [skipped, List.length_cons] at shorter
  exact Nat.lt_of_le_of_lt (stepClass_length_le step) shorter

theorem readClass?_length_le {flags : Flags} {opened : OpenClass} {outer : List OpenClass}
    {text rest : List Char} {depth : Nat}
    (read : readClass? flags opened outer text = some (depth, rest)) :
    rest.length ≤ text.length := by
  fun_induction readClass? flags opened outer text with
  | case1 => cases read
  | case2 => cases read
  | case3 opened outer text char after skipped depth rest step =>
    cases read
    have shorter := flags.skip_length_le text
    rw [skipped, List.length_cons] at shorter
    exact Nat.le_trans (stepClass_length_le step) (Nat.le_of_lt shorter)
  | case4 opened outer text char after skipped opened' outer' rest' step ih =>
    have shorter := flags.skip_length_le text
    rw [skipped, List.length_cons] at shorter
    exact Nat.le_trans (ih read)
      (Nat.le_trans (stepClass_length_le step) (Nat.le_of_lt shorter))

end Pattern

end Log

end SchemaScript
