import SchemaScript.Proofs.Encoding.Bytewise

/-!
# Declarations read byte by byte

A declaration names the same encoding whether it is read from a text or from
the bytes of the text in UTF-8.  Of what its reading finds, the offsets and
the faults do not matter here, only the keys and values and what is left to
read; these are found alike in a text and in the text spread out.
-/

namespace SchemaScript

namespace Encoding

open Markup

/-- Two parts of a text, both spread out. -/
def spreadBoth (parts : List Char × List Char) : List Char × List Char :=
  (spread parts.1, spread parts.2)

section Keys

/-- The first key of a row, without its offset, and what follows its `=`. -/
def key? (text : List Char) : Option (List Char × List Char) :=
  match text.dropWhile isBlank with
  | [] => none
  | first :: more =>
    (Text.after? ['='] ((more.dropWhile Assignment.continuesKey).dropWhile isBlank)).map
      fun rest => (first :: more.takeWhile Assignment.continuesKey, rest)

/-- What a search for a key has found, without the offsets. -/
def parts? : Assignment.KeySearch → Option (List Char × List Char)
  | .found key _ rest => some (key.name, rest)
  | _ => none

/-- The value that opens a row, without its offset, and what follows its closing quote. -/
def value? (text : List Char) : Option (List Char × List Char) :=
  match text.dropWhile isBlank with
  | [] => none
  | quote :: body => if Token.isQuote quote then Text.cut? [quote] body else none

theorem isBlank_of_not_isAscii (char : Char) (other : ¬ IsAscii char) : isBlank char = false := by
  have apart : char ∉ [' ', '\t', '\n', '\r'] := not_mem_of_ascii (by decide) other
  simpa [isBlank, and_assoc] using apart

theorem continuesKey_of_not_isAscii (char : Char) (other : ¬ IsAscii char) :
    Assignment.continuesKey char = true := by
  have apart : char ∉ ['='] := not_mem_of_ascii (by decide) other
  simpa [Assignment.continuesKey, isBlank_of_not_isAscii char other] using apart

theorem isQuote_of_not_isAscii (char : Char) (other : ¬ IsAscii char) :
    Token.isQuote char = false := by
  have apart : char ∉ ['"', '\x27'] := not_mem_of_ascii (by decide) other
  simpa [Token.isQuote] using apart

theorem key?_eq_parts? (offset : Nat) (text : List Char) :
    key? text = parts? (Assignment.nextKey offset text) := by
  unfold key? Assignment.nextKey
  cases text.dropWhile isBlank with
  | nil => rfl
  | cons first more =>
      dsimp only
      split
      · rename_i rest ended
        rw [ended, Text.after?_singleton]
        rfl
      · rename_i other
        have missing : Text.after? ['=']
            ((more.dropWhile Assignment.continuesKey).dropWhile isBlank) = none := by
          rw [Option.eq_none_iff_forall_ne_some]
          intro rest opened
          exact other rest (Text.append_of_after? opened)
        rw [missing]
        rfl

theorem value?_eq_map (offset : Nat) (text : List Char) :
    value? text =
      (Assignment.nextValue offset text).toOption.map fun read => (read.1, read.2.2) := by
  unfold value? Assignment.nextValue
  cases text.dropWhile isBlank with
  | nil => rfl
  | cons quote body =>
      dsimp only
      split
      · cases Text.cut? [quote] body with
        | none => rfl
        | some parts => rfl
      · rfl

/-- The first character of a key may be any; if it is spread out, the key goes on with it. -/
theorem key?_spread (text : List Char) : key? (spread text) = (key? text).map spreadBoth := by
  unfold key?
  rw [(span_spread isBlank_of_not_isAscii text).2]
  cases text.dropWhile isBlank with
  | nil => rfl
  | cons first more =>
      obtain ⟨head, inner, far, shape⟩ := exists_spread_cons first
      have passed : ∀ char ∈ inner, Assignment.continuesKey char = true :=
        fun char member => continuesKey_of_not_isAscii char (far char member)
      obtain ⟨taken, left⟩ := span_spread continuesKey_of_not_isAscii more
      rw [shape]
      dsimp only
      rw [List.takeWhile_append_of_pos passed, List.dropWhile_append_of_pos passed, taken, left,
        (span_spread isBlank_of_not_isAscii _).2, after?_spread (by decide), Option.map_map,
        Option.map_map]
      simp [Function.comp_def, spreadBoth, shape]

theorem value?_spread (text : List Char) :
    value? (spread text) = (value? text).map spreadBoth := by
  unfold value?
  rw [(span_spread isBlank_of_not_isAscii text).2]
  cases text.dropWhile isBlank with
  | nil => rfl
  | cons quote body =>
      by_cases plain : IsAscii quote
      · rw [spread_cons_of_isAscii plain]
        dsimp only
        split
        · exact cut?_spread (allAscii_cons.mpr ⟨plain, by decide⟩) body
        · rfl
      · obtain ⟨head, more, far, shape⟩ := spread_cons_of_not_isAscii plain
        have bare := isQuote_of_not_isAscii quote plain
        have bareHead := isQuote_of_not_isAscii head (far head List.mem_cons_self)
        simp [shape, bare, bareHead]

end Keys

section Rows

/-- A row holds keys with values, up to its end or to the first fault. -/
inductive Holds : List Char → List (List Char × List Char) → Prop where
  | finished {text : List Char} : key? text = none → Holds text []
  | valueless {text name tail : List Char} :
      key? text = some (name, tail) → value? tail = none → Holds text []
  | assigned {text name tail value rest : List Char} {later : List (List Char × List Char)} :
      key? text = some (name, tail) → value? tail = some (value, rest) →
      Holds rest later → Holds text ((name, value) :: later)

def pairOf (assignment : Assignment) : List Char × List Char :=
  (assignment.key.name, assignment.value)

variable {text : List Char} {first second : List (List Char × List Char)}

theorem Holds.unique (one : Holds text first) (other : Holds text second) : first = second := by
  induction one generalizing second with
  | finished missing => cases other <;> simp_all
  | valueless found missing => cases other <;> simp_all
  | assigned found read _ ih =>
      cases other with
      | finished missing => simp_all
      | valueless foundAgain missing => simp_all
      | assigned foundAgain readAgain rest =>
          rw [found] at foundAgain
          cases foundAgain
          rw [read] at readAgain
          cases readAgain
          rw [ih rest]

theorem Holds.spread (held : Holds text first) :
    Holds (spread text) (first.map spreadBoth) := by
  induction held with
  | finished missing => exact .finished (by rw [key?_spread, missing]; rfl)
  | valueless found missing =>
      exact .valueless (by rw [key?_spread, found]; rfl) (by rw [value?_spread, missing]; rfl)
  | assigned found read _ ih =>
      exact .assigned (by rw [key?_spread, found]; rfl) (by rw [value?_spread, read]; rfl) ih

/-- Where keys may repeat, those seen before do not matter, and offsets never do. -/
theorem holds_readAll (seen : List Key) (offset : Nat) (text : List Char) :
    Holds text ((Assignment.readAll false seen offset text).assignments.map pairOf) := by
  fun_induction Assignment.readAll false seen offset text with
  | case1 seen offset text found =>
      exact .finished (by rw [key?_eq_parts? offset, found]; rfl)
  | case2 seen offset text fault found =>
      exact .finished (by rw [key?_eq_parts? offset, found]; rfl)
  | case3 seen offset text key next rest found earlier repeats =>
      have := List.find?_some repeats
      simp at this
  | case4 seen offset text key next rest found fresh fault read =>
      exact .valueless (by rw [key?_eq_parts? offset, found]; rfl)
        (by rw [value?_eq_map next, read]; rfl)
  | case5 seen offset text key next rest found fresh value after remaining read later ih =>
      exact .assigned (by rw [key?_eq_parts? offset, found]; rfl)
        (by rw [value?_eq_map next, read]; rfl) ih

end Rows

section Labels

/-- The content of the instruction that opens a text, after its `<?`. -/
def instruction? (text : List Char) : Option (List Char) :=
  match Text.after? ['>'] text with
  | some _ => none
  | none => (Text.cut? ['?', '>'] text).map Prod.fst

/-- The value under the key that names an encoding. -/
def named? (pairs : List (List Char × List Char)) : Option (List Char) :=
  (pairs.find? fun pair => pair.1 = encodingKey).map Prod.snd

theorem instruction?_eq (text : List Char) :
    instruction? text =
      match Token.readInstruction text with
      | .ok (.instruction content, _) => some content
      | _ => none := by
  unfold instruction?
  cases opened : Text.after? ['>'] text with
  | some rest =>
      rw [Text.append_of_after? opened]
      rfl
  | none =>
      have other (rest : List Char) : text ≠ '>' :: rest := by
        rintro rfl
        rw [Text.after?_singleton] at opened
        cases opened
      cases found : Text.cut? ['?', '>'] text with
      | none =>
          have read : Token.readInstruction text = .error .unclosedInstruction := by
            unfold Token.readInstruction
            split
            · rfl
            · rw [found]
          rw [read]
          rfl
      | some parts =>
          obtain ⟨content, rest⟩ := parts
          have read : Token.readInstruction text = .ok (.instruction content, rest) := by
            unfold Token.readInstruction
            split
            · exact absurd rfl (other _)
            · rw [found]
          rw [read]
          rfl

theorem named?_map_pairOf (assignments : List Assignment) :
    named? (assignments.map pairOf) =
      (assignments.find? fun assignment => assignment.key.name = encodingKey).map
        Assignment.value := by
  unfold named?
  rw [List.find?_map, Option.map_map]
  rfl

theorem declaredLabel?_eq (text : List Char) :
    declaredLabel? text =
      (Text.after? ['<', '?'] text).bind fun opened =>
        (instruction? opened).bind fun content =>
          (Text.after? ['x', 'm', 'l'] content).bind fun row =>
            if row.head?.all isBlank then
              named? ((Assignment.readAll false [] 3 row).assignments.map pairOf)
            else
              none := by
  unfold declaredLabel?
  cases Text.after? ['<', '?'] text with
  | none => rfl
  | some opened =>
      simp only [Option.bind_some, instruction?_eq]
      change (match Token.readInstruction opened with
        | .ok (.instruction content, _) => _
        | _ => none) = _
      cases Token.readInstruction opened with
      | error fault => rfl
      | ok read =>
          obtain ⟨token, rest⟩ := read
          cases token with
          | instruction content =>
              simp only [Option.bind_some]
              cases Text.after? ['x', 'm', 'l'] content with
              | none => rfl
              | some row =>
                  simp only [Option.bind_some, named?_map_pairOf]
                  change (if row.head?.all isBlank then _ else none) = _
                  split
                  · cases (Assignment.readAll false [] 3 row).assignments.find? fun assignment =>
                        assignment.key.name = encodingKey with
                    | none => rfl
                    | some assignment => rfl
                  · rfl
          | _ => rfl

theorem instruction?_spread (text : List Char) :
    instruction? (spread text) = (instruction? text).map spread := by
  unfold instruction?
  rw [after?_spread (by decide), cut?_spread (by decide)]
  cases Text.after? ['>'] text with
  | some rest => rfl
  | none => simp [Function.comp_def]

theorem named?_map_spreadBoth (pairs : List (List Char × List Char)) :
    named? (pairs.map spreadBoth) = (named? pairs).map spread := by
  have same (pair : List Char × List Char) :
      spread pair.1 = encodingKey ↔ pair.1 = encodingKey :=
    spread_eq_iff_of_ascii (by decide)
  unfold named?
  rw [List.find?_map]
  simp [Function.comp_def, spreadBoth, same]

theorem all_head?_spread (row : List Char) :
    (spread row).head?.all isBlank = row.head?.all isBlank := by
  cases row with
  | nil => rfl
  | cons first row =>
      by_cases plain : IsAscii first
      · rw [spread_cons_of_isAscii plain]
        rfl
      · obtain ⟨head, more, far, shape⟩ := spread_cons_of_not_isAscii plain
        rw [shape]
        simp [isBlank_of_not_isAscii first plain,
          isBlank_of_not_isAscii head (far head List.mem_cons_self)]

theorem declaredLabel?_spread (text : List Char) :
    declaredLabel? (spread text) = (declaredLabel? text).map spread := by
  have rows (row : List Char) :
      (Assignment.readAll false [] 3 (spread row)).assignments.map pairOf =
        ((Assignment.readAll false [] 3 row).assignments.map pairOf).map spreadBoth :=
    (holds_readAll [] 3 (spread row)).unique (holds_readAll [] 3 row).spread
  rw [declaredLabel?_eq, declaredLabel?_eq, after?_spread (by decide)]
  cases Text.after? ['<', '?'] text with
  | none => rfl
  | some opened =>
      simp only [Option.map_some, Option.bind_some, instruction?_spread]
      cases instruction? opened with
      | none => rfl
      | some content =>
          simp only [Option.map_some, Option.bind_some]
          rw [after?_spread (by decide)]
          cases Text.after? ['x', 'm', 'l'] content with
          | none => rfl
          | some row =>
              simp only [Option.map_some, Option.bind_some, all_head?_spread, rows,
                named?_map_spreadBoth]
              split <;> rfl

theorem mem_dropWhile {passes : Char → Bool} {char : Char} {text : List Char}
    (member : char ∈ text) (stops : passes char = false) : char ∈ text.dropWhile passes := by
  rw [← List.takeWhile_append_dropWhile (p := passes) (l := text), List.mem_append] at member
  rcases member with early | late
  · have passed := List.all_eq_true.mp List.all_takeWhile char early
    rw [stops] at passed
    cases passed
  · exact late

theorem toLower_of_not_isAscii {char : Char} (other : ¬ IsAscii char) : char.toLower = char := by
  unfold Char.toLower
  rw [dif_neg]
  rintro ⟨-, small⟩
  have bound : char.toNat ≤ 90 := small
  exact other (Nat.lt_of_le_of_lt bound (by decide))

theorem mem_normalizeLabel {label : List Char} {char : Char} (member : char ∈ label)
    (other : ¬ IsAscii char) : char ∈ normalizeLabel label := by
  have apart : char ∉ [' ', '\t', '\n', '\r', '\x0C'] := not_mem_of_ascii (by decide) other
  have inner : surroundsLabel char = false := by
    simpa [surroundsLabel, and_assoc] using apart
  have front := mem_dropWhile member inner
  have back := mem_dropWhile (List.mem_reverse.mpr front) inner
  exact List.mem_map.mpr ⟨char, List.mem_reverse.mpr back, toLower_of_not_isAscii other⟩

theorem exists_mem_encode {text : List Char} {char : Char} (member : char ∈ text)
    (other : ¬ IsAscii char) : ∃ byte ∈ Utf8.encode text, 128 ≤ byte.toNat := by
  obtain ⟨byte, within⟩ := List.exists_mem_of_ne_nil _ (String.utf8EncodeChar_ne_nil (c := char))
  exact ⟨byte, List.mem_flatMap.mpr ⟨char, member, within⟩,
    (toNat_mem_utf8EncodeChar other byte within).1⟩

theorem toList_data_toByteArray (text : List Char) :
    (String.ofList text).toByteArray.data.toList = Utf8.encode text := by
  rw [String.toByteArray_ofList, List.utf8Encode, List.data_toByteArray]
  rfl

/-- The listed labels are ASCII, and no other character gets lost before they are compared. -/
theorem ofLabel?_eq_none {label : List Char} {char : Char} (member : char ∈ label)
    (other : ¬ IsAscii char) : ofLabel? label = none := by
  -- The bytes of the labels are compared, as they are much faster to compute than the characters.
  have table : labelled.all (fun entry => entry.2.all fun name =>
      name.toByteArray.data.toList.all fun byte => byte.toNat < 128) = true := by
    decide +kernel
  have listed : ∀ entry ∈ labelled, ∀ name ∈ entry.2,
      ∀ byte ∈ name.toByteArray.data.toList, byte.toNat < 128 := by
    simpa only [List.all_eq_true, decide_eq_true_eq] using table
  unfold ofLabel?
  rw [Option.map_eq_none_iff, List.find?_eq_none]
  intro entry among matched
  have within := List.contains_iff_mem.mp matched
  obtain ⟨byte, written, large⟩ := exists_mem_encode (mem_normalizeLabel member other) other
  have small := listed entry among _ within byte (by rwa [toList_data_toByteArray])
  omega

theorem ofLabel?_spread (label : List Char) : ofLabel? (spread label) = ofLabel? label := by
  by_cases plain : AllAscii (spread label)
  · have same : label = spread label := (spread_eq_iff_of_ascii plain).mp rfl
    rw [← same]
  · have beyond : ¬ AllAscii label := by
      intro ascii
      rw [spread_of_ascii ascii] at plain
      exact plain ascii
    obtain ⟨char, member, other⟩ := exists_not_isAscii plain
    obtain ⟨source, among, foreign⟩ := exists_not_isAscii beyond
    rw [ofLabel?_eq_none member other, ofLabel?_eq_none among foreign]

/-- Bytes in UTF-8 declare the encoding that the text itself names. -/
theorem declared?_encode (text : List Char) :
    declared? (Utf8.encode text) = (declaredLabel? text).bind ofLabel? := by
  have read : declaredLabel? (bytewise (Utf8.encode text)) = (declaredLabel? text).map spread :=
    declaredLabel?_spread text
  have same : ofLabel? ∘ spread = ofLabel? := funext ofLabel?_spread
  rw [declared?, read, Option.bind_map, same]

end Labels

end Encoding

end SchemaScript
