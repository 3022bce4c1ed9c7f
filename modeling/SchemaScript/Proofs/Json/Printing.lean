import SchemaScript.Json.Printer
import SchemaScript.Json.Reader
import SchemaScript.Text.Cut

/-!
# Printed values read back

A value that is printed is read back as it was, however deep its arrays and
objects are nested and whatever its strings hold.  A printed text is first cut
into the tokens of its value; the tokens are then put together again, and what
is read of a value does not depend on the arrays and objects around it.
-/

namespace SchemaScript

namespace Json

/-- A value whose numbers are spelled as numbers. -/
inductive Value.IsPrintable : Value → Prop where
  | null : IsPrintable .null
  | bool (value : Bool) : IsPrintable (.bool value)
  | number {literal : String} (word : ∀ char ∈ literal.toList, Token.isWordChar char = true)
      (spelled : Token.ofWord? literal.toList = some (.number literal)) :
      IsPrintable (.number literal)
  | string (value : String) : IsPrintable (.string value)
  | array {items : List Value} (each : ∀ item ∈ items, IsPrintable item) :
      IsPrintable (.array items)
  | object {members : List (String × Value)} (each : ∀ member ∈ members, IsPrintable member.2) :
      IsPrintable (.object members)

namespace Token

section Strings

/-- A character is written with a mark of its own, by its code, or as it is. -/
inductive Escapes (char : Char) : List Char → Prop where
  | marked {mark : Char} (known : escaped? mark = some char) (other : mark ≠ 'u') :
      Escapes char ['\\', mark]
  | coded (control : char.toNat < 0x20) :
      Escapes char
        ['\\', 'u', '0', '0', Text.hexDigit (char.toNat / 16), Text.hexDigit (char.toNat % 16)]
  | raw (unquoted : char ≠ '\x22') (unslashed : char ≠ '\\') (visible : 0x20 ≤ char.toNat) :
      Escapes char [char]

theorem escapes_escapeChar (char : Char) : Escapes char (escapeChar char) := by
  by_cases short : char ∈ ['\x22', '\\', '\x08', '\x0C', '\n', '\r', '\t']
  · simp only [List.mem_cons, List.not_mem_nil, or_false] at short
    rcases short with rfl | rfl | rfl | rfl | rfl | rfl | rfl
    · exact .marked (show escaped? '\x22' = some '\x22' from rfl) (by decide)
    · exact .marked (show escaped? '\\' = some '\\' from rfl) (by decide)
    · exact .marked (show escaped? 'b' = some '\x08' from rfl) (by decide)
    · exact .marked (show escaped? 'f' = some '\x0C' from rfl) (by decide)
    · exact .marked (show escaped? 'n' = some '\n' from rfl) (by decide)
    · exact .marked (show escaped? 'r' = some '\r' from rfl) (by decide)
    · exact .marked (show escaped? 't' = some '\t' from rfl) (by decide)
  · simp only [List.mem_cons, List.not_mem_nil, or_false, not_or] at short
    simp only [escapeChar, short, if_false]
    split
    · rename_i control
      exact .coded control
    · rename_i visible
      exact .raw short.1 short.2.1 (Nat.le_of_not_lt visible)

/-- Each character of a string is read back from its escaped form, whatever follows it. -/
theorem nextChar?_of_escapes {char : Char} {written : List Char} (escapes : Escapes char written)
    (rest : List Char) : nextChar? (written ++ rest) = some (char, rest) := by
  cases escapes with
  | @marked mark known other =>
      have step : nextChar? ('\\' :: mark :: rest) =
          (escaped? mark).map fun char => (char, rest) := by
        unfold nextChar?
        split
        · contradiction
        · rename_i same
          cases same
          exact absurd rfl other
        · rename_i same
          cases same
          rfl
        · rename_i unmatched same
          cases same
          exact (unmatched mark rest rfl rfl).elim
      rw [List.cons_append, List.singleton_append, step, known]
      rfl
  | coded control =>
      have high : Text.hexValue? (Text.hexDigit (char.toNat / 16)) = some (char.toNat / 16) :=
        Text.hexValue?_hexDigit (by omega)
      have low : Text.hexValue? (Text.hexDigit (char.toNat % 16)) = some (char.toNat % 16) :=
        Text.hexValue?_hexDigit (by omega)
      have zero : Text.hexValue? '0' = some 0 := by decide
      have code : code? '0' '0' (Text.hexDigit (char.toNat / 16))
          (Text.hexDigit (char.toNat % 16)) = some char.toNat := by
        simp only [code?, zero, high, low, Option.bind_eq_bind, Option.bind_some, Option.pure_def]
        congr 1
        omega
      have complete : completeCode? char.toNat rest = some (char, rest) := by
        unfold completeCode?
        rw [if_pos (.inl (by omega)), Char.ofNat_toNat]
      change (code? '0' '0' _ _).bind (fun code => completeCode? code rest) = _
      rw [code, Option.bind_some, complete]
  | raw unquoted unslashed visible =>
      have shown : ¬ char.toNat < 0x20 := Nat.not_lt_of_le visible
      rw [List.singleton_append]
      unfold nextChar?
      split <;> simp_all

theorem head?_of_escapes {char : Char} {written : List Char} (escapes : Escapes char written)
    (rest : List Char) : (written ++ rest).head? ≠ some '\x22' := by
  cases escapes with
  | marked known other => simp
  | coded control => simp
  | raw unquoted unslashed visible => simpa using unquoted

theorem readString_escape (text rest : List Char) :
    readString (text.flatMap escapeChar ++ '\x22' :: rest) = some (text, rest) := by
  induction text with
  | nil =>
      rw [readString]
      simp
  | cons char text ih =>
      have escapes := escapes_escapeChar char
      rw [List.flatMap_cons, List.append_assoc, readString,
        if_neg (head?_of_escapes escapes _)]
      split
      · rename_i none
        rw [nextChar?_of_escapes escapes] at none
        cases none
      · rename_i read
        rw [nextChar?_of_escapes escapes] at read
        cases read
        rw [ih]
        rfl

end Strings

section Scanning

variable {char : Char} {token : Token} {rest remaining : List Char}

/-- A text that a word before it would not take up. -/
def EndsWord (rest : List Char) : Prop :=
  ∀ char ∈ rest.head?, isWordChar char = false

theorem mem_of_isBlank (blank : isBlank char = true) : char ∈ [' ', '\t', '\n', '\r'] := by
  simpa [isBlank, or_assoc] using blank

theorem scan_of_blank (blank : isBlank char = true) (rest : List Char) :
    scan (char :: rest) = scan rest := by
  rw [scan, if_pos blank]

theorem scan_of_next (visible : isBlank char = false)
    (read : next char rest = some (token, remaining)) :
    scan (char :: rest) = (scan remaining).map (token :: ·) := by
  rw [scan, if_neg (by simp [visible])]
  split
  · simp_all
  · rename_i same
    rw [read] at same
    cases same
    rfl

theorem scan_lineBreak (depth : Nat) (rest : List Char) :
    scan (lineBreak depth ++ rest) = scan rest := by
  have blanks (count : Nat) : scan (List.replicate count ' ' ++ rest) = scan rest := by
    induction count with
    | zero => rfl
    | succ count ih =>
        rw [List.replicate_succ, List.cons_append, scan_of_blank (by decide), ih]
  rw [lineBreak, List.cons_append, scan_of_blank (by decide), blanks]

theorem scan_mark (marks : mark? char = some token) (rest : List Char) :
    scan (char :: rest) = (scan rest).map (token :: ·) := by
  have table : ∀ char ∈ ['\x22', ' ', '\t', '\n', '\r'], mark? char = none := by
    simp [mark?]
  have visible : isBlank char = false := by
    cases blank : isBlank char with
    | false => rfl
    | true =>
        rw [table char (List.mem_cons_of_mem _ (mem_of_isBlank blank))] at marks
        cases marks
  have unquoted : char ≠ '\x22' := by
    intro quote
    rw [quote, table _ List.mem_cons_self] at marks
    cases marks
  apply scan_of_next visible
  rw [next, if_neg unquoted, marks]

theorem scan_string (value : String) (rest : List Char) :
    scan (renderString value ++ rest) =
      (scan rest).map (scalar (.string value) :: ·) := by
  rw [renderString, List.cons_append, List.append_assoc, List.singleton_append]
  apply scan_of_next (by decide)
  rw [next, if_pos rfl, readString_escape]
  simp

/-- A character of a word is no blank, no quote and no mark. -/
theorem opens_of_isWordChar (word : isWordChar char = true) :
    isBlank char = false ∧ char ≠ '\x22' ∧ mark? char = none := by
  have table : ∀ char ∈ ['\x22', ' ', '\t', '\n', '\r', '[', ']', '\x7b', '\x7d', ',', ':'],
      isWordChar char = false := by
    simp [isWordChar]
  have apart : char ∉ ['\x22', ' ', '\t', '\n', '\r', '[', ']', '\x7b', '\x7d', ',', ':'] := by
    intro special
    rw [table char special] at word
    cases word
  simp only [List.mem_cons, List.not_mem_nil, or_false, not_or] at apart
  simp [isBlank, mark?, apart]

theorem scan_word {word : List Char} {value : Value}
    (wordChars : ∀ char ∈ word, isWordChar char = true) (read : ofWord? word = some value)
    (ends : EndsWord rest) :
    scan (word ++ rest) = (scan rest).map (scalar value :: ·) := by
  cases word with
  | nil =>
      have blank : ofWord? [] = none := by decide
      rw [blank] at read
      cases read
  | cons first word =>
      rw [List.forall_mem_cons] at wordChars
      obtain ⟨visible, unquoted, unmarked⟩ := opens_of_isWordChar wordChars.1
      obtain ⟨taken, left⟩ := Text.span_append wordChars.2 ends
      rw [List.cons_append]
      apply scan_of_next visible
      simp only [next, if_neg unquoted, unmarked, taken, left, read, Option.map_some]

end Scanning

mutual

/-- The tokens that the printed form of a value is made of. -/
def ofValue : Value → List Token
  | .array [] => [openArray, closeArray]
  | .array (first :: rest) => openArray :: (ofValue first ++ (ofItems rest ++ [closeArray]))
  | .object [] => [openObject, closeObject]
  | .object ((key, value) :: rest) =>
    openObject :: scalar (.string key) :: colon ::
      (ofValue value ++ (ofMembers rest ++ [closeObject]))
  | value => [scalar value]

def ofItems : List Value → List Token
  | [] => []
  | first :: rest => comma :: (ofValue first ++ ofItems rest)

def ofMembers : List (String × Value) → List Token
  | [] => []
  | (key, value) :: rest =>
    comma :: scalar (.string key) :: colon :: (ofValue value ++ ofMembers rest)

end

section Printing

/-- That a printed value is cut into its tokens, at every depth and before every text. -/
def Scans (value : Value) : Prop :=
  ∀ depth rest, EndsWord rest →
    scan (render depth value ++ rest) = (scan rest).map (ofValue value ++ ·)

theorem endsWord_lineBreak (depth : Nat) (rest : List Char) :
    EndsWord (lineBreak depth ++ rest) := by
  intro char head
  cases head
  decide

theorem endsWord_renderItems (depth : Nat) (items : List Value) {rest : List Char}
    (ends : EndsWord rest) : EndsWord (renderItems depth items ++ rest) := by
  cases items with
  | nil => exact ends
  | cons first items =>
      rw [renderItems]
      intro char head
      cases head
      decide

theorem endsWord_renderMembers (depth : Nat) (members : List (String × Value))
    {rest : List Char} (ends : EndsWord rest) :
    EndsWord (renderMembers depth members ++ rest) := by
  rcases members with _ | ⟨⟨key, value⟩, members⟩
  · exact ends
  · rw [renderMembers]
    intro char head
    cases head
    decide

theorem scan_renderItems (depth : Nat) {items : List Value}
    (each : ∀ item ∈ items, Scans item) {rest : List Char} (ends : EndsWord rest) :
    scan (renderItems depth items ++ rest) = (scan rest).map (ofItems items ++ ·) := by
  induction items with
  | nil => simp [renderItems, ofItems]
  | cons first items ih =>
      rw [List.forall_mem_cons] at each
      rw [renderItems, ofItems, List.cons_append, List.append_assoc, List.append_assoc,
        scan_mark rfl, scan_lineBreak, each.1 depth _ (endsWord_renderItems depth items ends),
        ih each.2]
      simp [Function.comp_def]

theorem scan_renderMembers (depth : Nat) {members : List (String × Value)}
    (each : ∀ member ∈ members, Scans member.2) {rest : List Char} (ends : EndsWord rest) :
    scan (renderMembers depth members ++ rest) =
      (scan rest).map (ofMembers members ++ ·) := by
  induction members with
  | nil => simp [renderMembers, ofMembers]
  | cons first members ih =>
      obtain ⟨key, value⟩ := first
      rw [List.forall_mem_cons] at each
      rw [renderMembers, ofMembers]
      simp only [List.cons_append, List.append_assoc]
      rw [scan_mark rfl, scan_lineBreak, scan_string, scan_mark rfl, scan_of_blank (by decide),
        each.1 depth _ (endsWord_renderMembers depth members ends), ih each.2]
      simp [Function.comp_def]

theorem scans_of_isPrintable {value : Value} (printable : value.IsPrintable) : Scans value := by
  induction printable with
  | null =>
      intro depth rest ends
      have word : ∀ char ∈ ['n', 'u', 'l', 'l'], isWordChar char = true :=
        List.all_eq_true.mp (by decide)
      exact scan_word word rfl ends
  | bool value =>
      intro depth rest ends
      cases value with
      | true =>
          have word : ∀ char ∈ ['t', 'r', 'u', 'e'], isWordChar char = true :=
            List.all_eq_true.mp (by decide)
          exact scan_word word rfl ends
      | false =>
          have word : ∀ char ∈ ['f', 'a', 'l', 's', 'e'], isWordChar char = true :=
            List.all_eq_true.mp (by decide)
          exact scan_word word rfl ends
  | number word spelled =>
      intro depth rest ends
      rw [render]
      exact scan_word word spelled ends
  | string value =>
      intro depth rest _
      rw [render]
      exact scan_string value rest
  | @array items _ each =>
      intro depth rest _
      cases items with
      | nil =>
          simp only [render, ofValue, List.cons_append, List.nil_append]
          rw [scan_mark rfl, scan_mark rfl]
          simp [Function.comp_def]
      | cons first items =>
          rw [List.forall_mem_cons] at each
          simp only [render, ofValue, List.cons_append, List.append_assoc, List.nil_append]
          have closing := endsWord_lineBreak depth (']' :: rest)
          rw [scan_mark rfl, scan_lineBreak,
            each.1 _ _ (endsWord_renderItems _ items closing),
            scan_renderItems _ each.2 closing, scan_lineBreak, scan_mark rfl]
          simp [Function.comp_def]
  | @object members _ each =>
      intro depth rest _
      rcases members with _ | ⟨⟨key, value⟩, members⟩
      · simp only [render, ofValue, List.cons_append, List.nil_append]
        rw [scan_mark rfl, scan_mark rfl]
        simp [Function.comp_def]
      · rw [List.forall_mem_cons] at each
        simp only [render, ofValue, List.cons_append, List.append_assoc, List.nil_append]
        have closing := endsWord_lineBreak depth ('\x7d' :: rest)
        rw [scan_mark rfl, scan_lineBreak, scan_string, scan_mark rfl,
          scan_of_blank (by decide), each.1 _ _ (endsWord_renderMembers _ members closing),
          scan_renderMembers _ each.2 closing, scan_lineBreak, scan_mark rfl]
        simp [Function.comp_def]

end Printing

end Token

namespace Reading

open Token

/-- A reading that takes in a value for the given frames, but may also close an array. -/
def Awaits (reading : Reading) (frames : List Frame) : Prop :=
  ∀ token, token ≠ closeArray → reading.step token = begin frames token

theorem awaits_start : Awaits start [] := by
  intro token _
  rfl

theorem awaits_inside (mayClose : Bool) (frame : Frame) (outer : List Frame) :
    Awaits (inside (.value mayClose) frame outer) (frame :: outer) := by
  intro token opens
  cases token with
  | closeArray => exact absurd rfl opens
  | openArray | openObject | closeObject | comma | colon | scalar =>
      rcases frame with (_ | _) | _ | _ <;> cases mayClose <;> rfl

/-- That the tokens of a value are put together to the value, in whatever frames it stands. -/
def Rebuilds (value : Value) : Prop :=
  ∀ reading frames, Awaits reading frames →
    (ofValue value).foldlM step reading = supply value frames

theorem foldlM_ofItems {items : List Value} (each : ∀ item ∈ items, Rebuilds item)
    (earlier : List Value) (outer : List Frame) :
    (ofItems items).foldlM step (inside .separator (.array earlier) outer) =
      some (inside .separator (.array (items.reverse ++ earlier)) outer) := by
  induction items generalizing earlier with
  | nil => rfl
  | cons first items ih =>
      rw [List.forall_mem_cons] at each
      have comma : step (inside .separator (.array earlier) outer) comma =
          some (inside (.value false) (.array earlier) outer) := rfl
      have value := each.1 _ _ (awaits_inside false (.array earlier) outer)
      rw [ofItems, List.foldlM_cons, comma, Option.bind_eq_bind, Option.bind_some,
        List.foldlM_append, value, supply, Option.bind_eq_bind, Option.bind_some, ih each.2]
      simp

theorem foldlM_ofMembers {members : List (String × Value)}
    (each : ∀ member ∈ members, Rebuilds member.2)
    (earlier : List (String × Value)) (outer : List Frame) :
    (ofMembers members).foldlM step (inside .separator (.object earlier) outer) =
      some (inside .separator (.object (members.reverse ++ earlier)) outer) := by
  induction members generalizing earlier with
  | nil => rfl
  | cons first members ih =>
      obtain ⟨key, value⟩ := first
      rw [List.forall_mem_cons] at each
      have opened : [comma, scalar (.string key), colon].foldlM step
          (inside .separator (.object earlier) outer) =
            some (inside (.value false) (.member earlier key) outer) := rfl
      have named := each.1 _ _ (awaits_inside false (.member earlier key) outer)
      have shape : ofMembers ((key, value) :: members) =
          [comma, scalar (.string key), colon] ++ (ofValue value ++ ofMembers members) := rfl
      rw [shape, List.foldlM_append, opened, Option.bind_eq_bind, Option.bind_some,
        List.foldlM_append, named, supply, Option.bind_eq_bind, Option.bind_some, ih each.2]
      simp

theorem rebuilds_of_isPrintable {value : Value} (printable : value.IsPrintable) :
    Rebuilds value := by
  have lone {value : Value} (tokens : ofValue value = [scalar value]) : Rebuilds value := by
    intro reading frames awaits
    have stepped : reading.step (scalar value) = supply value frames :=
      awaits (scalar value) (by simp)
    rw [tokens, List.foldlM_cons, stepped, Option.bind_eq_bind]
    simp
  induction printable with
  | null => exact lone rfl
  | bool value => exact lone rfl
  | number word spelled => exact lone rfl
  | string value => exact lone rfl
  | @array items _ each =>
      intro reading frames awaits
      have opened : reading.step openArray = some (inside (.value true) (.array []) frames) :=
        awaits openArray (by simp)
      cases items with
      | nil =>
          have closed : step (inside (.value true) (.array []) frames) closeArray =
              supply (.array []) frames := rfl
          rw [ofValue, List.foldlM_cons, opened, Option.bind_eq_bind, Option.bind_some,
            List.foldlM_cons, closed, Option.bind_eq_bind]
          simp
      | cons first items =>
          rw [List.forall_mem_cons] at each
          have value := each.1 _ _ (awaits_inside true (.array []) frames)
          have closed : step (inside .separator (.array (items.reverse ++ [first])) frames)
              closeArray = supply (.array (items.reverse ++ [first]).reverse) frames := rfl
          rw [ofValue, List.foldlM_cons, opened, Option.bind_eq_bind, Option.bind_some,
            List.foldlM_append, value, supply, Option.bind_eq_bind, Option.bind_some,
            List.foldlM_append, foldlM_ofItems each.2, Option.bind_eq_bind, Option.bind_some,
            List.foldlM_cons, closed, Option.bind_eq_bind]
          simp
  | @object members _ each =>
      intro reading frames awaits
      have opened : reading.step openObject = some (inside (.key true) (.object []) frames) :=
        awaits openObject (by simp)
      rcases members with _ | ⟨⟨key, value⟩, members⟩
      · have closed : step (inside (.key true) (.object []) frames) closeObject =
            supply (.object []) frames := rfl
        rw [ofValue, List.foldlM_cons, opened, Option.bind_eq_bind, Option.bind_some,
          List.foldlM_cons, closed, Option.bind_eq_bind]
        simp
      · rw [List.forall_mem_cons] at each
        have keyed : [scalar (.string key), colon].foldlM step
            (inside (.key true) (.object []) frames) =
              some (inside (.value false) (.member [] key) frames) := rfl
        have named := each.1 _ _ (awaits_inside false (.member [] key) frames)
        have closed : step (inside .separator (.object (members.reverse ++ [(key, value)])) frames)
            closeObject = supply (.object (members.reverse ++ [(key, value)]).reverse) frames :=
          rfl
        have shape : ofValue (.object ((key, value) :: members)) =
            openObject :: ([scalar (.string key), colon] ++
              (ofValue value ++ (ofMembers members ++ [closeObject]))) := rfl
        rw [shape, List.foldlM_cons, opened, Option.bind_eq_bind, Option.bind_some,
          List.foldlM_append, keyed, Option.bind_eq_bind, Option.bind_some,
          List.foldlM_append, named, supply, Option.bind_eq_bind, Option.bind_some,
          List.foldlM_append, foldlM_ofMembers each.2, Option.bind_eq_bind, Option.bind_some,
          List.foldlM_cons, closed, Option.bind_eq_bind]
        simp

end Reading

/-- A printable value is read from its printed form, also if blanks stand behind it. -/
theorem parse?_print_append {value : Value} (printable : value.IsPrintable) (blanks : List Char)
    (blank : ∀ char ∈ blanks, Token.isBlank char = true) :
    parse? (print value ++ String.ofList blanks) = some value := by
  have ends : Token.EndsWord blanks := by
    intro char head
    cases word : Token.isWordChar char with
    | false => rfl
    | true =>
        have visible := (Token.opens_of_isWordChar word).1
        rw [blank char (List.mem_of_mem_head? head)] at visible
        cases visible
  have nothing : Token.scan blanks = some [] := by
    clear ends
    induction blanks with
    | nil => rw [Token.scan]
    | cons char blanks ih =>
        rw [List.forall_mem_cons] at blank
        rw [Token.scan_of_blank blank.1, ih blank.2]
  have scanned := Token.scans_of_isPrintable printable 0 blanks ends
  have rebuilt := Reading.rebuilds_of_isPrintable printable _ _ Reading.awaits_start
  rw [nothing, Option.map_some, List.append_nil] at scanned
  rw [parse?, print, String.toList_append, String.toList_ofList, String.toList_ofList, scanned,
    Option.bind_some, ofTokens?, rebuilt]
  rfl

end Json

end SchemaScript
