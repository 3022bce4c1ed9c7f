import SchemaScript.Conversion.Converter

/-!
# The prefix that a path gives

Without a prefix of its own a converter takes the one that the path of the input
gives: the name of the file without its last dot and what follows it.  How a path
leads to the file makes no difference, and a path that leads to no name gives a
blank prefix.  `LeadsTo` tells the paths apart by the way they are written.
-/

namespace SchemaScript

namespace Text

/-- A character that stands in a text stands there for a last time. -/
theorem exists_last_of_mem {char : Char} {text : List Char} (member : char ∈ text) :
    ∃ front last, text = front ++ char :: last ∧ char ∉ last := by
  obtain ⟨last, front, shape, free⟩ := List.eq_append_cons_of_mem (List.mem_reverse.mpr member)
  refine ⟨front.reverse, last.reverse, ?_, by simpa using free⟩
  simpa using congrArg List.reverse shape

end Text

namespace Path

/-! ### Names on a path -/

/-- What stands on the two sides of a slash does not touch. -/
theorem names_append_slash (front rest : List Char) :
    names (front ++ '/' :: rest) = names front ++ names rest := by
  rw [names, segments, List.splitOn, List.splitOnP_append_cons _ _ (by simp), List.filter_append]
  rfl

theorem names_of_not_mem {segment : List Char} (single : '/' ∉ segment) :
    names segment = if segment = [] ∨ segment = here then [] else [segment] := by
  rw [names, segments, List.splitOn_eq_singleton single]
  by_cases still : segment = [] ∨ segment = here
  · rcases still with rfl | rfl <;> simp
  · rw [if_neg still]
    rw [not_or] at still
    simp [still.1, still.2]

/-- The start of a path up to some slash, or nothing. -/
def IsStart (start : List Char) : Prop :=
  start = [] ∨ ∃ front, start = front ++ ['/']

/-- The end of a path that leads no further: slashes, and dots behind slashes. -/
inductive Stays : List Char → Prop where
  | finished : Stays []
  | slash {rest : List Char} : Stays rest → Stays ('/' :: rest)
  | dot {rest : List Char} : Stays rest → Stays ('/' :: '.' :: rest)

/-- A name that a file can have. -/
structure IsFileName (name : List Char) : Prop where
  filled : name ≠ []
  single : '/' ∉ name
  ne_here : name ≠ here
  ne_back : name ≠ back

section Names

variable {start rest name : List Char}

theorem names_start (starts : IsStart start) (rest : List Char) :
    names (start ++ rest) = names start ++ names rest := by
  rcases starts with rfl | ⟨front, rfl⟩
  · rfl
  · have whole := names_append_slash front []
    rw [List.append_assoc, List.singleton_append, names_append_slash, whole]
    simp [names_of_not_mem]

theorem names_append_of_stays (stays : Stays rest) (path : List Char) :
    names (path ++ rest) = names path := by
  induction stays generalizing path with
  | finished => rw [List.append_nil]
  | @slash rest _ ih =>
      have none := ih []
      rw [List.nil_append] at none
      rw [names_append_slash, none]
      simp [names_of_not_mem]
  | @dot rest _ ih =>
      have none := ih here
      rw [here, List.singleton_append] at none
      rw [names_append_slash, none]
      simp [names_of_not_mem, here]

theorem IsFileName.names_eq (isName : IsFileName name) : names name = [name] := by
  rw [names_of_not_mem isName.single, if_neg (by simp [isName.filled, isName.ne_here])]

theorem Stays.append {more : List Char} (stays : Stays rest) (staysOn : Stays more) :
    Stays (rest ++ more) := by
  induction stays with
  | finished => exact staysOn
  | slash _ ih => exact ih.slash
  | dot _ ih => exact ih.dot

end Names

/-! ### Where a path leads -/

/-- The file name that a path leads to, if any, by the way the path is written. -/
inductive LeadsTo : List Char → Option (List Char) → Prop where
  | name {start name rest : List Char} :
      IsStart start → IsFileName name → Stays rest → LeadsTo (start ++ name ++ rest) (some name)
  | back {start rest : List Char} :
      IsStart start → Stays rest → LeadsTo (start ++ Path.back ++ rest) none
  | nowhere {first rest : List Char} :
      first = [] ∨ first = here → Stays rest → LeadsTo (first ++ rest) none

section Leads

variable {path : List Char} {target : Option (List Char)}

theorem LeadsTo.fileName?_eq (leads : LeadsTo path target) : fileName? path = target := by
  cases leads with
  | name starts isName stays =>
      rw [fileName?, names_append_of_stays stays, names_start starts, isName.names_eq]
      simp [isName.ne_back]
  | back starts stays =>
      have names_back : names Path.back = [Path.back] := by decide
      rw [fileName?, names_append_of_stays stays, names_start starts, names_back]
      simp
  | nowhere still stays =>
      rw [fileName?, names_append_of_stays stays]
      rcases still with rfl | rfl <;> rfl

theorem LeadsTo.append {rest : List Char} (leads : LeadsTo path target) (stays : Stays rest) :
    LeadsTo (path ++ rest) target := by
  cases leads with
  | name starts isName staysThere =>
      rw [List.append_assoc]
      exact .name starts isName (staysThere.append stays)
  | back starts staysThere =>
      rw [List.append_assoc]
      exact .back starts (staysThere.append stays)
  | nowhere still staysThere =>
      rw [List.append_assoc]
      exact .nowhere still (staysThere.append stays)

theorem exists_leadsTo_of_single {start segment : List Char} (starts : IsStart start)
    (single : '/' ∉ segment) (moves : ¬ (segment = [] ∨ segment = here)) :
    ∃ target, LeadsTo (start ++ segment) target := by
  rw [not_or] at moves
  by_cases leadsBack : segment = back
  · have leads := LeadsTo.back starts .finished
    exact ⟨none, by simpa [leadsBack] using leads⟩
  · have leads := LeadsTo.name starts ⟨moves.1, single, moves.2, leadsBack⟩ .finished
    exact ⟨some segment, by simpa using leads⟩

/-- Every path is written in one of the ways, as its last segments show. -/
theorem exists_leadsTo (path : List Char) : ∃ target, LeadsTo path target := by
  by_cases slash : '/' ∈ path
  · obtain ⟨front, last, shape, single⟩ := Text.exists_last_of_mem slash
    by_cases still : last = [] ∨ last = here
    · have shorter : front.length < path.length := by
        rw [shape, List.length_append, List.length_cons]
        omega
      obtain ⟨target, leads⟩ := exists_leadsTo front
      refine ⟨target, shape ▸ leads.append ?_⟩
      rcases still with rfl | rfl
      · exact Stays.finished.slash
      · exact Stays.finished.dot
    · rw [shape, List.append_cons]
      exact exists_leadsTo_of_single (.inr ⟨front, rfl⟩) single still
  · by_cases still : path = [] ∨ path = here
    · have leads := LeadsTo.nowhere still .finished
      exact ⟨none, by simpa using leads⟩
    · exact exists_leadsTo_of_single (.inl rfl) slash still
termination_by path.length

end Leads

/-! ### The stem of a name -/

/-- What stands before the last dot of a name; all of it, if there is none. -/
inductive IsStem : List Char → List Char → Prop where
  | whole {name : List Char} : '.' ∉ name → IsStem name name
  | cut {part ending : List Char} : '.' ∉ ending → IsStem (part ++ '.' :: ending) part

section Stems

variable {name part : List Char}

theorem IsStem.stem_eq (isStem : IsStem name part) : stem name = part := by
  cases isStem with
  | whole free => rw [stem, if_neg free]
  | @cut part ending free =>
      have passed : ∀ char ∈ ending.reverse, decide (char ≠ '.') = true := by
        intro char member
        rw [decide_eq_true_iff]
        rintro rfl
        exact free (List.mem_reverse.mp member)
      rw [stem, if_pos (by simp), List.reverse_append, List.reverse_cons, List.append_assoc,
        List.dropWhile_append_of_pos passed]
      simp

theorem exists_isStem (name : List Char) : ∃ part, IsStem name part := by
  by_cases dot : '.' ∈ name
  · obtain ⟨part, ending, rfl, free⟩ := Text.exists_last_of_mem dot
    exact ⟨part, .cut free⟩
  · exact ⟨name, .whole dot⟩

theorem isStem_iff : IsStem name part ↔ part = stem name := by
  constructor
  · intro isStem
    exact isStem.stem_eq.symm
  · rintro rfl
    obtain ⟨part, isStem⟩ := exists_isStem name
    rwa [isStem.stem_eq]

theorem IsStem.subset (isStem : IsStem name part) : part ⊆ name := by
  cases isStem with
  | whole free => exact List.Subset.refl _
  | cut free => exact List.subset_append_left _ _

end Stems

end Path

namespace Converter

theorem prefixFor_of_leadsTo {converter : Converter}
    (unset : converter.options.tablePrefix = none) {path : List Char}
    {target : Option (List Char)} (leads : Path.LeadsTo path target) :
    converter.prefixFor (String.ofList path) =
      String.ofList ((target.map Path.stem).getD []) := by
  rw [prefixFor, unset, String.toList_ofList, leads.fileName?_eq]

/--
A prefix that is given is the prefix for every path.  Otherwise the name of the file decides,
and neither what stands before it on the path nor what stays there behind it: the prefix is the
name without its last dot and what follows, and has no slash.  The prefix is blank for a path
that leads back at its end or leads nowhere, and there are no other paths.
-/
theorem prefixFor_by_path (converter : Converter) :
    (∀ given, converter.options.tablePrefix = some given →
      ∀ path, converter.prefixFor path = given) ∧
    (converter.options.tablePrefix = none →
      (∀ name, Path.IsFileName name →
        ∃ part, (∀ other, Path.IsStem name other ↔ other = part) ∧ '/' ∉ part ∧
          ∀ start rest, Path.IsStart start → Path.Stays rest →
            converter.prefixFor (String.ofList (start ++ name ++ rest)) = String.ofList part) ∧
      (∀ start rest, Path.IsStart start → Path.Stays rest →
        converter.prefixFor (String.ofList (start ++ ['.', '.'] ++ rest)) = "") ∧
      (∀ rest, Path.Stays rest →
        converter.prefixFor (String.ofList rest) = "" ∧
          converter.prefixFor (String.ofList ('.' :: rest)) = "") ∧
      ∀ path, ∃ target, Path.LeadsTo path target) := by
  refine ⟨fun given configured path => by rw [prefixFor, configured], fun unset => ?_⟩
  refine ⟨fun name isName => ?_, fun start rest starts stays => ?_, fun rest stays => ?_,
    Path.exists_leadsTo⟩
  · refine ⟨Path.stem name, fun other => Path.isStem_iff, fun slash => ?_, ?_⟩
    · exact isName.single ((Path.isStem_iff.mpr rfl).subset slash)
    · intro start rest starts stays
      exact prefixFor_of_leadsTo unset (.name starts isName stays)
  · exact prefixFor_of_leadsTo unset (.back starts stays)
  · exact ⟨prefixFor_of_leadsTo unset (.nowhere (.inl rfl) stays),
      prefixFor_of_leadsTo unset (.nowhere (.inr rfl) stays)⟩

/--
Only the last dot of a name counts, and the name may begin with the two that lead back.  A prefix
that is given stands for a path that has none of its own.
-/
theorem prefixFor_by_path_dots :
    ({} : Converter).prefixFor "/../..x.y.//./" = "..x.y" ∧
      ({} : Converter).prefixFor "a.b/../." = "" ∧
      ({} : Converter).prefixFor ".//" = "" ∧
      ({ options := { tablePrefix := some "P" } } : Converter).prefixFor "a.b/../." = "P" := by
  obtain ⟨-, unset⟩ := prefixFor_by_path {}
  obtain ⟨named, back, nowhere, -⟩ := unset rfl
  obtain ⟨configured, -⟩ := prefixFor_by_path { options := { tablePrefix := some "P" } }
  have isName : Path.IsFileName ['.', '.', 'x', '.', 'y', '.'] := by
    constructor <;> decide
  have isStem : Path.IsStem ['.', '.', 'x', '.', 'y', '.'] ['.', '.', 'x', '.', 'y'] :=
    @Path.IsStem.cut ['.', '.', 'x', '.', 'y'] [] List.not_mem_nil
  obtain ⟨part, only, -, reads⟩ := named _ isName
  have same : ['.', '.', 'x', '.', 'y'] = part := (only _).mp isStem
  subst same
  refine ⟨?_, ?_, ?_, configured "P" rfl _⟩
  · have path : "/../..x.y.//./" = String.ofList
        (['/', '.', '.', '/'] ++ ['.', '.', 'x', '.', 'y', '.'] ++ ['/', '/', '.', '/']) := by
      decide +kernel
    rw [path]
    exact reads _ _ (.inr ⟨['/', '.', '.'], rfl⟩) (.slash (.dot (.slash .finished)))
  · have path : "a.b/../." = String.ofList
        (['a', '.', 'b', '/'] ++ ['.', '.'] ++ ['/', '.']) := by
      decide +kernel
    rw [path]
    exact back _ _ (.inr ⟨['a', '.', 'b'], rfl⟩) (.dot .finished)
  · have path : ".//" = String.ofList ('.' :: ['/', '/']) := by
      decide +kernel
    rw [path]
    exact (nowhere _ (.slash (.slash .finished))).2

end Converter

end SchemaScript
