import SchemaScript.Proofs.CommandLine.Execution
import SchemaScript.Proofs.Encoding.Presentation
import SchemaScript.Proofs.Schema.Extension

/-!
# What the log tells of a survey

A survey passes elements over without an error, so only the log tells which of
them are lost.  With every event let through, the log goes through the elements
that could describe tables, in the order of the survey, and each of them has an
account: one line for every column that is lost and one for the table itself.
So what is kept and what is lost together are all that there was.  The accounts
are there for a conversion that fails after the survey as well; only the line
behind them tells that it succeeded.
-/

namespace SchemaScript

namespace Text

@[simp]
theorem lineEnd_not_mem_toDigits {base : Nat} (large : 1 < base) (number : Nat) :
    '\n' ∉ Nat.toDigits base number := by
  induction number using Nat.strongRecOn with
  | _ number ih =>
      rw [Nat.toDigits_eq_if large]
      split
      · simp
      · have earlier := ih (number / base) (Nat.div_lt_self (by omega) large)
        simp [earlier]

theorem lineEnd_not_mem_displayChar (char : Char) : '\n' ∉ displayChar char := by
  unfold displayChar
  split_ifs with _ _ ended
  all_goals try decide
  · simp
  · simpa using Ne.symm ended

/-- Whatever a text holds, its display stands on one line. -/
@[simp]
theorem lineEnd_not_mem_quoted (text : String) : '\n' ∉ (quoted text).toList := by
  simp [quoted, lineEnd_not_mem_displayChar]

/-- The lines that a text takes. -/
def linesOf (text : String) : List String :=
  (text.toList.splitOn '\n').map String.ofList

theorem linesOf_of_lineEnd_not_mem {text : String} (flat : '\n' ∉ text.toList) :
    linesOf text = [text] := by
  rw [linesOf, List.splitOn_eq_singleton flat, List.map_singleton, String.ofList_toList]

end Text

namespace Log

open Schema Markup

section Filters

theorem passes_upTo (level : Level) (event : Event) :
    (Filter.upTo level).passes event = decide (event.level.detail ≤ level.detail) := by
  simp [Filter.upTo, Filter.passes, Filter.deciding?, Rule.concerns, Filter.narrower]

/-- The setting that asks for everything is heeded whether or not a detailed log is wished for. -/
theorem passes_of_trace (verbose : Bool) (event : Event) :
    (Filter.ofSettings (some "trace") verbose).passes event = true := by
  have read : Filter.parse? "trace" = some (Filter.upTo .trace) := by decide +kernel
  rw [Filter.ofSettings, Option.bind_some, read, Option.getD_some, passes_upTo, decide_eq_true_eq]
  cases event <;> simp [Event.level, Level.detail]

/-- Nothing that can be logged is a warning. -/
theorem passes_of_unset (event : Event) :
    (Filter.ofSettings none false).passes event = false := by
  change (Filter.upTo .warn).passes event = false
  rw [passes_upTo, decide_eq_false_iff_not]
  cases event <;> simp [Event.level, Level.detail]

end Filters

namespace Event

section Lines

variable (column typeName table input output : String) (count tables columns : Nat)

theorem line_ignoredArguments :
    (ignoredArguments count).line = "DEBUG Ignoring extra arguments count=" ++ toString count := by
  simp [line, message, fields, words, level, Level.name, ← String.append_assoc]

theorem line_incompleteColumn :
    (incompleteColumn column).line =
      "TRACE Dropping column without name or type column=" ++ Text.quoted column := by
  simp [line, message, fields, words, level, Level.name, ← String.append_assoc]

theorem line_unmappedColumn :
    (unmappedColumn column typeName).line =
      "DEBUG Dropping column with unmapped type column=" ++ Text.quoted column
        ++ " type_name=" ++ Text.quoted typeName := by
  simp [line, message, fields, words, level, Level.name, ← String.append_assoc]

theorem line_unnamedTable : unnamedTable.line = "DEBUG Skipping table element without a name" := by
  decide

theorem line_discoveredTable :
    (discoveredTable table columns).line =
      "DEBUG Discovered table table=" ++ Text.quoted table ++ " columns=" ++ toString columns := by
  simp [line, message, fields, words, level, Level.name, ← String.append_assoc]

theorem line_converted :
    (converted input output tables columns).line =
      "INFO Converted schema input=" ++ input ++ " output=" ++ output
        ++ " tables=" ++ toString tables ++ " columns=" ++ toString columns := by
  simp [line, message, fields, words, level, Level.name, ← String.append_assoc]

end Lines

/-- Only the paths of a conversion can take an event to more than one line. -/
theorem lines_eq_singleton {event : Event}
    (pathless : ∀ input output tables columns, event ≠ converted input output tables columns) :
    event.lines = [event.line] := by
  refine Text.linesOf_of_lineEnd_not_mem ?_
  cases event with
  | ignoredArguments count => simp [line_ignoredArguments]
  | incompleteColumn column => simp [line_incompleteColumn]
  | unmappedColumn column typeName => simp [line_unmappedColumn]
  | unnamedTable => simp [line_unnamedTable]
  | discoveredTable table columns => simp [line_discoveredTable]
  | converted input output tables columns => exact absurd rfl (pathless _ _ _ _)

end Event

/-- The lines that a log has for an element that could describe a column. -/
inductive AccountsForColumn (types : TypeTable) (element : Element) : List String → Prop where
  | kept {column : Column} (described : DescribesColumn types element column) :
      AccountsForColumn types element []
  | unmapped {name reference : String} (named : IsNamed element name)
      (refers : RefersTo element reference) (typed : reference ≠ "")
      (unknown : types.resolve? reference = none) :
      AccountsForColumn types element
        ["DEBUG Dropping column with unmapped type column=" ++ Text.quoted name
          ++ " type_name=" ++ Text.quoted reference]
  | incomplete
      (lacking : ¬ ∃ name reference, IsNamed element name ∧ RefersTo element reference ∧
        reference ≠ "") :
      AccountsForColumn types element
        ["TRACE Dropping column without name or type column=" ++ Text.quoted (nameOf element)]

/-- The lines that a log has for an element that could describe a table. -/
inductive AccountsForTable (types : TypeTable) (element : Element) : List String → Prop where
  | unnamed (nameless : ¬ ∃ name, IsNamed element name) :
      AccountsForTable types element ["DEBUG Skipping table element without a name"]
  | named {name : String} {accounts : List (List String)} (named : IsNamed element name)
      (columns : List.Forall₂ (AccountsForColumn types) (columnElements element) accounts) :
      AccountsForTable types element
        (accounts.flatten ++
          ["DEBUG Discovered table table=" ++ Text.quoted name ++ " columns="
            ++ toString ((columnElements element).filterMap (column? types)).length])

section Survey

variable (types : TypeTable)

theorem accountsForColumn (element : Element) :
    AccountsForColumn types element
      ((Event.ofColumn? (examineColumn types element)).toList.flatMap Event.lines) := by
  by_cases complete : ∃ name reference, IsNamed element name ∧ RefersTo element reference ∧
      reference ≠ ""
  · obtain ⟨name, reference, named, refers, typed⟩ := complete
    have given : nameOf element = name := (nameOf_eq_iff named.2).mpr named.1
    have referred : typeName? element = some reference := typeName?_eq_some_iff.mpr refers
    cases resolved : types.resolve? reference with
    | some sqlType =>
        have found : examineColumn types element =
            .kept ⟨name, reference, sqlType, isNullable element⟩ := by
          simp [examineColumn, given, referred, named.2, typed, resolved]
        rw [found]
        exact .kept (column?_eq_some_iff.mp (congrArg ColumnFinding.column? found))
    | none =>
        have found : examineColumn types element = .unmapped name reference := by
          simp [examineColumn, given, referred, named.2, typed, resolved]
        rw [found, Event.ofColumn?, Option.toList_some, List.flatMap_singleton,
          Event.lines_eq_singleton, Event.line_unmappedColumn]
        · exact .unmapped named refers typed resolved
        · simp
  · have found : examineColumn types element = .incomplete (nameOf element) := by
      rw [examineColumn, if_pos]
      by_contra visible
      rw [not_or] at visible
      refine complete ⟨nameOf element, (typeName? element).getD "",
        ⟨(nameOf_eq_iff visible.1).mp rfl, visible.1⟩, typeName?_eq_some_iff.mp ?_, visible.2⟩
      cases given : typeName? element with
      | none => simp [given] at visible
      | some reference => rfl
    rw [found, Event.ofColumn?, Option.toList_some, List.flatMap_singleton,
      Event.lines_eq_singleton, Event.line_incompleteColumn]
    · exact .incomplete complete
    · simp

theorem accountsForTable (element : Element) :
    AccountsForTable types element
      ((Event.ofTable (examineTable types element)).flatMap Event.lines) := by
  by_cases blank : nameOf element = ""
  · rw [examineTable, if_pos blank, Event.ofTable, List.flatMap_singleton,
      Event.lines_eq_singleton, Event.line_unnamedTable]
    · refine .unnamed ?_
      rintro ⟨name, given, visible⟩
      exact visible ((nameOf_eq_iff visible).mpr given ▸ blank)
    · simp
  · have columns : List.Forall₂ (AccountsForColumn types) (columnElements element)
        ((columnElements element).map fun column =>
          (Event.ofColumn? (examineColumn types column)).toList.flatMap Event.lines) := by
      rw [List.forall₂_map_right_iff, List.forall₂_same]
      exact fun column _ => accountsForColumn types column
    rw [examineTable, if_neg blank, Event.ofTable, List.flatMap_append, List.flatMap_singleton,
      Event.lines_eq_singleton, Event.line_discoveredTable, List.filterMap_eq_flatMap_toList,
      List.flatMap_assoc, List.flatMap_map, List.filterMap_map, List.flatMap_def]
    · exact .named ⟨(nameOf_eq_iff blank).mp rfl, blank⟩ columns
    · simp

end Survey

/-- How many lines start with the given words. -/
def linesOpening (words : String) (lines : List String) : Nat :=
  lines.countP fun line => words.toList.isPrefixOf line.toList

@[simp]
theorem linesOpening_append (words : String) (lines more : List String) :
    linesOpening words (lines ++ more) = linesOpening words lines + linesOpening words more :=
  List.countP_append

@[simp]
theorem linesOpening_singleton (words line : String) :
    linesOpening words [line] = if words.toList.isPrefixOf line.toList then 1 else 0 := by
  rw [linesOpening, List.countP_singleton]

def skippedTables (lines : List String) : Nat :=
  linesOpening "DEBUG Skipping table element without a name" lines

def discoveredTables (lines : List String) : Nat :=
  linesOpening "DEBUG Discovered table" lines

def droppedColumns (lines : List String) : Nat :=
  linesOpening "TRACE Dropping column without name or type" lines
    + linesOpening "DEBUG Dropping column with unmapped type" lines

/--
Lines tell of as many tables and columns as elements lose, next to those that
they keep; the columns of a table without a name are not looked at.
-/
structure Balances (types : TypeTable) (elements : List Element) (lines : List String) : Prop where
  discovered : discoveredTables lines = (elements.filterMap (table? types)).length
  skipped : skippedTables lines + (elements.filterMap (table? types)).length = elements.length
  dropped : droppedColumns lines + columnCount (elements.filterMap (table? types)) =
    ((elements.filter fun element => nameOf element ≠ "").flatMap columnElements).length

section Balance

variable {types : TypeTable}

theorem column?_eq_none_of_not_isColumn {element : Element} (other : ¬ IsColumn types element) :
    column? types element = none :=
  Option.not_isSome_iff_eq_none.mp (mt column?_isSome_iff.mp other)

theorem AccountsForColumn.balance {element : Element} {lines : List String}
    (account : AccountsForColumn types element lines) :
    discoveredTables lines = 0 ∧ skippedTables lines = 0 ∧
      droppedColumns lines + (column? types element).toList.length = 1 := by
  cases account with
  | kept described =>
      rw [column?_eq_some_iff.mpr described]
      exact ⟨rfl, rfl, rfl⟩
  | unmapped named refers typed unknown =>
      have lost : column? types element = none := by
        refine column?_eq_none_of_not_isColumn ?_
        rintro ⟨_, other, _, otherRefers, _, resolves⟩
        have same := typeName?_eq_some_iff.mpr refers
        rw [typeName?_eq_some_iff.mpr otherRefers] at same
        cases same
        simp [unknown] at resolves
      rw [lost]
      simp [discoveredTables, skippedTables, droppedColumns]
  | incomplete lacking =>
      have lost : column? types element = none := by
        refine column?_eq_none_of_not_isColumn ?_
        rintro ⟨name, reference, named, refers, typed, _⟩
        exact lacking ⟨name, reference, named, refers, typed⟩
      rw [lost]
      simp [discoveredTables, skippedTables, droppedColumns]

theorem balance_of_columns {elements : List Element} {accounts : List (List String)}
    (each : List.Forall₂ (AccountsForColumn types) elements accounts) :
    discoveredTables accounts.flatten = 0 ∧ skippedTables accounts.flatten = 0 ∧
      droppedColumns accounts.flatten + (elements.filterMap (column? types)).length =
        elements.length := by
  rw [List.filterMap_eq_flatMap_toList]
  induction each with
  | nil => exact ⟨rfl, rfl, rfl⟩
  | cons account rest ih =>
      have first := account.balance
      simp only [discoveredTables, skippedTables, droppedColumns, List.flatten_cons,
        linesOpening_append, List.flatMap_cons, List.length_append, List.length_cons] at first ih ⊢
      omega

theorem Balances.append {elements others : List Element} {lines more : List String}
    (balances : Balances types elements lines) (rest : Balances types others more) :
    Balances types (elements ++ others) (lines ++ more) := by
  obtain ⟨discovered, skipped, dropped⟩ := balances
  obtain ⟨laterDiscovered, laterSkipped, laterDropped⟩ := rest
  constructor
  all_goals
    simp only [discoveredTables, skippedTables, droppedColumns, columnCount, linesOpening_append,
      List.filterMap_append, List.filter_append, List.flatMap_append, List.length_append] at *
    omega

theorem AccountsForTable.balances {element : Element} {lines : List String}
    (account : AccountsForTable types element lines) : Balances types [element] lines := by
  cases account with
  | unnamed nameless =>
      have lost : table? types element = none :=
        Option.not_isSome_iff_eq_none.mp (mt table?_isSome_iff.mp nameless)
      have blank : nameOf element = "" := by
        by_contra visible
        exact nameless ⟨_, (nameOf_eq_iff visible).mp rfl, visible⟩
      constructor
      all_goals simp [lost, blank, discoveredTables, skippedTables, droppedColumns,
        columnCount]
  | @named name accounts named columns =>
      have given : nameOf element = name := (nameOf_eq_iff named.2).mpr named.1
      have found : table? types element =
          some ⟨name, (columnElements element).filterMap (column? types)⟩ := by
        rw [table?_eq, given, if_neg named.2]
      have visible : nameOf element ≠ "" := given ▸ named.2
      obtain ⟨discovered, skipped, dropped⟩ := balance_of_columns columns
      simp only [discoveredTables, skippedTables, droppedColumns] at discovered skipped dropped
      constructor
      · simp [found, discoveredTables, discovered]
      · simp [found, skippedTables, skipped]
      · simp [found, visible, droppedColumns, dropped, columnCount]

theorem balances_of_tables {elements : List Element} {accounts : List (List String)}
    (each : List.Forall₂ (AccountsForTable types) elements accounts) :
    Balances types elements accounts.flatten := by
  induction each with
  | nil => exact ⟨rfl, rfl, rfl⟩
  | cons account rest ih => exact account.balances.append ih

end Balance

end Log

namespace Converter

open Schema

variable (converter : Converter) {store : Store} {input output : String}
  {document : Markup.Document}

/-- Whatever comes of a conversion after its input is loaded, its survey is done. -/
theorem convertFile_of_loaded [MultiByteReading] (loaded : store.document input = .ok document)
    (output : String) :
    ∃ result, ((converter.convertFile input output : StateM Store Attempt) store).1 =
        ⟨survey converter.types document, result⟩ ∧
      ∀ summary, result = .ok summary → summary = converter.summaryOf document input output := by
  cases found : store.locateNew output with
  | error cause =>
      rw [converter.convertFile_of_uncreated loaded found]
      exact ⟨_, rfl, fun summary success => by cases success⟩
  | ok location =>
      rw [converter.convertFile_of_created loaded found]
      refine ⟨_, rfl, fun summary success => ?_⟩
      unfold resultOf at success
      split at success
      · cases success
      · exact (Except.ok.inj success).symm

end Converter

namespace CommandLine

open Schema Log

theorem log_execution (filter : Filter) (run : Run) :
    (run.execution filter).log = (run.events.filter filter.passes).flatMap Event.lines := by
  obtain ⟨events, result⟩ := run
  cases result <;> rfl

section Account

variable {texts : List String} {arguments : Arguments} {options : Options} {store : Store}
  {input output : String} {document : Markup.Document}

theorem execute_of_parse [MultiByteReading] (parsed : Arguments.parse texts = .ok arguments)
    (setting : Option String) (store : Store) :
    ((execute setting texts : StateM Store Execution) store).1 =
      ((run arguments : StateM Store Run) store).1.execution
        (Filter.ofSettings setting arguments.verbose) := by
  rw [execute, parsed]
  rfl

/-- The log of a run tells all its events if everything is let through, and by itself none. -/
theorem log_execute [MultiByteReading] (parsed : Arguments.parse texts = .ok arguments)
    (store : Store) :
    ((execute (some "trace") texts : StateM Store Execution) store).1.log =
        ((run arguments : StateM Store Run) store).1.events.flatMap Event.lines ∧
      (arguments.verbose = false →
        ((execute none texts : StateM Store Execution) store).1.log = []) := by
  constructor
  · rw [execute_of_parse parsed, log_execution, List.filter_eq_self.mpr]
    exact fun event _ => passes_of_trace arguments.verbose event
  · intro quiet
    rw [execute_of_parse parsed, log_execution, quiet, List.filter_eq_nil_iff.mpr,
      List.flatMap_nil]
    exact fun event _ => by simp [passes_of_unset]

theorem flatMap_lines_ignoredEvents (arguments : Arguments) :
    (ignoredEvents arguments).flatMap Event.lines =
      if arguments.extra = [] then []
      else ["DEBUG Ignoring extra arguments count=" ++ toString arguments.extra.length] := by
  simp only [ignoredEvents, List.isEmpty_iff]
  split
  · rfl
  · rw [List.flatMap_singleton, Event.lines_eq_singleton, Event.line_ignoredArguments]
    simp

/-- What a log has behind the accounts of a survey. -/
def endLines (input : String) : Except ConversionError Summary → List String
  | .ok summary => (Event.converted input summary.output summary.tables summary.columns).lines
  | .error _ => []

theorem flatMap_lines_ofAttempt (input : String) (attempt : Attempt) :
    (Event.ofAttempt input attempt).flatMap Event.lines =
      (attempt.findings.flatMap Event.ofTable).flatMap Event.lines
        ++ endLines input attempt.result := by
  rw [Event.ofAttempt, List.flatMap_append]
  cases attempt.result with
  | ok summary => rw [List.flatMap_singleton, endLines]
  | error error => rfl

theorem filterMap_table? (types : TypeTable) (document : Markup.Document) :
    ((datasets document).flatMap tableElements).filterMap (table? types) =
      tables types document := by
  rw [tables, survey, List.filterMap_map]
  rfl

/-- The accounts of all elements that could describe tables, one after another. -/
theorem flatMap_lines_survey (types : TypeTable) (document : Markup.Document) :
    ∃ accounts,
      ((survey types document).flatMap Event.ofTable).flatMap Event.lines = accounts.flatten ∧
      List.Forall₂ (AccountsForTable types) ((datasets document).flatMap tableElements)
        accounts := by
  refine ⟨((datasets document).flatMap tableElements).map fun element =>
    (Event.ofTable (examineTable types element)).flatMap Event.lines, ?_, ?_⟩
  · rw [survey, List.flatMap_assoc, List.flatMap_map, List.flatMap_def]
  · rw [List.forall₂_map_right_iff, List.forall₂_same]
    exact fun element _ => accountsForTable types element

/--
What the log of a run holds once its input is loaded.  With everything let through it starts with
the arguments that are ignored, if there are any; then it goes through the elements that could
describe tables and has the lines of an account for each of them, so that the tables and columns
it tells to be lost are, with those that were found, all that there were.  A line with the numbers
of those found follows if the conversion succeeds, and nothing if it fails.  Without a setting and
without the wish for a detailed log the same run logs nothing.
-/
theorem log_accounts_for_survey [MultiByteReading]
    (parsed : Arguments.parse texts = .ok arguments) (inputs : arguments.input = some input)
    (outputs : arguments.output = some output) (chosen : arguments.options = .ok options)
    (loaded : store.document input = .ok document) :
    let execution := ((execute (some "trace") texts : StateM Store Execution) store).1
    let conversion := (Converter.convertFile { options } input output : StateM Store Attempt) store
    let candidates := (datasets document).flatMap tableElements
    let found := tables builtinTypes document
    (∃ accounts ending,
      execution.log =
        (if arguments.extra = [] then []
          else ["DEBUG Ignoring extra arguments count=" ++ toString arguments.extra.length])
          ++ accounts.flatten ++ ending ∧
      List.Forall₂ (AccountsForTable builtinTypes) candidates accounts ∧
      discoveredTables accounts.flatten = found.length ∧
      skippedTables accounts.flatten + found.length = candidates.length ∧
      droppedColumns accounts.flatten + columnCount found =
        ((candidates.filter fun element => nameOf element ≠ "").flatMap columnElements).length ∧
      (∀ summary, conversion.1.result = .ok summary →
        let line := "INFO Converted schema input=" ++ input ++ " output=" ++ output
          ++ " tables=" ++ toString summary.tables ++ " columns=" ++ toString summary.columns
        execution.exitCode = 0 ∧
        summary.tables = found.length ∧ summary.columns = columnCount found ∧
        ending = Text.linesOf line ∧
        ('\n' ∉ input.toList → '\n' ∉ output.toList → ending = [line])) ∧
      ∀ error, conversion.1.result = .error error →
        execution.exitCode = 1 ∧ ending = []) ∧
    (arguments.verbose = false →
      ((execute none texts : StateM Store Execution) store).1.log = []) := by
  intro execution conversion candidates found
  obtain ⟨result, attempted, summarized⟩ :=
    Converter.convertFile_of_loaded { options } loaded output
  obtain ⟨accounts, told, each⟩ := flatMap_lines_survey builtinTypes document
  obtain ⟨discovered, skipped, dropped⟩ := balances_of_tables each
  rw [filterMap_table?] at discovered skipped dropped
  have ran := run_of_options store inputs outputs chosen
  obtain ⟨traced, silent⟩ := log_execute parsed store
  have executed := execute_of_parse parsed (some "trace") store
  rw [ran, attempted] at traced executed
  rw [List.flatMap_append, flatMap_lines_ignoredEvents, flatMap_lines_ofAttempt, told,
    ← List.append_assoc] at traced
  -- The survey is done before the output is created, so its accounts stand in either case.
  refine ⟨⟨accounts, endLines input result, traced, each, discovered, skipped, dropped, ?_, ?_⟩,
    silent⟩
  · intro summary success
    rw [attempted] at success
    cases success
    obtain rfl := summarized summary rfl
    refine ⟨congrArg Execution.exitCode executed, rfl, rfl, ?_, ?_⟩
    · exact congrArg Text.linesOf (Event.line_converted ..)
    · intro inputFlat outputFlat
      rw [← Event.line_converted]
      refine Text.linesOf_of_lineEnd_not_mem ?_
      simp [Event.line_converted, Converter.summaryOf, inputFlat, outputFlat]
  · intro error failed
    rw [attempted] at failed
    cases failed
    exact ⟨congrArg Execution.exitCode executed, rfl⟩

end Account

section Example

/-- A schema in pieces, with a table that keeps one of three columns and a table without a name. -/
def lossyPieces : List String :=
  ["<element xmlns='", schemaUri, "' IsDataSet='true'>", "<complexType><choice><element/>",
    "<element name='T'><complexType><sequence>", "<element name='A' type='xs:int'/>",
    "<element name='B' type='C'/>", "<element name='D'/></sequence></complexType>",
    "</element></choice></complexType></element>"]

def lossyText : String :=
  String.ofList (lossyPieces.flatMap String.toList)

def lossyTable : Markup.Element :=
  let columns := [typedElement "A" "xs:int", typedElement "B" "C",
    schemaElement "element" [⟨"name", "name", "D"⟩] []]
  schemaElement "element" [⟨"name", "name", "T"⟩]
    [schemaElement "complexType" [] [schemaElement "sequence" [] columns]]

def lossyDocument : Markup.Document :=
  ⟨schemaElement "element" [⟨"IsDataSet", "IsDataSet", "true"⟩]
    [schemaElement "complexType" []
      [schemaElement "choice" [] [schemaElement "element" [] [], lossyTable]]]⟩

/-- A store with one file. -/
def storeOf (bytes : List UInt8) : Store :=
  Store.fresh.install (Store.freshDirectory ++ [['s']]) bytes

theorem read_storeOf (bytes : List UInt8) : (storeOf bytes).read "s" = .ok bytes :=
  rfl

def lossyStore : Store :=
  storeOf (Encoding.Utf8.mark ++ Encoding.Utf8.encode lossyText.toList)

theorem document_lossyStore : lossyStore.document "s" = .ok lossyDocument := by
  have parsed : Markup.Document.parse lossyText = .ok lossyDocument := by
    rw [Markup.Document.parse, lossyText, String.toList_ofList]
    decide +kernel
  rw [lossyStore, Store.document_of_decoded (read_storeOf _)
    (Encoding.decodeDocument_of_presents .markedUtf8), parsed]
  rfl

/-- The log of a conversion that loses one of two tables, and two of three columns. -/
theorem log_accounts_for_survey_lossy :
    ∃ accounts ending,
      ((execute (some "trace") ["s", "o"] : StateM Store Execution) lossyStore).1.log =
        accounts.flatten ++ ending ∧
      List.Forall₂ (AccountsForTable builtinTypes) [schemaElement "element" [] [], lossyTable]
        accounts ∧
      discoveredTables accounts.flatten = 1 ∧ skippedTables accounts.flatten = 1 ∧
      droppedColumns accounts.flatten = 2 ∧
      ((execute none ["s", "o"] : StateM Store Execution) lossyStore).1.log = [] := by
  have candidates : (datasets lossyDocument).flatMap tableElements =
      [schemaElement "element" [] [], lossyTable] := by
    decide +kernel
  have found : tables builtinTypes lossyDocument = [⟨"T", [⟨"A", "xs:int", "INT", false⟩]⟩] := by
    rw [← filterMap_table?, candidates]
    decide +kernel
  have columns : (([schemaElement "element" [] [], lossyTable].filter fun element =>
      nameOf element ≠ "").flatMap columnElements).length = 3 := by
    decide +kernel
  have accepted : Arguments.parse ["s", "o"] = .ok { input := some "s", output := some "o" } := rfl
  obtain ⟨⟨accounts, ending, logged, each, discovered, skipped, dropped, -⟩, silent⟩ :=
    log_accounts_for_survey accepted rfl rfl rfl document_lossyStore
  rw [candidates] at each skipped dropped
  rw [found] at discovered skipped dropped
  rw [columns] at dropped
  exact ⟨accounts, ending, logged, each, discovered, Nat.succ.inj skipped, Nat.succ.inj dropped,
    silent rfl⟩

end Example

end CommandLine

end SchemaScript
