import SchemaScript.Conversion.File
import SchemaScript.Proofs.Files.Writing
import Mathlib.Control.Monad.Basic

/-!
# Files are converted like texts

A conversion from file to file has its own steps for loading and writing, apart
from those of a conversion from text to text.  This file shows that the two
agree on a store, and what a conversion that fails leaves behind.
-/

namespace SchemaScript

open Schema

namespace Store

def document [MultiByteReading] (store : Store) (path : String) :
    Except SourceError Markup.Document :=
  match store.read path with
  | .error error => .error (.unreadable error)
  | .ok bytes => documentOfBytes bytes

section Document

variable [MultiByteReading] {store : Store} {path : String} {bytes : List UInt8}

theorem document_of_undecodable (readable : store.read path = .ok bytes)
    {failure : Encoding.Undecodable} (failed : Encoding.decodeDocument bytes = .error failure) :
    store.document path = .error (.undecodable failure) := by
  simp [document, readable, documentOfBytes, failed, Except.mapError, bind, Except.bind]

theorem document_of_decoded (readable : store.read path = .ok bytes) {text : String}
    (decoded : Encoding.decodeDocument bytes = .ok text) :
    store.document path = (Markup.Document.parse text).mapError .malformed := by
  simp [document, readable, documentOfBytes, decoded, Except.mapError, bind, Except.bind]

/-- A path has a document exactly if each step of loading it succeeds. -/
theorem document_eq_ok_iff {document : Markup.Document} :
    store.document path = .ok document ↔
      ∃ bytes text, store.read path = .ok bytes ∧ Encoding.decodeDocument bytes = .ok text ∧
        Markup.Document.parse text = .ok document := by
  constructor
  · intro loaded
    cases readable : store.read path with
    | error error => simp [Store.document, readable] at loaded
    | ok bytes =>
        cases decoded : Encoding.decodeDocument bytes with
        | error failure => simp [document_of_undecodable readable decoded] at loaded
        | ok text =>
            rw [document_of_decoded readable decoded] at loaded
            cases parsed : Markup.Document.parse text with
            | error error => simp [parsed, Except.mapError] at loaded
            | ok found =>
                rw [parsed] at loaded
                cases loaded
                exact ⟨bytes, text, rfl, decoded, parsed⟩
  · rintro ⟨bytes, text, readable, decoded, parsed⟩
    rw [document_of_decoded readable decoded, parsed]
    rfl

theorem loadDocument_run (store : Store) (path : String) :
    (loadDocument path : StateM Store _) store = (store.document path, store) := by
  change (match store.read path with
    | .error error => (pure (Except.error (SourceError.unreadable error)) : StateM Store _)
    | .ok bytes => pure (documentOfBytes bytes)) store = _
  rw [document]
  cases store.read path <;> rfl

end Document

end Store

namespace Converter

variable (converter : Converter) {store : Store} {location : Location} {input output : String}

/-- Writing tables piece by piece writes them as they are rendered. -/
theorem wrote_writeTables (tablePrefix : String) (tables : List Table)
    (stands : store.entry? location = some (.file [])) :
    Store.Wrote location [] (Encoding.utf8Bytes (converter.render tablePrefix tables)) store
      (converter.writeTables tablePrefix tables
        (FileAccess.writeBytes (m := StateM Store) location) store) := by
  unfold writeTables render
  cases converter.options.format with
  | sql =>
      rw [Script.script, Encoding.utf8Bytes_join]
      exact Store.wrote_writePieces _ stands
  | json => exact Store.wrote_append stands _

theorem changesFile_writeTables (tablePrefix : String) (tables : List Table)
    (location : Location) (store : Store) :
    Store.ChangesFile location store
      (converter.writeTables tablePrefix tables
        (FileAccess.writeBytes (m := StateM Store) location) store).2 := by
  unfold writeTables
  cases converter.options.format with
  | sql => exact Store.changesFile_writePieces location _ store
  | json => exact Store.changesFile_append store location _

section Text

variable {text : String} {document : Markup.Document}

theorem convertText_of_parsed (parsed : Markup.Document.parse text = .ok document)
    (tablePrefix : String) :
    converter.convertText text tablePrefix =
      .ok (converter.render tablePrefix (tables converter.types document)) := by
  simp [convertText, tablesOfText, parsed, Except.map]

theorem convertText_of_malformed {error : Markup.Error}
    (failed : Markup.Document.parse text = .error error) (tablePrefix : String) :
    converter.convertText text tablePrefix = .error error := by
  simp [convertText, tablesOfText, failed, Except.map]

theorem convertText_eq_ok_iff {tablePrefix script : String} :
    converter.convertText text tablePrefix = .ok script ↔
      ∃ document, Markup.Document.parse text = .ok document ∧
        script = converter.render tablePrefix (tables converter.types document) := by
  cases parsed : Markup.Document.parse text with
  | error error => simp [converter.convertText_of_malformed parsed]
  | ok document => simp [converter.convertText_of_parsed parsed, eq_comm]

theorem convertText_eq_error_iff {tablePrefix : String} {error : Markup.Error} :
    converter.convertText text tablePrefix = .error error ↔
      Markup.Document.parse text = .error error := by
  cases parsed : Markup.Document.parse text with
  | error found => simp [converter.convertText_of_malformed parsed]
  | ok document => simp [converter.convertText_of_parsed parsed]

end Text

def summaryOf (document : Markup.Document) (input output : String) : Summary where
  output := output
  tablePrefix := converter.prefixFor input
  tables := (tables converter.types document).length
  columns := columnCount (tables converter.types document)

def resultOf (document : Markup.Document) (input output : String) :
    Except SystemError Unit → Except ConversionError Summary
  | .error cause => .error (.write output cause)
  | .ok () => .ok (converter.summaryOf document input output)

/-- The outcome of writing the tables of a document to a file that was just created. -/
def outcomeAt (store : Store) (location : Location) (document : Markup.Document)
    (input : String) : Except SystemError Unit × Store :=
  converter.writeTables (converter.prefixFor input) (tables converter.types document)
    (FileAccess.writeBytes (m := StateM Store) location) (store.truncate location)

section Steps

variable [MultiByteReading] {document : Markup.Document}

theorem convertFile_of_unloaded {cause : SourceError}
    (failed : store.document input = .error cause) (output : String) :
    (converter.convertFile input output : StateM Store Attempt) store =
      (⟨[], .error (.load input cause)⟩, store) := by
  simp [convertFile, bind, StateT.bind, Store.loadDocument_run, failed, stateM_pure_apply]

theorem convertFile_of_uncreated {cause : SystemError}
    (loaded : store.document input = .ok document)
    (refused : store.locateNew output = .error cause) :
    (converter.convertFile input output : StateM Store Attempt) store =
      (⟨survey converter.types document, .error (.write output cause)⟩, store) := by
  have created : store.create output = (.error cause, store) := by
    rw [Store.create, refused]
  simp [convertFile, writeOutput, bind, StateT.bind, Store.loadDocument_run, loaded,
    stateM_pure_apply, FileAccess.createFile, created]

theorem convertFile_of_created (loaded : store.document input = .ok document)
    (found : store.locateNew output = .ok location) :
    (converter.convertFile input output : StateM Store Attempt) store =
      (⟨survey converter.types document,
        converter.resultOf document input output
          (converter.outcomeAt store location document input).1⟩,
        (converter.outcomeAt store location document input).2) := by
  have created : store.create output = (.ok location, store.truncate location) := by
    rw [Store.create, found]
  rcases written : converter.outcomeAt store location document input with ⟨_ | _, after⟩ <;>
    rw [outcomeAt, tables] at written <;>
    simp [convertFile, writeOutput, bind, StateT.bind, Store.loadDocument_run, loaded,
      stateM_pure_apply, FileAccess.createFile, created, written, resultOf, summaryOf, tables]

/-- Every conversion changes at most the file that its output names. -/
theorem changesFile_convertFile (store : Store) (input output : String) {location : Location}
    (found : store.locateNew output = .ok location) :
    Store.ChangesFile location store
      ((converter.convertFile input output : StateM Store Attempt) store).2 := by
  cases loaded : store.document input with
  | error cause =>
      rw [converter.convertFile_of_unloaded loaded output]
      exact .refl location store
  | ok document =>
      have created := Store.changesFile_truncate (Store.locate_of_locateNew found).2
      have change := converter.changesFile_writeTables (converter.prefixFor input)
        (tables converter.types document) location (store.truncate location)
      rw [converter.convertFile_of_created loaded found]
      exact created.trans change

/-- Without a document, or without a place for the output, nothing changes. -/
theorem convertFile_eq_self (store : Store) (input output : String)
    (stopped : (∃ cause, store.document input = .error cause) ∨
      ∃ cause, store.locateNew output = .error cause) :
    ((converter.convertFile input output : StateM Store Attempt) store).2 = store := by
  cases loaded : store.document input with
  | error cause => rw [converter.convertFile_of_unloaded loaded output]
  | ok document =>
      rcases stopped with ⟨cause, failed⟩ | ⟨cause, refused⟩
      · simp [loaded] at failed
      · rw [converter.convertFile_of_uncreated loaded refused]

theorem output_eq_of_convertFile {summary : Summary}
    (success : ((converter.convertFile input output : StateM Store Attempt) store).1.result =
      .ok summary) : summary.output = output := by
  cases loaded : store.document input with
  | error cause => simp [converter.convertFile_of_unloaded loaded] at success
  | ok document =>
      cases found : store.locateNew output with
      | error cause => simp [converter.convertFile_of_uncreated loaded found] at success
      | ok location =>
          rw [converter.convertFile_of_created loaded found] at success
          unfold resultOf at success
          split at success
          · cases success
          · cases success
            rfl

end Steps

variable {document : Markup.Document}

theorem wrote_outcomeAt (document : Markup.Document) (input : String)
    (admits : store.AdmitsFile output) (found : store.locateNew output = .ok location) :
    Store.Wrote location []
      (Encoding.utf8Bytes
        (converter.render (converter.prefixFor input) (tables converter.types document)))
      (store.truncate location) (converter.outcomeAt store location document input) :=
  converter.wrote_writeTables _ _ (Store.entry?_truncate admits found)

/-- A regular output holds, after a conversion, the start of the rendering. -/
theorem fileAt?_convertFile [MultiByteReading] (admits : store.AdmitsFile output)
    (loaded : store.document input = .ok document)
    (found : store.locateNew output = .ok location) :
    ((converter.convertFile input output : StateM Store Attempt) store).2.fileAt? output =
      some (store.accepted (Encoding.utf8Bytes
        (converter.render (converter.prefixFor input) (tables converter.types document)))) := by
  have leads := (Store.locate_of_locateNew found).1
  have change := converter.changesFile_convertFile store input output found
  have stands := (converter.wrote_outcomeAt document input admits found).stands
  refine Store.fileAt?_eq_some_iff.mpr ⟨location, change.locate_eq_ok_iff.mpr leads, ?_⟩
  rw [converter.convertFile_of_created loaded found, stands, List.nil_append, Store.accepted,
    Store.accepted, Store.room_truncate]

/-- With a document and a place for its output, a conversion succeeds if there is room. -/
theorem convertFile_ok_iff [MultiByteReading] (admits : store.AdmitsFile output)
    (loaded : store.document input = .ok document)
    (found : store.locateNew output = .ok location) {summary : Summary} :
    ((converter.convertFile input output : StateM Store Attempt) store).1.result = .ok summary ↔
      summary = converter.summaryOf document input output ∧
        store.HasRoom (Encoding.utf8Bytes
          (converter.render (converter.prefixFor input)
            (tables converter.types document))).length := by
  have succeeds := (converter.wrote_outcomeAt document input admits found).succeeds_iff
  rw [Store.HasRoom, Store.room_truncate] at succeeds
  rw [Store.HasRoom, ← succeeds, converter.convertFile_of_created loaded found]
  cases (converter.outcomeAt store location document input).1 with
  | error cause => simp [resultOf]
  | ok done => simp [resultOf, eq_comm]

/--
A file is converted as its text is.  If the input decodes and its text
converts, a regular output ends up with exactly the bytes of the result, and
the summary counts what the text describes; the conversion succeeds whenever
the output can be created and there is room for it.  If decoding or reading
the text fails, so does the conversion, for the same reason.
-/
theorem convertFile_agrees_with_convertText [MultiByteReading] (store : Store)
    (input output : String) (admits : store.AdmitsFile output) :
    let outcome := (converter.convertFile input output : StateM Store Attempt) store
    let tablePrefix := converter.prefixFor input
    (∀ summary, outcome.1.result = .ok summary →
      ∃ bytes text script tables,
        store.read input = .ok bytes ∧
        Encoding.decodeDocument bytes = .ok text ∧
        converter.convertText text tablePrefix = .ok script ∧
        tablesOfText converter.types text = .ok tables ∧
        outcome.2.fileAt? output = some (Encoding.utf8Bytes script) ∧
        summary = ⟨output, tablePrefix, tables.length, columnCount tables⟩) ∧
    (∀ bytes text script location,
      store.read input = .ok bytes →
      Encoding.decodeDocument bytes = .ok text →
      converter.convertText text tablePrefix = .ok script →
      store.locateNew output = .ok location →
      store.HasRoom (Encoding.utf8Bytes script).length →
      ∃ summary, outcome.1.result = .ok summary) ∧
    (∀ bytes failure,
      store.read input = .ok bytes →
      Encoding.decodeDocument bytes = .error failure →
      outcome.1.result = .error (.load input (.undecodable failure))) ∧
    (∀ bytes text error,
      store.read input = .ok bytes →
      Encoding.decodeDocument bytes = .ok text →
      converter.convertText text tablePrefix = .error error →
      outcome.1.result = .error (.load input (.malformed error))) := by
  intro outcome tablePrefix
  refine ⟨?_, ?_, ?_, ?_⟩
  · intro summary success
    cases loaded : store.document input with
    | error cause => simp [outcome, converter.convertFile_of_unloaded loaded output] at success
    | ok document =>
        obtain ⟨bytes, text, readable, decoded, parsed⟩ := Store.document_eq_ok_iff.mp loaded
        cases found : store.locateNew output with
        | error cause => simp [outcome, converter.convertFile_of_uncreated loaded found] at success
        | ok location =>
            obtain ⟨same, fits⟩ := (converter.convertFile_ok_iff admits loaded found).mp success
            have content := converter.fileAt?_convertFile admits loaded found
            rw [Store.accepted_of_hasRoom fits] at content
            refine ⟨bytes, text, _, tables converter.types document, readable, decoded,
              converter.convertText_of_parsed parsed tablePrefix, ?_, content, same⟩
            rw [tablesOfText, parsed]
            rfl
  · intro bytes text script location readable decoded converted found fits
    obtain ⟨document, parsed, rfl⟩ := converter.convertText_eq_ok_iff.mp converted
    have loaded : store.document input = .ok document :=
      Store.document_eq_ok_iff.mpr ⟨bytes, text, readable, decoded, parsed⟩
    exact ⟨_, (converter.convertFile_ok_iff admits loaded found).mpr ⟨rfl, fits⟩⟩
  · intro bytes failure readable failed
    have unloaded := Store.document_of_undecodable readable failed
    simp [outcome, converter.convertFile_of_unloaded unloaded output]
  · intro bytes text error readable decoded failed
    have unloaded : store.document input = .error (.malformed error) := by
      rw [Store.document_of_decoded readable decoded,
        converter.convertText_eq_error_iff.mp failed]
      rfl
    simp [outcome, converter.convertFile_of_unloaded unloaded output]

def smallStore (room : Option Nat) : Store :=
  { Store.fresh.install (Store.freshDirectory ++ [['s']]) (Encoding.utf8Bytes "<a/>") with room }

def listingConverter : Converter where
  options := { format := .json }
  types := .empty

/-- A document that is converted in place is replaced by its listing, which is shorter. -/
theorem convertFile_agrees_in_place :
    (smallStore none).AdmitsFile "s" ∧
      ∃ summary,
        let outcome :=
          (listingConverter.convertFile "s" "s" : StateM Store Attempt) (smallStore none)
        outcome.1.result = .ok summary ∧
          outcome.2.fileAt? "s" = some (Encoding.utf8Bytes "[]\n") := by
  have found : (smallStore none).locateNew "s" = .ok (Store.freshDirectory ++ [['s']]) := by
    decide +kernel
  have readable : (smallStore none).read "s" = .ok (Encoding.utf8Bytes "<a/>") := by
    decide +kernel
  have decoded : Encoding.decodeDocument (Encoding.utf8Bytes "<a/>") = .ok "<a/>" := by
    decide +kernel
  have converted : listingConverter.convertText "<a/>" (listingConverter.prefixFor "s") =
      .ok "[]\n" := by
    decide +kernel
  have admits : (smallStore none).AdmitsFile "s" := by
    intro location same
    rw [found] at same
    cases same
    decide +kernel
  have agrees := convertFile_agrees_with_convertText listingConverter (smallStore none) "s" "s"
    admits
  obtain ⟨summary, success⟩ := agrees.2.1 _ _ _ _ readable decoded converted found
    (Store.hasRoom_of_unlimited rfl _)
  obtain ⟨bytes, text, script, _, readable', decoded', converted', _, content, _⟩ :=
    agrees.1 summary success
  rw [readable] at readable'
  cases readable'
  rw [decoded] at decoded'
  cases decoded'
  rw [converted] at converted'
  cases converted'
  exact ⟨admits, summary, success, content⟩

/--
Whatever comes of a conversion, only the file that its output names can have
changed.  An input that cannot be loaded, or an output that cannot be created,
leaves the whole store as it was, and a write that fails leaves the start of
what was to be written.
-/
theorem convertFile_leaves_store [MultiByteReading] (store : Store) (input output : String) :
    let outcome := (converter.convertFile input output : StateM Store Attempt) store
    (∀ location, store.locateNew output ≠ .ok location →
      Store.entry? outcome.2 location = store.entry? location) ∧
    (∀ path,
      (∀ location, store.locate path = .ok location → store.locate output ≠ .ok location) →
      outcome.2.fileAt? path = store.fileAt? path) ∧
    (∀ path cause, outcome.1.result = .error (.load path cause) → outcome.2 = store) ∧
    (∀ cause, (store.create output).1 = .error cause → outcome.2 = store) ∧
    (∀ path cause location, outcome.1.result = .error (.write path cause) →
      (store.create output).1 = .ok location → store.AdmitsFile output →
      ∃ bytes text script content,
        store.read input = .ok bytes ∧
        Encoding.decodeDocument bytes = .ok text ∧
        converter.convertText text (converter.prefixFor input) = .ok script ∧
        outcome.2.fileAt? output = some content ∧
        content <+: Encoding.utf8Bytes script) := by
  intro outcome
  cases found : store.locateNew output with
  | error cause =>
      have same : outcome.2 = store :=
        converter.convertFile_eq_self store input output (.inr ⟨cause, found⟩)
      have uncreated : (store.create output).1 = .error cause := by rw [Store.create, found]
      rw [same]
      refine ⟨fun _ _ => rfl, fun _ _ => rfl, fun _ _ _ => rfl, fun _ _ => rfl, ?_⟩
      intro path cause location failed created
      rw [uncreated] at created
      cases created
  | ok location =>
      have change : Store.ChangesFile location store outcome.2 :=
        converter.changesFile_convertFile store input output found
      have leads : store.locate output = .ok location := (Store.locate_of_locateNew found).1
      have created : (store.create output).1 = .ok location := by rw [Store.create, found]
      refine ⟨?_, ?_, ?_, ?_, ?_⟩
      · intro other different
        exact change.elsewhere other fun same => different (by rw [same])
      · intro path different
        exact change.fileAt?_eq fun same => different location same leads
      · intro path cause failed
        cases loaded : store.document input with
        | error cause => exact converter.convertFile_eq_self store input output (.inl ⟨_, loaded⟩)
        | ok document =>
            simp only [outcome, converter.convertFile_of_created loaded found] at failed
            cases written : (converter.outcomeAt store location document input).1 <;>
              simp [written, resultOf] at failed
      · intro cause refused
        rw [created] at refused
        cases refused
      · intro path cause _ failed _ admits
        cases loaded : store.document input with
        | error cause => simp [outcome, converter.convertFile_of_unloaded loaded] at failed
        | ok document =>
            obtain ⟨bytes, text, readable, decoded, parsed⟩ := Store.document_eq_ok_iff.mp loaded
            exact ⟨bytes, text, _, _, readable, decoded, converter.convertText_of_parsed parsed _,
              converter.fileAt?_convertFile admits loaded found, Store.accepted_isPrefix store _⟩

/-- Without room for the listing, the file that was emptied for it holds its start. -/
theorem convertFile_leaves_store_full :
    let outcome :=
      (listingConverter.convertFile "s" "s" : StateM Store Attempt) (smallStore (some 1))
    outcome.1.result = .error (.write "s" .noSpace) ∧
      ∃ bytes text script content,
        (smallStore (some 1)).read "s" = .ok bytes ∧
        Encoding.decodeDocument bytes = .ok text ∧
        listingConverter.convertText text (listingConverter.prefixFor "s") = .ok script ∧
        outcome.2.fileAt? "s" = some content ∧
        content <+: Encoding.utf8Bytes script := by
  intro outcome
  have failed : outcome.1.result = .error (.write "s" .noSpace) := by
    decide +kernel
  have found : (smallStore (some 1)).locateNew "s" = .ok (Store.freshDirectory ++ [['s']]) := by
    decide +kernel
  have created : ((smallStore (some 1)).create "s").1 =
      .ok (Store.freshDirectory ++ [['s']]) := by
    rw [Store.create, found]
  have admits : (smallStore (some 1)).AdmitsFile "s" := by
    intro location same
    rw [found] at same
    cases same
    decide +kernel
  exact ⟨failed, (convertFile_leaves_store listingConverter (smallStore (some 1)) "s" "s").2.2.2.2
    "s" .noSpace _ failed created admits⟩

end Converter

end SchemaScript
