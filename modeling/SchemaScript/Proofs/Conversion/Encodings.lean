import SchemaScript.Proofs.Conversion.File
import SchemaScript.Proofs.Encoding.Presentation
import SchemaScript.Proofs.Files.Likeness

/-!
# Schemas in every encoding

A schema may be stored in any bytes that present its text.  Two stores that
hold it in different bytes yield the same document, and a conversion goes the
same way in both and puts down the same output.
-/

namespace SchemaScript

open Schema

namespace Converter

variable (converter : Converter) {location : Location} {store other : Store}

theorem sameStep_writeTables (alike : Store.Alike location store other) (tablePrefix : String)
    (tables : List Table) (place : Location) :
    Store.SameStep location
      (converter.writeTables tablePrefix tables
        (FileAccess.writeBytes (m := StateM Store) place) store)
      (converter.writeTables tablePrefix tables
        (FileAccess.writeBytes (m := StateM Store) place) other) := by
  unfold writeTables
  cases converter.options.format with
  | sql => exact alike.writePieces place _
  | json => exact alike.append place _

/-- Where both stores yield one document, a conversion goes the same way in both. -/
theorem sameStep_convertFile [MultiByteReading] (alike : Store.Alike location store other)
    {input : String} (documents : other.document input = store.document input) (output : String) :
    Store.SameStep location
      ((converter.convertFile input output : StateM Store Attempt) store)
      ((converter.convertFile input output : StateM Store Attempt) other) := by
  cases loaded : store.document input with
  | error cause =>
      have loadedToo := documents.trans loaded
      rw [converter.convertFile_of_unloaded loaded, converter.convertFile_of_unloaded loadedToo]
      exact ⟨rfl, alike⟩
  | ok document =>
      have loadedToo := documents.trans loaded
      have places := alike.locateNew_eq output
      cases found : store.locateNew output with
      | error cause =>
          have foundToo := places.trans found
          rw [converter.convertFile_of_uncreated loaded found,
            converter.convertFile_of_uncreated loadedToo foundToo]
          exact ⟨rfl, alike⟩
      | ok place =>
          have foundToo := places.trans found
          have step : Store.SameStep location (converter.outcomeAt store place document input)
              (converter.outcomeAt other place document input) :=
            converter.sameStep_writeTables (alike.truncate place) _ _ place
          rw [converter.convertFile_of_created loaded found,
            converter.convertFile_of_created loadedToo foundToo]
          exact ⟨by rw [step.result], step.alike⟩

/-- The output is the same even if it takes the place of the file that differs. -/
theorem fileAt?_convertFile_eq [MultiByteReading] (alike : Store.Alike location store other)
    {input output : String} {document : Markup.Document}
    (loaded : store.document input = .ok document)
    (documents : other.document input = store.document input) {place : Location}
    (found : store.locateNew output = .ok place) :
    ((converter.convertFile input output : StateM Store Attempt) other).2.fileAt? output =
      ((converter.convertFile input output : StateM Store Attempt) store).2.fileAt? output := by
  have loadedToo := documents.trans loaded
  have foundToo := (alike.locateNew_eq output).trans found
  by_cases same : place = location
  · -- The output replaces the input, so both stores are rid of what they differ in.
    subst same
    obtain ⟨content, stands⟩ := alike.holds
    obtain ⟨content', standsToo⟩ := alike.holdsToo
    have admits := Store.admitsFile_of_stands found stands
    have admitsToo := Store.admitsFile_of_stands foundToo standsToo
    rw [converter.fileAt?_convertFile admits loaded found,
      converter.fileAt?_convertFile admitsToo loadedToo foundToo, Store.accepted, Store.accepted,
      alike.sameRoom]
  · have step := converter.sameStep_convertFile alike documents output
    have change := converter.changesFile_convertFile store input output found
    have leads := change.locate_eq_ok_iff.mpr (Store.locate_of_locateNew found).1
    exact step.alike.fileAt?_eq (by simpa [leads] using same)

/--
All bytes that present a text decode to it, and it makes no difference in which
of them a schema is stored.  Two stores that differ in that alone yield the same
document or the same error, and a conversion has the same findings and the same
result in both; afterwards the stores still differ in the input at most, and an
output that could be created for a document is the same in both.
-/
theorem presentations_convert_alike [MultiByteReading] {text : String}
    {bytes twin : List UInt8}
    (presented : Encoding.Presents text.toList bytes)
    (presentedToo : Encoding.Presents text.toList twin) :
    Encoding.decodeDocument bytes = .ok text ∧
    ∀ (store other : Store) (location : Location) (input : String),
      Store.Alike location store other →
      store.locate input = .ok location →
      store.entry? location = some (.file bytes) →
      other.entry? location = some (.file twin) →
      let parsed := (Markup.Document.parse text).mapError .malformed
      (loadDocument input : StateM Store _) store = (parsed, store) ∧
      (loadDocument input : StateM Store _) other = (parsed, other) ∧
      ∀ (converter : Converter) (output : String),
        let outcome := (converter.convertFile input output : StateM Store Attempt) store
        let outcomeToo := (converter.convertFile input output : StateM Store Attempt) other
        outcomeToo.1 = outcome.1 ∧
        Store.Alike location outcome.2 outcomeToo.2 ∧
        ∀ document place,
          Markup.Document.parse text = .ok document →
          (store.create output).1 = .ok place →
          outcomeToo.2.fileAt? output = outcome.2.fileAt? output := by
  refine ⟨Encoding.decodeDocument_of_presents presented, ?_⟩
  intro store other location input alike leads stands standsToo parsed
  have readable : store.read input = .ok bytes := by
    simp [Store.read, leads, stands, bind, Except.bind]
  have readableToo : other.read input = .ok twin := by
    simp [Store.read, (alike.locate_eq input).trans leads, standsToo, bind, Except.bind]
  have document : store.document input = parsed :=
    Store.document_of_decoded readable (Encoding.decodeDocument_of_presents presented)
  have documentToo : other.document input = parsed :=
    Store.document_of_decoded readableToo (Encoding.decodeDocument_of_presents presentedToo)
  have documents : other.document input = store.document input :=
    documentToo.trans document.symm
  refine ⟨by rw [Store.loadDocument_run, document], by rw [Store.loadDocument_run, documentToo], ?_⟩
  intro converter output outcome outcomeToo
  have step := converter.sameStep_convertFile alike documents output
  refine ⟨step.result, step.alike, ?_⟩
  intro found place parses created
  have loaded : store.document input = .ok found := by
    rw [document]
    simp [parsed, parses, Except.mapError]
  have free : store.locateNew output = .ok place := by
    unfold Store.create at created
    split at created <;> simp_all
  exact converter.fileAt?_convertFile_eq alike loaded documents free

def declaredText : String :=
  "<?xml version=\"1.0\" encoding=\"utf-16\"?><a name=\"😀\"/>"

/-- A store that holds the given bytes under the name `s`. -/
def storing (bytes : List UInt8) : Store :=
  (smallStore none).put (Store.freshDirectory ++ [['s']]) (.file bytes)

theorem standsUnmarked_declaredText : Encoding.StandsUnmarked declaredText.toList where
  no_mark := by decide +kernel
  no_bigEndian := by decide +kernel
  no_littleEndian := by decide +kernel
  declares := by
    have label : Encoding.declaredLabel? declaredText.toList =
        some ['u', 't', 'f', '-', '1', '6'] := by
      decide +kernel
    intro found named
    rw [label] at named
    cases named
    exact .inr (by decide +kernel)

/-- A text with a pair of surrogates that declares UTF-16, converted in place from either form. -/
theorem presentations_convert_alike_declared :
    let bytes := Encoding.Utf16.mark .littleEndian ++
      Encoding.Utf16.encode .littleEndian declaredText.toList
    let twin := Encoding.Utf8.encode declaredText.toList
    let outcome :=
      (listingConverter.convertFile "s" "s" : StateM Store Attempt) (storing bytes)
    let outcomeToo :=
      (listingConverter.convertFile "s" "s" : StateM Store Attempt) (storing twin)
    Encoding.decodeDocument bytes = .ok declaredText ∧
      outcomeToo.1 = outcome.1 ∧ outcomeToo.2.fileAt? "s" = outcome.2.fileAt? "s" := by
  intro bytes twin outcome outcomeToo
  have stands : Store.entry? (smallStore none) (Store.freshDirectory ++ [['s']]) =
      some (.file (Encoding.utf8Bytes "<a/>")) := by
    decide +kernel
  have alike : Store.Alike (Store.freshDirectory ++ [['s']]) (storing bytes) (storing twin) :=
    (Store.Alike.refl stands).rewrite bytes twin
  have leads : (storing bytes).locate "s" = .ok (Store.freshDirectory ++ [['s']]) := by
    decide +kernel
  have created : ((storing bytes).create "s").1 = .ok (Store.freshDirectory ++ [['s']]) := by
    decide +kernel
  have parses : (Markup.Document.parse declaredText).isOk = true := by
    decide +kernel
  obtain ⟨document, parsed⟩ : ∃ document, Markup.Document.parse declaredText = .ok document := by
    cases read : Markup.Document.parse declaredText with
    | error error =>
        rw [read] at parses
        cases parses
    | ok document => exact ⟨document, rfl⟩
  obtain ⟨decoded, both⟩ := presentations_convert_alike
    (.markedUtf16 .littleEndian) (.plainUtf8 standsUnmarked_declaredText)
  obtain ⟨-, -, convert⟩ := both (storing bytes) (storing twin) _ "s" alike leads
    (Store.entry?_put_self _ _ _) (Store.entry?_put_self _ _ _)
  obtain ⟨results, -, outputs⟩ := convert listingConverter "s"
  exact ⟨decoded, results, outputs document _ parsed created⟩

end Converter

end SchemaScript
