import SchemaScript.Proofs.Files.Writing

/-!
# Stores that differ in one file

Two stores may be the same but for the bytes of one regular file.  No path is
followed through that file, and no write looks at what a file holds, so the same
steps in both stores have the same results and leave two such stores again.
-/

namespace SchemaScript

namespace Store

/-- Two stores with a regular file at a location that differ in nothing but its bytes. -/
structure Alike (location : Location) (first second : Store) : Prop where
  sameDirectory : second.workingDirectory = first.workingDirectory
  sameRoom : second.room = first.room
  elsewhere : ∀ other, other ≠ location → second.entry? other = first.entry? other
  holds : ∃ content, first.entry? location = some (.file content)
  holdsToo : ∃ content, second.entry? location = some (.file content)

/-- The same step taken in two stores that are alike. -/
structure SameStep {α : Type} (location : Location) (first second : α × Store) : Prop where
  result : second.1 = first.1
  alike : Alike location first.2 second.2

namespace Alike

variable {location : Location} {first second : Store}

theorem refl {store : Store} {content : List UInt8}
    (stands : store.entry? location = some (.file content)) : Alike location store store :=
  ⟨rfl, rfl, fun _ _ => rfl, ⟨content, stands⟩, ⟨content, stands⟩⟩

theorem entry?_eq_or (alike : Alike location first second) (place : Location) :
    second.entry? place = first.entry? place ∨
      place = location ∧ (∃ content, first.entry? place = some (.file content)) ∧
        ∃ content, second.entry? place = some (.file content) := by
  by_cases same : place = location
  · rw [same]
    exact .inr ⟨rfl, alike.holds, alike.holdsToo⟩
  · exact .inl (alike.elsewhere place same)

theorem directory_iff (alike : Alike location first second) (place : Location) :
    second.entry? place = some .directory ↔ first.entry? place = some .directory := by
  rcases alike.entry?_eq_or place with same | ⟨-, ⟨content, stands⟩, other, standsToo⟩
  · rw [same]
  · simp [stands, standsToo]

section Paths

variable (alike : Alike location first second)
include alike

theorem walk_eq (start : Location) (segments : List (List Char)) :
    second.walk start segments = first.walk start segments := by
  induction segments generalizing start with
  | nil => rfl
  | cons segment rest ih =>
      rcases alike.entry?_eq_or start with same | ⟨-, ⟨content, stands⟩, other, standsToo⟩
      · rw [walk, walk, same, ih]
      · simp [walk, stands, standsToo]

theorem startOf_eq (path : List Char) : second.startOf path = first.startOf path := by
  rw [startOf, startOf, alike.sameDirectory]

theorem locate_eq (path : String) : second.locate path = first.locate path := by
  rw [locate, locate, alike.startOf_eq, alike.walk_eq]

theorem locateNew_eq (path : String) : second.locateNew path = first.locateNew path := by
  unfold locateNew
  simp only [alike.startOf_eq, alike.walk_eq, alike.directory_iff]
  cases Path.refusal? path.toList with
  | some error => rfl
  | none =>
      cases (Path.segments path.toList).reverse.dropWhile (· = []) with
      | nil => rfl
      | cons last before =>
          dsimp only
          congr 1
          funext parent
          rcases alike.entry?_eq_or parent with same | ⟨-, ⟨content, stands⟩, other, standsToo⟩
          · rw [same]
          · rw [stands, standsToo]

theorem fileAt?_eq {path : String} (different : first.locate path ≠ .ok location) :
    second.fileAt? path = first.fileAt? path := by
  rw [fileAt?, fileAt?, alike.locate_eq]
  cases leads : first.locate path with
  | error error => rfl
  | ok place =>
      have other : place ≠ location := fun same => different (same ▸ leads)
      dsimp only
      rw [alike.elsewhere place other]

end Paths

section Steps

variable (alike : Alike location first second)
include alike

/-- The bytes at the location may change, in each store for itself. -/
theorem rewrite (content other : List UInt8) :
    Alike location (first.put location (.file content)) (second.put location (.file other)) where
  sameDirectory := alike.sameDirectory
  sameRoom := alike.sameRoom
  elsewhere place different := by
    rw [entry?_put_of_ne _ _ different, entry?_put_of_ne _ _ different,
      alike.elsewhere place different]
  holds := ⟨content, entry?_put_self first location _⟩
  holdsToo := ⟨other, entry?_put_self second location _⟩

theorem put (place : Location) (content : List UInt8) :
    Alike location (first.put place (.file content)) (second.put place (.file content)) := by
  by_cases same : place = location
  · rw [same]
    exact alike.rewrite content content
  · have away : location ≠ place := Ne.symm same
    refine ⟨alike.sameDirectory, alike.sameRoom, ?_, ?_, ?_⟩
    · intro other different
      by_cases here : other = place
      · rw [here, entry?_put_self, entry?_put_self]
      · rw [entry?_put_of_ne _ _ here, entry?_put_of_ne _ _ here, alike.elsewhere other different]
    · rw [entry?_put_of_ne _ _ away]
      exact alike.holds
    · rw [entry?_put_of_ne _ _ away]
      exact alike.holdsToo

theorem truncate (place : Location) :
    Alike location (first.truncate place) (second.truncate place) := by
  unfold Store.truncate
  rcases alike.entry?_eq_or place with same | ⟨-, ⟨content, stands⟩, other, standsToo⟩
  · rw [same]
    split
    · exact alike
    · exact alike
    · exact alike.put place []
  · rw [stands, standsToo]
    exact alike.put place []

theorem append (place : Location) (bytes : List UInt8) :
    SameStep location (first.append place bytes) (second.append place bytes) := by
  have roomy (room : Option Nat) :
      Alike location { first with room := room } { second with room := room } :=
    ⟨alike.sameDirectory, rfl, alike.elsewhere, alike.holds, alike.holdsToo⟩
  unfold Store.append
  rw [alike.sameRoom]
  rcases alike.entry?_eq_or place with same | ⟨rfl, ⟨content, stands⟩, other, standsToo⟩
  · rw [same]
    cases first.entry? place with
    | none => exact ⟨rfl, alike⟩
    | some entry =>
        cases entry with
        | directory => exact ⟨rfl, alike⟩
        | fullDevice => exact ⟨rfl, alike⟩
        | nullDevice => exact ⟨rfl, alike⟩
        | file content =>
            cases first.room with
            | none => exact ⟨rfl, alike.put place _⟩
            | some room => exact ⟨rfl, (roomy _).put place _⟩
  · rw [stands, standsToo]
    cases first.room with
    | none => exact ⟨rfl, alike.rewrite _ _⟩
    | some room => exact ⟨rfl, (roomy _).rewrite _ _⟩

theorem writePieces (place : Location) (pieces : List (List UInt8)) :
    SameStep location
      (SchemaScript.writePieces (FileAccess.writeBytes (m := StateM Store) place) pieces first)
      (SchemaScript.writePieces (FileAccess.writeBytes (m := StateM Store) place) pieces
        second) := by
  induction pieces generalizing first second with
  | nil => exact ⟨rfl, alike⟩
  | cons piece rest ih =>
      have step := alike.append place piece
      rcases one : first.append place piece with ⟨result, after⟩
      rcases two : second.append place piece with ⟨result', after'⟩
      rw [one, two] at step
      obtain rfl : result' = result := step.result
      cases result' with
      | error error =>
          rw [writePieces_cons_of_error one, writePieces_cons_of_error two]
          exact step
      | ok done =>
          rw [writePieces_cons_of_ok one, writePieces_cons_of_ok two]
          exact ih step.alike

end Steps

end Alike

end Store

end SchemaScript
