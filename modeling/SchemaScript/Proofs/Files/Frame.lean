import SchemaScript.Files.Store

/-!
# What a write leaves alone

Creating a file and appending to it concern one location.  This file says what
stays as it was: all other locations, the working directory, and which
locations are directories.  Paths are followed through directories only, so
every path that led somewhere before leads to the same place afterwards.
-/

namespace SchemaScript

namespace Store

theorem entry?_put_self (store : Store) (location : Location) (entry : Entry) :
    Store.entry? (store.put location entry) location = some entry := by
  simp [put, entry?]

theorem lookup_filter_of_ne {location other : Location} (different : other ≠ location)
    (entries : List (Location × Entry)) :
    (entries.filter fun pair => pair.1 ≠ location).lookup other = entries.lookup other := by
  induction entries with
  | nil => rfl
  | cons first rest ih =>
      by_cases dropped : first.1 = location
      · have missed : (other == first.1) = false := by
          simpa [dropped] using different
        rw [List.filter_cons_of_neg (by simpa using dropped), ih, List.lookup_cons, missed]
      · rw [List.filter_cons_of_pos (by simpa using dropped), List.lookup_cons, List.lookup_cons,
          ih]

theorem entry?_put_of_ne (store : Store) {location other : Location} (entry : Entry)
    (different : other ≠ location) :
    Store.entry? (store.put location entry) other = store.entry? other := by
  have missed : (other == location) = false := by
    simpa using different
  rw [put, Store.entry?, List.lookup_cons, missed]
  exact lookup_filter_of_ne different store.entries

/-- A step that changes at most the file at one location, and the room. -/
structure ChangesFile (location : Location) (before after : Store) : Prop where
  sameDirectory : after.workingDirectory = before.workingDirectory
  elsewhere : ∀ other, other ≠ location → after.entry? other = before.entry? other
  noDirectory : after.entry? location = some .directory ↔ before.entry? location = some .directory

namespace ChangesFile

theorem refl (location : Location) (store : Store) : ChangesFile location store store :=
  ⟨rfl, fun _ _ => rfl, Iff.rfl⟩

theorem trans {location : Location} {first second third : Store}
    (early : ChangesFile location first second) (late : ChangesFile location second third) :
    ChangesFile location first third where
  sameDirectory := late.sameDirectory.trans early.sameDirectory
  elsewhere other different :=
    (late.elsewhere other different).trans (early.elsewhere other different)
  noDirectory := late.noDirectory.trans early.noDirectory

theorem put {store : Store} {location : Location} (content : List UInt8)
    (free : store.entry? location ≠ some .directory) :
    ChangesFile location store (store.put location (.file content)) where
  sameDirectory := rfl
  elsewhere _ different := entry?_put_of_ne store _ different
  noDirectory := by simp [entry?_put_self, free]

variable {location : Location} {before after : Store}

theorem directory_iff (change : ChangesFile location before after) (place : Location) :
    after.entry? place = some .directory ↔ before.entry? place = some .directory := by
  by_cases same : place = location
  · rw [same]
    exact change.noDirectory
  · rw [change.elsewhere place same]

end ChangesFile

/-- Segments are followed exactly if all places on the way are directories. -/
theorem walk_cons_eq_ok_iff {store : Store} {start finish : Location} {segment : List Char}
    {rest : List (List Char)} :
    store.walk start (segment :: rest) = .ok finish ↔
      store.entry? start = some .directory ∧ Path.isTooLong segment = false ∧
        store.walk (move start segment) rest = .ok finish := by
  rw [walk]
  cases stands : store.entry? start with
  | none => simp
  | some entry =>
      cases entry with
      | directory => cases Path.isTooLong segment <;> simp
      | file content => simp
      | fullDevice => simp
      | nullDevice => simp

theorem walk_append_eq_ok_iff {store : Store} {start finish : Location}
    {first second : List (List Char)} :
    store.walk start (first ++ second) = .ok finish ↔
      ∃ middle, store.walk start first = .ok middle ∧ store.walk middle second = .ok finish := by
  induction first generalizing start with
  | nil => simp [walk]
  | cons segment rest ih =>
      rw [List.cons_append, walk_cons_eq_ok_iff, ih]
      simp only [walk_cons_eq_ok_iff]
      constructor
      · rintro ⟨stands, short, middle, early, late⟩
        exact ⟨middle, ⟨stands, short, early⟩, late⟩
      · rintro ⟨middle, ⟨stands, short, early⟩, late⟩
        exact ⟨stands, short, middle, early, late⟩

namespace ChangesFile

variable {location : Location} {before after : Store}

theorem walk_eq_ok_iff (change : ChangesFile location before after) {start finish : Location}
    {segments : List (List Char)} :
    after.walk start segments = .ok finish ↔ before.walk start segments = .ok finish := by
  induction segments generalizing start with
  | nil => rfl
  | cons segment rest ih =>
      rw [walk_cons_eq_ok_iff, walk_cons_eq_ok_iff, change.directory_iff, ih]

theorem locate_eq_ok_iff (change : ChangesFile location before after) {path : String}
    {place : Location} :
    after.locate path = .ok place ↔ before.locate path = .ok place := by
  have start : after.startOf path.toList = before.startOf path.toList := by
    rw [startOf, startOf, change.sameDirectory]
  rw [locate, locate]
  cases Path.refusal? path.toList with
  | some error => simp
  | none => rw [start]; exact change.walk_eq_ok_iff

end ChangesFile

/-- The bytes of the regular file that a path leads to. -/
def fileAt? (store : Store) (path : String) : Option (List UInt8) :=
  match store.locate path with
  | .error _ => none
  | .ok location =>
    match store.entry? location with
    | some (.file content) => some content
    | _ => none

theorem fileAt?_eq_some_iff {store : Store} {path : String} {content : List UInt8} :
    store.fileAt? path = some content ↔
      ∃ location, store.locate path = .ok location ∧
        store.entry? location = some (.file content) := by
  rw [fileAt?]
  cases store.locate path with
  | error error => simp
  | ok location =>
      cases stands : store.entry? location with
      | none => simp [stands]
      | some entry => cases entry <;> simp [stands]

/-- The regular files are the same before and after the step, but for the one it concerns. -/
theorem ChangesFile.fileAt?_eq {location : Location} {before after : Store}
    (change : ChangesFile location before after) {path : String}
    (different : before.locate path ≠ .ok location) :
    after.fileAt? path = before.fileAt? path := by
  ext content
  simp only [fileAt?_eq_some_iff, change.locate_eq_ok_iff]
  constructor
  · rintro ⟨place, leads, stands⟩
    have other : place ≠ location := fun same => different (same ▸ leads)
    exact ⟨place, leads, change.elsewhere place other ▸ stands⟩
  · rintro ⟨place, leads, stands⟩
    have other : place ≠ location := fun same => different (same ▸ leads)
    exact ⟨place, leads, (change.elsewhere place other).trans stands⟩

end Store

end SchemaScript
