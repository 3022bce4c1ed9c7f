import SchemaScript.Files.Access
import SchemaScript.Files.Path

/-!
# Stores

A store is a file system as a value: directories, regular files with their
bytes, and two devices, one that is always full and one that takes everything.
Locations are rows of names from the root.  A store may have limited room, so a
write to a regular file can end in the middle.
-/

namespace SchemaScript

abbrev Location : Type :=
  List (List Char)

/-- What stands at a location. -/
inductive Entry where
  | directory
  | file (content : List UInt8)
  /-- A device that takes no byte. -/
  | fullDevice
  /-- A device that takes every byte and keeps none. -/
  | nullDevice
deriving Repr, DecidableEq

structure Store where
  entries : List (Location × Entry)
  workingDirectory : Location
  /-- The number of bytes that regular files can still take, if it is limited. -/
  room : Option Nat
deriving Repr, DecidableEq

namespace Store

def entry? (store : Store) (location : Location) : Option Entry :=
  store.entries.lookup location

def put (store : Store) (location : Location) (entry : Entry) : Store :=
  { store with
    entries := (location, entry) :: store.entries.filter fun pair => pair.1 ≠ location }

/-- The location that a segment leads to. -/
def move (location : Location) (segment : List Char) : Location :=
  if segment = [] ∨ segment = Path.here then
    location
  else if segment = Path.back then
    location.dropLast
  else
    location ++ [segment]

/-- Follows segments; every one of them has to be followed in a directory. -/
def walk (store : Store) (location : Location) : List (List Char) → Except SystemError Location
  | [] => .ok location
  | segment :: rest =>
    match store.entry? location with
    | none => .error .notFound
    | some .directory =>
      if Path.isTooLong segment then
        .error .nameTooLong
      else
        walk store (move location segment) rest
    | some _ => .error .notDirectory

def startOf (store : Store) (path : List Char) : Location :=
  if Path.isAbsolute path then [] else store.workingDirectory

def locate (store : Store) (path : String) : Except SystemError Location :=
  match Path.refusal? path.toList with
  | some error => .error error
  | none => store.walk (store.startOf path.toList) (Path.segments path.toList)

/-- The bytes of the file at a path; devices have none. -/
def read (store : Store) (path : String) : Except SystemError (List UInt8) := do
  let location ← store.locate path
  match store.entry? location with
  | none => .error .notFound
  | some .directory => .error .isDirectory
  | some (.file content) => .ok content
  | some .fullDevice => .ok []
  | some .nullDevice => .ok []

/--
The location at which a file for a path is created.  A path that can only lead
to a directory, because it ends in a slash or in dots, is refused as one.
-/
def locateNew (store : Store) (path : String) : Except SystemError Location :=
  match Path.refusal? path.toList with
  | some error => .error error
  | none =>
    let segments := (Path.segments path.toList).reverse
    match segments.dropWhile (· = []) with
    | [] => .error .isDirectory
    | last :: before => do
      let parent ← store.walk (store.startOf path.toList) before.reverse
      match store.entry? parent with
      | none => .error .notFound
      | some .directory =>
        if segments.head? = some [] ∨ last = Path.here ∨ last = Path.back then
          .error .isDirectory
        else if Path.isTooLong last then
          .error .nameTooLong
        else if store.entry? (move parent last) = some .directory then
          .error .isDirectory
        else
          .ok (move parent last)
      | some _ => .error .notDirectory

/-- Creates a file at a location, or empties the one that is there. -/
def truncate (store : Store) (location : Location) : Store :=
  match store.entry? location with
  | some .fullDevice => store
  | some .nullDevice => store
  | _ => store.put location (.file [])

def create (store : Store) (path : String) : Except SystemError Location × Store :=
  match store.locateNew path with
  | .error error => (.error error, store)
  | .ok location => (.ok location, store.truncate location)

/-- Appends bytes to what stands at a location, as far as there is room. -/
def append (store : Store) (location : Location) (bytes : List UInt8) :
    Except SystemError Unit × Store :=
  match store.entry? location with
  | some (.file content) =>
    match store.room with
    | none => (.ok (), store.put location (.file (content ++ bytes)))
    | some room =>
      let rest := { store with room := some (room - bytes.length) }
      (if bytes.length ≤ room then .ok () else .error .noSpace,
        rest.put location (.file (content ++ bytes.take room)))
  | some .nullDevice => (.ok (), store)
  | some .fullDevice => (if bytes = [] then .ok () else .error .noSpace, store)
  | some .directory => (.error .isDirectory, store)
  | none => (.error .notFound, store)

instance : FileAccess (StateM Store) where
  Handle := Location
  readFile path := fun store => (store.read path, store)
  createFile path := fun store => store.create path
  writeBytes location bytes := fun store => store.append location bytes

def nameOf (store : Store) (path : String) : Location :=
  (Path.segments path.toList).foldl move (store.startOf path.toList)

/-- Makes a location a directory, and all locations on the way to it. -/
def makeDirectory (store : Store) (location : Location) : Store :=
  (List.range (location.length + 1)).foldl
    (fun store length => store.put (location.take length) .directory) store

/-- Puts a file at a location, in directories made for it. -/
def install (store : Store) (location : Location) (content : List UInt8) : Store :=
  (store.makeDirectory location.dropLast).put location (.file content)

/-- The regular files below the working directory, each by its names from there. -/
def regularFiles (store : Store) : List (Location × List UInt8) :=
  store.entries.filterMap fun (location, entry) =>
    match entry with
    | .file content =>
      if store.workingDirectory.isPrefixOf location then
        some (location.drop store.workingDirectory.length, content)
      else
        none
    | _ => none

def deviceDirectory : Location :=
  [['d', 'e', 'v']]

/-- The names of the empty directory in which a fresh store is used. -/
def freshDirectory : Location :=
  [['t', 'm', 'p'], ['w', 'o', 'r', 'k']]

def systemDirectories : List Location :=
  [[], deviceDirectory, freshDirectory.dropLast, [['b', 'i', 'n']], [['e', 't', 'c']],
    [['h', 'o', 'm', 'e']], [['l', 'i', 'b']], [['o', 'p', 't']], [['p', 'r', 'o', 'c']],
    [['r', 'o', 'o', 't']], [['r', 'u', 'n']], [['s', 'b', 'i', 'n']], [['s', 'y', 's']],
    [['u', 's', 'r']], [['v', 'a', 'r']]]

/-- A store with an empty working directory and unlimited room. -/
def fresh : Store :=
  { entries :=
      (systemDirectories ++ [freshDirectory]).map (·, .directory) ++
        [(deviceDirectory ++ [['f', 'u', 'l', 'l']], .fullDevice),
          (deviceDirectory ++ [['n', 'u', 'l', 'l']], .nullDevice),
          (deviceDirectory ++ [['z', 'e', 'r', 'o']], .nullDevice)]
    workingDirectory := freshDirectory
    room := none }

end Store

end SchemaScript
