import SchemaScript.Proofs.Files.Frame
import Mathlib.Tactic.SplitIfs

/-!
# What a write puts down

Bytes that are written to a file piece by piece end up as they would if they
were written at once: the file takes as many of them as there is room for, from
the start, and the writing succeeds exactly if that is all of them.
-/

namespace SchemaScript

section Pieces

variable {σ ε : Type} {write : List UInt8 → StateM σ (Except ε Unit)} {piece : List UInt8}
  {state later : σ}

theorem stateM_pure_apply {α : Type} (value : α) (state : σ) :
    (pure value : StateM σ α) state = (value, state) :=
  rfl

/-- The first piece that fails ends the writing. -/
theorem writePieces_cons_of_error {error : ε} (failed : write piece state = (.error error, later))
    (rest : List (List UInt8)) :
    writePieces write (piece :: rest) state = (.error error, later) := by
  simp [writePieces, bind, StateT.bind, failed, stateM_pure_apply]

theorem writePieces_cons_of_ok (done : write piece state = (.ok (), later))
    (rest : List (List UInt8)) :
    writePieces write (piece :: rest) state = writePieces write rest later := by
  simp [writePieces, bind, StateT.bind, done]

end Pieces

namespace Store

def HasRoom (store : Store) (count : Nat) : Prop :=
  ∀ room, store.room = some room → count ≤ room

/-- The part of some bytes that the regular files have room for. -/
def accepted (store : Store) (bytes : List UInt8) : List UInt8 :=
  match store.room with
  | none => bytes
  | some room => bytes.take room

section Room

variable {store : Store} {limit : Nat}

theorem hasRoom_of_unlimited (unlimited : store.room = none) (count : Nat) :
    store.HasRoom count := by
  simp [HasRoom, unlimited]

theorem hasRoom_iff (limited : store.room = some limit) {count : Nat} :
    store.HasRoom count ↔ count ≤ limit := by
  simp [HasRoom, limited]

theorem accepted_of_unlimited (unlimited : store.room = none) (bytes : List UInt8) :
    store.accepted bytes = bytes := by
  simp [accepted, unlimited]

theorem accepted_of_limited (limited : store.room = some limit) (bytes : List UInt8) :
    store.accepted bytes = bytes.take limit := by
  simp [accepted, limited]

end Room

theorem accepted_isPrefix (store : Store) (bytes : List UInt8) :
    store.accepted bytes <+: bytes := by
  unfold accepted
  split
  · exact List.prefix_rfl
  · exact List.take_prefix _ bytes

theorem accepted_of_hasRoom {store : Store} {bytes : List UInt8}
    (fits : store.HasRoom bytes.length) : store.accepted bytes = bytes := by
  unfold accepted
  split
  · rfl
  · rename_i limit limited
    exact List.take_of_length_le (fits limit limited)

/-- The outcome of writing bytes to a regular file that has some content already. -/
structure Wrote (location : Location) (content bytes : List UInt8) (before : Store)
    (outcome : Except SystemError Unit × Store) : Prop where
  stands : Store.entry? outcome.2 location = some (.file (content ++ before.accepted bytes))
  succeeds_iff : outcome.1 = .ok () ↔ before.HasRoom bytes.length
  room : outcome.2.room = before.room.map (· - bytes.length)

variable {store : Store} {location : Location} {content : List UInt8}

theorem wrote_nil (stands : store.entry? location = some (.file content)) :
    Wrote location content [] store (.ok (), store) where
  stands := by
    have nothing : store.accepted [] = [] := List.prefix_nil.mp (store.accepted_isPrefix [])
    rw [nothing, List.append_nil, stands]
  succeeds_iff := by simp [HasRoom]
  room := by simp

theorem changesFile_append (store : Store) (location : Location) (bytes : List UInt8) :
    ChangesFile location store (store.append location bytes).2 := by
  unfold append
  split
  · rename_i content stands
    have free : store.entry? location ≠ some .directory := by simp [stands]
    split
    · exact .put _ free
    · rename_i limit limited
      have change := ChangesFile.put (content ++ bytes.take limit) free
      exact ⟨change.sameDirectory, change.elsewhere, change.noDirectory⟩
  all_goals exact .refl location store

theorem wrote_append (stands : store.entry? location = some (.file content))
    (bytes : List UInt8) :
    Wrote location content bytes store (store.append location bytes) := by
  cases limited : store.room with
  | none =>
      simp only [append, stands, limited]
      refine ⟨?_, ?_, ?_⟩
      · rw [entry?_put_self, accepted_of_unlimited limited]
      · simp [hasRoom_of_unlimited limited]
      · simp [put, limited]
  | some limit =>
      simp only [append, stands, limited]
      refine ⟨?_, ?_, ?_⟩
      · rw [entry?_put_self, accepted_of_limited limited]
      · rw [hasRoom_iff limited]
        by_cases fits : bytes.length ≤ limit <;> simp [fits]
      · simp [put, limited]

namespace Wrote

variable {bytes more : List UInt8}

/-- A write that fails has used up the room, so nothing of what follows would fit. -/
theorem append_of_error {error : SystemError} {after : Store}
    (wrote : Wrote location content bytes store (.error error, after)) (more : List UInt8) :
    Wrote location content (bytes ++ more) store (.error error, after) := by
  have full : ¬ store.HasRoom bytes.length := by simpa using wrote.succeeds_iff
  cases limited : store.room with
  | none => exact (full (hasRoom_of_unlimited limited _)).elim
  | some limit =>
      have short : limit < bytes.length := by simpa [hasRoom_iff limited] using full
      refine ⟨?_, ?_, ?_⟩
      · rw [wrote.stands, accepted_of_limited limited, accepted_of_limited limited,
          List.take_append_of_le_length (Nat.le_of_lt short)]
      · simp [hasRoom_iff limited]
        omega
      · rw [wrote.room, limited]
        simp
        omega

theorem append_of_ok {middle : Store} {outcome : Except SystemError Unit × Store}
    (early : Wrote location content bytes store (.ok (), middle))
    (late : Wrote location (content ++ store.accepted bytes) more middle outcome) :
    Wrote location content (bytes ++ more) store outcome := by
  have fits : store.HasRoom bytes.length := early.succeeds_iff.mp rfl
  have left : middle.room = store.room.map (· - bytes.length) := early.room
  rw [accepted_of_hasRoom fits] at late
  cases limited : store.room with
  | none =>
      have unlimited : middle.room = none := by simp [left, limited]
      refine ⟨?_, ?_, ?_⟩
      · rw [late.stands, accepted_of_unlimited limited, accepted_of_unlimited unlimited,
          List.append_assoc]
      · simp [late.succeeds_iff, hasRoom_of_unlimited limited, hasRoom_of_unlimited unlimited]
      · simp [late.room, unlimited, limited]
  | some limit =>
      have enough : bytes.length ≤ limit := (hasRoom_iff limited).mp fits
      have remaining : middle.room = some (limit - bytes.length) := by simp [left, limited]
      refine ⟨?_, ?_, ?_⟩
      · rw [late.stands, accepted_of_limited limited, accepted_of_limited remaining,
          List.take_append, List.take_of_length_le enough, List.append_assoc]
      · rw [late.succeeds_iff, hasRoom_iff limited, hasRoom_iff remaining, List.length_append]
        omega
      · rw [late.room, remaining, limited, List.length_append]
        simp only [Option.map_some, Option.some.injEq]
        omega

end Wrote

theorem changesFile_writePieces (location : Location) (pieces : List (List UInt8))
    (store : Store) :
    ChangesFile location store
      (writePieces (FileAccess.writeBytes (m := StateM Store) location) pieces store).2 := by
  induction pieces generalizing store with
  | nil => exact .refl location store
  | cons piece rest ih =>
      have change := changesFile_append store location piece
      rcases outcome : store.append location piece with ⟨error | done, middle⟩
      · rw [writePieces_cons_of_error outcome]
        rwa [outcome] at change
      · rw [writePieces_cons_of_ok outcome]
        rw [outcome] at change
        exact change.trans (ih middle)

/-- Pieces that are written one after another are written as a whole. -/
theorem wrote_writePieces (pieces : List (List UInt8))
    (stands : store.entry? location = some (.file content)) :
    Wrote location content pieces.flatten store
      (writePieces (FileAccess.writeBytes (m := StateM Store) location) pieces store) := by
  induction pieces generalizing store content with
  | nil => exact wrote_nil stands
  | cons piece rest ih =>
      have wrote := wrote_append stands piece
      rw [List.flatten_cons]
      rcases outcome : store.append location piece with ⟨error | done, middle⟩
      · rw [writePieces_cons_of_error outcome]
        exact (outcome ▸ wrote).append_of_error rest.flatten
      · rw [writePieces_cons_of_ok outcome]
        rw [outcome] at wrote
        exact wrote.append_of_ok (ih wrote.stands)

section Creation

/--
Whether what is created at a path is a regular file: there is one already, or
nothing stands there.  Otherwise the path leads to a device.
-/
def AdmitsFile (store : Store) (path : String) : Prop :=
  ∀ location, store.locateNew path = .ok location →
    store.entry? location ≠ some .fullDevice ∧ store.entry? location ≠ some .nullDevice

theorem admitsFile_of_stands {path : String} (found : store.locateNew path = .ok location)
    (stands : store.entry? location = some (.file content)) : store.AdmitsFile path := by
  intro place foundAgain
  rw [found] at foundAgain
  cases foundAgain
  simp [stands]

private theorem eq_concat_of_dropWhile {segments before : List (List Char)} {last : List Char}
    (visible : segments.reverse.head? ≠ some [])
    (backwards : segments.reverse.dropWhile (· = []) = last :: before) :
    segments = before.reverse ++ [last] := by
  have unchanged : segments.reverse = last :: before := by
    rw [← backwards]
    cases reversed : segments.reverse with
    | nil => rfl
    | cons first rest =>
        have kept : first ≠ [] := by simpa [reversed] using visible
        simp [kept]
  rw [← List.reverse_cons, ← unchanged, List.reverse_reverse]

/-- A file is created where its path will lead, and never over a directory. -/
theorem locate_of_locateNew {path : String} (found : store.locateNew path = .ok location) :
    store.locate path = .ok location ∧ store.entry? location ≠ some .directory := by
  rw [locateNew] at found
  rw [locate]
  cases refused : Path.refusal? path.toList with
  | some error => simp [refused] at found
  | none =>
      rw [refused] at found
      dsimp only at found ⊢
      split at found
      · cases found
      · rename_i last before backwards
        cases walked : store.walk (store.startOf path.toList) before.reverse with
        | error error => simp [walked, bind, Except.bind] at found
        | ok parent =>
            simp only [walked, bind, Except.bind] at found
            split at found
            · cases found
            · rename_i stands
              split_ifs at found with dots long taken
              cases found
              rw [eq_concat_of_dropWhile (fun blank => dots (.inl blank)) backwards]
              refine ⟨walk_append_eq_ok_iff.mpr ⟨parent, walked, ?_⟩, taken⟩
              exact walk_cons_eq_ok_iff.mpr ⟨stands, by simpa using long, rfl⟩
            · cases found

theorem changesFile_truncate (free : store.entry? location ≠ some .directory) :
    ChangesFile location store (store.truncate location) := by
  unfold truncate
  split
  · exact .refl location store
  · exact .refl location store
  · exact .put [] free

theorem entry?_truncate {path : String} (admits : store.AdmitsFile path)
    (found : store.locateNew path = .ok location) :
    Store.entry? (store.truncate location) location = some (.file []) := by
  obtain ⟨notFull, notNull⟩ := admits location found
  unfold truncate
  split
  · exact (notFull ‹_›).elim
  · exact (notNull ‹_›).elim
  · exact entry?_put_self store location _

theorem room_truncate (store : Store) (location : Location) :
    (store.truncate location).room = store.room := by
  unfold truncate
  split <;> rfl

end Creation

end Store

end SchemaScript
