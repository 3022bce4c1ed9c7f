import SchemaScript.Proofs.Files.Writing
import SchemaScript.Script.Sink

/-!
# Scripts in limited room

A script goes to its writer statement by statement, and every statement is
offered again and again until all of it is taken.  This file shows that the
statements and the offers leave no trace: a writer with room for a number of
bytes ends up with that many bytes of the whole script, from its start, and the
writing succeeds exactly if these are all.
-/

namespace SchemaScript

namespace Script

/--
Something that takes bytes in the order in which they are offered.  As long as it has room it
takes at least one of the bytes and at most as many as there is room for; without room it
fails, or takes none.
-/
structure BoundedWriter {σ : Type} (offer : List UInt8 → StateM σ (Except SystemError Nat))
    (accepted : σ → List UInt8) (room : σ → Nat) : Prop where
  takes : ∀ state bytes, bytes ≠ [] → 0 < room state →
    ∃ count later, offer bytes state = (.ok count, later) ∧ 0 < count ∧ count ≤ bytes.length ∧
      accepted later = accepted state ++ bytes.take count ∧ room later + count = room state
  refuses : ∀ state bytes, bytes ≠ [] → room state = 0 →
    ∃ result later, offer bytes state = (result, later) ∧
      (∀ count, result = .ok count → count = 0) ∧ accepted later = accepted state

section Offers

variable {σ : Type} {offer : List UInt8 → StateM σ (Except SystemError Nat)} {state later : σ}
  {bytes : List UInt8}

theorem writeAll_nil (offer : List UInt8 → StateM σ (Except SystemError Nat)) (state : σ) :
    writeAll offer [] state = (.ok (), state) := by
  rw [writeAll, stateM_pure_apply]

theorem writeAll_of_error {error : SystemError} (present : bytes ≠ [])
    (failed : offer bytes state = (.error error, later)) :
    writeAll offer bytes state = (.error error, later) := by
  obtain ⟨first, rest, rfl⟩ := List.exists_cons_of_ne_nil present
  simp [writeAll, bind, StateT.bind, failed, stateM_pure_apply]

/-- Something that takes nothing is not asked again. -/
theorem writeAll_of_zero (present : bytes ≠ []) (idle : offer bytes state = (.ok 0, later)) :
    writeAll offer bytes state = (.error .writeZero, later) := by
  obtain ⟨first, rest, rfl⟩ := List.exists_cons_of_ne_nil present
  simp [writeAll, bind, StateT.bind, idle, stateM_pure_apply]

theorem writeAll_of_taken {count : Nat} (present : bytes ≠ []) (positive : 0 < count)
    (taken : offer bytes state = (.ok count, later)) :
    writeAll offer bytes state = writeAll offer (bytes.drop count) later := by
  obtain ⟨first, rest, rfl⟩ := List.exists_cons_of_ne_nil present
  obtain ⟨before, rfl⟩ := Nat.exists_eq_add_one.mpr positive
  simp [writeAll, bind, StateT.bind, taken]

end Offers

section Outcomes

variable {σ : Type} {accepted : σ → List UInt8} {room : σ → Nat}

/-- The outcome of writing bytes: those that there is room for have been taken. -/
structure Took (accepted : σ → List UInt8) (room : σ → Nat) (bytes : List UInt8) (before : σ)
    (outcome : Except SystemError Unit × σ) : Prop where
  accepted_eq : accepted outcome.2 = accepted before ++ bytes.take (room before)
  succeeds_iff : outcome.1 = .ok () ↔ bytes.length ≤ room before
  room_eq : outcome.1 = .ok () → room outcome.2 + bytes.length = room before

variable {bytes more : List UInt8} {state later : σ}

theorem took_nil (state : σ) : Took accepted room [] state (.ok (), state) where
  accepted_eq := by simp
  succeeds_iff := by simp
  room_eq := by simp

/-- A failure means that the room is used up, so nothing of what follows would fit. -/
theorem Took.append_of_error {error : SystemError}
    (took : Took accepted room bytes state (.error error, later)) (more : List UInt8) :
    Took accepted room (bytes ++ more) state (.error error, later) := by
  have short : room state < bytes.length := by simpa using took.succeeds_iff
  refine ⟨?_, ?_, by simp⟩
  · rw [List.take_append_of_le_length (Nat.le_of_lt short)]
    exact took.accepted_eq
  · simp
    omega

theorem Took.append_of_ok {outcome : Except SystemError Unit × σ}
    (early : Took accepted room bytes state (.ok (), later))
    (late : Took accepted room more later outcome) :
    Took accepted room (bytes ++ more) state outcome := by
  have fits : bytes.length ≤ room state := early.succeeds_iff.mp rfl
  have left : room later + bytes.length = room state := early.room_eq rfl
  have front : accepted later = accepted state ++ bytes := by
    rw [early.accepted_eq, List.take_of_length_le fits]
  refine ⟨?_, ?_, ?_⟩
  · have rest : room state - bytes.length = room later := by omega
    rw [late.accepted_eq, front, List.take_append, List.take_of_length_le fits, rest,
      List.append_assoc]
  · rw [late.succeeds_iff, List.length_append]
    omega
  · intro done
    have := late.room_eq done
    rw [List.length_append]
    omega

end Outcomes

namespace BoundedWriter

variable {σ : Type} {offer : List UInt8 → StateM σ (Except SystemError Nat)}
  {accepted : σ → List UInt8} {room : σ → Nat}

/-- Without room, what is left to write is not written and not reported as written. -/
theorem took_of_full (bounded : BoundedWriter offer accepted room) {bytes : List UInt8} {state : σ}
    (present : bytes ≠ []) (full : room state = 0) :
    Took accepted room bytes state (writeAll offer bytes state) := by
  obtain ⟨result, later, offered, none, kept⟩ := bounded.refuses state bytes present full
  have refused : ∃ error, writeAll offer bytes state = (.error error, later) := by
    cases result with
    | error error => exact ⟨error, writeAll_of_error present offered⟩
    | ok count =>
        obtain rfl := none count rfl
        exact ⟨.writeZero, writeAll_of_zero present offered⟩
  obtain ⟨error, failed⟩ := refused
  rw [failed]
  refine ⟨?_, ?_, by simp⟩
  · simp [kept, full]
  · simp [full, present]

/-- However many bytes each offer moves, all offers together move what fits. -/
theorem took_writeAll (bounded : BoundedWriter offer accepted room) (bytes : List UInt8)
    (state : σ) : Took accepted room bytes state (writeAll offer bytes state) := by
  induction bytes using writeAll.induct generalizing state with
  | case1 =>
      rw [writeAll_nil]
      exact took_nil state
  | case2 first rest ih =>
      have present : first :: rest ≠ [] := List.cons_ne_nil first rest
      rcases Nat.eq_zero_or_pos (room state) with full | vacant
      · exact bounded.took_of_full present full
      · obtain ⟨count, later, offered, positive, within, taken, left⟩ :=
          bounded.takes state (first :: rest) present vacant
        obtain ⟨beyond, rfl⟩ := Nat.exists_eq_add_one.mpr positive
        rw [writeAll_of_taken present positive offered]
        -- The bytes of this offer count as written, the others are left to the induction.
        have early :
            Took accepted room ((first :: rest).take (beyond + 1)) state (.ok (), later) := by
          have size : ((first :: rest).take (beyond + 1)).length = beyond + 1 :=
            List.length_take_of_le within
          have fits : beyond + 1 ≤ room state := by omega
          refine ⟨?_, ?_, fun _ => ?_⟩
          · rw [List.take_of_length_le (Nat.le_trans (Nat.le_of_eq size) fits)]
            exact taken
          · simpa only [size, true_iff] using fits
          · rw [size]
            exact left
        have whole := early.append_of_ok (ih beyond later)
        rwa [← List.drop_succ_cons, List.take_append_drop] at whole

theorem took_writePieces (bounded : BoundedWriter offer accepted room) (pieces : List (List UInt8))
    (state : σ) :
    Took accepted room pieces.flatten state (writePieces (writeAll offer) pieces state) := by
  induction pieces generalizing state with
  | nil => exact took_nil state
  | cons piece rest ih =>
      have took := bounded.took_writeAll piece state
      rw [List.flatten_cons]
      rcases outcome : writeAll offer piece state with ⟨error | done, later⟩
      · rw [writePieces_cons_of_error outcome]
        exact (outcome ▸ took).append_of_error rest.flatten
      · rw [writePieces_cons_of_ok outcome]
        exact (outcome ▸ took).append_of_ok (ih later)

end BoundedWriter

/-- Too few bytes of some pieces are whole pieces, and then a part of one that is not whole. -/
theorem exists_incomplete {pieces : List (List UInt8)} {count : Nat}
    (short : count < pieces.flatten.length) :
    ∃ before piece after part rest, pieces = before ++ piece :: after ∧ piece = part ++ rest ∧
      rest ≠ [] ∧ pieces.flatten.take count = before.flatten ++ part := by
  induction pieces generalizing count with
  | nil => simp at short
  | cons first pieces ih =>
      rw [List.flatten_cons, List.length_append] at short
      rcases Nat.lt_or_ge count first.length with inside | beyond
      · refine ⟨[], first, pieces, first.take count, first.drop count, rfl, ?_, ?_, ?_⟩
        · rw [List.take_append_drop]
        · simpa using inside
        · rw [List.flatten_cons, List.take_append_of_le_length (Nat.le_of_lt inside)]
          rfl
      · have shortLater : count - first.length < pieces.flatten.length := by omega
        obtain ⟨before, piece, after, part, rest, split, whole, present, taken⟩ := ih shortLater
        refine ⟨first :: before, piece, after, part, rest, ?_, whole, present, ?_⟩
        · rw [split, List.cons_append]
        · rw [List.flatten_cons, List.take_append, List.take_of_length_le beyond, taken,
            List.flatten_cons, List.append_assoc]

theorem exists_incomplete_statement {trailingComma : Bool} {tablePrefix : String}
    {tables : List Schema.Table} {count : Nat}
    (short : count < (Encoding.utf8Bytes (script trailingComma tablePrefix tables)).length) :
    ∃ before statement after part rest,
      statements trailingComma tablePrefix tables = before ++ statement :: after ∧
      Encoding.utf8Bytes statement = part ++ rest ∧ rest ≠ [] ∧
      (Encoding.utf8Bytes (script trailingComma tablePrefix tables)).take count =
        Encoding.utf8Bytes (String.join before) ++ part := by
  rw [script, Encoding.utf8Bytes_join] at short ⊢
  obtain ⟨before, piece, after, part, rest, split, whole, present, taken⟩ := exists_incomplete short
  obtain ⟨early, late, same, rfl, written⟩ := List.map_eq_append_iff.mp split
  obtain ⟨statement, later, rfl, rfl, rfl⟩ := List.map_eq_cons_iff.mp written
  exact ⟨early, statement, later, part, rest, same, whole, present,
    by rw [taken, Encoding.utf8Bytes_join]⟩

/--
A writer with limited room takes of a script as many bytes as it has room for, from the start,
and the writing succeeds exactly if these are all bytes.  Otherwise there is a statement of
which it has a part only: it has taken all statements before that one whole, and none of those
after it.
-/
theorem writeScript_takes_what_fits {σ : Type}
    {offer : List UInt8 → StateM σ (Except SystemError Nat)} {accepted : σ → List UInt8}
    {room : σ → Nat} (bounded : BoundedWriter offer accepted room) (trailingComma : Bool)
    (tablePrefix : String) (tables : List Schema.Table) (state : σ) :
    let outcome := writeScript trailingComma tablePrefix tables (writeAll offer) state
    let bytes := Encoding.utf8Bytes (script trailingComma tablePrefix tables)
    accepted outcome.2 = accepted state ++ bytes.take (room state) ∧
    (outcome.1 = .ok () ↔ bytes.length ≤ room state) ∧
    (outcome.1 ≠ .ok () →
      ∃ before statement after part rest,
        statements trailingComma tablePrefix tables = before ++ statement :: after ∧
        Encoding.utf8Bytes statement = part ++ rest ∧ rest ≠ [] ∧
        accepted outcome.2 =
          accepted state ++ (Encoding.utf8Bytes (String.join before) ++ part)) := by
  intro outcome bytes
  have took : Took accepted room bytes state outcome := by
    have pieces := bounded.took_writePieces
      ((statements trailingComma tablePrefix tables).map Encoding.utf8Bytes) state
    rwa [← Encoding.utf8Bytes_join] at pieces
  refine ⟨took.accepted_eq, took.succeeds_iff, fun failed => ?_⟩
  have short : room state < bytes.length := Nat.lt_of_not_le (mt took.succeeds_iff.mpr failed)
  obtain ⟨before, statement, after, part, rest, split, whole, present, taken⟩ :=
    exists_incomplete_statement short
  exact ⟨before, statement, after, part, rest, split, whole, present,
    by rw [took.accepted_eq, taken]⟩

theorem Sink.boundedWriter :
    BoundedWriter (fun bytes sink => Sink.write sink bytes) Sink.accepted Sink.room where
  takes := by
    intro sink bytes present vacant
    have bounds : 0 < sink.takes bytes.length ∧ sink.takes bytes.length ≤ bytes.length ∧
        sink.takes bytes.length ≤ sink.room := by
      have := List.length_pos_iff.mpr present
      unfold Sink.takes
      cases sink.pace with
      | nil => dsimp only; omega
      | cons beyond pace => dsimp only; omega
    have written : sink.write bytes =
        (.ok (sink.takes bytes.length),
          { sink with
            accepted := sink.accepted ++ bytes.take (sink.takes bytes.length)
            room := sink.room - sink.takes bytes.length
            pace := sink.pace.tail }) :=
      if_neg (Nat.ne_of_gt vacant)
    exact ⟨_, _, written, bounds.1, bounds.2.1, rfl, Nat.sub_add_cancel bounds.2.2⟩
  refuses := by
    intro sink bytes present full
    rw [Sink.write, if_pos full]
    cases sink.refusal with
    | failing error => exact ⟨_, _, rfl, nofun, rfl⟩
    | idle => exact ⟨_, _, rfl, by simp [eq_comm], rfl⟩

/-- A sink that takes one byte, then three, then all it can, and is full inside a character. -/
theorem writeScript_takes_half_a_character :
    let sink : Sink := ⟨[], 39, [0, 2], .idle⟩
    let tables : List Schema.Table := [⟨"A", []⟩, ⟨"é", []⟩]
    let outcome := writeScript true "P" tables Sink.writer sink
    BoundedWriter (fun bytes sink => Sink.write sink bytes) Sink.accepted Sink.room ∧
      outcome.2.accepted =
        Encoding.utf8Bytes "CREATE TABLE P_A (\n);\n\nCREATE TABLE P_" ++ [0xC3] ∧
      outcome.1 ≠ .ok () := by
  intro sink tables outcome
  obtain ⟨taken, succeeds, -⟩ :=
    writeScript_takes_what_fits Sink.boundedWriter true "P" tables sink
  have size : (Encoding.utf8Bytes (script true "P" tables)).length = 47 := by decide +kernel
  refine ⟨Sink.boundedWriter, ?_, ?_⟩
  · refine taken.trans ?_
    decide +kernel
  · intro done
    have fits := succeeds.mp done
    rw [size] at fits
    exact absurd fits (by decide)

end Script

end SchemaScript
