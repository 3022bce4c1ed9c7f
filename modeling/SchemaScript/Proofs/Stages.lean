import Mathlib.Data.List.Forall2

/-!
# Stages that can fail

A computation in stages succeeds if all of them do, and otherwise fails as the
first that fails.  This file takes such a computation apart, and compares two
of them stage by stage.
-/

namespace SchemaScript

section Stages

variable {ε φ α β : Type} {stage : Except ε α} {next : α → Except ε β}

theorem bind_eq_ok_iff {result : β} :
    stage >>= next = .ok result ↔ ∃ middle, stage = .ok middle ∧ next middle = .ok result := by
  cases stage with
  | error cause => simp [bind, Except.bind]
  | ok middle => simp [bind, Except.bind]

theorem bind_eq_error_iff {error : ε} :
    stage >>= next = .error error ↔
      stage = .error error ∨ ∃ middle, stage = .ok middle ∧ next middle = .error error := by
  cases stage with
  | error cause => simp [bind, Except.bind]
  | ok middle => simp [bind, Except.bind]

theorem mapError_eq_ok_iff {convert : ε → φ} {result : α} :
    stage.mapError convert = .ok result ↔ stage = .ok result := by
  cases stage <;> simp [Except.mapError]

theorem mapError_eq_error_iff {convert : ε → φ} {error : φ} :
    stage.mapError convert = .error error ↔
      ∃ cause, stage = .error cause ∧ convert cause = error := by
  cases stage <;> simp [Except.mapError]

/-- Stages that differ in nothing but what is forgotten go on to do so. -/
theorem map_bind_eq_map_bind {γ δ : Type} {forget : α → γ} {forget' : β → δ}
    {stage' : Except ε α} {next' : α → Except ε β} (same : stage.map forget = stage'.map forget)
    (goOn : ∀ result result', forget result = forget result' →
      (next result).map forget' = (next' result').map forget') :
    (stage >>= next).map forget' = (stage' >>= next').map forget' := by
  cases stage with
  | error cause =>
      cases stage' with
      | error cause' =>
          cases same
          rfl
      | ok result' => cases same
  | ok result =>
      cases stage' with
      | error cause' => cases same
      | ok result' => exact goOn _ _ (Except.ok.inj same)

end Stages

/-! ### Two runs -/

section Lists

variable {α β : Type}

theorem none_or_some_of_isSome_eq {first : Option α} {second : Option β}
    (same : first.isSome = second.isSome) :
    (first = none ∧ second = none) ∨
      ∃ result result', first = some result ∧ second = some result' := by
  cases first <;> cases second <;> simp_all

/-- Related items are kept together by filters that agree on them. -/
theorem forall₂_filter {related : α → β → Prop} {keeps : α → Bool} {keeps' : β → Bool}
    {items : List α} {items' : List β} (each : List.Forall₂ related items items')
    (agree : ∀ item item', related item item' → keeps item = keeps' item') :
    List.Forall₂ (fun item item' => keeps item = true ∧ related item item')
      (items.filter keeps) (items'.filter keeps') := by
  induction each with
  | nil => exact .nil
  | @cons item item' items items' head _ ih =>
      have same := agree item item' head
      by_cases kept : keeps item = true
      · rw [List.filter_cons_of_pos kept, List.filter_cons_of_pos (same ▸ kept)]
        exact .cons ⟨kept, head⟩ ih
      · rw [List.filter_cons_of_neg kept, List.filter_cons_of_neg (same ▸ kept)]
        exact ih

end Lists

/-- Two computations that fail together or succeed together with related results. -/
inductive Together {ε α β : Type} (related : α → β → Prop) : Except ε α → Except ε β → Prop where
  | failed (first second : ε) : Together related (.error first) (.error second)
  | succeeded {first : α} {second : β} (results : related first second) :
      Together related (.ok first) (.ok second)

namespace Together

variable {ε φ α β γ δ : Type} {related : α → β → Prop} {later : γ → δ → Prop}
  {first : Except ε α} {second : Except ε β}

theorem bind {next : α → Except ε γ} {next' : β → Except ε δ}
    (together : Together related first second)
    (goOn : ∀ result result', related result result' →
      Together later (next result) (next' result')) :
    Together later (first >>= next) (second >>= next') := by
  cases together with
  | failed cause cause' => exact .failed cause cause'
  | succeeded results => exact goOn _ _ results

theorem mapError (together : Together related first second) (convert : ε → φ) :
    Together related (first.mapError convert) (second.mapError convert) := by
  cases together with
  | failed cause cause' => exact .failed _ _
  | succeeded results => exact .succeeded results

theorem isOk_iff (together : Together related first second) :
    (∃ result, first = .ok result) ↔ ∃ result, second = .ok result := by
  cases together with
  | failed cause cause' => simp
  | succeeded results => simp

theorem related_of_ok (together : Together related first second) {result : α} {result' : β}
    (done : first = .ok result) (done' : second = .ok result') : related result result' := by
  cases together with
  | failed cause cause' => cases done
  | succeeded results =>
      cases done
      cases done'
      exact results

theorem mapM {items : List γ} {items' : List δ} {convert : γ → Except ε α}
    {convert' : δ → Except ε β} (each : List.Forall₂ later items items')
    (goOn : ∀ item item', later item item' → Together related (convert item) (convert' item')) :
    Together (List.Forall₂ related) (items.mapM convert) (items'.mapM convert') := by
  induction each with
  | nil => exact .succeeded .nil
  | cons head _ ih =>
      rw [List.mapM_cons, List.mapM_cons]
      refine (goOn _ _ head).bind fun result result' results => ih.bind ?_
      intro results₁ results₂ rest
      exact .succeeded (.cons results rest)

theorem foldlM {items : List γ} {items' : List δ} {step : α → γ → Except ε α}
    {step' : β → δ → Except ε β} (each : List.Forall₂ later items items')
    (goOn : ∀ state state' item item', related state state' → later item item' →
      Together related (step state item) (step' state' item'))
    {state : α} {state' : β} (start : related state state') :
    Together related (items.foldlM step state) (items'.foldlM step' state') := by
  induction each generalizing state state' with
  | nil => exact .succeeded start
  | cons head _ ih =>
      rw [List.foldlM_cons, List.foldlM_cons]
      exact (goOn _ _ _ _ start head).bind fun _ _ results => ih results

end Together

end SchemaScript
