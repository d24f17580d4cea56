/-! # Outcomes of readers

Readers and checks end with a result or an error, and a chain of them has a
result exactly when each step has one. -/

set_option autoImplicit false

namespace Ebms

variable {ε α β : Type}

@[simp] theorem ok_bind (value : α) (next : α → Except ε β) :
    (Except.ok value >>= next) = next value := rfl

theorem bind_eq_ok {first : Except ε α} {next : α → Except ε β} {result : β} :
    (first >>= next) = .ok result ↔
      ∃ value, first = .ok value ∧ next value = .ok result := by
  cases first with
  | error fault =>
      constructor
      · intro success
        cases success
      · rintro ⟨value, none, -⟩
        cases none
  | ok value =>
      constructor
      · intro success
        exact ⟨value, rfl, success⟩
      · rintro ⟨found, same, success⟩
        cases same
        exact success

theorem map_eq_ok {first : Except ε α} {change : α → β} {result : β} :
    first.map change = .ok result ↔ ∃ value, first = .ok value ∧ change value = result := by
  cases first with
  | error fault =>
      constructor
      · intro success
        cases success
      · rintro ⟨value, none, -⟩
        cases none
  | ok value =>
      constructor
      · intro success
        exact ⟨value, rfl, Except.ok.inj success⟩
      · rintro ⟨found, same, rfl⟩
        cases same
        rfl

theorem eq_ok_of_toOption {outcome : Except ε α} {result : α}
    (found : outcome.toOption = some result) : outcome = .ok result := by
  cases outcome with
  | error fault => cases found
  | ok value => rw [Option.some.inj found]

theorem mapM_eq_ok_map {read : β → Except ε α} {value : β → α} {items : List β}
    (each : ∀ item ∈ items, read item = .ok (value item)) :
    items.mapM read = .ok (items.map value) := by
  induction items with
  | nil => rfl
  | cons first others inductionHypothesis =>
      obtain ⟨head, tail⟩ := List.forall_mem_cons.mp each
      rw [List.mapM_cons, head, inductionHypothesis tail]
      rfl

theorem mapM_map_self {read : β → Except ε α} {written : α → β} {items : List α}
    (each : ∀ item ∈ items, read (written item) = .ok item) :
    (items.map written).mapM read = .ok items := by
  have row : items.mapM (read ∘ written) = .ok (items.map id) := mapM_eq_ok_map each
  rw [List.mapM_map, row, List.map_id]

theorem exists_of_mem_mapM {read : α → Except ε β} {items : List α} {results : List β}
    (success : items.mapM read = .ok results) :
    ∀ result ∈ results, ∃ item ∈ items, read item = .ok result := by
  induction items generalizing results with
  | nil =>
      cases success
      intro result member
      cases member
  | cons item others inductionHypothesis =>
      rw [List.mapM_cons, bind_eq_ok] at success
      obtain ⟨first, head, success⟩ := success
      obtain ⟨rest, tail, same⟩ := bind_eq_ok.mp success
      cases same
      refine List.forall_mem_cons.mpr ⟨⟨item, List.mem_cons_self, head⟩, fun result member => ?_⟩
      obtain ⟨other, inside, same⟩ := inductionHypothesis tail result member
      exact ⟨other, List.mem_cons_of_mem _ inside, same⟩

/-- A row of double steps succeeds exactly when two rows do, one after the other. -/
theorem mapM_bind_eq_ok {γ : Type} {first : α → Except ε β} {second : β → Except ε γ}
    {items : List α} {results : List γ} :
    items.mapM (fun item => first item >>= second) = .ok results ↔
      ∃ middle, items.mapM first = .ok middle ∧ middle.mapM second = .ok results := by
  induction items generalizing results with
  | nil =>
      constructor
      · intro success
        exact ⟨[], rfl, success⟩
      · rintro ⟨middle, empty, success⟩
        cases empty
        exact success
  | cons item others inductionHypothesis =>
      simp only [List.mapM_cons, bind_eq_ok, inductionHypothesis]
      constructor
      · rintro ⟨result, ⟨value, head, step⟩, rest, ⟨middle, row, steps⟩, same⟩
        refine ⟨value :: middle, ⟨value, head, middle, row, rfl⟩, ?_⟩
        simp only [List.mapM_cons, bind_eq_ok]
        exact ⟨result, step, rest, steps, same⟩
      · rintro ⟨middle, ⟨value, head, others, row, same⟩, success⟩
        cases same
        simp only [List.mapM_cons, bind_eq_ok] at success
        obtain ⟨result, step, rest, steps, same⟩ := success
        exact ⟨result, ⟨value, head, step⟩, rest, ⟨others, row, steps⟩, same⟩

theorem forM_eq_ok {items : List α} {check : α → Except ε Unit} :
    items.forM check = .ok () ↔ ∀ item ∈ items, check item = .ok () := by
  induction items with
  | nil =>
      constructor
      · intro _ item member
        cases member
      · intro _
        rfl
  | cons first others inductionHypothesis =>
      have step : (first :: others).forM check =
          (check first >>= fun _ => others.forM check) := rfl
      rw [step, bind_eq_ok, List.forall_mem_cons]
      constructor
      · rintro ⟨_, head, tail⟩
        exact ⟨head, inductionHypothesis.mp tail⟩
      · rintro ⟨head, tail⟩
        exact ⟨(), head, inductionHypothesis.mpr tail⟩

end Ebms
