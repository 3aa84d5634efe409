import Mathlib.Data.List.Forall2
import ProxyControl.Failure

/-!
# Results that succeed

What is put together from several steps succeeds exactly if each step does. So a success is taken
apart into the successes of its steps, and no reader has to be opened for it. A failure is that of
the first step that fails.
-/
namespace ProxyControl.Result

variable {α β : Type} {result : Result α}

theorem ok_bind (value : α) (next : α → Result β) : (Except.ok value >>= next) = next value :=
  rfl

theorem bind_eq_ok_iff {next : α → Result β} {value : β} :
    result >>= next = .ok value ↔ ∃ first, result = .ok first ∧ next first = .ok value := by
  cases result with
  | error failure => exact iff_of_false nofun (by simp)
  | ok first => simp [bind, Except.bind]

theorem map_eq_ok_iff {f : α → β} {value : β} :
    result.map f = .ok value ↔ ∃ first, result = .ok first ∧ f first = value := by
  cases result <;> simp [Except.map]

theorem map_eq_error_iff {f : α → β} {failure : Failure} :
    result.map f = .error failure ↔ result = .error failure := by
  cases result <;> simp [Except.map]

theorem mapError_eq_ok_iff {f : Failure → Failure} {value : α} :
    result.mapError f = .ok value ↔ result = .ok value := by
  cases result <;> simp [Except.mapError]

/-- A list is read exactly if every member is, and then the results stand in its order. -/
theorem mapM_eq_ok_iff {read : α → Result β} {values : List α} {records : List β} :
    values.mapM read = .ok records ↔
      List.Forall₂ (fun value record => read value = .ok record) values records := by
  induction values generalizing records with
  | nil => cases records <;> simp [pure, Except.pure]
  | cons value rest ih =>
    simp only [List.mapM_cons, bind_eq_ok_iff, ih]
    constructor
    · rintro ⟨first, read, others, readOn, same⟩
      obtain rfl : first :: others = records := Except.ok.inj same
      exact .cons read readOn
    · rintro (_ | ⟨read, readOn⟩)
      exact ⟨_, read, _, readOn, rfl⟩

/-- A list is read up to the first member that fails, and then fails as that member does. -/
theorem mapM_eq_error_iff {read : α → Result β} {values : List α} {failure : Failure} :
    values.mapM read = .error failure ↔
      ∃ before value after, values = before ++ value :: after ∧
        (∀ other ∈ before, ∃ record, read other = .ok record) ∧ read value = .error failure := by
  constructor
  · intro failed
    induction values with
    | nil => cases failed
    | cons value rest ih =>
      rw [List.mapM_cons] at failed
      cases first : read value with
      | error reason =>
        rw [first] at failed
        cases failed
        exact ⟨[], value, rest, rfl, List.forall_mem_nil _, first⟩
      | ok record =>
        rw [first, ok_bind] at failed
        cases others : rest.mapM read with
        | ok records =>
          rw [others] at failed
          cases failed
        | error reason =>
          rw [others] at failed
          cases failed
          obtain ⟨before, last, after, rfl, passed, fails⟩ := ih others
          exact ⟨value :: before, last, after, rfl,
            List.forall_mem_cons.mpr ⟨⟨record, first⟩, passed⟩, fails⟩
  · rintro ⟨before, value, after, rfl, passed, failed⟩
    induction before with
    | nil =>
      rw [List.nil_append, List.mapM_cons, failed]
      rfl
    | cons other before ih =>
      obtain ⟨⟨record, read⟩, others⟩ := List.forall_mem_cons.mp passed
      rw [List.cons_append, List.mapM_cons, read, ok_bind, ih others]
      rfl

theorem mapM_congr {read read' : α → Result β} {values : List α}
    (same : ∀ value ∈ values, read value = read' value) :
    values.mapM read = values.mapM read' := by
  induction values with
  | nil => rfl
  | cons value rest ih =>
    obtain ⟨first, others⟩ := List.forall_mem_cons.mp same
    rw [List.mapM_cons, List.mapM_cons, first, ih others]

/-- A fold fails at the first step that does, and nothing behind it is done. -/
theorem foldlM_eq_error_iff {step : α → β → Result α} {values : List β} {start : α}
    {failure : Failure} : values.foldlM step start = .error failure ↔
      ∃ before value after reached, values = before ++ value :: after ∧
        before.foldlM step start = .ok reached ∧ step reached value = .error failure := by
  constructor
  · intro failed
    induction values generalizing start with
    | nil => cases failed
    | cons value rest ih =>
      rw [List.foldlM_cons] at failed
      cases first : step start value with
      | error reason =>
        rw [first] at failed
        cases failed
        exact ⟨[], value, rest, start, rfl, rfl, first⟩
      | ok next =>
        rw [first] at failed
        obtain ⟨before, last, after, reached, rfl, done, fails⟩ := ih failed
        refine ⟨value :: before, last, after, reached, rfl, ?_, fails⟩
        rw [List.foldlM_cons, first]
        exact done
  · rintro ⟨before, value, after, reached, rfl, done, fails⟩
    rw [List.foldlM_append, done]
    change List.foldlM step reached (value :: after) = _
    rw [List.foldlM_cons, fails]
    rfl

end ProxyControl.Result
