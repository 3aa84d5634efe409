import ProxyControl.Argument
import ProxyControl.Proofs.Text.Lines

/-!
# What the checks let pass

A name and a value pass as they are, and only if they hold nothing that would end the word or the
command. A blank text passes no check.
-/
namespace ProxyControl

/-- A text that ends neither the line nor the command it is part of. -/
def Text.IsLine (text : Text) : Prop := ∀ c ∈ text, Argument.breaksValue c = false

theorem Text.IsLine.isNewline {text : Text} (line : text.IsLine) :
    ∀ c ∈ text, Text.isNewline c = false := by
  intro c member
  have clean := line c member
  simp only [Argument.breaksValue, Bool.or_eq_false_iff] at clean
  exact clean.1.1

namespace Argument

open Text

variable {what text checked : Text}

private theorem eq_ok_of_check {breaks : Char → Bool} {blank broken : Failure}
    (h : (if isBlank text then Except.error blank
      else if text.any breaks then .error broken else .ok text) = .ok checked) :
    checked = text ∧ isBlank text = false ∧ ∀ c ∈ text, breaks c = false := by
  split at h
  · cases h
  next notBlank =>
    split at h
    · cases h
    next clean =>
      cases h
      refine ⟨rfl, by simpa using notBlank, fun c member => ?_⟩
      simp only [List.any_eq_true, not_exists, not_and, Bool.not_eq_true] at clean
      exact clean c member

theorem name_eq_ok (h : name what text = .ok checked) :
    checked = text ∧ isBlank text = false ∧ ∀ c ∈ text, breaksName c = false :=
  eq_ok_of_check h

theorem value_eq_ok (h : value what text = .ok checked) :
    checked = text ∧ isBlank text = false ∧ IsLine text :=
  eq_ok_of_check h

theorem value_of_isLine (notBlank : isBlank text = false) (line : IsLine text) :
    value what text = .ok text := by
  have clean : ¬ text.any breaksValue = true := by
    rw [List.any_eq_true]
    rintro ⟨c, member, breaks⟩
    rw [line c member] at breaks
    cases breaks
  rw [value, if_neg (by simp [notBlank]), if_neg clean]

/-- Line breaks are white space, so what breaks no name breaks no value either. -/
theorem isLine_of_name (h : name what text = .ok checked) : IsLine checked := by
  obtain ⟨rfl, -, clean⟩ := name_eq_ok h
  intro c member
  rw [← Bool.not_eq_true]
  intro breaks
  have breaksToo : breaksName c = true := by
    simp only [breaksValue, Bool.or_eq_true, beq_iff_eq] at breaks
    rcases breaks with (rfl | rfl) | rfl <;> decide
  rw [clean c member] at breaksToo
  cases breaksToo

theorem isLine_of_value (h : value what text = .ok checked) : IsLine checked := by
  obtain ⟨rfl, -, line⟩ := value_eq_ok h
  exact line

/-- A value is a block of one line. -/
theorem isBlock_of_value (h : value what text = .ok checked) : IsBlock checked := by
  obtain ⟨rfl, notBlank, line⟩ := value_eq_ok h
  rw [IsBlock, pieces_of_forall line.isNewline]
  simpa using notBlank

/-- An optional value passes as it is, too. -/
theorem isLine_of_mapM_value {given passed : Option Text}
    (h : given.mapM (value what) = .ok passed) : ∀ text ∈ passed, IsLine text := by
  cases given with
  | none =>
    cases h
    simp
  | some text =>
    cases checked : value what text with
    | error failure => simp [checked] at h
    | ok text =>
      simp only [Option.mapM_some, checked, Except.map_ok, Except.ok.injEq] at h
      subst h
      simpa using isLine_of_value checked

theorem mapM_value_eq_ok {given passed : Option Text}
    (h : given.mapM (value what) = .ok passed) :
    passed = given ∧ ∀ text ∈ given, isBlank text = false := by
  cases given with
  | none =>
    cases h
    simp
  | some text =>
    cases checked : value what text with
    | error failure => simp [checked] at h
    | ok text =>
      simp only [Option.mapM_some, checked, Except.map_ok, Except.ok.injEq] at h
      obtain ⟨rfl, notBlank, -⟩ := value_eq_ok checked
      exact ⟨h.symm, by simpa using notBlank⟩

/-- Only a blank payload is refused. -/
theorem payload_of_isBlank (blank : isBlank text = true) :
    payload what text = .error (.validation (.blank what)) := by
  rw [payload, if_pos blank]

theorem exists_payload_of_not_isBlank (notBlank : isBlank text = false) :
    ∃ body, payload what text = .ok body := by
  simp only [payload, notBlank, Bool.false_eq_true, if_false]
  split
  · exact ⟨_, rfl⟩
  · exact ⟨_, rfl⟩

/-- What passes is the text without the line breaks at its end, or what is left of its lines. -/
theorem payload_cases (h : payload what text = .ok checked) :
    isBlank text = false ∧
      ((checked = trimLineBreaks text ∧
          ∀ line ∈ lines (trimLineBreaks text), isBlank line = false) ∨
        checked = joinLines ((lines (trimLineBreaks text)).filter (!isBlank ·))) := by
  simp only [payload] at h
  split at h
  · cases h
  next notBlank =>
    refine ⟨by simpa using notBlank, ?_⟩
    split at h
    · cases h
      exact .inr rfl
    next none =>
      cases h
      exact .inl ⟨rfl, by simpa using none⟩

/-- A payload that passes is a block. -/
theorem payload_eq_ok {body : Text} (h : payload what text = .ok body) : IsBlock body := by
  obtain ⟨notBlank, passed⟩ := payload_cases h
  -- the check looks at lines, the far end at pieces; they are blank in the same places
  have agrees := map_isBlank_lines (trimLineBreaks_ne_nil notBlank)
    (getLast?_trimLineBreaks_ne text)
  rcases passed with ⟨rfl, whole⟩ | rfl
  · have none : ∀ blank ∈ (pieces isNewline (trimLineBreaks text)).map isBlank, blank = false := by
      rw [← agrees]
      simpa using whole
    simpa [IsBlock] using none
  · have some : (lines (trimLineBreaks text)).filter (!isBlank ·) ≠ [] := by
      intro none
      -- if every line were blank, so would be the whole text
      have all : ∀ blank ∈ (pieces isNewline (trimLineBreaks text)).map isBlank,
          blank = true := by
        rw [← agrees]
        simpa [List.filter_eq_nil_iff] using none
      rw [← isBlank_trimLineBreaks, isBlank_iff_pieces.mpr (by simpa using all)] at notBlank
      cases notBlank
    rw [IsBlock, pieces_joinLines_filter some]
    intro line member
    simpa using (List.mem_filter.mp member).2

end Argument

end ProxyControl
