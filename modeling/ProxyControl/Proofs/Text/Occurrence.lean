import Mathlib.Data.List.Infix
import ProxyControl.Proofs.Text.Lines

/-!
# Occurrences

To begin with a text is to have it as a prefix, and to contain it is to have it as an infix. What
holds no line break occurs in a text just where it occurs in one of its lines.
-/
namespace ProxyControl.Text

theorem after?_eq_some_iff {start text rest : Text} :
    after? start text = some rest ↔ text = start ++ rest := by
  induction start generalizing text with
  | nil => simp [after?]
  | cons s start ih =>
    cases text with
    | nil => simp [after?]
    | cons c text =>
      simp only [after?, List.cons_append, List.cons.injEq]
      split
      next same => simp [ih, same]
      next ne => simp [Ne.symm ne]

theorem startsWith_iff {start text : Text} : startsWith start text = true ↔ start <+: text := by
  rw [startsWith, Option.isSome_iff_exists]
  simp only [after?_eq_some_iff]
  exact ⟨fun ⟨rest, same⟩ => ⟨rest, same.symm⟩, fun ⟨rest, same⟩ => ⟨rest, same.symm⟩⟩

theorem contains_iff {part text : Text} : contains part text = true ↔ part <:+: text := by
  induction text with
  | nil => simp [contains]
  | cons c rest ih => rw [contains, Bool.or_eq_true, startsWith_iff, ih, List.infix_cons_iff]

theorem before?_append (text close : Text) : before? close (text ++ close) = some text := by
  have found : after? close.reverse (text ++ close).reverse = some text.reverse :=
    after?_eq_some_iff.mpr List.reverse_append
  rw [before?, found, Option.map_some, List.reverse_reverse]

/-! ### Occurrences in lines -/

/-- A line ends where its text ends, or at a line break. -/
theorem exists_of_lines_eq_cons {text line : Text} {more : List Text}
    (cut : lines text = line :: more) :
    ∃ rest, text = line ++ rest ∧ ∀ c ∈ rest.head?, isLineBreak c = true := by
  fun_induction lines text generalizing line more
  case case1 => cases cut
  case case2 rest ih =>
    obtain ⟨rfl, -⟩ := List.cons.inj cut
    exact ⟨'\n' :: rest, rfl, by simp [isLineBreak]⟩
  case case3 rest ih =>
    obtain ⟨rfl, -⟩ := List.cons.inj cut
    exact ⟨'\r' :: '\n' :: rest, rfl, by simp [isLineBreak]⟩
  case case4 c rest notNewline notBreak none ih =>
    obtain ⟨rfl, -⟩ := List.cons.inj cut
    obtain rfl := lines_eq_nil_iff.mp none
    exact ⟨[], rfl, by simp⟩
  case case5 c rest notNewline notBreak first lines cut' ih =>
    obtain ⟨rfl, -⟩ := List.cons.inj cut
    obtain ⟨rest', same, ends⟩ := ih cut'
    exact ⟨rest', by rw [same, List.cons_append], ends⟩

section Parts

variable {part : Text}

theorem prefix_line_iff (whole : ∀ c ∈ part, isLineBreak c = false) {text line : Text}
    {more : List Text} (cut : lines text = line :: more) : part <+: text ↔ part <+: line := by
  obtain ⟨rest, rfl, ends⟩ := exists_of_lines_eq_cons cut
  constructor
  · rintro ⟨behind, same⟩
    rcases List.append_eq_append_iff.mp same with ⟨after, rfl, -⟩ | ⟨beyond, rfl, rfl⟩
    · exact List.prefix_append part after
    · -- what goes beyond the line begins with the line break that ends it
      cases beyond with
      | nil => simp
      | cons c beyond =>
        have isBreak := ends c (by simp)
        simp [whole c (by simp)] at isBreak
  · exact fun inside => inside.trans (List.prefix_append line rest)

/-- What holds no line break occurs in a text just where it occurs in one of its lines. -/
theorem infix_iff_exists_line (nonempty : part ≠ [])
    (whole : ∀ c ∈ part, isLineBreak c = false) {text : Text} :
    part <:+: text ↔ ∃ line ∈ lines text, part <:+: line := by
  have notAt {c : Char} (isBreak : isLineBreak c = true) (rest : Text) : ¬ part <+: c :: rest := by
    intro begins
    obtain ⟨d, tail, rfl⟩ := List.exists_cons_of_ne_nil nonempty
    obtain rfl := (List.cons_prefix_cons.mp begins).1
    simp [whole d List.mem_cons_self] at isBreak
  fun_induction lines text
  case case1 => simpa using nonempty
  case case2 rest ih =>
    rw [List.infix_cons_iff, or_iff_right (notAt rfl rest)]
    simp [nonempty, ih]
  case case3 rest ih =>
    rw [List.infix_cons_iff, or_iff_right (notAt rfl _), List.infix_cons_iff,
      or_iff_right (notAt rfl rest)]
    simp [nonempty, ih]
  case case4 c rest notNewline notBreak none ih =>
    obtain rfl := lines_eq_nil_iff.mp none
    simp
  case case5 c rest notNewline notBreak line more cut ih =>
    -- the first character goes to the first line, in which the part may begin with it
    have first : part <+: c :: rest ↔ part <+: c :: line := by
      obtain ⟨d, tail, rfl⟩ := List.exists_cons_of_ne_nil nonempty
      simp only [List.cons_prefix_cons]
      exact and_congr_right fun _ =>
        prefix_line_iff (fun e member => whole e (List.mem_cons_of_mem d member)) cut
    rw [cut] at ih
    simp only [List.mem_cons, exists_eq_or_imp, List.infix_cons_iff, first, ih, or_assoc]

/-- What occurs in a text occurs in a first line of it. -/
theorem infix_iff_exists_first_line (nonempty : part ≠ [])
    (whole : ∀ c ∈ part, isLineBreak c = false) {text : Text} :
    part <:+: text ↔ ∃ before line after, lines text = before ++ line :: after ∧
      (∀ other ∈ before, ¬ part <:+: other) ∧ part <:+: line := by
  rw [infix_iff_exists_line nonempty whole]
  constructor
  · rintro ⟨line, member, inside⟩
    have some : ((lines text).find? (contains part)).isSome = true :=
      List.find?_isSome.mpr ⟨line, member, contains_iff.mpr inside⟩
    obtain ⟨first, found⟩ := Option.isSome_iff_exists.mp some
    obtain ⟨holds, before, after, cut, without⟩ := List.find?_eq_some_iff_append.mp found
    refine ⟨before, first, after, cut, fun other earlier inside => ?_, contains_iff.mp holds⟩
    have absent := without other earlier
    rw [contains_iff.mpr inside] at absent
    cases absent
  · rintro ⟨before, line, after, cut, -, inside⟩
    exact ⟨line, by simp [cut], inside⟩

end Parts

end ProxyControl.Text
