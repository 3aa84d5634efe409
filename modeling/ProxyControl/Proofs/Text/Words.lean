import ProxyControl.Proofs.Text.Cutting

/-!
# Words

The words of a text are its runs between white space. White space separates words wherever it
stands, and makes none itself.
-/
namespace ProxyControl.Text

variable {text : Text}

theorem words_append_cons {c : Char} (space : isSpace c = true) (before after : Text) :
    words (before ++ c :: after) = words before ++ words after := by
  rw [words, runs, pieces_append_cons space, List.filter_append]
  rfl

theorem words_cons {c : Char} (space : isSpace c = true) (rest : Text) :
    words (c :: rest) = words rest :=
  words_append_cons space [] rest

theorem words_trimStart (text : Text) : words (trimStart text) = words text := by
  induction text with
  | nil => rfl
  | cons c rest ih =>
    cases space : isSpace c with
    | true => rw [trimStart, List.dropWhile_cons_of_pos space, ← trimStart, ih, words_cons space]
    | false => rw [trimStart, List.dropWhile_cons_of_neg (by simp [space])]

theorem words_trimEnd (text : Text) : words (trimEnd text) = words text := by
  induction text using List.reverseRecOn with
  | nil => rfl
  | append_singleton text c ih =>
    rw [trimEnd, dropEndWhile_concat]
    split
    next space =>
      rw [← trimEnd, ih, words_append_cons space]
      exact (List.append_nil _).symm
    next => rfl

/-- A text behind its white space begins as its first word does. -/
theorem head?_trimStart (text : Text) :
    (trimStart text).head? = (words text).head?.bind List.head? := by
  induction text with
  | nil => rfl
  | cons c rest ih =>
    cases space : isSpace c with
    | true => rw [trimStart, List.dropWhile_cons_of_pos space, ← trimStart, ih, words_cons space]
    | false =>
      obtain ⟨piece, more, -, cut⟩ := exists_pieces_cons space rest
      rw [trimStart, List.dropWhile_cons_of_neg (by simp [space]), words, runs, cut]
      rfl

theorem words_of_forall (word : ∀ c ∈ text, isSpace c = false) :
    words text = [text].filter (!·.isEmpty) := by
  rw [words, runs, pieces_of_forall word]

/-- Words that are written with a blank in front of each are read back, but for empty ones. -/
theorem words_append_flatMap {parts : List Text}
    (areWords : ∀ part ∈ parts, ∀ c ∈ part, isSpace c = false) (front : Text) :
    words (front ++ parts.flatMap fun part => ' ' :: part) =
      words front ++ parts.filter (!·.isEmpty) := by
  induction parts generalizing front with
  | nil => simp
  | cons part rest ih =>
    have others := ih fun other member => areWords other (List.mem_cons_of_mem part member)
    rw [List.flatMap_cons, List.cons_append, words_append_cons rfl, others part,
      words_of_forall (areWords part List.mem_cons_self), ← List.filter_append,
      List.singleton_append]

/-- Words with a blank between them are read back. -/
theorem words_join {parts : List Text}
    (areWords : ∀ part ∈ parts, part ≠ [] ∧ ∀ c ∈ part, isSpace c = false) :
    words (join [' '] parts) = parts := by
  by_cases none : parts = []
  · subst none
    rfl
  · rw [words, runs, pieces_join rfl none fun part member => (areWords part member).2,
      List.filter_eq_self]
    exact fun part member => by simpa using (areWords part member).1

/-! ### Parts with white space between them -/

theorem words_append {front : Text} (blank : isBlank front = true) (text : Text) :
    words (front ++ text) = words text := by
  induction front with
  | nil => rfl
  | cons c rest ih =>
    rw [isBlank_cons, Bool.and_eq_true] at blank
    rw [List.cons_append, words_cons blank.1, ih blank.2]

/-- Parts behind white space, one after the other; more white space may follow the last one. -/
inductive IsSpread : List Text → Text → Prop
  | nil {gap : Text} (blank : isBlank gap = true) : IsSpread [] gap
  | cons {gap part rest : Text} {parts : List Text} (blank : isBlank gap = true)
    (apart : gap ≠ []) (behind : IsSpread parts rest) :
    IsSpread (part :: parts) (gap ++ part ++ rest)

namespace IsSpread

variable {parts : List Text}

theorem isSpace_of_mem_head? (spread : IsSpread parts text) :
    ∀ c ∈ text.head?, isSpace c = true := by
  have starts {gap : Text} (blank : isBlank gap = true) : ∀ c ∈ gap.head?, isSpace c = true :=
    fun c first => List.all_eq_true.mp blank c (List.mem_of_mem_head? first)
  cases spread with
  | nil blank => exact starts blank
  | @cons gap part rest parts blank apart behind =>
    rw [List.append_assoc, List.head?_append_of_ne_nil gap apart]
    exact starts blank

/-- Parts without white space in them are read back as words. -/
theorem words_eq (spread : IsSpread parts text)
    (areWords : ∀ part ∈ parts, part ≠ [] ∧ ∀ c ∈ part, isSpace c = false) :
    words text = parts := by
  induction spread with
  | @nil gap blank =>
    have none := words_append blank []
    rwa [List.append_nil] at none
  | @cons gap part rest parts blank apart behind ih =>
    obtain ⟨⟨nonempty, word⟩, others⟩ := List.forall_mem_cons.mp areWords
    have whole : words part = [part] := by
      rw [words_of_forall word]
      simp [nonempty]
    rw [List.append_assoc, words_append blank]
    -- the part ends where the white space of the next one begins
    cases rest with
    | nil =>
      rw [List.append_nil, whole, ← ih others]
      rfl
    | cons c rest =>
      have space := behind.isSpace_of_mem_head? c rfl
      rw [words_append_cons space, whole, ← words_cons space, ih others]
      rfl

end IsSpread

end ProxyControl.Text
