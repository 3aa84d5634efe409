import Mathlib.Data.List.Basic
import Mathlib.Data.List.Induction
import ProxyControl.Text.Lines
import ProxyControl.Text.Space

/-!
# Pieces and lines

Two ways of cutting a text at its newlines: the far end sees the pieces between them, and the
payload check looks at lines. They agree on what is blank, because a carriage return before a
newline is white space either way.
-/
namespace ProxyControl.Text

/-! ### Pieces -/

section Pieces

variable {separates : Char → Bool}

theorem pieces_ne_nil (text : Text) : pieces separates text ≠ [] := by
  cases text with
  | nil => simp [pieces]
  | cons c rest =>
    rw [pieces]
    split
    · simp
    · split <;> simp

theorem pieces_cons_of_separates {c : Char} (separator : separates c = true) (rest : Text) :
    pieces separates (c :: rest) = [] :: pieces separates rest := by
  rw [pieces, if_pos separator]

theorem exists_pieces_cons {c : Char} (inside : separates c = false) (rest : Text) :
    ∃ piece more, pieces separates rest = piece :: more ∧
      pieces separates (c :: rest) = (c :: piece) :: more := by
  obtain ⟨piece, more, cut⟩ := List.exists_cons_of_ne_nil (pieces_ne_nil rest)
  exact ⟨piece, more, cut, by rw [pieces, if_neg (by simp [inside]), cut]⟩

/-- A separator keeps the pieces on its two sides apart. -/
theorem pieces_append_cons {c : Char} (separator : separates c = true) (before after : Text) :
    pieces separates (before ++ c :: after) =
      pieces separates before ++ pieces separates after := by
  induction before with
  | nil => simp [pieces_cons_of_separates separator, pieces]
  | cons head before ih =>
    cases inside : separates head with
    | true => simp [pieces_cons_of_separates inside, ih]
    | false =>
      -- the head joins the first piece, with the separator behind it or without
      obtain ⟨piece, more, cut, whole⟩ := exists_pieces_cons inside (before ++ c :: after)
      obtain ⟨piece', more', cut', whole'⟩ := exists_pieces_cons inside before
      rw [ih, cut', List.cons_append, List.cons.injEq] at cut
      rw [List.cons_append, whole, whole', ← cut.1, ← cut.2, List.cons_append]

theorem pieces_of_forall {text : Text} (whole : ∀ c ∈ text, separates c = false) :
    pieces separates text = [text] := by
  induction text with
  | nil => rfl
  | cons c rest ih =>
    obtain ⟨piece, more, cut, cons⟩ := exists_pieces_cons (whole c List.mem_cons_self) rest
    rw [ih fun other member => whole other (List.mem_cons_of_mem c member),
      List.cons.injEq] at cut
    rw [cons, ← cut.1, ← cut.2]

/-- What stands at the end of a text goes with its last piece. -/
theorem exists_pieces_concat {c : Char} (inside : separates c = false) (text : Text) :
    ∃ front last, pieces separates text = front ++ [last] ∧
      pieces separates (text ++ [c]) = front ++ [last ++ [c]] := by
  induction text with
  | nil => exact ⟨[], [], rfl, pieces_of_forall (by simpa using inside)⟩
  | cons head text ih =>
    obtain ⟨front, last, cut, longer⟩ := ih
    cases separator : separates head with
    | true =>
      refine ⟨[] :: front, last, ?_, ?_⟩
      · rw [pieces_cons_of_separates separator, cut, List.cons_append]
      · rw [List.cons_append, pieces_cons_of_separates separator, longer, List.cons_append]
    | false =>
      obtain ⟨piece, more, cut', whole⟩ := exists_pieces_cons separator text
      obtain ⟨piece', more', longer', whole'⟩ := exists_pieces_cons separator (text ++ [c])
      rw [cut] at cut'
      rw [longer] at longer'
      rw [List.cons_append, whole, whole']
      -- the head goes with the last piece only if there is no other
      cases front with
      | nil =>
        obtain ⟨rfl, rfl⟩ := List.cons.inj cut'
        obtain ⟨rfl, rfl⟩ := List.cons.inj longer'
        exact ⟨[], head :: last, rfl, rfl⟩
      | cons first front =>
        obtain ⟨rfl, rfl⟩ := List.cons.inj cut'
        obtain ⟨rfl, rfl⟩ := List.cons.inj longer'
        exact ⟨(head :: first) :: front, last, rfl, rfl⟩

/-- Parts with a separator between them fall into pieces as they were. -/
theorem pieces_join {mark : Char} (separator : separates mark = true) {parts : List Text}
    (nonempty : parts ≠ []) (whole : ∀ part ∈ parts, ∀ c ∈ part, separates c = false) :
    pieces separates (join [mark] parts) = parts := by
  induction parts with
  | nil => exact absurd rfl nonempty
  | cons part rest ih =>
    obtain ⟨inside, others⟩ := List.forall_mem_cons.mp whole
    cases rest with
    | nil => rw [join, List.intercalate_singleton, pieces_of_forall inside]
    | cons next rest =>
      rw [join, List.intercalate_cons_cons, List.append_assoc, List.singleton_append,
        pieces_append_cons separator, pieces_of_forall inside, ← join, ih (by simp) others]
      rfl

theorem of_mem_join {separator : Text} {parts : List Text} {c : Char}
    (member : c ∈ join separator parts) : c ∈ separator ∨ ∃ part ∈ parts, c ∈ part := by
  induction parts with
  | nil => cases member
  | cons part rest ih =>
    cases rest with
    | nil =>
      rw [join, List.intercalate_singleton] at member
      exact .inr ⟨part, List.mem_cons_self, member⟩
    | cons next rest =>
      rw [join, List.intercalate_cons_cons, List.mem_append, List.mem_append] at member
      rcases member with (here | between) | behind
      · exact .inr ⟨part, List.mem_cons_self, here⟩
      · exact .inl between
      · exact (ih behind).imp_right fun ⟨other, inRest, inside⟩ =>
          ⟨other, List.mem_cons_of_mem part inRest, inside⟩

theorem join_concat {mark : Char} {front : List Text} (some : front ≠ []) (last : Text) :
    join [mark] (front ++ [last]) = join [mark] front ++ mark :: last := by
  induction front with
  | nil => exact absurd rfl some
  | cons first rest ih =>
    cases rest with
    | nil => simp [join, List.intercalate]
    | cons next rest =>
      have behind := ih (by simp)
      simp only [join, List.cons_append, List.intercalate_cons_cons, List.append_assoc] at behind ⊢
      rw [behind]

end Pieces

/-- The newline, which ends a command and a line of a payload. -/
def isNewline (c : Char) : Bool := c == '\n'

theorem isBlank_cons (c : Char) (rest : Text) : isBlank (c :: rest) = (isSpace c && isBlank rest) :=
  rfl

/-- A text is blank if and only if all its pieces are. -/
theorem isBlank_iff_pieces {text : Text} :
    isBlank text = true ↔ ∀ piece ∈ pieces isNewline text, isBlank piece = true := by
  induction text with
  | nil => simp [isBlank, pieces]
  | cons c rest ih =>
    cases newline : isNewline c with
    | true =>
      have space : isSpace c = true := by
        rw [eq_of_beq newline]
        decide
      rw [pieces_cons_of_separates newline, isBlank_cons, space, Bool.true_and, ih,
        List.forall_mem_cons]
      simp [isBlank]
    | false =>
      -- the head joins the first piece
      obtain ⟨piece, more, cut, whole⟩ := exists_pieces_cons newline rest
      rw [whole, isBlank_cons, Bool.and_eq_true, ih, cut, List.forall_mem_cons,
        List.forall_mem_cons, isBlank_cons, Bool.and_eq_true, and_assoc]

/-- What does not see a character at the end of a line does not see it at the end of a text. -/
theorem map_pieces_concat {β : Type} {f : Text → β} {c : Char} (inside : isNewline c = false)
    (unseen : ∀ line, f (line ++ [c]) = f line) (text : Text) :
    (pieces isNewline (text ++ [c])).map f = (pieces isNewline text).map f := by
  obtain ⟨front, last, cut, longer⟩ := exists_pieces_concat inside text
  rw [cut, longer, List.map_append, List.map_append, List.map_singleton, List.map_singleton,
    unseen]

/-! ### Lines -/

theorem lines_eq_nil_iff {text : Text} : lines text = [] ↔ text = [] := by
  constructor
  · intro none
    fun_cases lines text
    · rfl
    all_goals simp_all [lines]
  · rintro rfl
    rfl

/-- Lines and pieces are the same to what does not see a carriage return that stands alone. But no
line is left behind the last newline, where there still is an empty piece. -/
theorem map_pieces {β : Type} {f : Text → β} (alone : f ['\r'] = f [])
    (cons : ∀ c line line', f line = f line' → f (c :: line) = f (c :: line')) (text : Text) :
    (pieces isNewline text).map f =
      (lines text).map f ++ if text.getLast?.all isNewline then [f []] else [] := by
  fun_induction lines text with
  | case1 => rfl
  | case2 rest ih =>
    rw [pieces_cons_of_separates rfl, List.map_cons, ih]
    cases rest <;> rfl
  | case3 rest ih =>
    -- the line loses its carriage return and the piece keeps it
    have cut : pieces isNewline ('\r' :: '\n' :: rest) = ['\r'] :: pieces isNewline rest :=
      pieces_append_cons rfl ['\r'] rest
    rw [cut, List.map_cons, ih, alone]
    cases rest <;> rfl
  | case4 c rest notNewline notBreak none ih =>
    rw [lines_eq_nil_iff] at none
    subst none
    have inside : isNewline c = false := by simpa [isNewline] using notNewline
    rw [pieces_of_forall (by simpa using inside)]
    simp [inside]
  | case5 c rest notNewline notBreak line lines cut ih =>
    have more : rest ≠ [] := by
      rintro rfl
      cases cut
    have inside : isNewline c = false := by simpa [isNewline] using notNewline
    obtain ⟨piece, pieces, cut', whole⟩ := exists_pieces_cons inside rest
    rw [cut, cut', List.map_cons, List.map_cons, List.cons_append, List.cons.injEq] at ih
    rw [whole, List.map_cons, List.map_cons, cons c piece line ih.1, ih.2,
      List.getLast?_cons_of_ne_nil more, List.cons_append]

/-- Lines and pieces are the same in a text that goes on behind its last newline. -/
theorem map_lines {β : Type} {f : Text → β} (alone : f ['\r'] = f [])
    (cons : ∀ c line line', f line = f line' → f (c :: line) = f (c :: line'))
    {text : Text} (nonempty : text ≠ []) (unended : text.getLast? ≠ some '\n') :
    (lines text).map f = (pieces isNewline text).map f := by
  have open_ : text.getLast?.all isNewline = false := by
    rw [List.getLast?_eq_some_getLast nonempty] at unended ⊢
    simpa [isNewline] using unended
  rw [map_pieces alone cons, open_, if_neg Bool.false_ne_true, List.append_nil]

/-- Lines and pieces are blank in the same places, unless the text ends at a newline. -/
theorem map_isBlank_lines {text : Text} (nonempty : text ≠ [])
    (unended : text.getLast? ≠ some '\n') :
    (lines text).map isBlank = (pieces isNewline text).map isBlank :=
  map_lines rfl (fun c line line' same => by rw [isBlank_cons, isBlank_cons, same]) nonempty
    unended

/-- A line holds no newline. -/
theorem not_mem_of_mem_lines {text line : Text} (member : line ∈ lines text) :
    ∀ c ∈ line, isNewline c = false := by
  fun_induction lines text generalizing line
  case case1 => simp at member
  case case2 rest ih =>
    rcases List.mem_cons.mp member with rfl | behind
    · simp
    · exact ih behind
  case case3 rest ih =>
    rcases List.mem_cons.mp member with rfl | behind
    · simp
    · exact ih behind
  case case4 c rest notNewline notBreak none ih =>
    rw [List.mem_singleton.mp member]
    simpa [isNewline] using notNewline
  case case5 c rest notNewline notBreak first lines cut ih =>
    rw [cut] at ih
    rcases List.mem_cons.mp member with rfl | behind
    · intro d inLine
      rcases List.mem_cons.mp inLine with rfl | inFirst
      · simpa [isNewline] using notNewline
      · exact ih List.mem_cons_self d inFirst
    · exact ih (List.mem_cons_of_mem _ behind)

theorem joinLines_cons_cons (part next : Text) (rest : List Text) :
    joinLines (part :: next :: rest) = part ++ '\n' :: joinLines (next :: rest) := by
  simp [joinLines, join, List.intercalate]

/-- Joined lines fall into pieces as they were. -/
theorem pieces_joinLines {parts : List Text} (nonempty : parts ≠ [])
    (whole : ∀ part ∈ parts, ∀ c ∈ part, isNewline c = false) :
    pieces isNewline (joinLines parts) = parts :=
  pieces_join rfl nonempty whole

/-- What is left of the lines of a text falls into pieces as it was. -/
theorem pieces_joinLines_filter {keeps : Text → Bool} {text : Text}
    (nonempty : (lines text).filter keeps ≠ []) :
    pieces isNewline (joinLines ((lines text).filter keeps)) = (lines text).filter keeps :=
  pieces_joinLines nonempty fun _ member => not_mem_of_mem_lines (List.mem_filter.mp member).1

theorem lines_append_newline {line : Text} (whole : ∀ c ∈ line, isNewline c = false)
    (bare : '\r' ∉ line.getLast?) (rest : Text) :
    lines (line ++ '\n' :: rest) = line :: lines rest := by
  induction line with
  | nil => rfl
  | cons c line ih =>
    obtain ⟨inside, others⟩ := List.forall_mem_cons.mp whole
    have next : lines (line ++ '\n' :: rest) = line :: lines rest := by
      cases line with
      | nil => rfl
      | cons d line => exact ih others (by rwa [List.getLast?_cons_cons] at bare)
    rw [List.cons_append, lines, next]
    · rintro rfl
      cases inside
    · rintro behind rfl same
      cases line with
      | nil => exact bare rfl
      | cons d line =>
        cases same
        cases others '\n' List.mem_cons_self

theorem lines_of_forall {line : Text} (some : line ≠ []) (whole : ∀ c ∈ line, isNewline c = false) :
    lines line = [line] := by
  induction line with
  | nil => exact absurd rfl some
  | cons c line ih =>
    obtain ⟨inside, others⟩ := List.forall_mem_cons.mp whole
    rw [lines]
    · cases line with
      | nil => rfl
      | cons d line => rw [ih (by simp) others]
    · rintro rfl
      cases inside
    · rintro behind rfl rfl
      cases others '\n' List.mem_cons_self

/-- Joined lines are read back, unless the last one is empty or a carriage return ends one. -/
theorem lines_joinLines {parts : List Text}
    (whole : ∀ part ∈ parts, ∀ c ∈ part, isNewline c = false)
    (bare : ∀ part ∈ parts, '\r' ∉ part.getLast?) (last : ∀ part ∈ parts.getLast?, part ≠ []) :
    lines (joinLines parts) = parts := by
  induction parts with
  | nil => rfl
  | cons part rest ih =>
    obtain ⟨inside, others⟩ := List.forall_mem_cons.mp whole
    obtain ⟨first, behind⟩ := List.forall_mem_cons.mp bare
    cases rest with
    | nil =>
      have alone := lines_of_forall (last part rfl) inside
      simpa [joinLines, join, List.intercalate] using alone
    | cons next rest =>
      rw [joinLines_cons_cons, lines_append_newline inside first, ih others behind]
      rwa [List.getLast?_cons_cons] at last

/-! ### Trimming line breaks -/

theorem dropEndWhile_concat (p : Char → Bool) (text : Text) (c : Char) :
    dropEndWhile p (text ++ [c]) = if p c then dropEndWhile p text else text ++ [c] := by
  simp only [dropEndWhile, List.reverse_append, List.reverse_cons, List.reverse_nil,
    List.nil_append, List.singleton_append, List.dropWhile_cons]
  split
  · rfl
  · simp

theorem isSpace_of_isLineBreak {c : Char} (isBreak : isLineBreak c = true) : isSpace c = true := by
  simp only [isLineBreak, Bool.or_eq_true, beq_iff_eq] at isBreak
  rcases isBreak with rfl | rfl <;> decide

theorem isBlank_trimLineBreaks (text : Text) : isBlank (trimLineBreaks text) = isBlank text := by
  induction text using List.reverseRecOn with
  | nil => rfl
  | append_singleton text c ih =>
    rw [Text.trimLineBreaks, dropEndWhile_concat]
    split
    next isBreak =>
      rw [← Text.trimLineBreaks, ih]
      simp [isBlank, isSpace_of_isLineBreak isBreak]
    · rfl

theorem getLast?_trimLineBreaks (text : Text) :
    ∀ c ∈ (trimLineBreaks text).getLast?, isLineBreak c = false := by
  induction text using List.reverseRecOn with
  | nil => simp [trimLineBreaks, dropEndWhile]
  | append_singleton text c ih =>
    rw [Text.trimLineBreaks, dropEndWhile_concat]
    split
    · exact ih
    next inside => simpa using inside

theorem trimLineBreaks_ne_nil {text : Text} (notBlank : isBlank text = false) :
    trimLineBreaks text ≠ [] := by
  intro empty
  rw [← isBlank_trimLineBreaks, empty] at notBlank
  cases notBlank

theorem getLast?_trimLineBreaks_ne (text : Text) : (trimLineBreaks text).getLast? ≠ some '\n' := by
  intro newline
  cases getLast?_trimLineBreaks text '\n' newline

/-! ### Blocks -/

/-- A text that the far end reads to its end as a payload: no line of it is blank. -/
def IsBlock (text : Text) : Prop := ∀ piece ∈ pieces isNewline text, isBlank piece = false

/-- White space at the end of a text keeps its pieces as blank as they are. -/
theorem map_isBlank_pieces_concat {c : Char} (space : isSpace c = true)
    (inside : isNewline c = false) (text : Text) :
    (pieces isNewline (text ++ [c])).map isBlank = (pieces isNewline text).map isBlank :=
  map_pieces_concat inside (fun line => by simp [isBlank, space]) text

theorem isBlock_iff_of_map {first second : Text}
    (same : (pieces isNewline first).map isBlank = (pieces isNewline second).map isBlank) :
    IsBlock first ↔ IsBlock second := by
  have count (text : Text) :
      IsBlock text ↔ ∀ blank ∈ (pieces isNewline text).map isBlank, blank = false := by
    simp [IsBlock]
  rw [count, count, same]

/-- The line breaks at the end of a block can be left out. -/
theorem IsBlock.trimLineBreaks {text : Text} (block : IsBlock text) :
    IsBlock (trimLineBreaks text) := by
  induction text using List.reverseRecOn with
  | nil => exact block
  | append_singleton text c ih =>
    rw [Text.trimLineBreaks, dropEndWhile_concat]
    split
    next isBreak =>
      apply ih
      have inside : isNewline c = false := by
        rw [← Bool.not_eq_true]
        intro newline
        -- a newline at the end would leave an empty piece behind it
        have empty := block [] (by simp [pieces_append_cons newline, pieces])
        cases empty
      have same := map_isBlank_pieces_concat (isSpace_of_isLineBreak isBreak) inside text
      exact (isBlock_iff_of_map same).mp block
    · exact block

theorem IsBlock.ne_nil {text : Text} (block : IsBlock text) : text ≠ [] := by
  rintro rfl
  have empty := block [] (by simp [pieces])
  cases empty

end ProxyControl.Text
