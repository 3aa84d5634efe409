import Mathlib.Data.List.DropRight
import Mathlib.Data.List.TakeWhile
import ProxyControl.Proofs.Text.Lines
import ProxyControl.Proofs.Text.Occurrence

/-!
# Trimming and cutting

What trimming takes away, and where a text is cut in two. A text without white space is trimmed
already, and a text without the mark that is looked for stays in one piece.
-/
namespace ProxyControl.Text

/-! ### Trimming -/

section Trimming

variable {p : Char → Bool} {text : Text}

/-- Dropping at the end leaves what does not end in anything to drop. -/
theorem rdropWhile_eq_iff {α : Type} {p : α → Bool} {whole kept : List α} :
    whole.rdropWhile p = kept ↔
      ∃ ended, whole = kept ++ ended ∧ (∀ a ∈ ended, p a = true) ∧
        ∀ a ∈ kept.getLast?, p a = false := by
  constructor
  · rintro rfl
    refine ⟨whole.rtakeWhile p, ?_, ?_, ?_⟩
    · rw [List.rdropWhile, List.rtakeWhile, ← List.reverse_append,
        List.takeWhile_append_dropWhile, List.reverse_reverse]
    · exact fun a => List.mem_rtakeWhile_imp
    · intro a last
      have first := List.head?_dropWhile_not p whole.reverse
      rw [List.rdropWhile, List.getLast?_reverse] at last
      rw [Option.mem_def.mp last] at first
      simpa using first
  · rintro ⟨ended, rfl, ends, last⟩
    have stays : List.rdropWhile p kept = kept :=
      List.rdropWhile_eq_self_iff.mpr fun some => by
        simp [last _ (List.getLast?_eq_some_getLast some)]
    rw [List.rdropWhile, List.reverse_append,
      List.dropWhile_append_of_pos fun a member => ends a (List.mem_reverse.mp member)]
    exact stays

theorem dropEndWhile_of_forall (none : ∀ c ∈ text, p c = false) : dropEndWhile p text = text :=
  rdropWhile_eq_iff.mpr ⟨[], (List.append_nil text).symm, List.forall_mem_nil _,
    fun c last => none c (List.mem_of_getLast? last)⟩

private theorem mem_dropWhile_iff {c : Char} (kept : p c = false) :
    c ∈ text.dropWhile p ↔ c ∈ text := by
  refine ⟨fun member => (List.dropWhile_suffix p).subset member, fun member => ?_⟩
  rw [← List.takeWhile_append_dropWhile (p := p) (l := text), List.mem_append] at member
  rcases member with dropped | stays
  · rw [List.mem_takeWhile_imp dropped] at kept
    cases kept
  · exact stays

/-- Trimming takes nothing but white space away. -/
theorem mem_trim_iff {c : Char} (inside : isSpace c = false) : c ∈ trim text ↔ c ∈ text := by
  rw [trim, trimEnd, dropEndWhile, List.mem_reverse, mem_dropWhile_iff inside, List.mem_reverse,
    trimStart, mem_dropWhile_iff inside]

theorem trimStart_of_head? (inside : ∀ c ∈ text.head?, isSpace c = false) :
    trimStart text = text := by
  cases text with
  | nil => rfl
  | cons c rest =>
    rw [trimStart, List.dropWhile_cons, inside c rfl]
    rfl

/-- What is kept of the end of a text keeps all that stands in front of it. -/
theorem dropEndWhile_append {first second : Text} (kept : ∃ c ∈ second, p c = false) :
    dropEndWhile p (first ++ second) = first ++ dropEndWhile p second := by
  have some : (second.reverse.dropWhile p).isEmpty = false := by
    obtain ⟨c, member, stays⟩ := kept
    rw [List.isEmpty_eq_false_iff, ne_eq, List.dropWhile_eq_nil_iff]
    intro all
    have drops := all c (List.mem_reverse.mpr member)
    rw [stays] at drops
    cases drops
  rw [dropEndWhile, List.reverse_append, List.dropWhile_append, some, dropEndWhile]
  simp

theorem trimEnd_append {first second : Text} (notBlank : isBlank second = false) :
    trimEnd (first ++ second) = first ++ trimEnd second :=
  dropEndWhile_append (by simpa [isBlank] using notBlank)

/-- Trimming at the end keeps the start, if it keeps anything. -/
theorem mem_head?_of_trimEnd {c : Char} (first : c ∈ (trimEnd text).head?) : c ∈ text.head? := by
  obtain ⟨rest, same⟩ := List.rdropWhile_prefix isSpace text
  have first : (List.rdropWhile isSpace text).head? = some c := first
  rw [← same, List.head?_append, first]
  rfl

theorem isSpace_of_mem_head?_trimStart {c : Char} (first : c ∈ (trimStart text).head?) :
    isSpace c = false := by
  have kept := List.head?_dropWhile_not isSpace text
  rw [← trimStart, Option.mem_def.mp first] at kept
  simpa using kept

theorem isSpace_of_mem_getLast?_trimEnd {c : Char} (last : c ∈ (trimEnd text).getLast?) :
    isSpace c = false := by
  obtain ⟨ended, -, -, kept⟩ := (@rdropWhile_eq_iff Char isSpace text (trimEnd text)).mp rfl
  exact kept c last

theorem trimEnd_trimEnd (text : Text) : trimEnd (trimEnd text) = trimEnd text :=
  List.rdropWhile_idempotent isSpace text

theorem trim_trim (text : Text) : trim (trim text) = trim text := by
  have start : trimStart (trim text) = trim text :=
    trimStart_of_head? fun c first => isSpace_of_mem_head?_trimStart (mem_head?_of_trimEnd first)
  rw [trim, start]
  exact trimEnd_trimEnd (trimStart text)

/-- A text that trimming leaves as it is has no white space at either end. -/
theorem of_trim_eq_self (trimmed : trim text = text) :
    trimStart text = text ∧ trimEnd text = text := by
  have shorter : (trimEnd (trimStart text)).length ≤ (trimStart text).length :=
    (List.rdropWhile_prefix isSpace (trimStart text)).length_le
  have start : trimStart text = text := by
    apply (List.dropWhile_suffix isSpace).eq_of_length_le
    rwa [← trim, trimmed] at shorter
  refine ⟨start, ?_⟩
  rwa [trim, start] at trimmed

/-- What stands at the end of a trimmed text is not all white space. -/
theorem isBlank_of_trimEnd_append {first second : Text} (nonempty : second ≠ [])
    (trimmed : trimEnd (first ++ second) = first ++ second) : isBlank second = false := by
  rw [← Bool.not_eq_true]
  intro blank
  have some : first ++ second ≠ [] := by simp [nonempty]
  have ends : ¬ isSpace ((first ++ second).getLast some) = true :=
    List.rdropWhile_eq_self_iff.mp trimmed some
  rw [List.getLast_append_of_ne_nil some nonempty] at ends
  exact ends (List.all_eq_true.mp blank _ (List.getLast_mem nonempty))

theorem trimEnd_eq_nil_iff : trimEnd text = [] ↔ isBlank text = true := by
  rw [trimEnd, dropEndWhile, List.reverse_eq_nil_iff, List.dropWhile_eq_nil_iff, isBlank,
    List.all_eq_true]
  simp only [List.mem_reverse]

theorem isBlank_eq_isEmpty_trimEnd (text : Text) : isBlank text = (trimEnd text).isEmpty := by
  rw [Bool.eq_iff_iff, List.isEmpty_iff, trimEnd_eq_nil_iff]

theorem isBlank_trimEnd (text : Text) : isBlank (trimEnd text) = isBlank text := by
  rw [isBlank_eq_isEmpty_trimEnd, isBlank_eq_isEmpty_trimEnd text, trimEnd_trimEnd]

theorem trim_eq_nil_iff : trim text = [] ↔ isBlank text = true := by
  have start : trimStart text = [] ↔ isBlank text = true := by
    rw [trimStart, List.dropWhile_eq_nil_iff, isBlank, List.all_eq_true]
  rw [← start]
  constructor
  · intro none
    cases kept : trimStart text with
    | nil => rfl
    | cons c rest =>
      -- trimming at the start has left a character that trimming at the end keeps
      have first : c ∈ (trimStart text).head? := by simp [kept]
      have stays : isSpace c = false := isSpace_of_mem_head?_trimStart first
      rw [trim, kept, trimEnd_eq_nil_iff, isBlank_cons, stays] at none
      cases none
  · intro none
    rw [trim, none]
    rfl

/-- Nothing is trimmed behind what is trimmed already. -/
theorem trimEnd_append_of_trim_eq_self {second : Text} (nonempty : second ≠ [])
    (trimmed : trim second = second) (first : Text) :
    trimEnd (first ++ second) = first ++ second := by
  have notBlank : isBlank second = false := by
    rw [← Bool.not_eq_true, ← trim_eq_nil_iff, trimmed]
    exact nonempty
  rw [trimEnd_append notBlank, (of_trim_eq_self trimmed).2]

/-- Trimming does not go beyond a character that is no white space. -/
theorem trimEnd_append_of_getLast? {first second : Text}
    (closed : ∀ c ∈ first.getLast?, isSpace c = false) :
    trimEnd (first ++ second) = first ++ trimEnd second := by
  cases blank : isBlank second with
  | false => exact trimEnd_append blank
  | true =>
    have kept : trimEnd (first ++ second) = first :=
      rdropWhile_eq_iff.mpr ⟨second, rfl, List.all_eq_true.mp blank, closed⟩
    rw [kept, trimEnd_eq_nil_iff.mpr blank, List.append_nil]

theorem trimEnd_append_of_forall {first second : Text}
    (word : ∀ c ∈ first, isSpace c = false) :
    trimEnd (first ++ second) = first ++ trimEnd second :=
  trimEnd_append_of_getLast? fun c last => word c (List.mem_of_getLast? last)

theorem trimEnd_cons (c : Char) (rest : Text) :
    trimEnd (c :: rest) = if isBlank (c :: rest) then [] else c :: trimEnd rest := by
  split
  next blank => exact trimEnd_eq_nil_iff.mpr blank
  next kept =>
    rw [isBlank_cons] at kept
    cases space : isSpace c with
    | false => exact trimEnd_append_of_forall (List.forall_mem_singleton.mpr space)
    | true => exact @trimEnd_append [c] rest (by simpa [space] using kept)

theorem trimStart_trimEnd (text : Text) : trimStart (trimEnd text) = trimEnd (trimStart text) := by
  induction text with
  | nil => rfl
  | cons c rest ih =>
    cases space : isSpace c with
    | false =>
      have starts (text : Text) : trimStart (c :: text) = c :: text :=
        trimStart_of_head? (by simpa using space)
      rw [starts, trimEnd_cons, isBlank_cons, space]
      exact starts (trimEnd rest)
    | true =>
      have dropped (text : Text) : trimStart (c :: text) = trimStart text :=
        List.dropWhile_cons_of_pos space
      rw [dropped, ← ih, trimEnd_cons, isBlank_cons, space, Bool.true_and]
      split
      next blank =>
        rw [trimEnd_eq_nil_iff.mpr blank]
      next => exact dropped (trimEnd rest)

theorem trim_trimEnd (text : Text) : trim (trimEnd text) = trim text := by
  rw [trim, trimStart_trimEnd]
  exact trimEnd_trimEnd (trimStart text)

/-- White space in front of a text is trimmed away, whatever the text is. -/
theorem trimStart_append {front : Text} (blank : isBlank front = true) (text : Text) :
    trimStart (front ++ text) = trimStart text :=
  List.dropWhile_append_of_pos (List.all_eq_true.mp blank)

theorem trim_append {front : Text} (blank : isBlank front = true) (text : Text) :
    trim (front ++ text) = trim text := by
  rw [trim, trimStart_append blank, trim]

theorem trim_cons {c : Char} (space : isSpace c = true) (rest : Text) :
    trim (c :: rest) = trim rest :=
  @trim_append [c] (by simpa [isBlank] using space) rest

/-- A line that is not blank begins as it does without the white space at its end. -/
theorem head?_trimEnd (notBlank : isBlank text = false) : (trimEnd text).head? = text.head? := by
  cases text with
  | nil => cases notBlank
  | cons c rest =>
    rw [trimEnd_cons, notBlank]
    rfl

variable (word : ∀ c ∈ text, isSpace c = false)
include word

theorem trimEnd_of_forall : trimEnd text = text := dropEndWhile_of_forall word

theorem trim_of_forall : trim text = text := by
  rw [trim, trimStart_of_head? fun c first => word c (List.mem_of_mem_head? first),
    trimEnd_of_forall word]

end Trimming

/-! ### Cutting -/

theorem after?_eq_none_of_head? {start text : Text} {c : Char} (first : start.head? = some c)
    (other : c ∉ text.head?) : after? start text = none := by
  obtain ⟨tail, rfl⟩ := List.head?_eq_some_iff.mp first
  cases text with
  | nil => rfl
  | cons d rest =>
    have ne : c ≠ d := fun same => other (by simp [same])
    rw [after?, if_neg ne]

theorem withoutStart_eq_iff {start text rest : Text} :
    withoutStart start text = rest ↔
      ∃ taken, text = taken ++ rest ∧ (taken = start ∨ taken = [] ∧ ¬ start <+: text) := by
  have begins : start <+: text ↔ ∃ rest, after? start text = some rest := by
    simp only [after?_eq_some_iff]
    exact ⟨fun ⟨rest, same⟩ => ⟨rest, same.symm⟩, fun ⟨rest, same⟩ => ⟨rest, same.symm⟩⟩
  rw [withoutStart]
  constructor
  · rintro rfl
    cases found : after? start text with
    | some rest => exact ⟨start, after?_eq_some_iff.mp found, .inl rfl⟩
    | none => exact ⟨[], rfl, .inr ⟨rfl, by simp [begins, found]⟩⟩
  · rintro ⟨taken, whole, rfl | ⟨rfl, other⟩⟩
    · rw [after?_eq_some_iff.mpr whole]
      rfl
    · rw [Option.eq_none_iff_forall_ne_some.mpr fun rest found => other (begins.mpr ⟨rest, found⟩)]
      exact whole

/-- A start that holds no white space is found whether or not the end is trimmed. -/
theorem after?_trimEnd {start : Text} (word : ∀ c ∈ start, isSpace c = false) (text : Text) :
    after? start (trimEnd text) = (after? start text).map trimEnd := by
  cases found : after? start text with
  | some rest =>
    rw [after?_eq_some_iff.mp found, trimEnd_append_of_forall word]
    exact after?_eq_some_iff.mpr rfl
  | none =>
    rw [Option.map_none, Option.eq_none_iff_forall_ne_some]
    intro rest found'
    have kept : trimEnd text <+: text := List.rdropWhile_prefix isSpace text
    rw [after?_eq_some_iff.mp found'] at kept
    obtain ⟨more, same⟩ := (List.prefix_append start rest).trans kept
    rw [after?_eq_some_iff.mpr same.symm] at found
    cases found

/-- A text is not cut at a mark whose first character it does not hold. -/
theorem cutAt?_eq_none {mark text : Text} {c : Char} (first : mark.head? = some c)
    (absent : c ∉ text) : cutAt? mark text = none := by
  induction text with
  | nil =>
    have nowhere : after? mark [] = none := after?_eq_none_of_head? first (by simp)
    rw [cutAt?, nowhere]
    rfl
  | cons d rest ih =>
    have nowhere : after? mark (d :: rest) = none := by
      refine after?_eq_none_of_head? first fun same => absent ?_
      exact List.mem_of_mem_head? same
    rw [cutAt?, nowhere]
    simp only [ih fun behind => absent (List.mem_cons_of_mem d behind), Option.map_none]

/-- A text is cut at a mark where the first character of the mark stands first. -/
theorem cutAt?_append {mark before : Text} {c : Char} (first : mark.head? = some c)
    (absent : c ∉ before) (after : Text) :
    cutAt? mark (before ++ (mark ++ after)) = some (before, after) := by
  have here : after? mark (mark ++ after) = some after := after?_eq_some_iff.mpr rfl
  induction before with
  | nil =>
    obtain ⟨tail, rfl⟩ := List.head?_eq_some_iff.mp first
    simp only [List.nil_append, List.cons_append] at here ⊢
    rw [cutAt?, here]
  | cons d rest ih =>
    have nowhere : after? mark (d :: (rest ++ (mark ++ after))) = none :=
      after?_eq_none_of_head? first fun same => absent (List.mem_of_mem_head? same)
    rw [List.cons_append, cutAt?, nowhere]
    simp only [ih fun behind => absent (List.mem_cons_of_mem d behind), Option.map_some]

/-- A text is cut in two at the first place where it can be cut. -/
theorem cutFirst?_eq_some_iff {stops : Char → Bool} {text before after : Text} :
    cutFirst? stops text = some (before, after) ↔
      ∃ c, text = before ++ c :: after ∧ stops c = true ∧ ∀ d ∈ before, stops d = false := by
  induction text generalizing before after with
  | nil => simp [cutFirst?]
  | cons c rest ih =>
    rw [cutFirst?]
    cases stop : stops c with
    | true =>
      cases before with
      | nil => simp [stop]
      | cons d before =>
        -- a cut further on would leave a place to cut in front of it
        simp only [if_true, Option.some.injEq, Prod.mk.injEq, List.cons_append, List.cons.injEq,
          List.forall_mem_cons]
        constructor
        · rintro ⟨⟨⟩, -⟩
        · rintro ⟨_, ⟨rfl, -⟩, -, passes, -⟩
          rw [stop] at passes
          cases passes
    | false =>
      simp only [Bool.false_eq_true, if_false, Option.map_eq_some_iff, Prod.exists, ih,
        Prod.mk.injEq]
      constructor
      · rintro ⟨front, _, ⟨d, rfl, stops, clean⟩, rfl, rfl⟩
        exact ⟨d, rfl, stops, by simpa [stop] using clean⟩
      · rintro ⟨d, whole, stops, clean⟩
        cases before with
        | nil =>
          cases whole
          rw [stop] at stops
          cases stops
        | cons first front =>
          cases whole
          exact ⟨front, after, ⟨d, rfl, stops, (List.forall_mem_cons.mp clean).2⟩, rfl, rfl⟩

/-- A mark cuts a text where it first stands. -/
theorem cutFirst?_append_cons {mark : Char} {before : Text} (absent : mark ∉ before)
    (after : Text) : cutFirst? (· == mark) (before ++ mark :: after) = some (before, after) := by
  refine cutFirst?_eq_some_iff.mpr ⟨mark, rfl, beq_self_eq_true mark, fun c member => ?_⟩
  rw [beq_eq_false_iff_ne]
  rintro rfl
  exact absent member

theorem cutFirst?_eq_none {mark : Char} {text : Text} (absent : mark ∉ text) :
    cutFirst? (· == mark) text = none := by
  rw [Option.eq_none_iff_forall_ne_some]
  rintro ⟨before, after⟩ cut
  obtain ⟨c, rfl, stops, -⟩ := cutFirst?_eq_some_iff.mp cut
  obtain rfl := eq_of_beq stops
  exact absent (List.mem_append_right before List.mem_cons_self)

theorem not_mem_of_cutFirst?_eq_none {mark : Char} {text : Text}
    (uncut : cutFirst? (· == mark) text = none) : mark ∉ text := by
  intro member
  obtain ⟨before, after, rfl, absent⟩ := List.eq_append_cons_of_mem member
  rw [cutFirst?_append_cons absent] at uncut
  cases uncut

/-- A text that is cut at a mark holds the mark, and not in front of the cut. -/
theorem of_cutFirst?_eq_some {mark : Char} {text before after : Text}
    (cut : cutFirst? (· == mark) text = some (before, after)) :
    text = before ++ mark :: after ∧ mark ∉ before := by
  obtain ⟨c, rfl, stop, inside⟩ := cutFirst?_eq_some_iff.mp cut
  obtain rfl := eq_of_beq stop
  exact ⟨rfl, fun member => by simpa using inside c member⟩

/-- What stands in front of the first mark, or all of a text without one. -/
def upTo (mark : Char) (text : Text) : Text := text.takeWhile (· != mark)

theorem not_mem_upTo (mark : Char) (text : Text) : mark ∉ upTo mark text := fun member => by
  simpa using List.mem_takeWhile_imp member

theorem upTo_append {mark : Char} {front : Text} (absent : mark ∉ front) (rest : Text) :
    upTo mark (front ++ rest) = front ++ upTo mark rest :=
  List.takeWhile_append_of_pos fun _ member => bne_iff_ne.mpr (ne_of_mem_of_not_mem member absent)

theorem upTo_of_not_mem {mark : Char} {text : Text} (absent : mark ∉ text) :
    upTo mark text = text := by
  simpa [upTo] using upTo_append absent []

/-- Nothing behind a mark is looked at. -/
theorem upTo_append_cons (mark : Char) (text rest : Text) :
    upTo mark (text ++ mark :: rest) = upTo mark text := by
  have ended (rest : Text) : upTo mark (mark :: rest) = [] :=
    List.takeWhile_cons_of_neg (by simp)
  by_cases member : mark ∈ text
  · obtain ⟨before, after, rfl, absent⟩ := List.eq_append_cons_of_mem member
    rw [List.append_assoc, List.cons_append, upTo_append absent, upTo_append absent, ended, ended]
  · rw [upTo_append member, ended, List.append_nil, upTo_of_not_mem member]

theorem upTo_upTo (first second : Char) (text : Text) :
    upTo first (upTo second text) = upTo second (upTo first text) := by
  simp only [upTo, List.takeWhile_takeWhile, and_comm]

theorem cutLast?_eq_none_iff {stops : Char → Bool} {text : Text} :
    cutLast? stops text = none ↔ ∀ c ∈ text, stops c = false := by
  induction text with
  | nil => simp [cutLast?]
  | cons c rest ih =>
    rw [cutLast?, List.forall_mem_cons, ← ih]
    cases cutLast? stops rest with
    | some pair => simp
    | none => simp

/-- Behind the last cut there is no further place to cut. -/
theorem of_cutLast?_eq_some {stops : Char → Bool} {text before after : Text}
    (cut : cutLast? stops text = some (before, after)) :
    ∃ c, text = before ++ c :: after ∧ stops c = true ∧ ∀ d ∈ after, stops d = false := by
  induction text generalizing before with
  | nil => cases cut
  | cons c rest ih =>
    rw [cutLast?] at cut
    cases behind : cutLast? stops rest with
    | some pair =>
      rw [behind] at cut
      cases cut
      obtain ⟨d, rfl, stop, clean⟩ := ih behind
      exact ⟨d, rfl, stop, clean⟩
    | none =>
      simp only [behind, Option.ite_none_right_eq_some, Option.some.injEq, Prod.mk.injEq] at cut
      obtain ⟨stop, rfl, rfl⟩ := cut
      exact ⟨c, rfl, stop, cutLast?_eq_none_iff.mp behind⟩

/-- A text is cut in two at the last place where it can be cut. -/
theorem cutLast?_append_cons {stops : Char → Bool} {c : Char} (stop : stops c = true)
    (before : Text) {after : Text} (clean : ∀ d ∈ after, stops d = false) :
    cutLast? stops (before ++ c :: after) = some (before, after) := by
  induction before with
  | nil => simp [cutLast?, cutLast?_eq_none_iff.mpr clean, stop]
  | cons d before ih => simp [cutLast?, ih]

/-- Two cuts of one text at the same mark are the same cut, or one lies behind the other. -/
theorem append_cons_eq_append_cons_iff {c : Char} {before after before' after' : Text} :
    before ++ c :: after = before' ++ c :: after' ↔
      (before = before' ∧ after = after') ∨
        (∃ between, before' = before ++ c :: between ∧ after = between ++ c :: after') ∨
          ∃ between, before = before' ++ c :: between ∧ after' = between ++ c :: after := by
  constructor
  · intro same
    rcases List.append_eq_append_iff.mp same with ⟨extra, front, back⟩ | ⟨extra, front, back⟩
    · cases extra with
      | nil =>
        obtain ⟨-, rfl⟩ := List.cons.inj back
        exact .inl ⟨by simpa using front.symm, rfl⟩
      | cons d between =>
        obtain ⟨rfl, rfl⟩ := List.cons.inj back
        exact .inr (.inl ⟨between, front, rfl⟩)
    · cases extra with
      | nil =>
        obtain ⟨-, rfl⟩ := List.cons.inj back
        exact .inl ⟨by simpa using front, rfl⟩
      | cons d between =>
        obtain ⟨rfl, rfl⟩ := List.cons.inj back
        exact .inr (.inr ⟨between, front, rfl⟩)
  · rintro (⟨rfl, rfl⟩ | ⟨between, rfl, rfl⟩ | ⟨between, rfl, rfl⟩) <;> simp

end ProxyControl.Text
