import ProxyControl.Command
import ProxyControl.Proofs.Argument

/-!
# What a payload carries

A payload is trimmed, its blank lines are left out, and its lines may end in carriage returns
that are there or not. None of that touches its contents: the lines that are not blank, each
without the carriage returns at its end. They arrive as they were given, and nothing else does.
-/
namespace ProxyControl

open Text

namespace Text

/-! ### Carriage returns -/

/-- A line without the carriage returns at its end. -/
def withoutReturns (line : Text) : Text := dropEndWhile (· == '\r') line

theorem withoutReturns_concat (line : Text) :
    withoutReturns (line ++ ['\r']) = withoutReturns line := by
  rw [withoutReturns, dropEndWhile_concat]
  rfl

/-- What stands in front of a line stays there, unless nothing is left of the line. -/
theorem withoutReturns_cons (c : Char) (line : Text) :
    withoutReturns (c :: line) =
      if (withoutReturns line).isEmpty then withoutReturns [c] else c :: withoutReturns line := by
  simp only [withoutReturns, dropEndWhile, List.reverse_cons, List.dropWhile_append,
    List.isEmpty_reverse, List.reverse_nil, List.nil_append]
  split
  · rfl
  · simp

theorem isBlank_withoutReturns (line : Text) : isBlank (withoutReturns line) = isBlank line := by
  induction line using List.reverseRecOn with
  | nil => rfl
  | append_singleton line c ih =>
    rw [withoutReturns, dropEndWhile_concat]
    split
    next return' =>
      have space : isSpace c = true := by
        rw [eq_of_beq return']
        decide
      rw [← withoutReturns, ih]
      simp [isBlank, space]
    next => rfl

/-! ### Contents -/

/-- The lines of a text that are not blank, without the carriage returns at their ends. -/
def contents (text : Text) : List Text :=
  ((pieces isNewline text).map withoutReturns).filter (!isBlank ·)

theorem contents_of_isBlock {text : Text} (block : IsBlock text) :
    contents text = (pieces isNewline text).map withoutReturns := by
  rw [contents, List.filter_eq_self]
  intro line member
  obtain ⟨piece, inText, rfl⟩ := List.mem_map.mp member
  rw [isBlank_withoutReturns, block piece inText]
  rfl

theorem contents_concat {c : Char} (isBreak : isLineBreak c = true) (text : Text) :
    contents (text ++ [c]) = contents text := by
  rw [isLineBreak, Bool.or_eq_true, beq_iff_eq, beq_iff_eq] at isBreak
  rcases isBreak with rfl | rfl
  · rw [contents, map_pieces_concat rfl withoutReturns_concat, contents]
  · -- there is an empty piece behind the newline
    rw [contents, pieces_append_cons rfl, List.map_append, List.filter_append]
    exact List.append_nil _

theorem contents_trimLineBreaks (text : Text) :
    contents (trimLineBreaks text) = contents text := by
  induction text using List.reverseRecOn with
  | nil => rfl
  | append_singleton text c ih =>
    rw [trimLineBreaks, dropEndWhile_concat]
    split
    next isBreak => rw [← trimLineBreaks, ih, contents_concat isBreak]
    next => rfl

/-- The contents can be read off the lines as well as off the pieces. -/
theorem contents_eq_lines {text : Text} (nonempty : text ≠ [])
    (unended : text.getLast? ≠ some '\n') :
    contents text = ((lines text).filter (!isBlank ·)).map withoutReturns := by
  have alike : (lines text).map withoutReturns = (pieces isNewline text).map withoutReturns := by
    refine map_lines rfl (fun c line line' same => ?_) nonempty unended
    rw [withoutReturns_cons c line, withoutReturns_cons c line', same]
  rw [contents, ← alike, List.filter_map]
  congr 1
  exact List.filter_congr fun line _ => by rw [Function.comp_apply, isBlank_withoutReturns]

end Text

namespace Argument

variable {what text checked : Text}

theorem exists_payload_eq_error_iff :
    (∃ failure, payload what text = .error failure) ↔ isBlank text = true := by
  constructor
  · rintro ⟨failure, refused⟩
    rw [← Bool.not_eq_false]
    intro notBlank
    obtain ⟨body, passed⟩ : ∃ body, payload what text = .ok body :=
      exists_payload_of_not_isBlank notBlank
    rw [passed] at refused
    cases refused
  · exact fun blank => ⟨_, payload_of_isBlank blank⟩

/-- The check keeps the contents, whether it passes the text as it is or puts it together anew. -/
theorem contents_payload (h : payload what text = .ok checked) :
    contents checked = contents text := by
  have block : IsBlock checked := payload_eq_ok h
  obtain ⟨notBlank, passed⟩ := payload_cases h
  rw [← contents_trimLineBreaks text]
  rcases passed with ⟨rfl, -⟩ | rfl
  · rfl
  · have some : (lines (trimLineBreaks text)).filter (!isBlank ·) ≠ [] := by
      intro none
      rw [none] at block
      exact block.ne_nil rfl
    -- the lines that are kept are the contents but for their carriage returns
    rw [contents_of_isBlock block, pieces_joinLines_filter some,
      contents_eq_lines (trimLineBreaks_ne_nil notBlank) (getLast?_trimLineBreaks_ne text)]

end Argument

/-! ### On the wire -/

/-- The command announces a payload, and the body is what stands between the announcement and the
empty line that ends it: no line of the body ends it before. -/
structure Command.Carries (command : Command) (body : Text) : Prop where
  wire : command.wire = command.address ++ "set severity-output number" ++ ";" ++ command.text ++
    " <<\n" ++ body ++ "\n\n"
  unbroken : ∀ line ∈ pieces isNewline body, isBlank line = false

/-- A payload is refused if and only if all its lines are blank. If it passes, the command that
carries it has a body that holds the lines that are not blank, in their order and no others. -/
theorem carries_payload (what text : Text) :
    ((∃ failure, Argument.payload what text = .error failure) ↔
      ∀ line ∈ pieces isNewline text, isBlank line = true) ∧
    ∀ checked, Argument.payload what text = .ok checked → ∀ command : Command,
      ∃ body, (command.withPayload checked).Carries body ∧
        (pieces isNewline body).map withoutReturns = contents text := by
  refine ⟨Argument.exists_payload_eq_error_iff.trans isBlank_iff_pieces, ?_⟩
  intro checked passed command
  have block : IsBlock (trimLineBreaks checked) := (Argument.payload_eq_ok passed).trimLineBreaks
  refine ⟨trimLineBreaks checked, ⟨?_, block⟩, ?_⟩
  · simp [Command.wire, Command.tail, Command.withPayload, Command.address,
      Command.severityDirective]
  · rw [← contents_of_isBlock block, contents_trimLineBreaks, Argument.contents_payload passed]

/-- Two certificates, with an empty line and one of white space between them. -/
def spacedBundle : Text := "one\r\r\n\r\n\u2003\ntwo\r\n"

theorem carries_payload_bundle :
    Argument.payload "certificate" spacedBundle = .ok "one\r\ntwo" ∧
      ∃ body, ((Command.ofText "set ssl cert site").withPayload "one\r\ntwo").Carries body ∧
        (pieces isNewline body).map withoutReturns = ["one", "two"] := by
  have passed : Argument.payload "certificate" spacedBundle = .ok "one\r\ntwo" := by decide +kernel
  obtain ⟨body, carries, kept⟩ :=
    (carries_payload "certificate" spacedBundle).2 _ passed (.ofText "set ssl cert site")
  refine ⟨passed, body, carries, ?_⟩
  rw [kept]
  decide +kernel

end ProxyControl
