import ProxyControl.Proofs.Argument
import ProxyControl.Proofs.Dispatch.Report
import ProxyControl.Proofs.Dispatch.Sending
import ProxyControl.Proofs.Listing.Entry
import ProxyControl.Proofs.Request.Query
import ProxyControl.Proofs.Store.Lifecycle
import ProxyControl.Store.CrtList

/-!
# Added entries

An entry is added as the line in which listings show it. The checks keep white space out of the
certificate and the filters, and nothing out of the options but what would end the line. So a line
is read back as the entry that it was made of exactly if no part of the entry looks like another
part of the grammar.
-/
namespace ProxyControl

open Text Listing

namespace CrtListEntry

/-- What a listing should show of an entry that was added. -/
def shown (entry : CrtListEntry) : CrtListEntry :=
  { certificate := entry.certificate
    sslBindConfig := entry.sslBindConfig.map trim
    sniFilters := entry.sniFilters.filter (!·.isEmpty) }

/-- No part of the entry is taken for another one: the certificate ends in no line number, the
options do not close their bracket, and where there are none, no filter opens it. -/
structure IsPlain (entry : CrtListEntry) : Prop where
  certificate : EntryLine.IsUnnumbered entry.certificate
  options : ∀ config ∈ entry.sslBindConfig, ']' ∉ config
  filters : entry.sslBindConfig = none →
    ∀ filter ∈ entry.shown.sniFilters.head?, filter.head? ≠ some '['

/-- The filters, with a blank in front of each. -/
def filtersText (entry : CrtListEntry) : Text :=
  entry.sniFilters.flatMap fun filter => ' ' :: filter

theorem toText_of_none {entry : CrtListEntry} (bare : entry.sslBindConfig = none) :
    entry.toText = entry.certificate ++ entry.filtersText := by
  simp [toText, bare, filtersText, ofString_eq]

theorem toText_of_some {entry : CrtListEntry} {config : Text}
    (bound : entry.sslBindConfig = some config) :
    entry.toText = entry.certificate ++ (' ' :: '[' :: config ++ ']' :: entry.filtersText) := by
  simp [toText, bound, filtersText, ofString_eq]

theorem head?_filtersText (entry : CrtListEntry) :
    ∀ c ∈ entry.filtersText.head?, isSpace c = true := by
  unfold filtersText
  cases entry.sniFilters with
  | nil => simp
  | cons filter rest =>
    rintro c ⟨⟩
    rfl

/-! ### Reading an entry back -/

section Read

variable {entry : CrtListEntry}

/-- An entry is shown as it was added if each of its parts is read as that part. -/
theorem ofLine_eq_shown_iff {line : EntryLine} :
    ofLine line = entry.shown ↔
      line.name = entry.certificate ∧ line.lineNumber = none ∧
        line.options = entry.sslBindConfig.map trim ∧ line.filters = entry.shown.sniFilters := by
  simp [ofLine, shown]

/-- The certificate is read as it is exactly if it ends in no line number. -/
theorem splitHead_certificate_iff {line : Text} :
    EntryLine.splitHead entry.certificate line = .ok (entry.certificate, none) ↔
      EntryLine.IsUnnumbered entry.certificate := by
  refine ⟨fun split => ?_, fun unnumbered => EntryLine.splitHead_of_isUnnumbered unnumbered line⟩
  by_contra numbered
  exact EntryLine.name_of_splitHead split numbered rfl

variable (nonempty : entry.certificate ≠ []) (word : ∀ c ∈ entry.certificate, isSpace c = false)
  (areWords : ∀ filter ∈ entry.sniFilters, ∀ c ∈ filter, isSpace c = false)
include areWords

theorem words_trimEnd_filtersText : words (trimEnd entry.filtersText) = entry.shown.sniFilters := by
  rw [words_trimEnd]
  exact words_append_flatMap areWords []

/-- Without options, what follows the certificate is taken for filters unless it opens a bracket. -/
theorem splitOptions_filters_iff {line : Text} :
    (∃ rest, EntryLine.splitOptions (trimStart (trimEnd entry.filtersText)) line =
        .ok (none, rest) ∧ entry.shown.sniFilters = words rest) ↔
      ∀ filter ∈ entry.shown.sniFilters.head?, filter.head? ≠ some '[' := by
  have first : (trimStart (trimEnd entry.filtersText)).head? =
      entry.shown.sniFilters.head?.bind List.head? := by
    rw [head?_trimStart, words_trimEnd_filtersText areWords]
  constructor
  · -- what begins with a bracket is read as options, and there would be none
    rintro ⟨rest, split, -⟩ filter member opens
    have bracket : (trimStart (trimEnd entry.filtersText)).head? = some '[' := by
      rw [first, Option.mem_def.mp member]
      exact opens
    exact EntryLine.options_of_splitOptions bracket split rfl
  · intro plain
    refine ⟨_, EntryLine.splitOptions_of_head? ?_ line, ?_⟩
    · rw [first]
      intro opens
      obtain ⟨filter, member, bracket⟩ := Option.bind_eq_some_iff.mp opens
      exact plain filter member bracket
    · rw [words_trimStart, words_trimEnd_filtersText areWords]

/-- Options are read as they are exactly if they do not close their bracket. -/
theorem splitOptions_config_iff {config line : Text} :
    (∃ rest, EntryLine.splitOptions ('[' :: config ++ ']' :: trimEnd entry.filtersText) line =
        .ok (some (trim config), rest) ∧ entry.shown.sniFilters = words rest) ↔ ']' ∉ config := by
  constructor
  · rintro ⟨rest, split, -⟩ inside
    -- the first bracket that closes is one of the options' own
    obtain ⟨front, back, rfl, clean⟩ := List.eq_append_cons_of_mem inside
    rw [show '[' :: (front ++ ']' :: back) ++ ']' :: trimEnd entry.filtersText =
        '[' :: front ++ ']' :: (back ++ ']' :: trimEnd entry.filtersText) by simp,
      EntryLine.splitOptions_of_cut clean] at split
    obtain ⟨same, -⟩ := Prod.mk.inj (Except.ok.inj split)
    have closes : ']' ∈ trim (front ++ ']' :: back) := (mem_trim_iff rfl).mpr inside
    rw [← Option.some.inj same, mem_trim_iff rfl] at closes
    exact clean closes
  · intro clean
    exact ⟨_, EntryLine.splitOptions_of_cut clean _ line,
      (words_trimEnd_filtersText areWords).symm⟩

include nonempty word

/-- An entry is read back from its line exactly if it is plain. -/
theorem read_toText_iff :
    (EntryLine.read entry.toText).map ofLine = .ok entry.shown ↔ entry.IsPlain := by
  -- the certificate is settled once; options and filters depend on what stands behind it
  have reads {behind : Text} (line : entry.toText = entry.certificate ++ behind)
      (ends : ∀ c ∈ behind.head?, isSpace c = true) :
      (EntryLine.read entry.toText).map ofLine = .ok entry.shown ↔
        EntryLine.IsUnnumbered entry.certificate ∧
          ∃ rest, EntryLine.splitOptions (trimStart (trimEnd behind))
            (entry.certificate ++ trimEnd behind) = .ok (entry.sslBindConfig.map trim, rest) ∧
              entry.shown.sniFilters = words rest := by
    rw [Result.map_eq_ok_iff, line]
    simp only [EntryLine.read_append_eq_ok_iff nonempty word ends, ofLine_eq_shown_iff]
    constructor
    · rintro ⟨line, ⟨first, rest, second, filters⟩, name, number, options, same⟩
      rw [name, number] at first
      rw [options] at second
      rw [same] at filters
      exact ⟨splitHead_certificate_iff.mp first, rest, second, filters⟩
    · rintro ⟨unnumbered, rest, split, filters⟩
      exact ⟨⟨entry.certificate, none, entry.sslBindConfig.map trim, entry.shown.sniFilters⟩,
        ⟨splitHead_certificate_iff.mpr unnumbered, rest, split, filters⟩, rfl, rfl, rfl, rfl⟩
  cases bound : entry.sslBindConfig with
  | none =>
    rw [reads (toText_of_none bound) entry.head?_filtersText, bound, Option.map_none,
      splitOptions_filters_iff areWords]
    constructor
    · rintro ⟨unnumbered, filters⟩
      exact ⟨unnumbered, by simp [bound], fun _ => filters⟩
    · exact fun plain => ⟨plain.certificate, plain.filters bound⟩
  | some config =>
    have behind : trimStart (trimEnd (' ' :: '[' :: config ++ ']' :: entry.filtersText)) =
        '[' :: config ++ ']' :: trimEnd entry.filtersText := by
      have gap : isBlank [' '] = true := rfl
      simpa using EntryLine.trim_options gap config entry.filtersText
    rw [reads (toText_of_some bound) (by rintro c ⟨⟩; rfl), bound, Option.map_some, behind,
      splitOptions_config_iff areWords]
    constructor
    · rintro ⟨unnumbered, clean⟩
      exact ⟨unnumbered, by simpa [bound] using clean, by simp [bound]⟩
    · exact fun plain => ⟨plain.certificate, plain.options config bound⟩

end Read

end CrtListEntry

/-! ### Adding an entry -/

/-- What is asked when an entry passes its checks. -/
theorem CrtList.of_command?_add {list : Text} {entry : CrtListEntry} {command : Command}
    (asked : (add list entry).command? = some command) :
    command = .addCrtListEntry list entry.toText ∧ IsLine entry.toText ∧
      entry.certificate ≠ [] ∧ (∀ c ∈ entry.certificate, isSpace c = false) ∧
        ∀ filter ∈ entry.sniFilters, ∀ c ∈ filter, isSpace c = false := by
  obtain ⟨name, named, onward⟩ := Request.of_command?_bind asked
  obtain ⟨certificate, certified, rest⟩ := Request.of_command?_bind onward
  obtain ⟨rfl, -⟩ := Argument.name_eq_ok named
  obtain ⟨rfl, notBlank, clean⟩ := Argument.name_eq_ok certified
  have word : ∀ c ∈ entry.certificate, isSpace c = false := by
    intro c member
    have breaks := clean c member
    rw [Argument.breaksName, Bool.or_eq_false_iff] at breaks
    exact breaks.1
  have nonempty : entry.certificate ≠ [] := by
    intro empty
    rw [empty] at notBlank
    cases notBlank
  split at rest
  next => cases rest
  next areWords =>
    obtain ⟨line, checked, sent⟩ := Request.of_command?_bind rest
    obtain ⟨rfl, -, isLine⟩ := Argument.value_eq_ok checked
    cases sent
    exact ⟨rfl, isLine, nonempty, word, by simpa using areWords⟩

/-- The line that adds an entry is read back as that entry exactly if the entry is plain. -/
theorem adds_entry {dispatcher : Dispatcher} {transport : Dispatch.Transport} {list : Text}
    {entry : CrtListEntry} {handover : Dispatch.Handover}
    (handed : handover ∈ dispatcher.handovers transport (CrtList.add list entry)) :
    ∃ line, handover.attempt.command.payload = some line ∧
      (∃ front, handover.attempt.command.wire = front ++ " <<\n" ++ line ++ "\n\n") ∧
      ((EntryLine.read line).map CrtListEntry.ofLine = .ok entry.shown ↔ entry.IsPlain) := by
  obtain ⟨command, asked, same⟩ := Dispatcher.command_of_mem_handovers handed
  obtain ⟨rfl, isLine, nonempty, word, areWords⟩ := CrtList.of_command?_add asked
  refine ⟨entry.toText, by rw [same]; rfl, ?_,
    CrtListEntry.read_toText_iff nonempty word areWords⟩
  -- a line has no line breaks that would be left out at its end
  have whole : trimLineBreaks entry.toText = entry.toText := by
    refine dropEndWhile_of_forall fun c member => ?_
    have inside := isLine c member
    simp only [Argument.breaksValue, Bool.or_eq_false_iff] at inside
    simp [isLineBreak, inside.1]
  rw [same]
  refine ⟨handover.attempt.command.address ++ Command.severityDirective ++ ";" ++
    "add ssl crt-list " ++ list, ?_⟩
  simp [Command.wire, Command.tail, Command.addCrtListEntry, Command.withPayload, Command.ofText,
    whole, Command.address]

/-- Options and a filter are read back. -/
theorem adds_entry_bound :
    ∃ handover ∈ Dispatcher.usual.handovers Transaction.agreeable
        (CrtList.add "list.txt" ⟨"site.pem", none, some " alpn h2 ", ["", "example.com"]⟩),
      ∃ line, handover.attempt.command.payload = some line ∧
        (∃ front, handover.attempt.command.wire = front ++ " <<\n" ++ line ++ "\n\n") ∧
        (EntryLine.read line).map CrtListEntry.ofLine =
          .ok ⟨"site.pem", none, some "alpn h2", ["example.com"]⟩ := by
  have handed : (⟨⟨0, false, .standard,
      .addCrtListEntry "list.txt" "site.pem [ alpn h2 ]  example.com", 0⟩, 0⟩ : Dispatch.Handover) ∈
        Dispatcher.usual.handovers Transaction.agreeable
          (CrtList.add "list.txt" ⟨"site.pem", none, some " alpn h2 ", ["", "example.com"]⟩) := by
    decide +kernel
  have plain :
      CrtListEntry.IsPlain ⟨"site.pem", none, some " alpn h2 ", ["", "example.com"]⟩ := by
    refine ⟨fun name digits same => ?_, by decide +kernel, nofun⟩
    have colon : ':' ∉ ("site.pem" : Text) := by decide +kernel
    exact absurd (by simp [show ("site.pem" : Text) = name ++ ':' :: digits from same]) colon
  obtain ⟨line, payload, wire, reads⟩ := adds_entry handed
  have shown : CrtListEntry.shown ⟨"site.pem", none, some " alpn h2 ", ["", "example.com"]⟩ =
      ⟨"site.pem", none, some "alpn h2", ["example.com"]⟩ := by decide +kernel
  exact ⟨_, handed, line, payload, wire, by rw [← shown]; exact reads.mpr plain⟩

/-- Options that close their bracket give part of themselves away to the filters. -/
theorem adds_other_entry :
    ∃ handover ∈ Dispatcher.usual.handovers Transaction.agreeable
        (CrtList.add "list.txt" ⟨"site.pem", none, some "alpn h2] www.example.com", []⟩),
      handover.attempt.command.payload = some "site.pem [alpn h2] www.example.com]" ∧
        (EntryLine.read "site.pem [alpn h2] www.example.com]").map CrtListEntry.ofLine =
          .ok ⟨"site.pem", none, some "alpn h2", ["www.example.com]"]⟩ := by
  decide +kernel

end ProxyControl
