import ProxyControl.Pattern.Acl
import ProxyControl.Proofs.Argument
import ProxyControl.Proofs.Dispatch.Report
import ProxyControl.Proofs.Frame.Refusal
import ProxyControl.Proofs.Listing.Lines
import ProxyControl.Proofs.Request.Query
import ProxyControl.Proofs.Text.Cutting
import ProxyControl.Proofs.Text.Number

/-!
# Listed patterns

A listing shows a pattern behind its address. One reader reads the entries of maps and of ACLs,
and takes what follows the first blank of a pattern for a value. So a pattern of an ACL is read
back as it was added exactly if it holds no blank.
-/
namespace ProxyControl

open Text Listing

namespace PatternEntry

/-- The line in which a listing shows a pattern. -/
def lineOf (address : UInt64) (pattern : Text) : Text := "0x" ++ hex address.toNat ++ " " ++ pattern

/-- The entries that lines give, each by itself. -/
def ofLines (lines : List Text) : List PatternEntry :=
  lines.filterMap (record? (PatternEntry.read · |>.toOption))

theorem lineOf_eq (address : UInt64) (pattern : Text) :
    lineOf address pattern = ('0' :: 'x' :: hex address.toNat) ++ ' ' :: pattern := by
  simp [lineOf, ofString_eq]

theorem address?_hex (address : UInt64) :
    address? ('0' :: 'x' :: hex address.toNat) = some address := by
  simp [address?, ofString_eq, after?, hex64?_hex]

theorem isData_lineOf (address : UInt64) (pattern : Text) :
    isData (lineOf address pattern) = true := by
  rw [lineOf_eq]
  rfl

/-- A blank ends the address, which holds none. -/
theorem cutFirst?_lineOf (address : UInt64) (pattern : Text) :
    cutFirst? (· == ' ') (lineOf address pattern) =
      some ('0' :: 'x' :: hex address.toNat, pattern) := by
  rw [lineOf_eq]
  have blankless : ' ' ∉ '0' :: 'x' :: hex address.toNat := by
    simpa using not_mem_hex rfl address.toNat
  exact cutFirst?_append_cons blankless pattern

/-- An answer that begins with an entry is no refusal. -/
theorem refusal?_lineOf (address : UInt64) (pattern : Text) :
    Frame.refusal? (lineOf address pattern) = none := by
  rw [lineOf_eq]
  rfl

section Trimmed

variable {pattern : Text} (notBlank : isBlank pattern = false) (trimmed : trim pattern = pattern)
  (address : UInt64)
include notBlank trimmed

theorem trimEnd_lineOf : trimEnd (lineOf address pattern) = lineOf address pattern := by
  have regroup : lineOf address pattern =
      ('0' :: 'x' :: hex address.toNat ++ [' ']) ++ pattern := by
    simp [lineOf_eq]
  rw [regroup, trimEnd_append notBlank, (of_trim_eq_self trimmed).2]

theorem trim_lineOf : trim (lineOf address pattern) = lineOf address pattern := by
  have start : trimStart (lineOf address pattern) = lineOf address pattern := by
    rw [lineOf_eq]
    rfl
  rw [trim, start, trimEnd_lineOf notBlank trimmed]

/-- A pattern without a blank is all key. -/
theorem read_lineOf_of_not_mem (whole : ' ' ∉ pattern) :
    PatternEntry.read (lineOf address pattern) = .ok ⟨address, pattern, none⟩ := by
  simp only [PatternEntry.read, trim_lineOf notBlank trimmed, cutFirst?_lineOf,
    cutFirst?_eq_none whole, address?_hex]
  rfl

/-- Of a pattern with a blank, what stands behind the blank is taken for a value. -/
theorem read_lineOf_of_cut {key rest : Text} (cut : pattern = key ++ ' ' :: rest)
    (first : ' ' ∉ key) :
    PatternEntry.read (lineOf address pattern) = .ok ⟨address, key, some (trim rest)⟩ := by
  have split : cutFirst? (· == ' ') pattern = some (key, rest) :=
    cut ▸ cutFirst?_append_cons first rest
  -- the pattern does not end in white space, so there is something behind the blank
  have some : (trim rest).isEmpty = false := by
    rw [List.isEmpty_eq_false_iff, ne_eq, trim_eq_nil_iff, Bool.not_eq_true]
    have ends := (of_trim_eq_self trimmed).2
    rw [cut] at ends
    have behind := isBlank_of_trimEnd_append (List.cons_ne_nil ' ' rest) ends
    simpa [isBlank_cons, show isSpace ' ' = true from rfl] using behind
  simp only [PatternEntry.read, trim_lineOf notBlank trimmed, cutFirst?_lineOf, split,
    address?_hex, Option.getD_some, some]
  rfl

end Trimmed

end PatternEntry

/-! ### Listing what was added -/

namespace Acl

/-- Adding sends a pattern only if it passes as a value. -/
theorem isBlank_of_command?_add {id : PatternRef} {pattern : Text} {command : Command}
    (added : (add id pattern).command? = some command) : isBlank pattern = false := by
  cases checked : Argument.value "ACL value" pattern with
  | error failure =>
    rw [add, checked] at added
    cases added
  | ok value => exact (Argument.value_eq_ok checked).2.1

theorem perform_entries {id : PatternRef} {send : Command → Result Text} {answer : Text}
    (answered : send (.showPatternEntries .acl id) = .ok answer)
    (unmarked : Frame.answerRefusal? answer = none) :
    (entries id).perform send = .ok (PatternEntry.ofLines (lines answer)) := by
  rw [entries, Request.perform_about_query _ answered,
    Request.perform_query_of_none answered unmarked, readLines_eq]
  rfl

end Acl

/-- A pattern that was added is listed with its address. It is read back as it was added exactly
if it holds no blank; otherwise the first blank ends the key, and what follows it becomes a
value. -/
theorem lists_added_pattern {id : PatternRef} {pattern : Text} {command : Command}
    (added : (Acl.add id pattern).command? = some command) (trimmed : trim pattern = pattern)
    {send : Command → Result Text} {answer : Text}
    (answered : send (.showPatternEntries .acl id) = .ok answer) {address : UInt64}
    {before after : List Text}
    (listed : lines answer = before ++ PatternEntry.lineOf address pattern :: after)
    (unmarked : before ≠ [] → Frame.answerRefusal? answer = none) :
    (' ' ∉ pattern →
      (Acl.entries id).perform send = .ok
        (PatternEntry.ofLines before ++ ⟨address, pattern, none⟩ :: PatternEntry.ofLines after)) ∧
    ∀ key rest, pattern = key ++ ' ' :: rest → ' ' ∉ key →
      (Acl.entries id).perform send = .ok
        (PatternEntry.ofLines before ++
          ⟨address, key, some (trim rest)⟩ :: PatternEntry.ofLines after) := by
  have notBlank := Acl.isBlank_of_command?_add added
  have whole := PatternEntry.trimEnd_lineOf notBlank trimmed address
  -- the pattern's own line is no refusal, wherever it stands
  have unmarked : Frame.answerRefusal? answer = none := by
    cases before with
    | nil =>
      rw [Frame.answerRefusal?_of_lines listed whole (by simp [PatternEntry.lineOf_eq]),
        PatternEntry.refusal?_lineOf]
    | cons first more => exact unmarked (by simp)
  have reads {entry : PatternEntry}
      (read : PatternEntry.read (PatternEntry.lineOf address pattern) = .ok entry) :
      (Acl.entries id).perform send =
        .ok (PatternEntry.ofLines before ++ entry :: PatternEntry.ofLines after) := by
    have given : record? (PatternEntry.read · |>.toOption)
        (PatternEntry.lineOf address pattern) = some entry := by
      rw [record?, whole, PatternEntry.isData_lineOf, if_pos rfl, read]
      rfl
    rw [Acl.perform_entries answered unmarked, listed]
    simp [PatternEntry.ofLines, given]
  exact ⟨fun blankless => reads (PatternEntry.read_lineOf_of_not_mem notBlank trimmed address
      blankless),
    fun key rest cut first =>
      reads (PatternEntry.read_lineOf_of_cut notBlank trimmed address cut first)⟩

/-- A network is listed behind another one. -/
theorem lists_added_pattern_network :
    (Acl.add (.id 1) "10.0.0.0/8").command? = some (.ofText "add acl #1 10.0.0.0/8") ∧
      trim "10.0.0.0/8" = "10.0.0.0/8" ∧
      lines "0x1 ::1\n0x2a 10.0.0.0/8" =
        [("0x1 ::1" : Text)] ++ PatternEntry.lineOf 42 "10.0.0.0/8" :: [] ∧
      (Acl.entries (.id 1)).perform
          (Dispatcher.usual.send (Dispatch.saying "0x1 ::1\n0x2a 10.0.0.0/8")) =
        .ok (PatternEntry.ofLines ["0x1 ::1"] ++
          ⟨42, "10.0.0.0/8", none⟩ :: PatternEntry.ofLines []) := by
  have added : (Acl.add (.id 1) "10.0.0.0/8").command? =
      some (.ofText "add acl #1 10.0.0.0/8") := by decide +kernel
  have trimmed : trim "10.0.0.0/8" = "10.0.0.0/8" := by decide +kernel
  have answered : Dispatcher.usual.send (Dispatch.saying "0x1 ::1\n0x2a 10.0.0.0/8")
      (.showPatternEntries .acl (.id 1)) = .ok "0x1 ::1\n0x2a 10.0.0.0/8" := by decide +kernel
  have listed : lines "0x1 ::1\n0x2a 10.0.0.0/8" =
      [("0x1 ::1" : Text)] ++ PatternEntry.lineOf 42 "10.0.0.0/8" :: [] := by decide +kernel
  exact ⟨added, trimmed, listed,
    (lists_added_pattern added trimmed answered listed (by decide +kernel)).1 (by decide +kernel)⟩

/-- A browser's name with a blank in it is listed as a key with a value. -/
theorem splits_spaced_pattern :
    (Acl.add (.id 1) "Mozilla compatible").command? =
        some (.ofText "add acl #1 Mozilla compatible") ∧
      trim "Mozilla compatible" = "Mozilla compatible" ∧
      lines "0x2a Mozilla compatible" = [PatternEntry.lineOf 42 "Mozilla compatible"] ∧
      (Acl.entries (.id 1)).perform
          (Dispatcher.usual.send (Dispatch.saying "0x2a Mozilla compatible")) =
        .ok [⟨42, "Mozilla", some "compatible"⟩] := by
  decide +kernel

end ProxyControl
