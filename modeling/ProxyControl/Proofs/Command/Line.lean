import ProxyControl.Store.File
import ProxyControl.Proofs.Argument

/-!
# Commands on one line

A command is read as one command when its text keeps to its line and its payload, if it has one,
holds no blank line. The words of the vocabulary keep to their line by themselves, so a command
does so if its arguments do.
-/
namespace ProxyControl

open Text

/-! ### Texts -/

namespace Text

@[simp] theorem isLine_nil : IsLine [] := by
  simp [IsLine]

@[simp] theorem isLine_cons {c : Char} {rest : Text} :
    IsLine (c :: rest) ↔ Argument.breaksValue c = false ∧ IsLine rest := by
  simp [IsLine]

@[simp] theorem isLine_append {first second : Text} :
    IsLine (first ++ second) ↔ IsLine first ∧ IsLine second := by
  simp [IsLine, or_imp, forall_and]

@[simp] theorem isLine_ofString (literal : String) :
    IsLine (ofString literal) ↔ IsLine literal.toList := by
  rw [ofString_eq]

@[simp] theorem isLine_decimal (n : Nat) : IsLine (decimal n) := by
  intro c member
  -- none of the characters that break a value is a digit
  have digit := Nat.isDigit_of_mem_toDigits (by decide) (by decide) member
  rw [← Bool.not_eq_true]
  intro breaks
  simp only [Argument.breaksValue, Bool.or_eq_true, beq_iff_eq] at breaks
  rcases breaks with (rfl | rfl) | rfl <;> cases digit

end Text

/-! ### Arguments that need no check -/

@[simp] theorem isLine_word (kind : PatternKind) : IsLine kind.word := by
  cases kind <;> simp [PatternKind.word, Argument.breaksValue]

@[simp] theorem isLine_store (kind : FileKind) : IsLine kind.store := by
  cases kind <;> simp [FileKind.store, Argument.breaksValue]

@[simp] theorem isLine_stateWord (state : ServerState) : IsLine state.word := by
  cases state <;> simp [ServerState.word, Argument.breaksValue]

@[simp] theorem isLine_sideWord (side : ErrorSide) : IsLine side.word := by
  cases side <;> simp [ErrorSide.word, Argument.breaksValue]

/-! ### References -/

/-- The references that can be made: any number, and the names that pass their check. -/
inductive PatternRef.IsChecked : PatternRef → Prop
  | id (number : UInt32) : IsChecked (.id number)
  | file {name : Text} {ref : PatternRef} (made : PatternRef.ofFile name = .ok ref) : IsChecked ref

theorem PatternRef.IsChecked.isLine {ref : PatternRef} (checked : ref.IsChecked) :
    IsLine ref.toText := by
  cases checked with
  | id number => simp [toText, Argument.breaksValue]
  | @file name ref made =>
    unfold ofFile at made
    cases passed : Argument.name "file name" name with
    | error failure => simp [passed, Except.map] at made
    | ok file =>
      simp only [passed, Except.map, Except.ok.injEq] at made
      subst made
      exact Argument.isLine_of_name passed

/-- The references that can be made to a server: both names pass their checks. -/
def ServerRef.IsChecked (ref : ServerRef) : Prop :=
  ∃ backend server, ServerRef.ofNames backend server = .ok ref

theorem ServerRef.IsChecked.isLine {ref : ServerRef} (checked : ref.IsChecked) :
    IsLine ref.toText := by
  obtain ⟨backend, server, made⟩ := checked
  unfold ofNames at made
  cases first : Argument.name "backend name" backend with
  | error failure => simp [first, bind, Except.bind] at made
  | ok one =>
    cases second : Argument.name "server name" server with
    | error failure => simp [first, second, bind, Except.bind] at made
    | ok two =>
      simp only [first, second, bind, Except.bind, pure, Except.pure, Except.ok.injEq] at made
      subst made
      simp [toText, Argument.isLine_of_name first, Argument.isLine_of_name second,
        Argument.breaksValue]

/-! ### Commands -/

/-- A command that is read as one, with its payload if it has one. -/
structure Command.IsOne (command : Command) : Prop where
  line : IsLine command.text
  block : ∀ payload ∈ command.payload, IsBlock payload

namespace Command

@[simp] theorem isOne_ofText {text : Text} : (ofText text).IsOne ↔ IsLine text := by
  constructor
  · exact fun one => one.line
  · exact fun line => ⟨line, by simp [ofText]⟩

@[simp] theorem isOne_withPayload {text body : Text} :
    ((ofText text).withPayload body).IsOne ↔ IsLine text ∧ IsBlock body := by
  constructor
  · exact fun one => ⟨one.line, one.block body rfl⟩
  · exact fun both => ⟨both.1, by simpa [withPayload] using both.2⟩

@[simp] theorem isOne_onPatterns {verb : Text} {kind : PatternKind} {id : PatternRef} :
    (onPatterns verb kind id).IsOne ↔ IsLine verb ∧ IsLine id.toText := by
  simp [onPatterns, Argument.breaksValue]

@[simp] theorem isOne_onPattern {verb key : Text} {kind : PatternKind} {id : PatternRef} :
    (onPattern verb kind id key).IsOne ↔ IsLine verb ∧ IsLine id.toText ∧ IsLine key := by
  simp [onPattern, Argument.breaksValue]

@[simp] theorem isOne_onStored {verb store name : Text} :
    (onStored verb store name).IsOne ↔ IsLine verb ∧ IsLine store ∧ IsLine name := by
  simp [onStored, Argument.breaksValue]

theorem isOne_showBackendErrors {backend : BackendId}
    (named : ∀ name, backend = .name name → IsLine name) (side : ErrorSide) :
    (showBackendErrors backend side).IsOne := by
  have line : IsLine backend.toText := by
    cases backend with
    | all => simp [BackendId.toText, Argument.breaksValue]
    | id number =>
      -- the sign of a negative number breaks nothing either
      simp only [BackendId.toText]
      split <;> simp [Argument.breaksValue]
    | name text => exact named text rfl
  unfold showBackendErrors
  split <;> simp [line, Argument.breaksValue]

theorem isOne_showTableEntries {table : Text} {filter : Option Text} (named : IsLine table)
    (line : ∀ text ∈ filter, IsLine text) : (showTableEntries table filter).IsOne := by
  cases filter with
  | none => simp [showTableEntries, named, Argument.breaksValue]
  | some text => simp [showTableEntries, named, line text rfl, Argument.breaksValue]

theorem isOne_showServersState {backend : Option Text} (line : ∀ text ∈ backend, IsLine text) :
    (showServersState backend).IsOne := by
  cases backend with
  | none => simp [showServersState, Argument.breaksValue]
  | some text => simp [showServersState, line text rfl, Argument.breaksValue]

theorem isOne_setServerAddress {server : ServerRef} {address : Text} (made : server.IsChecked)
    (line : IsLine address) (port : Option UInt16) :
    (setServerAddress server address port).IsOne := by
  cases port <;> simp [setServerAddress, made.isLine, line, Argument.breaksValue]

/-- The worker behind the master that a command is passed on to changes neither its text nor its
payload. -/
theorem IsOne.forwarded {command : Command} (one : command.IsOne) (process : UInt32) :
    (command.forwarded process).IsOne :=
  ⟨one.line, one.block⟩

end Command

end ProxyControl
