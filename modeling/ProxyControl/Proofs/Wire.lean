import ProxyControl.Proofs.Operation
import ProxyControl.Proofs.Text.Occurrence

/-!
# What the far end reads

Whatever an operation is given for its arguments, the text that it sends is a single command
behind the directive that numbers severities. A far end that cuts what it gets into lines and
commands, and reads a payload up to the first blank line, is left with nothing when it has read
that command.
-/
namespace ProxyControl

open Text

/-! ### The far end -/

/-- What a far end makes of a text. -/
structure Heard where
  /-- The commands on the first line. -/
  commands : List Text
  /-- The lines that belong to the last of them. -/
  payload : List Text
  /-- The lines that are left over. -/
  rest : List Text
  deriving DecidableEq, Repr

namespace Heard

/-- The lines up to the first blank one, and those behind it. -/
def takeBlock : List Text → List Text × List Text
  | [] => ([], [])
  | line :: rest =>
    if isBlank line then ([], rest)
    else
      let (block, rest) := takeBlock rest
      (line :: block, rest)

/-- Reads the commands on the first line, and a payload if the line announces one at its end. -/
def ofText (text : Text) : Heard :=
  match pieces isNewline text with
  | [] => ⟨[], [], []⟩
  | line :: rest =>
    let commands := pieces (· == ';') line
    if (before? "<<" line).isSome then
      let (payload, rest) := takeBlock rest
      ⟨commands, payload, rest⟩
    else ⟨commands, [], rest⟩

end Heard

/-- A text that is one command behind the directive, and is read as such to its end. -/
inductive IsOneCommand (wire : Text) : Prop
  | bare {address text : Text}
      (addressed : address = [] ∨ ∃ process : UInt32, address = "@" ++ decimal process.toNat ++ " ")
      (line : ∀ c ∈ text, c ≠ '\n' ∧ c ≠ '\r' ∧ c ≠ ';')
      (shape : wire = address ++ "set severity-output number" ++ ";" ++ text ++ "\n")
      (commands : (Heard.ofText wire).commands = [address ++ "set severity-output number", text])
      (payload : (Heard.ofText wire).payload = [])
      (nothing : (Heard.ofText wire).rest.flatten = [])
  | block {address text body : Text}
      (addressed : address = [] ∨ ∃ process : UInt32, address = "@" ++ decimal process.toNat ++ " ")
      (line : ∀ c ∈ text, c ≠ '\n' ∧ c ≠ '\r' ∧ c ≠ ';')
      (nonempty : body ≠ [])
      (lines : ∀ line ∈ pieces (· == '\n') body, isBlank line = false)
      (shape : wire = address ++ "set severity-output number" ++ ";" ++ text ++ " <<\n" ++ body
        ++ "\n\n")
      (commands : (Heard.ofText wire).commands =
        [address ++ "set severity-output number", text ++ " <<"])
      (payload : (Heard.ofText wire).payload = pieces (· == '\n') body)
      (nothing : (Heard.ofText wire).rest.flatten = [])

namespace Heard

variable {directive text body : Text}

theorem takeBlock_of_isBlock {lines : List Text} (block : ∀ line ∈ lines, isBlank line = false)
    (rest : List Text) : takeBlock (lines ++ [] :: rest) = (lines, rest) := by
  induction lines with
  | nil => rfl
  | cons line lines ih =>
    rw [List.cons_append, takeBlock, if_neg (by simp [block line List.mem_cons_self]),
      ih fun other member => block other (List.mem_cons_of_mem _ member)]

private theorem semicolon_of_isLine (line : IsLine text) : ∀ c ∈ text, (c == ';') = false := by
  intro c member
  have clean := line c member
  simp only [Argument.breaksValue, Bool.or_eq_false_iff] at clean
  exact clean.2

/-- The two commands on the first line. -/
private theorem pieces_first (before : IsLine directive) (line : IsLine text) :
    pieces (· == ';') (directive ++ ';' :: text) = [directive, text] := by
  rw [pieces_append_cons rfl, pieces_of_forall (semicolon_of_isLine before),
    pieces_of_forall (semicolon_of_isLine line)]
  rfl

theorem ofText_bare (before : IsLine directive) (line : IsLine text) :
    (ofText (directive ++ ';' :: text ++ ['\n'])).commands = [directive, text] ∧
      (ofText (directive ++ ';' :: text ++ ['\n'])).payload = [] ∧
      (ofText (directive ++ ';' :: text ++ ['\n'])).rest.flatten = [] := by
  have inside : ∀ c ∈ directive ++ ';' :: text, isNewline c = false := by
    intro c member
    simp only [List.mem_append, List.mem_cons] at member
    rcases member with inDirective | rfl | inText
    · exact before.isNewline c inDirective
    · rfl
    · exact line.isNewline c inText
  have cut : pieces isNewline (directive ++ ';' :: text ++ ['\n']) =
      [directive ++ ';' :: text, []] := by
    rw [pieces_append_cons rfl, pieces_of_forall inside]
    rfl
  simp only [ofText, cut, pieces_first before line]
  -- even a line that announced a payload would leave nothing, as no text follows it
  split
  · exact ⟨rfl, rfl, rfl⟩
  · exact ⟨rfl, rfl, rfl⟩

theorem ofText_block (before : IsLine directive) (line : IsLine text) (block : IsBlock body) :
    ofText (directive ++ ';' :: text ++ [' ', '<', '<', '\n'] ++ body ++ ['\n', '\n']) =
      ⟨[directive, text ++ [' ', '<', '<']], pieces isNewline body, [[]]⟩ := by
  have first : IsLine (text ++ [' ', '<', '<']) := by
    simp [line, Argument.breaksValue]
  have inside : ∀ c ∈ directive ++ ';' :: (text ++ [' ', '<', '<']), isNewline c = false := by
    intro c member
    rw [List.mem_append, List.mem_cons] at member
    rcases member with inDirective | rfl | inText
    · exact before.isNewline c inDirective
    · rfl
    · exact first.isNewline c inText
  have cut : pieces isNewline
      (directive ++ ';' :: text ++ [' ', '<', '<', '\n'] ++ body ++ ['\n', '\n']) =
        (directive ++ ';' :: (text ++ [' ', '<', '<'])) ::
          (pieces isNewline body ++ [] :: [[]]) := by
    -- cut behind the first line, and again behind the body
    have regroup : directive ++ ';' :: text ++ [' ', '<', '<', '\n'] ++ body ++ ['\n', '\n'] =
        (directive ++ ';' :: (text ++ [' ', '<', '<'])) ++ '\n' :: (body ++ '\n' :: ['\n']) := by
      simp
    rw [regroup, pieces_append_cons rfl, pieces_of_forall inside, pieces_append_cons rfl]
    rfl
  -- the first line ends in the sign that announces a payload
  have announced :
      (before? "<<" (directive ++ ';' :: (text ++ [' ', '<', '<']))).isSome = true := by
    have mark : ("<<" : Text) = ['<', '<'] := by rw [ofString_eq]; rfl
    have close := before?_append (directive ++ ';' :: (text ++ [' '])) ['<', '<']
    rw [List.append_assoc, List.cons_append, List.append_assoc] at close
    rw [mark, show [' ', '<', '<'] = [' '] ++ ['<', '<'] from rfl, close]
    rfl
  simp only [ofText, cut, announced, if_true, takeBlock_of_isBlock block,
    pieces_first before first]

end Heard

namespace Command

theorem address_cases (command : Command) :
    command.address = [] ∨
      ∃ process : UInt32, command.address = "@" ++ decimal process.toNat ++ " " := by
  cases forwarded : command.forwardedTo with
  | none => exact .inl (by simp [address, forwarded])
  | some process => exact .inr ⟨process, by simp [address, forwarded]⟩

theorem isLine_address (command : Command) : IsLine command.address := by
  rcases command.address_cases with same | ⟨process, same⟩ <;>
    simp [same, Argument.breaksValue]

/-- A command that is one is read as one. -/
theorem IsOne.isOneCommand {command : Command} (one : command.IsOne) :
    IsOneCommand command.wire := by
  have before : IsLine (command.address ++ "set severity-output number") := by
    simp [isLine_address, Argument.breaksValue]
  have line : ∀ c ∈ command.text, c ≠ '\n' ∧ c ≠ '\r' ∧ c ≠ ';' := by
    intro c member
    simpa [Argument.breaksValue, and_assoc] using one.line c member
  -- the literals stay folded in the shape and are opened for the far end
  have semicolon : (";" : Text) = [';'] := by rw [ofString_eq]; rfl
  have newline : ("\n" : Text) = ['\n'] := by rw [ofString_eq]; rfl
  have newlines : ("\n\n" : Text) = ['\n', '\n'] := by rw [ofString_eq]; rfl
  have mark : (" <<" : Text) = [' ', '<', '<'] := by rw [ofString_eq]; rfl
  have markLine : (" <<\n" : Text) = [' ', '<', '<', '\n'] := by rw [ofString_eq]; rfl
  cases contents : command.payload with
  | none =>
    have shape : command.wire =
        command.address ++ "set severity-output number" ++ ";" ++ command.text ++ "\n" := by
      simp only [wire, tail, contents, severityDirective]
    have flat : command.wire =
        (command.address ++ "set severity-output number") ++ ';' :: command.text ++ ['\n'] := by
      rw [shape, semicolon, newline]
      simp
    obtain ⟨commands, empty, nothing⟩ := Heard.ofText_bare before one.line
    rw [← flat] at commands empty nothing
    exact .bare command.address_cases line shape commands empty nothing
  | some payload =>
    have block : IsBlock (trimLineBreaks payload) := (one.block payload contents).trimLineBreaks
    have shape : command.wire = command.address ++ "set severity-output number" ++ ";"
        ++ command.text ++ " <<\n" ++ trimLineBreaks payload ++ "\n\n" := by
      simp only [wire, tail, contents, severityDirective, List.append_assoc]
    have flat : command.wire = (command.address ++ "set severity-output number")
        ++ ';' :: command.text ++ [' ', '<', '<', '\n'] ++ trimLineBreaks payload
        ++ ['\n', '\n'] := by
      rw [shape, semicolon, newlines, markLine]
      simp
    have heard := Heard.ofText_block before one.line block
    rw [← flat] at heard
    refine .block command.address_cases line block.ne_nil block shape ?_ ?_ ?_
    · rw [heard, mark]
    · rw [heard]
      rfl
    · rw [heard]
      rfl

end Command

/-- Whatever an operation is given for its arguments, each text that it sends is one command. -/
theorem sends_one_command {α : Type} (dispatcher : Dispatcher) (transport : Dispatch.Transport)
    (operation : Operation α) :
    ∀ handover ∈ dispatcher.handovers transport operation.request,
      IsOneCommand handover.attempt.command.wire := by
  intro handover handed
  cases asked : operation.request with
  | refused failure =>
    rw [asked] at handed
    cases handed
  | ask command read =>
    rw [asked] at handed
    obtain ⟨route, routed, -, same⟩ := Dispatch.State.command_of_mem_handovers handed
    have one : command.IsOne := operation.isOne_request command (by rw [asked]; rfl)
    -- what the route may add goes in front of the directive
    rw [same]
    rcases (Dispatch.Route.of?_cases routed).2 with direct | ⟨process, behind⟩
    · rw [direct]
      exact one.isOneCommand
    · rw [behind]
      exact (one.forwarded process).isOneCommand

/-- An entry of a map takes one line. -/
theorem sends_one_command_addToMap :
    ∃ handover ∈ Dispatcher.usual.handovers Transaction.agreeable
        (Operation.addToMap (.id 3) (.id 3) "host" "web").request,
      handover.attempt.command.wire = "set severity-output number;add map #3 host web\n" ∧
        IsOneCommand handover.attempt.command.wire :=
  have handed : (⟨⟨0, false, .standard, .ofText "add map #3 host web", 0⟩, 0⟩ : Dispatch.Handover) ∈
      Dispatcher.usual.handovers Transaction.agreeable
        (Operation.addToMap (.id 3) (.id 3) "host" "web").request := by decide +kernel
  ⟨_, handed, by decide +kernel, sends_one_command _ _ _ _ handed⟩

end ProxyControl
