import ProxyControl.Acme
import ProxyControl.Proofs.Request.Query
import ProxyControl.Proofs.Text.LineReading
import ProxyControl.Server.State

/-!
# Rows in order

Every row below the header of a table makes one record, or the whole table is refused with what
is wrong with its first bad row. So a row can neither be lost nor change its place.
-/
namespace ProxyControl.Listing

open Text

/-! ### Rows of a text -/

/-- The lines below the first one that is not blank, without blank lines and comments. -/
def rowLines (text : Text) : List Text :=
  (((lines text).filter (!isBlank ·)).drop 1).filter (·.head? != some '#')

/-- Rows are taken without the white space at their ends, and that changes none of them into a
comment. -/
theorem dataRows_eq (text : Text) : dataRows text = (rowLines text).map trimEnd := by
  have blank : (!isBlank ·) ∘ trimEnd = (!isBlank ·) :=
    funext fun line => congrArg (!·) (isBlank_trimEnd line)
  rw [dataRows, List.filter_map, blank, ← List.map_drop, List.filter_map, rowLines]
  congr 1
  -- what is left is not blank, and so has the same first character as before
  refine List.filter_congr fun line member => ?_
  have notBlank := (List.mem_filter.mp (List.mem_of_mem_drop member)).2
  rw [Function.comp_apply, head?_trimEnd (by simpa using notBlank)]

/-! ### One row -/

section Row

variable {α : Type} (delimiter : RowDelimiter) (expected : Nat) (build : List Text → Result α)

/-- A row that is long enough, and of which a record can be made. -/
def IsAccepted (row : Text) (record : α) : Prop :=
  expected ≤ (delimiter.fields (trimEnd row)).length ∧
    build (delimiter.fields (trimEnd row)) = .ok record

/-- How a row fails that is too short, or of which no record can be made. What cannot be read is
reported with the whole row, without the white space at its end. -/
inductive IsRejected (row : Text) : Failure → Prop
  | short (tooFew : (delimiter.fields (trimEnd row)).length < expected) :
    IsRejected row
      (.unread (.shortRow expected (delimiter.fields (trimEnd row)).length) (trimEnd row))
  | unread {fault : ReadFault} {line command : Text}
    (enough : expected ≤ (delimiter.fields (trimEnd row)).length)
    (fails : build (delimiter.fields (trimEnd row)) = .error (.parse fault line command)) :
    IsRejected row (.unread fault (trimEnd row))
  | failed {failure : Failure} (enough : expected ≤ (delimiter.fields (trimEnd row)).length)
    (fails : build (delimiter.fields (trimEnd row)) = .error failure)
    (other : ∀ fault line command, failure ≠ .parse fault line command) :
    IsRejected row failure

variable {delimiter expected build} {row : Text}

theorem readRow_eq_ok_iff {record : α} :
    readRow delimiter expected build (trimEnd row) = .ok record ↔
      IsAccepted delimiter expected build row record := by
  rw [readRow, IsAccepted]
  split
  next short => exact iff_of_false nofun fun accepted => absurd accepted.1 short.not_ge
  next enough => simp [Result.mapError_eq_ok_iff, not_lt.mp enough]

theorem readRow_eq_error_iff {failure : Failure} :
    readRow delimiter expected build (trimEnd row) = .error failure ↔
      IsRejected delimiter expected build row failure := by
  rw [readRow]
  constructor
  · intro failed
    split at failed
    next short =>
      cases failed
      exact .short short
    next enough =>
      have enough := not_lt.mp enough
      cases built : build (delimiter.fields (trimEnd row)) with
      | ok record =>
        rw [built] at failed
        cases failed
      | error reason =>
        rw [built] at failed
        obtain rfl := Except.error.inj failed
        -- of the failures of a builder only an unread one is given the row
        cases reason with
        | parse fault line command => exact .unread enough built
        | _ => exact .failed enough built nofun
  · rintro (short | ⟨enough, fails⟩ | ⟨enough, fails, other⟩)
    · exact if_pos short
    · rw [if_neg enough.not_gt, fails]
      rfl
    · rw [if_neg enough.not_gt, fails]
      cases failure with
      | parse fault line command => exact absurd rfl (other fault line command)
      | _ => rfl

end Row

/-! ### All rows -/

/-- A table is read exactly if every row is accepted, and then there is one record for each row, in
the order of the rows. Otherwise the first row that is rejected says why. So it is with the states
of servers and with renewed certificates, too. -/
theorem reads_every_row :
    (∀ {α : Type} (delimiter : RowDelimiter) (expected : Nat) (build : List Text → Result α)
      (text : Text),
      (∀ records, readRows delimiter expected build text = .ok records ↔
        List.Forall₂ (IsAccepted delimiter expected build) (rowLines text) records) ∧
      ∀ failure, readRows delimiter expected build text = .error failure ↔
        ∃ before row after, rowLines text = before ++ row :: after ∧
          (∀ other ∈ before, ∃ record, IsAccepted delimiter expected build other record) ∧
          IsRejected delimiter expected build row failure) ∧
    (∀ (send : Command → Result Text) (backend : Option Text) (states : List ServerStateRow),
      (ServerStateRow.list backend).perform send = .ok states ↔
        ∃ command answer, (ServerStateRow.list backend).command? = some command ∧
          send command = .ok answer ∧ Frame.answerRefusal? answer = none ∧
          List.Forall₂ (IsAccepted .whitespace ServerStateRow.columnCount ServerStateRow.ofRow)
            (rowLines answer) states) ∧
    ∀ (send : Command → Result Text) (certificates : List AcmeCertificate),
      AcmeCertificate.status.perform send = .ok certificates ↔
        ∃ answer, send .acmeStatus = .ok answer ∧ Frame.answerRefusal? answer = none ∧
          List.Forall₂ (IsAccepted .tab 7 AcmeCertificate.ofRow) (rowLines answer)
            certificates := by
  have accepts {α : Type} (delimiter : RowDelimiter) (expected : Nat)
      (build : List Text → Result α) (text : Text) (records : List α) :
      readRows delimiter expected build text = .ok records ↔
        List.Forall₂ (IsAccepted delimiter expected build) (rowLines text) records := by
    rw [readRows, dataRows_eq, Result.mapM_eq_ok_iff, List.forall₂_map_left_iff]
    simp only [readRow_eq_ok_iff]
  refine ⟨fun delimiter expected build text =>
    ⟨accepts delimiter expected build text, fun failure => ?_⟩, fun send backend states => ?_,
    fun send certificates => ?_⟩
  · rw [readRows, dataRows_eq, List.mapM_map, Result.mapM_eq_error_iff]
    simp only [Function.comp_apply, readRow_eq_ok_iff, readRow_eq_error_iff]
  · cases checked : backend.mapM (Argument.value "backend") with
    | error failure =>
      -- a request that is refused has no command and reads nothing
      have refused : ServerStateRow.list backend = .refused failure := by
        rw [ServerStateRow.list, checked]
        rfl
      rw [refused]
      exact iff_of_false nofun nofun
    | ok backend' =>
      have asks : ServerStateRow.list backend =
          .query (.showServersState backend') ServerStateRow.readAll := by
        rw [ServerStateRow.list, checked]
        rfl
      rw [asks, Request.perform_query_eq_ok_iff, ServerStateRow.readAll]
      simp only [accepts]
      exact ⟨fun ⟨answer, read⟩ => ⟨_, answer, rfl, read⟩,
        fun ⟨_, answer, rfl, read⟩ => ⟨answer, read⟩⟩
  · simp only [AcmeCertificate.status, Request.perform_query_eq_ok_iff, AcmeCertificate.readAll,
      accepts]

/-- A comment is no row, and a row that is too short is reported without its last blank. -/
theorem reads_every_row_short :
    rowLines "\nname,n\n#x\na,1\n\nb \n" = ["a,1", "b "] ∧
      readRows .comma 2 .ok "\nname,n\n#x\na,1\n\nb \n" =
        .error (.unread (.shortRow 2 1) "b") := by
  have rows : rowLines "\nname,n\n#x\na,1\n\nb \n" = ["a,1", "b "] := by decide +kernel
  have first : IsAccepted .comma 2 .ok "a,1" ["a", "1"] := ⟨by decide +kernel, by decide +kernel⟩
  have second : IsRejected .comma 2 (.ok : List Text → Result (List Text)) "b "
      (.unread (.shortRow 2 1) "b") := by
    have trimmed : trimEnd ("b " : Text) = "b" := by decide +kernel
    have found : (RowDelimiter.comma.fields (trimEnd "b ")).length = 1 := by decide +kernel
    rw [← trimmed, ← found]
    exact .short (by rw [found]; decide)
  exact ⟨rows, ((reads_every_row.1 .comma 2 .ok _).2 _).mpr
    ⟨["a,1"], "b ", [], rows, List.forall_mem_singleton.mpr ⟨_, first⟩, second⟩⟩

end ProxyControl.Listing
