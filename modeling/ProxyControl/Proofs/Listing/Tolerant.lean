import ProxyControl.Proofs.Listing.Lines
import ProxyControl.Proofs.Operation

/-!
# Tolerant listings

What a tolerant listing reads of one line does not depend on any other line. So a line that makes
no sense costs nothing but itself, and texts that are put under one another are read one after the
other, whatever the line breaks are in each of them.
-/
namespace ProxyControl

open Text

namespace Listing

/-- What it means to read a text line by line. -/
structure IsLineLocal {α : Type} (read : Text → Option α) : Prop where
  /-- Two texts are read one after the other where a newline stands between them. -/
  append : ∀ first second : Text,
    readLines read (first ++ '\n' :: second) = readLines read first ++ readLines read second
  /-- So are any number of them, and white space at the end of a line, such as the carriage
  return in front of its newline or at the end of it all, makes no difference. -/
  rows : ∀ (rows : List (Text × Text)) (last gap : Text),
    (∀ row ∈ rows, isBlank row.2 = true) → isBlank gap = true →
    readLines read (rows.flatMap (fun row => row.1 ++ row.2 ++ ['\n']) ++ (last ++ gap)) =
      rows.flatMap (fun row => readLines read row.1) ++ readLines read last
  /-- A line with data gives the record that is read of it alone, if one is. -/
  line : ∀ line : Text, '\n' ∉ line → isBlank line = false → isComment line = false →
    readLines read line = (read (trimEnd line)).toList
  /-- A line that is blank, a comment or garbled can be left out wherever it stands. -/
  skips : ∀ first line second : Text, '\n' ∉ line →
    isBlank line = true ∨ isComment line = true ∨ read (trimEnd line) = none →
    readLines read (first ++ '\n' :: (line ++ '\n' :: second)) =
      readLines read (first ++ '\n' :: second)

variable {α : Type} {read : Text → Option α}

theorem readLines_rows {rows : List (Text × Text)} (ends : ∀ row ∈ rows, isBlank row.2 = true)
    (last : Text) :
    readLines read (rows.flatMap (fun row => row.1 ++ row.2 ++ ['\n']) ++ last) =
      rows.flatMap (fun row => readLines read row.1) ++ readLines read last := by
  induction rows with
  | nil => rfl
  | cons row rows ih =>
    obtain ⟨blank, others⟩ := List.forall_mem_cons.mp ends
    have split : (row :: rows).flatMap (fun row => row.1 ++ row.2 ++ ['\n']) ++ last =
        (row.1 ++ row.2) ++
          '\n' :: (rows.flatMap (fun row => row.1 ++ row.2 ++ ['\n']) ++ last) := by
      simp
    rw [split, readLines_append_cons, readLines_append_of_isBlank read row.1 blank, ih others,
      List.flatMap_cons, List.append_assoc]

theorem isLineLocal (read : Text → Option α) : IsLineLocal read where
  append := readLines_append_cons read
  rows rows last gap ends blank := by
    rw [readLines_rows ends, readLines_append_of_isBlank read last blank]
  line line whole notBlank noComment := by
    rw [readLines_of_not_mem read whole, record?, isData_trimEnd, notBlank, noComment]
    rfl
  skips first line second whole senseless := by
    have nothing : readLines read line = [] := by
      rw [readLines_of_not_mem read whole, record?_eq_none senseless, Option.toList_none]
    rw [readLines_append_cons, readLines_append_cons, readLines_append_cons, nothing,
      List.nil_append]

end Listing

/-! ### What is listed tolerantly -/

/-- The operations that list tolerantly, and what each of them reads a line by. -/
inductive Operation.ListsBy : {α : Type} → Operation (List α) → (Text → Option α) → Prop
  | acls : ListsBy .listAcls (PatternFile.read · |>.toOption)
  | maps : ListsBy .listMaps (PatternFile.read · |>.toOption)
  | aclEntries (id : PatternRef) (made : id.IsChecked) :
    ListsBy (.aclEntries id made) (PatternEntry.read · |>.toOption)
  | mapEntries (id : PatternRef) (made : id.IsChecked) :
    ListsBy (.mapEntries id made) (PatternEntry.read · |>.toOption)
  | storedFiles (kind : FileKind) : ListsBy (.listFiles kind) StoredFile.read
  | crtLists : ListsBy .listCrtLists fun line => (Listing.fields line).head?
  | crtListEntries (list : Text) : ListsBy (.crtListEntries list)
      fun line => (Listing.EntryLine.read line).toOption.map CrtListEntry.ofLine
  | ocspResponses : ListsBy .listOcspResponses OcspCertificate.read
  | sockets : ListsBy .sockets (CliSocket.read · |>.toOption)
  | tableEntries (table : Text) (filter : Option Text) :
    ListsBy (.tableEntries table filter) StickEntry.read

section

variable {α : Type} {operation : Operation (List α)} {read : Text → Option α}
  {command : Command} {send : Command → Result Text} {answer : Text}

/-- Such an operation gives all that can be read of the lines of its answer and never fails on
one. -/
theorem Operation.ListsBy.perform (lists : operation.ListsBy read)
    (asked : operation.request.command? = some command) (answered : send command = .ok answer)
    (unmarked : Frame.answerRefusal? answer = none) :
    operation.request.perform send = .ok (Listing.readLines read answer) := by
  have lines {command : Command} (answered : send command = .ok answer) :
      (Request.query command fun text => .ok (Listing.readLines read text)).perform send =
        .ok (Listing.readLines read answer) :=
    Request.perform_query_of_none answered unmarked
  have about {command : Command} (what : Text) (answered : send command = .ok answer) :
      (Request.about what
        (.query command fun text => .ok (Listing.readLines read text))).perform send =
          .ok (Listing.readLines read answer) := by
    rw [Request.perform_about_query what answered, lines answered]
    rfl
  cases lists with
  | acls | maps | storedFiles kind | crtLists | ocspResponses | sockets =>
    cases asked
    exact lines answered
  | aclEntries id made | mapEntries id made =>
    cases asked
    exact about _ answered
  | crtListEntries list =>
    obtain ⟨name, checked, asked⟩ := Request.of_command?_bind asked
    cases asked
    rw [Operation.request, CrtList.entries, checked]
    exact lines answered
  | tableEntries table filter =>
    obtain ⟨name, checked, asked⟩ := Request.of_command?_bind asked
    obtain ⟨narrowed, passed, asked⟩ := Request.of_command?_bind asked
    cases asked
    simp only [Operation.request, StickTable.entries, checked, passed, bind, Except.bind]
    exact about _ answered

end

/-- Tolerant reading goes line by line for every way of reading a line, and so does every
operation that lists tolerantly. -/
theorem reads_line_by_line :
    (∀ {α : Type} (read : Text → Option α), Listing.IsLineLocal read) ∧
    ∀ {α : Type} {operation : Operation (List α)} {read : Text → Option α},
      operation.ListsBy read →
      ∀ (command : Command) (send : Command → Result Text) (first second : Text),
        operation.request.command? = some command →
        send command = .ok (first ++ '\n' :: second) →
        Frame.answerRefusal? (first ++ '\n' :: second) = none →
        operation.request.perform send =
          .ok (Listing.readLines read first ++ Listing.readLines read second) := by
  refine ⟨Listing.isLineLocal, fun lists command send first second asked answered unmarked => ?_⟩
  rw [lists.perform asked answered unmarked, Listing.readLines_append_cons]

/-- What stands above the seam of a mixed listing, at which there is a carriage return. -/
def aboveSeam : Text := "# transaction\r\n*/etc/a.pem\r\n/etc/b.pem\r/etc/c.pem\n*/etc/d.pem\r"

def belowSeam : Text := "\r\n # kept\n/etc/ca.pem - 2 certificate(s) \r\n/etc/e.pem\r"

/-- A comment, a line of two paths and a blank line cost no other record. -/
theorem reads_line_by_line_mixed :
    Listing.IsLineLocal StoredFile.read ∧
    (Operation.listFiles .caFile).request.command? = some (.showStore "ca-file") ∧
    Dispatcher.usual.send (Dispatch.saying (aboveSeam ++ '\n' :: belowSeam))
      (.showStore "ca-file") = .ok (aboveSeam ++ '\n' :: belowSeam) ∧
    Frame.answerRefusal? (aboveSeam ++ '\n' :: belowSeam) = none ∧
    (Operation.listFiles .caFile).request.perform
        (Dispatcher.usual.send (Dispatch.saying (aboveSeam ++ '\n' :: belowSeam))) =
      .ok (Listing.readLines StoredFile.read aboveSeam ++
        Listing.readLines StoredFile.read belowSeam) ∧
    Listing.readLines StoredFile.read aboveSeam =
      [⟨"/etc/a.pem", "a.pem", true, none⟩, ⟨"/etc/d.pem", "d.pem", true, none⟩] ∧
    Listing.readLines StoredFile.read belowSeam =
      [⟨"/etc/ca.pem", "ca.pem", false, some 2⟩, ⟨"/etc/e.pem", "e.pem", false, none⟩] := by
  have answered : Dispatcher.usual.send (Dispatch.saying (aboveSeam ++ '\n' :: belowSeam))
      (.showStore "ca-file") = .ok (aboveSeam ++ '\n' :: belowSeam) := by decide +kernel
  have unmarked : Frame.answerRefusal? (aboveSeam ++ '\n' :: belowSeam) = none := by
    decide +kernel
  exact ⟨reads_line_by_line.1 StoredFile.read, rfl, answered, unmarked,
    reads_line_by_line.2 (.storedFiles .caFile) _ _ _ _ rfl answered unmarked,
    by decide +kernel, by decide +kernel⟩

end ProxyControl
