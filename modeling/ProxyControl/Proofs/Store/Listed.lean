import Mathlib.Data.List.Forall2
import ProxyControl.Proofs.Dispatch.SingleCall
import ProxyControl.Proofs.Frame.Refusal
import ProxyControl.Proofs.Request.Query
import ProxyControl.Proofs.Text.Cutting
import ProxyControl.Store.CrtList
import ProxyControl.Store.File

/-!
# Listed paths

A listing of files shows one path a line. It is read back as it is, path by path, as long as
the first path does not look like a refusal: the mark of a refusal is looked for in the second
character of the first line, and a path may hold anything there.
-/
namespace ProxyControl

open Text Listing

/-- A path that means nothing else in a listing. -/
structure IsListable (path : Text) : Prop where
  nonempty : path ≠ []
  oneWord : path.any isSpace = false
  noColon : ':' ∉ path
  start : path.head? ∉ [some '#', some '*', some '[', some '\x00', some '>']

instance (path : Text) : Decidable (IsListable path) :=
  decidable_of_iff
    (path ≠ [] ∧ path.any isSpace = false ∧ ':' ∉ path ∧
      path.head? ∉ [some '#', some '*', some '[', some '\x00', some '>'])
    ⟨fun ⟨nonempty, oneWord, noColon, start⟩ => ⟨nonempty, oneWord, noColon, start⟩,
      fun ⟨nonempty, oneWord, noColon, start⟩ => ⟨nonempty, oneWord, noColon, start⟩⟩

theorem IsListable.word {path : Text} (listable : IsListable path) :
    ∀ c ∈ path, isSpace c = false := by
  simpa using listable.oneWord

/-- The record of a file that is listed by its path alone. -/
structure StoredFile.Shows (listed : Text) (file : StoredFile) : Prop where
  path : file.path = listed
  /-- What follows the last slash, or all of the path where there is none. -/
  description : '/' ∉ file.description ∧
    (file.description = listed ∨ ∃ folder, listed = folder ++ '/' :: file.description)
  inTransaction : file.inTransaction = false
  entries : file.entries = none

def StoredFile.ofPath (path : Text) : StoredFile :=
  { path, description := baseName path, inTransaction := false, entries := none }

theorem StoredFile.shows_ofPath (path : Text) : Shows path (ofPath path) := by
  refine ⟨rfl, ?_, rfl, rfl⟩
  simp only [ofPath, baseName]
  cases cut : cutLast? (· == '/') path with
  | none =>
    have noSlash := cutLast?_eq_none_iff.mp cut
    exact ⟨fun slash => by simpa using noSlash '/' slash, .inl rfl⟩
  | some parts =>
    obtain ⟨folder, name⟩ := parts
    obtain ⟨c, rfl, isSlash, noSlash⟩ := of_cutLast?_eq_some cut
    obtain rfl : c = '/' := by simpa using isSlash
    exact ⟨fun slash => by simpa using noSlash '/' slash, .inr ⟨folder, rfl⟩⟩

/-! ### One path -/

section Path

variable {path : Text} (listable : IsListable path)
include listable

theorem IsListable.isData : isData path = true := by
  obtain ⟨c, rest, rfl⟩ := List.exists_cons_of_ne_nil listable.nonempty
  have first : c ≠ '#' := by
    rintro rfl
    exact listable.start (by simp)
  have space := listable.word c List.mem_cons_self
  simp [isData, isComment, isBlank_cons, trimStart, space, first]

/-- Nothing is in front of the path, and nothing behind it. -/
theorem IsListable.read_eq : StoredFile.read path = some (.ofPath path) := by
  have unstarred : after? "*" path = none := by
    refine after?_eq_none_of_head? (c := '*') (by rw [ofString_eq]; rfl) fun starred => ?_
    rw [Option.mem_def] at starred
    exact listable.start (by simp [starred])
  -- no count of entries follows the path, for it would follow a blank
  have undivided : cutAt? " - " path = none := by
    refine cutAt?_eq_none (c := ' ') (by rw [ofString_eq]; rfl) fun spaced => ?_
    have space := listable.word ' ' spaced
    cases space
  have one : path ≠ [] ∧ ∀ c ∈ path, isSpace c = false := ⟨listable.nonempty, listable.word⟩
  rw [StoredFile.read, trim_of_forall listable.word]
  simp only [withoutStart, startsWith, unstarred, StoredFile.splitCount, Option.getD_none,
    undivided]
  simpa [StoredFile.ofPath] using one

theorem IsListable.head?_fields : (fields path).head? = some path := by
  have whole : ∀ c ∈ path, (isSpace c || c == ':') = false := by
    intro c member
    have ne : c ≠ ':' := fun same => listable.noColon (same ▸ member)
    simp [listable.word c member, ne]
  rw [fields, runs, pieces_of_forall whole]
  simp [listable.nonempty]

end Path

/-! ### Listings -/

section Listing

variable {first : Text} {more : List Text} {answer : Text}
  (listable : ∀ path ∈ first :: more, IsListable path) (listed : lines answer = first :: more)
include listable listed

/-- Every path is a line with something on it. -/
theorem dataLines_of_listable : dataLines answer = first :: more := by
  have trimmed : (first :: more).map trimEnd = first :: more :=
    (List.map_congr_left fun path member =>
      trimEnd_of_forall (listable path member).word).trans (List.map_id' _)
  rw [dataLines, listed, trimmed, List.filter_eq_self]
  exact fun path member => (listable path member).isData

/-- A reader that understands every path reads one record a line. -/
theorem readLines_of_listable {α : Type} {read : Text → Option α} {record : Text → α}
    (reads : ∀ path, IsListable path → read path = some (record path)) :
    readLines read answer = (first :: more).map record := by
  rw [readLines, dataLines_of_listable listable listed, ← List.filterMap_eq_map']
  exact List.filterMap_congr fun path member => reads path (listable path member)

theorem answerRefusal?_of_listable : Frame.answerRefusal? answer = Frame.refusal? first :=
  have isFirst := listable first List.mem_cons_self
  Frame.answerRefusal?_of_lines listed (trimEnd_of_forall isFirst.word) isFirst.nonempty

/-- A listing of paths is read back path by path, unless its first path has a failing severity for
its second character: then it is taken for a refusal, whatever the other paths are. -/
theorem reads_listed_paths (send : Command → Result Text) :
    ((∀ severity ≤ 3, first[1]? ≠ some (Nat.digitChar severity)) →
      (∀ kind : FileKind, send (.showStore kind.store) = .ok answer →
        ∃ files, (StoredFile.list kind).perform send = .ok files ∧
          List.Forall₂ StoredFile.Shows (first :: more) files) ∧
      (send .showCrtLists = .ok answer → CrtList.list.perform send = .ok (first :: more))) ∧
    ∀ severity ≤ 3, first[1]? = some (Nat.digitChar severity) → ∃ message,
      (∀ kind : FileKind, send (.showStore kind.store) = .ok answer →
        (StoredFile.list kind).perform send = .error
          (.protocol (some severity) message answer (Command.showStore kind.store).text)) ∧
      (send .showCrtLists = .ok answer → CrtList.list.perform send = .error
          (.protocol (some severity) message answer Command.showCrtLists.text)) := by
  -- the first path alone decides how the answer is taken
  have judged := answerRefusal?_of_listable listable listed
  constructor
  · intro harmless
    have unmarked : Frame.answerRefusal? answer = none := by
      rw [judged, Option.eq_none_iff_forall_ne_some]
      rintro ⟨severity, message⟩ found
      obtain ⟨small, second⟩ := Frame.exists_refusal?_iff.mp ⟨message, found⟩
      exact harmless severity small second
    constructor
    · intro kind answered
      refine ⟨(first :: more).map .ofPath, ?_, ?_⟩
      · rw [StoredFile.list, Request.perform_query_of_none answered unmarked,
          readLines_of_listable listable listed fun path isPath => isPath.read_eq]
        rfl
      · rw [List.forall₂_map_right_iff, List.forall₂_same]
        exact fun path _ => StoredFile.shows_ofPath path
    · intro answered
      rw [CrtList.list, Request.perform_query_of_none answered unmarked,
        readLines_of_listable listable listed fun path isPath => isPath.head?_fields, List.map_id']
      rfl
  · rintro severity small second
    obtain ⟨message, found⟩ := Frame.exists_refusal?_iff.mpr ⟨small, second⟩
    rw [← judged] at found
    exact ⟨message, fun kind answered => Request.perform_query_of_some answered found,
      fun answered => Request.perform_query_of_some answered found⟩

end Listing

/-- Two files of one folder are listed. -/
theorem reads_listed_paths_folder :
    (∀ path ∈ [("/etc/ssl/a.pem" : Text), "/etc/ssl/b.pem"], IsListable path) ∧
      lines "/etc/ssl/a.pem\n/etc/ssl/b.pem" =
        [("/etc/ssl/a.pem" : Text), "/etc/ssl/b.pem"] ∧
      ∃ files, (StoredFile.list .certificate).perform
          (Dispatcher.usual.send (Dispatch.saying "/etc/ssl/a.pem\n/etc/ssl/b.pem")) = .ok files ∧
        List.Forall₂ StoredFile.Shows ["/etc/ssl/a.pem", "/etc/ssl/b.pem"] files := by
  have listable : ∀ path ∈ [("/etc/ssl/a.pem" : Text), "/etc/ssl/b.pem"], IsListable path := by
    decide +kernel
  have listed : lines "/etc/ssl/a.pem\n/etc/ssl/b.pem" =
      [("/etc/ssl/a.pem" : Text), "/etc/ssl/b.pem"] := by decide +kernel
  have harmless : ∀ severity ≤ 3,
      ("/etc/ssl/a.pem" : Text)[1]? ≠ some (Nat.digitChar severity) := by decide +kernel
  exact ⟨listable, listed,
    ((reads_listed_paths listable listed _).1 harmless).1 .certificate (by decide +kernel)⟩

/-- A folder named by a year makes a listing look like a refusal. -/
theorem refuses_listed_year :
    IsListable "/2024/site.pem" ∧ lines "/2024/site.pem" = [("/2024/site.pem" : Text)] ∧
      Dispatcher.usual.send (Dispatch.saying "/2024/site.pem") (.showStore "cert") =
        .ok "/2024/site.pem" ∧
      (StoredFile.list .certificate).perform
          (Dispatcher.usual.send (Dispatch.saying "/2024/site.pem")) =
        .error (.protocol (some 2) "024/site.pem" "/2024/site.pem" "show ssl cert") := by
  decide +kernel

end ProxyControl
