import ProxyControl.Proofs.Argument
import ProxyControl.Proofs.Frame.Refusal
import ProxyControl.Proofs.Listing.Lines
import ProxyControl.Proofs.Pattern.Listed
import ProxyControl.Proofs.Request.Query
import ProxyControl.Proofs.Text.Number
import ProxyControl.Proofs.Text.Words
import ProxyControl.StickTable

/-!
# Stick tables as they are printed

The far end prints a table as a comment, and below it one entry a line. Both are read back from a
text in which they are mixed: a reader of tables sees no entry, and a reader of entries no table.
-/
namespace ProxyControl

open Text Listing

/-! ### Columns of an entry -/

namespace StickData

/-- The names of the fields that every entry has. -/
def fixedNames : List Text := ["key", "use", "exp", "shard"]

/-- A column that is told from the fields every entry has, and whose name ends where the period or
the value begins. -/
structure IsPrintable (data : StickData) : Prop where
  nonempty : data.name ≠ []
  word : ∀ c ∈ data.name, isSpace c = false
  whole : '=' ∉ data.name ∧ '(' ∉ data.name
  other : data.name ∉ fixedNames
  value : ∀ c ∈ data.value, isSpace c = false

instance (data : StickData) : Decidable data.IsPrintable :=
  decidable_of_iff
    (data.name ≠ [] ∧ data.name.any isSpace = false ∧ ('=' ∉ data.name ∧ '(' ∉ data.name) ∧
      fixedNames.contains data.name = false ∧ data.value.any isSpace = false)
    ⟨fun ⟨nonempty, word, whole, other, value⟩ =>
        ⟨nonempty, by simpa using word, whole, by simpa using other, by simpa using value⟩,
      fun ⟨nonempty, word, whole, other, value⟩ =>
        ⟨nonempty, by simpa using word, whole, by simpa using other, by simpa using value⟩⟩

/-- The name of a column, with the period in parentheses behind it. -/
def column (data : StickData) : Text :=
  match data.period with
  | none => data.name
  | some period => data.name ++ '(' :: (decimal period.toNat ++ [')'])

def assignment (data : StickData) : Text := data.column ++ '=' :: data.value

namespace IsPrintable

variable {data : StickData} (printable : data.IsPrintable)
include printable

theorem splitPeriod_column :
    StickEntry.splitPeriod data.column = some (data.name, data.period) := by
  unfold column
  cases bound : data.period with
  | none => simp only [StickEntry.splitPeriod, cutFirst?_eq_none printable.whole.2]
  | some period =>
    -- the name ends at the first parenthesis, and the period in front of the last character
    have closed : before? ")" (decimal period.toNat ++ [')']) = some (decimal period.toNat) := by
      rw [ofString_eq]
      exact before?_append _ _
    simp only [StickEntry.splitPeriod, cutFirst?_append_cons printable.whole.2, closed,
      Option.map_some, u64?_decimal]

/-- A column is none of the fields that every entry has. -/
theorem column_not_mem : data.column ∉ fixedNames := by
  unfold column
  cases data.period with
  | none => exact printable.other
  | some period =>
    -- no fixed name holds a parenthesis
    intro member
    have opened : '(' ∈ data.name ++ '(' :: (decimal period.toNat ++ [')']) := by simp
    have unopened : ∀ name ∈ fixedNames, '(' ∉ name := by decide +kernel
    exact unopened _ member opened

theorem put_assignment (entry : StickEntry) :
    StickEntry.put entry data.assignment = some { entry with data := entry.data ++ [data] } := by
  have plain : '=' ∉ data.column := by
    unfold column
    cases data.period with
    | none => exact printable.whole.1
    | some period => simp [printable.whole.1, not_mem_decimal]
  -- the name is none of the fixed ones, so what is left is to split off the period
  have other := printable.column_not_mem
  simp only [fixedNames, List.mem_cons, List.not_mem_nil, or_false, not_or] at other
  simp only [StickEntry.put, assignment, cutFirst?_append_cons plain, Option.bind_eq_bind,
    Option.bind_some, other, if_false, printable.splitPeriod_column]

theorem isWord_assignment :
    data.assignment ≠ [] ∧ ∀ c ∈ data.assignment, isSpace c = false := by
  have column : ∀ c ∈ data.column, isSpace c = false := by
    unfold column
    cases data.period with
    | none => exact printable.word
    | some period =>
      refine List.forall_mem_append.mpr ⟨printable.word, List.forall_mem_cons.mpr ⟨rfl, ?_⟩⟩
      exact List.forall_mem_append.mpr ⟨fun c => isSpace_of_mem_decimal, by simp [isSpace]⟩
  exact ⟨by simp [assignment],
    List.forall_mem_append.mpr ⟨column, List.forall_mem_cons.mpr ⟨rfl, printable.value⟩⟩⟩

end IsPrintable

end StickData

/-! ### Entries -/

namespace StickEntry

structure IsPrintable (entry : StickEntry) : Prop where
  key : ∀ c ∈ entry.key, isSpace c = false
  data : ∀ data ∈ entry.data, data.IsPrintable

instance (entry : StickEntry) : Decidable entry.IsPrintable :=
  decidable_of_iff
    (entry.key.any isSpace = false ∧ ∀ data ∈ entry.data, data.IsPrintable)
    ⟨fun ⟨key, data⟩ => ⟨by simpa using key, data⟩, fun ⟨key, data⟩ => ⟨by simpa using key, data⟩⟩

/-- The fields that every entry has. An entry that does not expire shows a dash. -/
def fields (entry : StickEntry) (shard : Text) : List Text :=
  ["key=" ++ entry.key, "use=" ++ decimal entry.useCount.toNat,
    "exp=" ++ (entry.expiresMs.map fun n => decimal n.toNat).getD "-", "shard=" ++ shard]

/-- What follows the address of an entry, with the shard that it is kept in. -/
def assignments (entry : StickEntry) (shard : Text) : List Text :=
  entry.fields shard ++ entry.data.map StickData.assignment

def line (entry : StickEntry) (shard : Text) : Text :=
  "0x" ++ hex entry.address.toNat ++ ": " ++ join [' '] (entry.assignments shard)

theorem foldlM_fields (entry : StickEntry) (shard : Text) :
    (entry.fields shard).foldlM put { address := entry.address } =
      some { entry with data := [] } := by
  -- a dash is no number, so an entry that shows one does not expire
  have never : u64? ['-'] = none := by decide
  cases expires : entry.expiresMs <;>
    simp [fields, put, ofString_eq, cutFirst?, u32?_decimal, u64?_decimal, expires, never]

theorem foldlM_data (entry : StickEntry) {columns : List StickData}
    (printable : ∀ data ∈ columns, data.IsPrintable) :
    (columns.map StickData.assignment).foldlM put entry =
      some { entry with data := entry.data ++ columns } := by
  -- each column goes behind those that are read before it
  induction columns generalizing entry with
  | nil => simp
  | cons data rest ih =>
    obtain ⟨first, others⟩ := List.forall_mem_cons.mp printable
    rw [List.map_cons, List.foldlM_cons, first.put_assignment]
    simpa using ih { entry with data := entry.data ++ [data] } others

namespace IsPrintable

variable {entry : StickEntry} (printable : entry.IsPrintable) {shard : Text}
  (word : ∀ c ∈ shard, isSpace c = false)
include printable

theorem foldlM_assignments (shard : Text) :
    (entry.assignments shard).foldlM put { address := entry.address } = some entry := by
  rw [assignments, List.foldlM_append, foldlM_fields, Option.bind_eq_bind, Option.bind_some,
    foldlM_data _ printable.data, List.nil_append]

include word

theorem isWord_of_mem_assignments :
    ∀ part ∈ entry.assignments shard, part ≠ [] ∧ ∀ c ∈ part, isSpace c = false := by
  have number (n : Nat) : ∀ c ∈ decimal n, isSpace c = false := fun c => isSpace_of_mem_decimal
  have expires : ∀ c ∈ (entry.expiresMs.map fun n => decimal n.toNat).getD "-",
      isSpace c = false := by
    cases entry.expiresMs with
    | none => simp [ofString_eq, isSpace]
    | some n => exact number n.toNat
  -- a name and what stands behind it make one word
  have named {name value : Text} (first : name ≠ []) (clean : ∀ c ∈ name, isSpace c = false)
      (behind : ∀ c ∈ value, isSpace c = false) :
      name ++ value ≠ [] ∧ ∀ c ∈ name ++ value, isSpace c = false :=
    ⟨List.append_ne_nil_of_left_ne_nil first value, List.forall_mem_append.mpr ⟨clean, behind⟩⟩
  refine List.forall_mem_append.mpr ⟨?_, List.forall_mem_map.mpr fun data member =>
    (printable.data data member).isWord_assignment⟩
  simp only [fields, List.forall_mem_cons, List.not_mem_nil, false_implies, implies_true, and_true]
  refine ⟨named ?_ ?_ printable.key, named ?_ ?_ (number _), named ?_ ?_ expires,
    named ?_ ?_ word⟩ <;> simp [ofString_eq, isSpace]

theorem trimEnd_line : trimEnd (entry.line shard) =
    ('0' :: 'x' :: hex entry.address.toNat) ++
      (": " ++ trimEnd (join [' '] (entry.assignments shard))) := by
  have parts := words_join (printable.isWord_of_mem_assignments word)
  have notBlank : isBlank (join [' '] (entry.assignments shard)) = false := by
    rw [← Bool.not_eq_true]
    intro blank
    -- there are no words in white space, but the key is one
    have none := words_append blank []
    rw [List.append_nil, parts] at none
    cases none
  rw [line, trimEnd_append notBlank]
  simp [ofString_eq]

theorem trim_trimEnd_line : trim (trimEnd (entry.line shard)) = trimEnd (entry.line shard) := by
  have starts : trimStart (trimEnd (entry.line shard)) = trimEnd (entry.line shard) := by
    rw [printable.trimEnd_line word]
    rfl
  rw [trim, starts, trimEnd_trimEnd]

theorem read_trimEnd_line : StickEntry.read (trimEnd (entry.line shard)) = some entry := by
  -- no digit of the address is a colon, so the address ends at the first one
  have colon : (": " : Text).head? = some ':' := by simp [ofString_eq]
  have absent : ':' ∉ '0' :: 'x' :: hex entry.address.toNat := by
    simpa using not_mem_hex rfl entry.address.toNat
  rw [StickEntry.read, printable.trim_trimEnd_line word, printable.trimEnd_line word,
    cutAt?_append colon absent]
  simp only [Option.bind_eq_bind, Option.bind_some, PatternEntry.address?_hex, words_trimEnd,
    words_join (printable.isWord_of_mem_assignments word), printable.foldlM_assignments]

/-- Only readers of entries see an entry. -/
theorem record?_line : record? StickEntry.read (entry.line shard) = some entry := by
  have data : isData (trimEnd (entry.line shard)) = true := by
    rw [printable.trimEnd_line word]
    rfl
  rw [record?, if_pos data, printable.read_trimEnd_line word]

theorem not_mem_line : '\n' ∉ entry.line shard := by
  intro newline
  simp only [line, List.mem_append] at newline
  rcases newline with ((zero | digits) | colon) | shown
  · simp [ofString_eq] at zero
  · exact not_mem_hex rfl _ digits
  · simp [ofString_eq] at colon
  · rcases of_mem_join shown with between | ⟨part, member, inside⟩
    · simp at between
    · cases (printable.isWord_of_mem_assignments word part member).2 _ inside

/-- An entry is no comment, and so no table. -/
theorem read_table : StickTable.read (trimEnd (entry.line shard)) = none := by
  have mark : ("#" : Text).head? = some '#' := by simp [ofString_eq]
  have other : after? "#" (trimEnd (entry.line shard)) = none := by
    refine after?_eq_none_of_head? mark ?_
    rw [printable.trimEnd_line word]
    simp
  rw [StickTable.read, printable.trim_trimEnd_line word, other]
  rfl

end IsPrintable

end StickEntry

/-! ### Tables -/

namespace StickTable

/-- A table whose name and type end where the next part begins. -/
structure IsPrintable (table : StickTable) : Prop where
  nonempty : table.name ≠ []
  name : ',' ∉ table.name ∧ '\n' ∉ table.name ∧ trim table.name = table.name
  keyType : ',' ∉ table.keyType ∧ '\n' ∉ table.keyType ∧ trim table.keyType = table.keyType

instance (table : StickTable) : Decidable table.IsPrintable :=
  decidable_of_iff
    (table.name ≠ [] ∧ (',' ∉ table.name ∧ '\n' ∉ table.name ∧ trim table.name = table.name) ∧
      ',' ∉ table.keyType ∧ '\n' ∉ table.keyType ∧ trim table.keyType = table.keyType)
    ⟨fun ⟨nonempty, name, keyType⟩ => ⟨nonempty, name, keyType⟩,
      fun ⟨nonempty, name, keyType⟩ => ⟨nonempty, name, keyType⟩⟩

/-- The comment that announces a table. -/
def announcement (about : Text) : Text := "# table: " ++ about

def line (table : StickTable) : Text :=
  announcement (table.name ++ ", type: " ++ table.keyType ++ ", size:" ++
    decimal table.size.toNat ++ ", used:" ++ decimal table.used.toNat)

theorem announcement_eq (about : Text) :
    announcement about = '#' :: ' ' :: ("table: " ++ about) := by
  simp [announcement, ofString_eq]

/-- The second character is a blank, which marks no refusal. -/
theorem refusal?_announcement (about : Text) : Frame.refusal? (announcement about) = none := by
  rw [announcement_eq]
  rfl

/-- A table is a comment, and so no entry. -/
theorem record?_announcement (about : Text) :
    record? StickEntry.read (announcement about) = none := by
  have comment : isComment (announcement about) = true := by
    rw [announcement_eq]
    rfl
  exact record?_eq_none (.inr (.inl comment))

/-- A value behind its key, with a blank in front of both. -/
def part (key value : Text) : Text := ' ' :: (key ++ ':' :: value)

/-- What stands between the commas. -/
def parts (table : StickTable) : List Text :=
  [part "table" (' ' :: table.name), part "type" (' ' :: table.keyType),
    part "size" (decimal table.size.toNat), part "used" (decimal table.used.toNat)]

theorem keyValue_part {key : Text} (word : ∀ c ∈ key, isSpace c = false) (whole : ':' ∉ key)
    (value : Text) : keyValue (part key value) = (key, trim value) := by
  have spaced : trim (' ' :: key) = key := (trim_cons rfl key).trans (trim_of_forall word)
  have plain : ':' ∉ ' ' :: key := by simpa using whole
  rw [part, keyValue, ← List.cons_append, cutFirst?_append_cons plain]
  simp only [spaced]

theorem line_eq (table : StickTable) : table.line = '#' :: join [','] table.parts := by
  simp [line, announcement, parts, part, join, List.intercalate, ofString_eq]

/-- The line of a table ends in a digit. -/
theorem trimEnd_line (table : StickTable) : trimEnd table.line = table.line := by
  have digits : trim (decimal table.used.toNat) = decimal table.used.toNat :=
    trim_of_forall fun c => isSpace_of_mem_decimal
  rw [line, announcement, ← List.append_assoc]
  exact trimEnd_append_of_trim_eq_self (decimal_ne_nil _) digits _

theorem trimStart_line (table : StickTable) : trimStart table.line = table.line := by
  rw [line_eq]
  rfl

namespace IsPrintable

variable {table : StickTable} (printable : table.IsPrintable)
include printable

theorem foldlM_parts : table.parts.foldlM put {} = some table := by
  have keys : ∀ key ∈ (["table", "type", "size", "used"] : List Text), ∀ value,
      keyValue (part key value) = (key, trim value) := by
    have clean : ∀ key ∈ (["table", "type", "size", "used"] : List Text),
        key.any isSpace = false ∧ ':' ∉ key := by decide +kernel
    intro key member
    obtain ⟨word, whole⟩ := clean key member
    exact keyValue_part (by simpa using word) whole
  have spaced (text : Text) : trim (' ' :: text) = trim text := trim_cons rfl text
  have number (n : Nat) : trim (decimal n) = decimal n :=
    trim_of_forall fun c => isSpace_of_mem_decimal
  -- what is put is trimmed, and none of it has white space at its ends but the blank in front
  simp only [List.forall_mem_cons] at keys
  simp only [parts, List.foldlM_cons, List.foldlM_nil, put, keys, spaced, number, printable.name,
    printable.keyType, u64?_decimal]
  simp [ofString_eq]

theorem not_mem_parts : ∀ part ∈ table.parts, ',' ∉ part ∧ '\n' ∉ part := by
  simp [parts, part, ofString_eq, not_mem_decimal, printable.name, printable.keyType]

theorem not_mem_line : '\n' ∉ table.line := by
  rw [line_eq, List.mem_cons, not_or]
  refine ⟨by decide, fun newline => ?_⟩
  rcases of_mem_join newline with between | ⟨part, member, inside⟩
  · simp at between
  · exact (printable.not_mem_parts part member).2 inside

theorem read_line : StickTable.read table.line = some table := by
  have opened : after? "#" ('#' :: join [','] table.parts) = some (join [','] table.parts) := by
    rw [ofString_eq]
    rfl
  -- no part holds a comma, so the parts are cut as they were joined
  have cut : pieces (· == ',') (join [','] table.parts) = table.parts := by
    refine pieces_join rfl (List.cons_ne_nil _ _) fun part member c inside => ?_
    rw [beq_eq_false_iff_ne]
    rintro rfl
    exact (printable.not_mem_parts part member).1 inside
  rw [StickTable.read, trim, trimStart_line, trimEnd_line, line_eq, opened]
  simp only [Option.bind_eq_bind, Option.bind_some, cut, printable.foldlM_parts]
  rw [if_neg (by simpa using printable.nonempty)]

end IsPrintable

/-- White space at the end of a line says nothing about a table. -/
theorem read_trimEnd (line : Text) : StickTable.read (trimEnd line) = StickTable.read line := by
  rw [StickTable.read, StickTable.read, trim_trimEnd]

/-- What is asked for entries when the arguments pass their checks. -/
theorem entries_of_command? {table : Text} {filter : Option Text} {command : Command}
    (asked : (entries table filter).command? = some command) :
    entries table filter = .about ("table " ++ table) (.query command fun text =>
      .ok (readLines StickEntry.read text)) := by
  obtain ⟨table', named, onward⟩ := Request.of_command?_bind asked
  obtain ⟨filter', narrowed, last⟩ := Request.of_command?_bind onward
  obtain ⟨rfl, -⟩ := Argument.name_eq_ok named
  rw [entries, named, narrowed]
  cases last
  rfl

end StickTable

/-! ### Tables and entries together -/

/-- A line of an answer: a table, or an entry with the shard that it is kept in. -/
inductive StickRow
  | ofTable (table : StickTable)
  | ofEntry (entry : StickEntry) (shard : Text)

namespace StickRow

def line : StickRow → Text
  | ofTable table => table.line
  | ofEntry entry shard => entry.line shard

def table? : StickRow → Option StickTable
  | ofTable table => some table
  | ofEntry _ _ => none

def entry? : StickRow → Option StickEntry
  | ofTable _ => none
  | ofEntry entry _ => some entry

def IsPrintable : StickRow → Prop
  | ofTable table => table.IsPrintable
  | ofEntry entry shard => entry.IsPrintable ∧ ∀ c ∈ shard, isSpace c = false

instance (row : StickRow) : Decidable row.IsPrintable :=
  match row with
  | ofTable table => inferInstanceAs (Decidable table.IsPrintable)
  | ofEntry entry shard =>
    decidable_of_iff (entry.IsPrintable ∧ shard.any isSpace = false) (by simp [IsPrintable])

theorem refusal?_line (row : StickRow) : Frame.refusal? row.line = none := by
  cases row with
  | ofTable table => exact StickTable.refusal?_announcement _
  | ofEntry entry shard =>
    rw [line, StickEntry.line, List.append_assoc, List.append_assoc, ofString_eq]
    rfl

variable {row : StickRow} (printable : row.IsPrintable)
include printable

theorem not_mem_line : '\n' ∉ row.line := by
  cases row with
  | ofTable table => exact StickTable.IsPrintable.not_mem_line printable
  | ofEntry entry shard => exact printable.1.not_mem_line printable.2

theorem read_table : StickTable.read row.line = row.table? := by
  cases row with
  | ofTable table => exact StickTable.IsPrintable.read_line printable
  | ofEntry entry shard =>
    rw [line, ← StickTable.read_trimEnd]
    exact printable.1.read_table printable.2

theorem record?_entry : record? StickEntry.read row.line = row.entry? := by
  cases row with
  | ofTable table => exact StickTable.record?_announcement _
  | ofEntry entry shard => exact printable.1.record?_line printable.2

end StickRow

/-- Tables and entries that are printed below each other are all read back, each of them by its own
reader and in the order in which it is printed. -/
theorem StickTable.lists_every_row {rows : List StickRow}
    (printable : ∀ row ∈ rows, row.IsPrintable) {ending : Text} (ended : isBlank ending = true)
    {send : Command → Result Text} :
    (∀ (table : Text) (filter : Option Text) (command : Command) (about : Text),
      (entries table filter).command? = some command → '\n' ∉ about →
      send command = .ok (joinLines (announcement about :: rows.map StickRow.line) ++ ending) →
      (entries table filter).perform send = .ok (rows.filterMap StickRow.entry?)) ∧
    (send .showTables = .ok (joinLines (rows.map StickRow.line) ++ ending) →
      list.perform send = .ok (rows.filterMap StickRow.table?)) := by
  have whole : ∀ line ∈ rows.map StickRow.line, '\n' ∉ line :=
    List.forall_mem_map.mpr fun row member => StickRow.not_mem_line (printable row member)
  have unmarked : ∀ line ∈ rows.map StickRow.line, Frame.refusal? line = none :=
    List.forall_mem_map.mpr fun row _ => row.refusal?_line
  constructor
  · intro table filter command about asked inLine answered
    have below : (rows.map StickRow.line).filterMap (record? StickEntry.read) =
        rows.filterMap StickRow.entry? := by
      rw [List.filterMap_map]
      exact List.filterMap_congr fun row member => StickRow.record?_entry (printable row member)
    have wholeBelow : ∀ line ∈ announcement about :: rows.map StickRow.line, '\n' ∉ line :=
      List.forall_mem_cons.mpr ⟨by simpa [announcement, ofString_eq] using inLine, whole⟩
    have unmarkedBelow := Frame.answerRefusal?_of_forall wholeBelow ended
      (List.forall_mem_cons.mpr ⟨refusal?_announcement about, unmarked⟩)
    rw [entries_of_command? asked, Request.perform_about_query _ answered,
      perform_readLines _ wholeBelow ended answered unmarkedBelow,
      List.filterMap_cons_none (record?_announcement about), below]
    rfl
  · intro answered
    -- this reader takes the lines as they are, comments among them
    have tables : (rows.map StickRow.line).filterMap read = rows.filterMap StickRow.table? := by
      rw [List.filterMap_map]
      exact List.filterMap_congr fun row member => StickRow.read_table (printable row member)
    have empty : read [] = none := by decide +kernel
    rw [list, Request.perform_query_of_none answered
      (Frame.answerRefusal?_of_forall whole ended unmarked),
      filterMap_joinLines read_trimEnd empty whole ended, tables]
    rfl

/-- An address with colons, a value with an equals sign and an entry that does not expire are read
back. -/
theorem StickTable.lists_every_row_colons :
    (entries "t" none).perform
        (Dispatcher.usual.send (Dispatch.saying
          ("# table: t, used:1\n" ++ "# table: a:b, type: ipv6, size:5, used:2\n" ++
            "0x2a: key=::1 use=1 exp=- shard=0 gpc0=a=b conn_rate(10000)=\n"))) =
      .ok [⟨42, "::1", 1, none, [⟨"gpc0", none, "a=b"⟩, ⟨"conn_rate", some 10000, ""⟩]⟩] ∧
    list.perform
        (Dispatcher.usual.send (Dispatch.saying
          ("# table: a:b, type: ipv6, size:5, used:2\n" ++
            "0x2a: key=::1 use=1 exp=- shard=0 gpc0=a=b conn_rate(10000)=\n"))) =
      .ok [⟨"a:b", "ipv6", 5, 2⟩] := by
  have printable : ∀ row ∈ ([.ofTable ⟨"a:b", "ipv6", 5, 2⟩,
      .ofEntry ⟨42, "::1", 1, none, [⟨"gpc0", none, "a=b"⟩, ⟨"conn_rate", some 10000, ""⟩]⟩ "0"] :
      List StickRow), row.IsPrintable := by decide +kernel
  have ended : isBlank ("\n" : Text) = true := by decide +kernel
  exact ⟨(lists_every_row printable ended).1 "t" none (.showTableEntries "t" none) "t, used:1"
      (by decide +kernel) (by decide +kernel) (by decide +kernel),
    (lists_every_row printable ended).2 (by decide +kernel)⟩

end ProxyControl
