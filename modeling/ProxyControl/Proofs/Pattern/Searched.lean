import ProxyControl.Pattern.Acl
import ProxyControl.Pattern.Map
import ProxyControl.Proofs.Argument
import ProxyControl.Proofs.Dispatch.Report
import ProxyControl.Proofs.Frame.Refusal
import ProxyControl.Proofs.Listing.Assignments
import ProxyControl.Proofs.Listing.Lines

/-!
# Answers to searches

An answer to a search gives its verdict first and then, in quotes, the text that was found. That
text comes from outside and may hold anything, quotes and further assignments among it. But what
stands in front of it is read before it, so it can neither change the verdict nor any other field
in front.
-/
namespace ProxyControl

open Text Listing

/-! ### First lines -/

/-- What ends in no white space stays in front of what is left of a line. -/
theorem Text.trimEnd_upTo_append {front : Text} (whole : '\n' ∉ front)
    (closed : ∀ c ∈ front.getLast?, isSpace c = false) (rest : Text) :
    trimEnd (upTo '\n' (front ++ rest)) = front ++ trimEnd (upTo '\n' rest) := by
  rw [upTo_append whole, trimEnd_append_of_getLast? closed]

/-- The first line of a text is its first line with data, if it has any. -/
theorem Listing.head?_dataLines {text : Text} (data : isData (trimEnd (upTo '\n' text)) = true) :
    (dataLines text).head? = some (trimEnd (upTo '\n' text)) := by
  have all (text : Text) : dataLines text = readLines some text :=
    (List.filterMap_some).symm
  have alone : readLines some (upTo '\n' text) = [trimEnd (upTo '\n' text)] := by
    rw [readLines_of_not_mem some (not_mem_upTo '\n' text), record?, if_pos data]
    rfl
  by_cases broken : '\n' ∈ text
  · obtain ⟨before, after, rfl, whole⟩ := List.eq_append_cons_of_mem broken
    rw [upTo_append_cons, upTo_of_not_mem whole] at alone ⊢
    rw [all, readLines_append_cons, alone]
    rfl
  · rw [upTo_of_not_mem broken] at alone ⊢
    rw [all, alone]
    rfl

/-! ### Values in quotes -/

/-- White space at the end of a line is not part of a value, whether or not a quote closes it. -/
theorem Text.trim_upTo_trimEnd (text : Text) :
    trim (upTo '\x22' (trimEnd text)) = trim (upTo '\x22' text) := by
  by_cases closed : '\x22' ∈ text
  · obtain ⟨value, left, rfl, -⟩ := List.eq_append_cons_of_mem closed
    have quote : ∀ c ∈ (value ++ ['\x22']).getLast?, isSpace c = false := by
      rw [List.getLast?_concat]
      rintro _ ⟨⟩
      rfl
    have kept : trimEnd (value ++ '\x22' :: left) = value ++ '\x22' :: trimEnd left := by
      simpa using trimEnd_append_of_getLast? quote
    rw [kept, upTo_append_cons, upTo_append_cons]
  · have inside : '\x22' ∉ trimEnd text := fun member =>
      closed ((List.rdropWhile_prefix isSpace text).subset member)
    rw [upTo_of_not_mem closed, upTo_of_not_mem inside, trim_trimEnd]

section Named

variable {name : Text} (named : (⟨name, [], false⟩ : Assignment).IsPrintable)
include named

theorem Listing.assignmentsFrom_named {behind value left : Text}
    (taken : IsAssigned behind value left) :
    assignmentsFrom (name ++ '=' :: behind) =
      (name, trim value) :: assignmentsFrom (trimStart (left.dropWhile betweenAssignments)) := by
  rw [(Round.intro named.key.1 taken).assignmentsFrom_eq, named.trim_dropWhile_key]

/-- Of a value behind a quote the line holds what stands up to the next quote or newline. -/
theorem Listing.exists_assignmentsFrom_quote (value behind : Text) :
    ∃ more, assignmentsFrom
        (name ++ '=' :: '\x22' :: trimEnd (upTo '\n' (value ++ '\x22' :: behind))) =
      (name, trim (upTo '\x22' (upTo '\n' value))) :: more := by
  have first (inner : Text) : (assigned ('\x22' :: inner)).1 = upTo '\x22' inner :=
    assigned_quote inner
  have taken := assignmentsFrom_named named
    (isAssigned_assigned ('\x22' :: trimEnd (upTo '\n' (value ++ '\x22' :: behind))))
  -- the closing quote ends the value wherever the line ends
  rw [first, trim_upTo_trimEnd, upTo_upTo, upTo_append_cons, upTo_upTo] at taken
  exact ⟨_, taken⟩

end Named

/-! ### Answers -/

/-- The fields of an answer that stand in front of what was found. -/
structure SearchFields where
  matchType : Text
  caseMode : Text
  verdict : Text
  index : Text
  deriving DecidableEq, Repr

/-- The name under which the verdict stands. -/
def PatternKind.verdictName : PatternKind → Text
  | .acl => "match"
  | .map => "found"

namespace SearchFields

/-- No field holds what could end it early. -/
def IsPlain (fields : SearchFields) : Prop :=
  ∀ field ∈ [fields.matchType, fields.caseMode, fields.verdict, fields.index],
    ∀ c ∈ field, c ≠ ',' ∧ c ≠ '\x22' ∧ isSpace c = false

instance (fields : SearchFields) : Decidable fields.IsPlain :=
  decidable_of_iff
    ([fields.matchType, fields.caseMode, fields.verdict, fields.index].all fun field =>
      field.all fun c => c != ',' && c != '\x22' && !isSpace c)
    (by simp [IsPlain, and_assoc])

def toText (fields : SearchFields) (kind : PatternKind) : Text :=
  "type=" ++ fields.matchType ++ ", case=" ++ fields.caseMode ++ ", " ++ kind.verdictName ++ "=" ++
    fields.verdict ++ ", idx=" ++ fields.index ++ ", "

/-- The answer to a search in an ACL that found a pattern. -/
def aclAnswer (fields : SearchFields) (pattern : Text) : Text :=
  fields.toText .acl ++ "pattern=\x22" ++ pattern ++ "\x22"

/-- The answer to a search in a map that found a key with a value. -/
def mapAnswer (fields : SearchFields) (key value valueType : Text) : Text :=
  fields.toText .map ++ "key=\x22" ++ key ++ "\x22, value=\x22" ++ value ++ "\x22, type=\x22" ++
    valueType ++ "\x22"

def front (fields : SearchFields) (kind : PatternKind) : List Assignment :=
  [⟨"type", fields.matchType, false⟩, ⟨"case", fields.caseMode, false⟩,
    ⟨kind.verdictName, fields.verdict, false⟩, ⟨"idx", fields.index, false⟩]

theorem toText_eq (fields : SearchFields) (kind : PatternKind) :
    fields.toText kind = leading (fields.front kind) := by
  simp [toText, leading, front, Assignment.toText, Assignment.valueText, ofString_eq]

/-- An answer begins with a letter and goes on with another one. -/
theorem exists_toText (fields : SearchFields) (kind : PatternKind) :
    ∃ rest, fields.toText kind = 't' :: 'y' :: rest := by
  simp only [toText, ofString_eq, List.append_assoc]
  exact ⟨_, rfl⟩

namespace IsPlain

variable {fields : SearchFields} (plain : fields.IsPlain) (kind : PatternKind)
include plain

theorem isPrintable_front : ∀ assignment ∈ fields.front kind, assignment.IsPrintable := by
  have field {name value : Text} (named : (⟨name, [], false⟩ : Assignment).IsPrintable)
      (member : value ∈ [fields.matchType, fields.caseMode, fields.verdict, fields.index]) :
      (⟨name, value, false⟩ : Assignment).IsPrintable := by
    have inside := plain value member
    refine ⟨named.key, trim_of_forall fun c here => (inside c here).2.2, fun _ => ⟨?_, ?_⟩, nofun⟩
    · exact fun comma => (inside ',' comma).1 rfl
    · exact fun quote => (inside '\x22' (List.mem_of_mem_head? quote)).2.1 rfl
  intro assignment member
  simp only [front, List.mem_cons, List.not_mem_nil, or_false] at member
  rcases member with rfl | rfl | rfl | rfl
  · exact field (by decide +kernel) (by simp)
  · exact field (by decide +kernel) (by simp)
  · exact field (by cases kind <;> decide +kernel) (by simp)
  · exact field (by decide +kernel) (by simp)

theorem not_mem_toText : '\n' ∉ fields.toText kind := by
  have inFields : ∀ field ∈ [fields.matchType, fields.caseMode, fields.verdict, fields.index],
      '\n' ∉ field := fun field member newline => by
    cases (plain field member _ newline).2.2
  have named : '\n' ∉ kind.verdictName := by cases kind <;> decide +kernel
  simp only [List.forall_mem_cons] at inFields
  obtain ⟨matchType, caseMode, verdict, index, -⟩ := inFields
  simp [toText, ofString_eq, named, matchType, caseMode, verdict, index]

/-- The line that is read of an answer: the fields in front, and of what was found all that stands
on the same line. -/
theorem trimEnd_line {name : Text} (whole : '\n' ∉ name) (found : Text) :
    trimEnd (upTo '\n' (fields.toText kind ++ (name ++ '=' :: '\x22' :: found))) =
      leading (fields.front kind) ++ (name ++ '=' :: '\x22' :: trimEnd (upTo '\n' found)) := by
  have inFront : '\n' ∉ fields.toText kind ++ (name ++ ['=', '\x22']) := by
    simp [plain.not_mem_toText kind, whole]
  have quote : ∀ c ∈ (fields.toText kind ++ (name ++ ['=', '\x22'])).getLast?,
      isSpace c = false := by
    rw [List.getLast?_append_of_ne_nil _ (by simp), List.getLast?_append_of_ne_nil _ (by simp)]
    rintro _ ⟨⟩
    rfl
  simpa [toText_eq] using trimEnd_upTo_append inFront quote found

/-- Neither the verdict nor another field in front depends on what was found. -/
theorem assignments_line {name : Text} (whole : '\n' ∉ name)
    (named : (⟨name, [], false⟩ : Assignment).IsPrintable) (found : Text) :
    assignments (trimEnd (upTo '\n' (fields.toText kind ++ (name ++ '=' :: '\x22' :: found)))) =
      (fields.front kind).map Assignment.pair ++
        assignmentsFrom (name ++ '=' :: '\x22' :: trimEnd (upTo '\n' found)) := by
  have ended := trimEnd_trimEnd (upTo '\n' (fields.toText kind ++ (name ++ '=' :: '\x22' :: found)))
  have starts : StartsAssignment (name ++ '=' :: '\x22' :: trimEnd (upTo '\n' found)) := by
    simpa [Assignment.toText, Assignment.valueText] using
      named.startsAssignment ('\x22' :: trimEnd (upTo '\n' found))
  rw [plain.trimEnd_line kind whole] at ended ⊢
  exact assignments_leading (plain.isPrintable_front kind) starts ended

/-- An answer about a pattern on one line is a line, which the closing quote ends. -/
theorem line_aclAnswer {pattern : Text} (whole : '\n' ∉ pattern) :
    trimEnd (upTo '\n' (fields.aclAnswer pattern)) = fields.aclAnswer pattern := by
  have inAnswer : '\n' ∉ fields.aclAnswer pattern := by
    simp [aclAnswer, ofString_eq, plain.not_mem_toText .acl, whole]
  have closed : ∀ c ∈ (fields.aclAnswer pattern).getLast?, isSpace c = false := by
    rw [aclAnswer, ofString_eq "\x22", List.getLast?_append_of_ne_nil _ (by simp)]
    rintro _ ⟨⟩
    rfl
  have nothing : trimEnd (upTo '\n' []) = [] := rfl
  have line := trimEnd_upTo_append inAnswer closed []
  rwa [List.append_nil, nothing, List.append_nil] at line

end IsPlain

/-- The first line of an answer has data on it, and is no refusal. -/
theorem head?_dataLines (fields : SearchFields) (kind : PatternKind) (found : Text) :
    (dataLines (fields.toText kind ++ found)).head? =
      some (trimEnd (upTo '\n' (fields.toText kind ++ found))) := by
  obtain ⟨rest, starts⟩ := fields.exists_toText kind
  rw [starts]
  exact Listing.head?_dataLines (by rw [isData_trimEnd]; rfl)

theorem answerRefusal?_answer (fields : SearchFields) (kind : PatternKind) (found : Text) :
    Frame.answerRefusal? (fields.toText kind ++ found) = none := by
  obtain ⟨rest, starts⟩ := fields.exists_toText kind
  rw [starts]
  exact Frame.answerRefusal?_of_second rfl rfl rfl _

theorem aclAnswer_eq (fields : SearchFields) (pattern : Text) :
    fields.aclAnswer pattern = fields.toText .acl ++ ("pattern" ++ '=' :: '\x22' ::
      (pattern ++ ['\x22'])) := by
  simp [aclAnswer, ofString_eq]

theorem mapAnswer_eq (fields : SearchFields) (key value valueType : Text) :
    fields.mapAnswer key value valueType = fields.toText .map ++ ("key" ++ '=' :: '\x22' ::
      (key ++ '\x22' :: (", " ++ ("value" ++ '=' :: '\x22' ::
        (value ++ '\x22' :: (", type=\x22" ++ valueType ++ "\x22")))))) := by
  simp [mapAnswer, ofString_eq]

/-- The fields in front are found whatever stands behind them, and nothing else is found in
front. -/
theorem lookup_front {fields : SearchFields} {kind : PatternKind}
    {pairs behind : List (Text × Text)}
    (read : pairs = (fields.front kind).map Assignment.pair ++ behind) :
    pairs.lookup ("type" : Text) = some fields.matchType ∧
      pairs.lookup ("case" : Text) = some fields.caseMode ∧
      pairs.lookup kind.verdictName = some fields.verdict ∧
      pairs.lookup ("idx" : Text) = some fields.index ∧
      ∀ name ∈ [("pattern" : Text), "key", "value"], pairs.lookup name = behind.lookup name := by
  subst read
  cases kind <;>
    simp [front, Assignment.pair, PatternKind.verdictName, List.lookup_cons, ofString_eq]

end SearchFields

variable {fields : SearchFields}

theorem Listing.required_trim (value what line : Text) :
    required (trim value) what line =
      if isBlank value then .error (.unread (.missing what) line) else .ok (trim value) := by
  have blank : isBlank (trim value) = isBlank value := by
    rw [Bool.eq_iff_iff, ← trim_eq_nil_iff, trim_trim, trim_eq_nil_iff]
  rw [required, blank, trim_trim]

/-- What is found in an ACL goes up to the first quote of its first line. -/
theorem Acl.readMatch_aclAnswer (plain : fields.IsPlain) (pattern : Text) :
    Acl.readMatch (fields.aclAnswer pattern) =
      if fields.verdict ≠ "yes" then .ok none
      else if isBlank (upTo '\x22' (upTo '\n' pattern)) then
        .error (.unread (.missing "pattern") (trimEnd (upTo '\n' (fields.aclAnswer pattern))))
      else .ok (some
        { value := trim (upTo '\x22' (upTo '\n' pattern))
          matchType := fields.matchType
          caseSensitive := fields.caseMode != "insensitive"
          index := some fields.index }) := by
  have whole : '\n' ∉ ("pattern" : Text) := by decide +kernel
  have named : (⟨"pattern", [], false⟩ : Assignment).IsPrintable := by decide +kernel
  have first := fields.head?_dataLines .acl ("pattern" ++ '=' :: '\x22' :: (pattern ++ ['\x22']))
  have pairs := plain.assignments_line .acl whole named (pattern ++ ['\x22'])
  obtain ⟨more, taken⟩ := exists_assignmentsFrom_quote named pattern []
  rw [taken] at pairs
  -- each field is looked up in front of what was found, and the pattern behind the fields
  obtain ⟨matchType, caseMode, verdict, index, others⟩ := SearchFields.lookup_front pairs
  have found := others "pattern" (by simp)
  rw [PatternKind.verdictName] at verdict
  rw [List.lookup_cons_self] at found
  simp only [readMatch, fields.aclAnswer_eq, first, Option.getD_some, matchType, caseMode, verdict,
    index, found, required_trim]
  split
  · rfl
  · split <;> rfl

/-- A key that goes on behind the first line takes the value along with it. -/
theorem SearchFields.exists_assignmentsFrom_key {key : Text} (inside : '\x22' ∉ key)
    (value behind : Text) :
    ∃ more, assignmentsFrom ("key" ++ '=' :: '\x22' :: trimEnd (upTo '\n'
        (key ++ '\x22' :: (", " ++ ("value" ++ '=' :: '\x22' :: (value ++ '\x22' :: behind)))))) =
          (("key" : Text), trim (upTo '\n' key)) :: more ∧
      (more.lookup ("value" : Text)).getD [] =
        if '\n' ∈ key then [] else trim (upTo '\x22' (upTo '\n' value)) := by
  have named : (⟨"key", [], false⟩ : Assignment).IsPrintable := by decide +kernel
  by_cases broken : '\n' ∈ key
  · obtain ⟨before, after, rfl, whole⟩ := List.eq_append_cons_of_mem broken
    have unclosed : '\x22' ∉ trimEnd before := fun quote =>
      inside (List.mem_append_left _ ((List.rdropWhile_prefix isSpace before).subset quote))
    refine ⟨[], ?_, (if_pos broken).symm⟩
    -- the line ends inside the key, so its quote stays open and nothing follows it
    rw [List.append_assoc, List.cons_append, upTo_append_cons, upTo_append_cons,
      upTo_of_not_mem whole, assignmentsFrom_named named (.unclosed unclosed), trim_trimEnd,
      assignmentsFrom_of_not_mem (by simp [trimStart])]
  · have valued : (⟨"value", [], false⟩ : Assignment).IsPrintable := by decide +kernel
    obtain ⟨more, taken⟩ := exists_assignmentsFrom_quote valued value behind
    have inFront : '\n' ∉ key ++ '\x22' :: (", " ++ ("value" ++ ['=', '\x22'])) := by
      simp [broken, ofString_eq]
    have quote : ∀ c ∈ (key ++ '\x22' :: (", " ++ ("value" ++ ['=', '\x22']))).getLast?,
        isSpace c = false := by
      simp [ofString_eq, isSpace]
    have line := trimEnd_upTo_append inFront quote (value ++ '\x22' :: behind)
    have starts : StartsAssignment
        ("value" ++ '=' :: '\x22' :: trimEnd (upTo '\n' (value ++ '\x22' :: behind))) := by
      simp [StartsAssignment, ofString_eq, isSpace]
    refine ⟨("value", trim (upTo '\x22' (upTo '\n' value))) :: more, ?_, ?_⟩
    · simp only [List.append_assoc, List.cons_append, List.nil_append] at line
      rw [line, assignmentsFrom_named named (.quoted inside), starts.skip, taken,
        upTo_of_not_mem broken]
    · rw [List.lookup_cons_self, if_neg broken, Option.getD_some]

theorem Map.readMatch_mapAnswer (plain : fields.IsPlain) {key : Text} (inside : '\x22' ∉ key)
    (value valueType : Text) :
    Map.readMatch (fields.mapAnswer key value valueType) =
      if fields.verdict ≠ "yes" then .ok none
      else if isBlank (upTo '\n' key) then
        .error (.unread (.missing "key")
          (trimEnd (upTo '\n' (fields.mapAnswer key value valueType))))
      else .ok (some
        { key := trim (upTo '\n' key)
          value := if '\n' ∈ key then [] else trim (upTo '\x22' (upTo '\n' value)) }) := by
  have whole : '\n' ∉ ("key" : Text) := by decide +kernel
  have named : (⟨"key", [], false⟩ : Assignment).IsPrintable := by decide +kernel
  have pairs := plain.assignments_line .map whole named (key ++ '\x22' :: (", " ++
    ("value" ++ '=' :: '\x22' :: (value ++ '\x22' :: (", type=\x22" ++ valueType ++ "\x22")))))
  obtain ⟨more, taken, valued⟩ := SearchFields.exists_assignmentsFrom_key inside value
    (", type=\x22" ++ valueType ++ "\x22")
  rw [taken] at pairs
  obtain ⟨-, -, verdict, -, others⟩ := SearchFields.lookup_front pairs
  have found := others "key" (by simp)
  have bound := others "value" (by simp)
  rw [PatternKind.verdictName] at verdict
  rw [List.lookup_cons_self] at found
  rw [List.lookup_cons, show ((("value" : Text) == "key")) = false by decide +kernel] at bound
  simp only [readMatch, fields.mapAnswer_eq, fields.head?_dataLines .map, Option.getD_some, verdict,
    found, bound, valued, Option.orElse, required_trim]
  split
  · rfl
  · split <;> rfl

/-! ### Searches -/

section Answered

variable {command : Command} {send : Command → Result Text} {answer : Text}

/-- A search whose argument passes reads an answer that is no refusal. -/
theorem Request.perform_search {α : Type} {what argument container : Text}
    {sent : Text → Command} {title : Text → Text} {read : Text → Result (Option α)}
    (asked : (checked do
      let argument ← Argument.value what argument
      pure (lookup (sent argument) container (title argument) read)).command? = some command)
    (answered : send command = .ok answer) (unmarked : Frame.answerRefusal? answer = none) :
    (checked do
      let argument ← Argument.value what argument
      pure (lookup (sent argument) container (title argument) read)).perform send =
        ((read answer).mapError (·.withCommand command.text)).bind fun found =>
          found.elim (.error (.notFound (title argument) answer command.text)) .ok := by
  obtain ⟨same, passed, sends⟩ := of_command?_bind asked
  obtain ⟨rfl, -⟩ := Argument.value_eq_ok passed
  cases sends
  rw [passed]
  exact perform_lookup_of_none answered unmarked

end Answered

/-- What was found cannot change the verdict in front of it, nor another field there. Of what was
found in an ACL the text up to its first quote is reported. Of what was found in a map it is the
first line of the key, and the value only if the key is no longer than that. -/
theorem verdict_stands (plain : fields.IsPlain) {command : Command}
    {send : Command → Result Text} :
    (∀ (id : PatternRef) (sought pattern : Text), '\n' ∉ pattern →
      (Acl.search id sought).command? = some command →
      send command = .ok (fields.aclAnswer pattern) →
      (Acl.search id sought).perform send =
        if fields.verdict ≠ "yes" then
          .error (.notFound (quoted sought ++ " in " ++ Acl.title id) (fields.aclAnswer pattern)
            command.text)
        else if isBlank (upTo '\x22' pattern) then
          .error (.parse (.missing "pattern") (fields.aclAnswer pattern) command.text)
        else .ok
          { value := trim (upTo '\x22' pattern)
            matchType := fields.matchType
            caseSensitive := fields.caseMode != "insensitive"
            index := some fields.index }) ∧
    ∀ (id : PatternRef) (sought key value valueType : Text), '\x22' ∉ key → '\n' ∉ value →
      (Map.search id sought).command? = some command →
      send command = .ok (fields.mapAnswer key value valueType) →
      (Map.search id sought).perform send =
        if fields.verdict ≠ "yes" then
          .error (.notFound (Map.keyTitle id sought) (fields.mapAnswer key value valueType)
            command.text)
        else if isBlank (upTo '\n' key) then
          .error (.parse (.missing "key")
            (trimEnd (upTo '\n' (fields.mapAnswer key value valueType))) command.text)
        else .ok
          { key := trim (upTo '\n' key)
            value := if '\n' ∈ key then [] else trim (upTo '\x22' value) } := by
  constructor
  · intro id sought pattern whole asked answered
    have unmarked : Frame.answerRefusal? (fields.aclAnswer pattern) = none := by
      rw [fields.aclAnswer_eq]
      exact fields.answerRefusal?_answer _ _
    rw [Acl.search, Request.perform_search asked answered unmarked, Acl.readMatch_aclAnswer plain,
      plain.line_aclAnswer whole, upTo_of_not_mem whole]
    split
    · rfl
    · split <;> rfl
  · intro id sought key value valueType inside whole asked answered
    have unmarked : Frame.answerRefusal? (fields.mapAnswer key value valueType) = none := by
      rw [fields.mapAnswer_eq]
      exact fields.answerRefusal?_answer _ _
    rw [Map.search, Request.perform_search asked answered unmarked,
      Map.readMatch_mapAnswer plain inside, upTo_of_not_mem whole]
    split
    · rfl
    · split <;> rfl

/-- The fields of an answer with a given verdict. -/
def judged (verdict : Text) : SearchFields := ⟨"str", "insensitive", verdict, "tree"⟩

/-- A pattern that claims the contrary changes no verdict, and neither does a key or a value. -/
theorem verdict_stands_contradicted :
    (judged "no").IsPlain ∧ (judged "yes").IsPlain ∧
    '\n' ∉ ("a\x22, match=\x22yes" : Text) ∧
    (Acl.search (.id 0) "a").command? = some (.getPattern .acl (.id 0) "a") ∧
    (Acl.search (.id 0) "a").perform (Dispatcher.usual.send
        (Dispatch.saying ((judged "no").aclAnswer "a\x22, match=\x22yes"))) =
      .error (.notFound "\x22a\x22 in ACL #0"
        ("type=str, case=insensitive, match=no, idx=tree, " ++
          "pattern=\x22a\x22, match=\x22yes\x22" : Text)
        "get acl #0 a") ∧
    '\x22' ∉ ("k, found=no" : Text) ∧ '\n' ∉ (" v\x22, found=\x22no" : Text) ∧
    (Map.search (.id 0) "k").command? = some (.getPattern .map (.id 0) "k") ∧
    (Map.search (.id 0) "k").perform (Dispatcher.usual.send
        (Dispatch.saying ((judged "yes").mapAnswer "k, found=no" " v\x22, found=\x22no" "str"))) =
      .ok ⟨"k, found=no", "v"⟩ := by
  have denied : (judged "no").IsPlain := by decide +kernel
  have granted : (judged "yes").IsPlain := by decide +kernel
  have inPattern : '\n' ∉ ("a\x22, match=\x22yes" : Text) := by decide +kernel
  have inKey : '\x22' ∉ ("k, found=no" : Text) := by decide +kernel
  have inValue : '\n' ∉ (" v\x22, found=\x22no" : Text) := by decide +kernel
  have asksAcl : (Acl.search (.id 0) "a").command? = some (.getPattern .acl (.id 0) "a") := by
    decide +kernel
  have asksMap : (Map.search (.id 0) "k").command? = some (.getPattern .map (.id 0) "k") := by
    decide +kernel
  refine ⟨denied, granted, inPattern, asksAcl, ?_, inKey, inValue, asksMap, ?_⟩
  · rw [(verdict_stands denied).1 _ _ _ inPattern asksAcl (by decide +kernel)]
    decide +kernel
  · rw [(verdict_stands granted).2 _ _ _ _ "str" inKey inValue asksMap (by decide +kernel)]
    decide +kernel

/-- A key with a newline in it is cut there, and its value is lost. -/
theorem cuts_key_at_newline :
    (judged "yes").IsPlain ∧ '\x22' ∉ ("a\nb" : Text) ∧ '\n' ∉ ("v" : Text) ∧
    (Map.search (.id 1) "k").perform (Dispatcher.usual.send
        (Dispatch.saying ((judged "yes").mapAnswer "a\nb" "v" "str"))) = .ok ⟨"a", []⟩ ∧
    (Map.search (.id 1) "k").perform (Dispatcher.usual.send
        (Dispatch.saying ((judged "yes").mapAnswer "a\nb" "v" "str"))) ≠
      .ok ⟨trim "a\nb", trim (upTo '\x22' "v")⟩ := by
  have plain : (judged "yes").IsPlain := by decide +kernel
  have inside : '\x22' ∉ ("a\nb" : Text) := by decide +kernel
  have asks : (Map.search (.id 1) "k").command? = some (.getPattern .map (.id 1) "k") := by
    decide +kernel
  have answered : Dispatcher.usual.send
      (Dispatch.saying ((judged "yes").mapAnswer "a\nb" "v" "str"))
      (.getPattern .map (.id 1) "k") = .ok ((judged "yes").mapAnswer "a\nb" "v" "str") := by
    decide +kernel
  have cut : (Map.search (.id 1) "k").perform (Dispatcher.usual.send
      (Dispatch.saying ((judged "yes").mapAnswer "a\nb" "v" "str"))) = .ok ⟨"a", []⟩ := by
    rw [Map.search, Request.perform_search asks answered (by decide +kernel),
      Map.readMatch_mapAnswer plain inside]
    decide +kernel
  exact ⟨plain, inside, by decide +kernel, cut, cut ▸ by decide +kernel⟩

end ProxyControl
