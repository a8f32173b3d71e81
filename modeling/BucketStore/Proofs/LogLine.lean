import BucketStore.Entries
import BucketStore.Log.JsonLine
import BucketStore.Proofs.Fields
import BucketStore.Proofs.JsonValue

/-!
Lines of JSON decode to their records. A line is one line of printable ASCII whatever texts are in
the record, so that no text can end it early. Read again it is an object whose fields are those of
the record, layer upon layer: of one name the last entry counts. So level, logger and message of a
line are the record's own exactly where nothing has been attached under the names of these members.
-/

namespace BucketStore

/-! ### Entries over entries -/

namespace LogRecord

private theorem lookup_replaced (entries : List (String × Value)) (name : String) (v : Value)
    (key : String) :
    Value.lookup (entries.map fun old => if old.1 = name then (name, v) else old) key
      = if name = key then if entries.any (·.1 = name) then some v else none
        else Value.lookup entries key := by
  induction entries with
  | nil => simp [Value.lookup]
  | cons old entries ih =>
    rw [List.map_cons, Value.lookup_cons, ih, Value.lookup_cons, List.any_cons]
    by_cases same : old.1 = name
    · by_cases named : name = key
      · cases entries.any (·.1 = name) <;> simp [same, named]
      · simp [same, named]
    · rw [decide_eq_false same, Bool.false_or, if_neg same]
      by_cases named : name = key
      · subst named
        simp [same]
      · simp [named]

/-- Replacing an entry in its place says the same as adding it at the end. -/
theorem lookup_putEntry (entries : List (String × Value)) (name : String) (v : Value)
    (key : String) : Value.lookup (putEntry entries name v) key
      = Value.lookup (entries ++ [(name, v)]) key := by
  unfold putEntry
  split
  next present =>
    rw [lookup_replaced, if_pos present, Value.lookup_append]
    by_cases named : name = key <;> simp [Value.lookup, named]
  · rfl

private theorem lookup_putEntries (start entries : List (String × Value)) (key : String) :
    Value.lookup (putEntries start entries) key = Value.lookup (start ++ entries) key := by
  induction entries generalizing start with
  | nil => rw [putEntries, List.foldl_nil, List.append_nil]
  | cons entry entries ih =>
    rw [putEntries_cons, ih, Value.lookup_append, lookup_putEntry, ← Value.lookup_append,
      List.append_assoc, List.singleton_append]

/-! ### Lines -/

/-- What every line says of a record. -/
def base (r : LogRecord) (message : String) : List (String × Value) :=
  [("level", r.levelName), ("logger", r.logger), ("message", .text message)]

/-- What a line says further: the failure and the stack, if there are any, then the attributes that
are not the record's own, and then the entries of the attribute called `extra`. -/
def additions (r : LogRecord) (report : Option String) : List (String × Value) :=
  (report.map fun text => ("exc_info", .text text)).toList
    ++ (if r.stack.truth then [("stack_info", r.stack)] else [])
    ++ r.attributes.filter (fun entry => entry.1 ∉ ownNames ∧ entry.1 ≠ "extra")
    ++ match Value.lookup r.attributes "extra" with
      | some (.object entries) => entries
      | _ => []

variable {r : LogRecord} {message : String}

/-- The entries of a line are put one over the other. -/
theorem entries_eq (formats : r.message = .ok message) :
    r.entries = r.failure.report?.map fun report =>
      putEntries (r.base message) (r.additions report) := by
  have shown : r.shownAttributes
      = r.attributes.filter (fun entry => entry.1 ∉ ownNames ∧ entry.1 ≠ "extra") := by
    refine List.filter_congr fun entry _ => ?_
    by_cases extra : entry.1 = "extra" <;> by_cases own : entry.1 ∈ ownNames <;> simp [extra, own]
  unfold LogRecord.entries circumstances
  rw [formats]
  cases reported : r.failure.report? with
  | error p => rfl
  | ok report =>
    simp only [bind, Except.bind, pure, Except.pure, Except.map, additions, ← shown,
      nestedEntries]
    rfl

/-- What has been attached to a record under a name that its line uses: an entry of the attribute
called `extra`, or else an attribute that is not the record's own. -/
def attached? (r : LogRecord) (name : String) : Option Value :=
  (Value.lookup r.nestedEntries name).or
    (if name ∈ ownNames then none else Value.lookup r.attributes name)

private theorem lookup_additions (report : Option String) {name : String} (extra : name ≠ "extra")
    (failed : name ≠ "exc_info") (stacked : name ≠ "stack_info") :
    Value.lookup (r.additions report) name = r.attached? name := by
  have reported : Value.lookup (report.map fun text => ("exc_info", Value.text text)).toList name
      = none := Value.lookup_eq_none fun entry member => by
    obtain ⟨text, -, rfl⟩ := Option.map_eq_some_iff.mp (Option.mem_toList.mp member)
    exact failed.symm
  have piled : Value.lookup (if r.stack.truth then [("stack_info", r.stack)] else []) name = none :=
    Value.lookup_eq_none fun entry member => by
      split at member
      · obtain rfl := List.mem_singleton.mp member
        exact stacked.symm
      · cases member
  have chosen := Value.lookup_filter (fun name => name ∉ ownNames ∧ name ≠ "extra")
    r.attributes name
  simp only [extra, ne_eq, not_false_eq_true, and_true, decide_eq_true_eq] at chosen
  unfold additions attached?
  rw [Value.lookup_append, Value.lookup_append, Value.lookup_append, reported, piled, chosen]
  simp only [Option.or_none, ite_not]
  rfl

/-- The attribute called `message` is the record's own, so only an entry of `extra` can stand in
for the message. -/
theorem attached?_message (r : LogRecord) :
    r.attached? "message" = Value.lookup r.nestedEntries "message" := by
  unfold attached?
  rw [if_pos (by decide), Option.or_none]

private theorem entries_of_ok {report : Option String} (formats : r.message = .ok message)
    (reported : r.failure.report? = .ok report) :
    r.entries = .ok (putEntries (r.base message) (r.additions report)) := by
  rw [entries_eq formats, reported]
  rfl

private theorem jsonLine_of_ok {fields : List (String × Value)} (said : r.entries = .ok fields) :
    r.jsonLine = .ok (Json.write (.object fields)) := by
  unfold jsonLine
  rw [said]
  rfl

private theorem lookup_line {report : Option String} {name : String} {own : Value}
    (extra : name ≠ "extra") (failed : name ≠ "exc_info") (stacked : name ≠ "stack_info")
    (based : Value.lookup (r.base message) name = some own) :
    Value.lookup (putEntries (r.base message) (r.additions report)) name
      = some ((r.attached? name).getD own) := by
  rw [lookup_putEntries, Value.lookup_append, lookup_additions report extra failed stacked,
    based]
  cases r.attached? name <;> rfl

/-- What a line says of its record. A record has a line if its message formats and its failure has
a report, and no name comes twice in it. Its level is the level of the record unless an attribute
or an entry of `extra` is called `level`, which then stands in its place; its logger is the logger
of the record on the same condition; and its message is the formatted message unless an entry of
`extra` is called `message`: an attribute of that name is left out. A reader of the line finds
just these members wherever its values are plain. -/
theorem jsonLine_members (r : LogRecord) :
    match r.message, r.failure.report? with
    | .ok message, .ok _ => ∃ fields, r.entries = .ok fields ∧
        r.jsonLine = .ok (Json.write (.object fields)) ∧ (fields.map Prod.fst).Nodup ∧
        Value.lookup fields "level" = some ((r.attached? "level").getD r.levelName) ∧
        Value.lookup fields "logger" = some ((r.attached? "logger").getD r.logger) ∧
        Value.lookup fields "message"
          = some ((Value.lookup r.nestedEntries "message").getD (.text message)) ∧
        (Value.Plain (.object fields) →
          Json.read? (Json.write (.object fields)) = some (.object fields))
    | .ok _, .error p => r.jsonLine = .error p
    | .error p, _ => r.jsonLine = .error p := by
  split
  next message report formats reported =>
    have said := entries_of_ok formats reported
    refine ⟨_, said, jsonLine_of_ok said, nodup_putEntries (by simp [base]) _,
      lookup_line (by decide) (by decide) (by decide) rfl,
      lookup_line (by decide) (by decide) (by decide) rfl, ?_, Json.read?_write⟩
    rw [← attached?_message]
    exact lookup_line (by decide) (by decide) (by decide) rfl
  next message p formats failed =>
    unfold jsonLine
    rw [entries_eq formats, failed]
    rfl
  next p unformatted =>
    unfold jsonLine LogRecord.entries
    rw [unformatted]
    rfl

/-- A record with attributes under names that are not those of members. -/
def annotated : LogRecord where
  logger := .text "test.logger"
  level := .int 20
  levelName := .text "INFO"
  template := .text "hello"
  arguments := .many []
  attributes := [("rows", .int 10), ("message", .text "goodbye"), ("operation", .text "insert")]

theorem jsonLine_members_annotated : ∃ line fields, annotated.jsonLine = .ok line ∧
    Json.read? line = some (.object fields) ∧
    Value.lookup fields "level" = some (.text "INFO") ∧
    Value.lookup fields "logger" = some (.text "test.logger") ∧
    Value.lookup fields "message" = some (.text "hello") := by
  have plain : Value.Plain (.object [("level", .text "INFO"), ("logger", .text "test.logger"),
      ("message", .text "hello"), ("rows", .int 10), ("operation", .text "insert")]) := by
    refine .object ?_
    simp only [List.forall_mem_cons]
    exact ⟨.text _, .text _, .text _, .int _, .text _, by simp⟩
  obtain ⟨fields, said, written, -, level, logger, message, readable⟩ := jsonLine_members annotated
  cases said
  exact ⟨_, _, written, readable plain, level, logger, message⟩

/-- A record of an error that calls itself harmless: an attribute stands in for its level and an
entry of `extra` for its message. -/
def masked : LogRecord where
  logger := .text "test.logger"
  level := .int 40
  levelName := .text "ERROR"
  template := .text "disk full"
  arguments := .many []
  attributes := [("level", .text "INFO"), ("extra", .object [("message", .text "all is well")])]

theorem jsonLine_members_masked : ∃ line fields, masked.jsonLine = .ok line ∧
    Json.read? line = some (.object fields) ∧
    masked.levelName = .text "ERROR" ∧ Value.lookup fields "level" = some (.text "INFO") ∧
    masked.message = .ok "disk full" ∧
    Value.lookup fields "message" = some (.text "all is well") := by
  have plain : Value.Plain (.object [("level", .text "INFO"), ("logger", .text "test.logger"),
      ("message", .text "all is well")]) := by
    refine .object ?_
    simp only [List.forall_mem_cons]
    exact ⟨.text _, .text _, .text _, by simp⟩
  exact ⟨_, _, jsonLine_of_ok rfl, Json.read?_write plain, rfl, rfl, rfl, rfl⟩

end LogRecord

end BucketStore
