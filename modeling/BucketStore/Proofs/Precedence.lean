import BucketStore.Configuration.Settings
import BucketStore.Proofs.Fields
import Mathlib.Data.List.Forall2

/-!
Precedence of settings. A field has the value of its argument, else that of its variable in the
environment, else that of its entry in the environment file, else its default, whatever else the
sources say; only an entry of the file may refer to other names.
-/

namespace BucketStore

/-! ### Environment files -/

namespace EnvironmentFile

/-- The assignments of a file as they are written. -/
def bindings (text : String) : List (String × Option String) :=
  let cs := Text.unifyBreaks text.toList
  readBindings (cs.length + 1) cs

/-- A value without references, ended or not. -/
def IsPlain (value : String) : Prop :=
  ¬['$', '\x7b'] <:+: value.toList

private theorem interpolate_of_plain (value? : String → Option String) (fuel : Nat) {cs : List Char}
    (plain : ¬['$', '\x7b'] <:+: cs) : interpolate value? fuel cs = cs := by
  fun_induction interpolate value? fuel cs with
  | case1 => rfl
  | case2 => rfl
  | case3 fuel rest => exact absurd ⟨[], rest, rfl⟩ plain
  | case4 fuel rest => exact absurd ⟨[], rest, rfl⟩ plain
  | case5 fuel c rest _ ih =>
    rw [ih fun inside => plain (inside.trans (List.suffix_cons c rest).isInfix)]

/-- A value with its references resolved. -/
def resolved (environment : List (String × String)) (values : Values) (value : Option String) :
    Option String :=
  value.map fun s => String.ofList (interpolate (resolve environment values) s.length s.toList)

private theorem resolved_of_plain (environment : List (String × String)) (values : Values)
    {value : Option String} (plain : ∀ text ∈ value, IsPlain text) :
    resolved environment values value = value := by
  cases value with
  | none => rfl
  | some text =>
    have same := interpolate_of_plain (resolve environment values) text.length (plain text rfl)
    rw [resolved, Option.map_some, same, String.ofList_toList]

def assign (environment : List (String × String)) (values : Values)
    (binding : String × Option String) : Values :=
  putEntry values binding.1 (resolved environment values binding.2)

section

variable (own : String → Bool)

/-- A value that is set under a name shows among the names of its kind only. -/
theorem filter_putEntry (values : Values) (name : String) (value : Option String) :
    (putEntry values name value).filter (own ·.1)
      = if own name then putEntry (values.filter (own ·.1)) name value
        else values.filter (own ·.1) := by
  have renamed (entry : String × Option String) :
      (if entry.1 = name then (name, value) else entry).1 = entry.1 := by
    split
    · rename_i same
      exact same.symm
    · rfl
  have kept : (values.map fun entry => if entry.1 = name then (name, value) else entry).filter
        (own ·.1)
      = (values.filter (own ·.1)).map fun entry =>
          if entry.1 = name then (name, value) else entry := by
    rw [List.filter_map]
    simp only [Function.comp_def, renamed]
  cases mine : own name with
  | true =>
    have present : (values.filter (own ·.1)).any (·.1 = name) = values.any (·.1 = name) := by
      rw [List.any_filter]
      congr 1
      funext entry
      by_cases same : entry.1 = name
      · simp [same, mine]
      · simp [same]
    simp only [putEntry, present, if_true]
    split
    · exact kept
    · simp [mine]
  | false =>
    have others : ∀ entry ∈ values.filter (own ·.1),
        (if entry.1 = name then (name, value) else entry) = id entry := by
      intro entry member
      have named : entry.1 ≠ name := by
        rintro rfl
        rw [(List.mem_filter.mp member).2] at mine
        cases mine
      rw [if_neg named, id]
    simp only [putEntry, Bool.false_eq_true, if_false]
    split
    · rw [kept, List.map_congr_left others, List.map_id]
    · simp [mine]

end

/-- What was read of an assignment: its name, and its value unless that has references. -/
def ReadOf (entry assignment : String × Option String) : Prop :=
  entry.1 = assignment.1 ∧
    ((∀ value ∈ assignment.2, IsPlain value) → entry.2 = assignment.2)

private theorem readOf_putEntry {values written : Values} {name : String}
    {value value' : Option String}
    (each : List.Forall₂ ReadOf values written) (same : ReadOf (name, value) (name, value')) :
    List.Forall₂ ReadOf (putEntry values name value) (putEntry written name value') := by
  have present : values.any (·.1 = name) = written.any (·.1 = name) := by
    induction each with
    | nil => rfl
    | cons first _ ih => rw [List.any_cons, List.any_cons, ih, first.1]
  unfold putEntry
  rw [present]
  split
  · rw [List.forall₂_map_left_iff, List.forall₂_map_right_iff]
    refine each.imp fun entry assignment read => ?_
    rw [read.1]
    split
    · exact same
    · exact read
  · exact List.rel_append each (.cons same .nil)

/-- The last one that was read has its value from the last assignment. -/
theorem getLast?_bind_of_readOf {values written : Values}
    (each : List.Forall₂ ReadOf values written)
    (plain : ∀ assignment ∈ written.getLast?, ∀ value ∈ assignment.2, IsPlain value) :
    values.getLast?.bind (·.2) = written.getLast?.bind (·.2) := by
  have reversed := List.forall₂_reverse_iff.mpr each
  rw [← List.head?_reverse] at plain
  rw [← List.head?_reverse, ← List.head?_reverse]
  generalize values.reverse = backwards, written.reverse = backwards' at reversed plain ⊢
  cases reversed with
  | nil => rfl
  | cons last _ => exact last.2 (plain _ rfl)

/-- Assignments to some names are read one over the other, whatever else a file assigns. -/
theorem readOf_foldl_assign (own : String → Bool) (environment : List (String × String))
    (entries : List (String × Option String)) {values written : Values}
    (each : List.Forall₂ ReadOf (values.filter (own ·.1)) written) :
    List.Forall₂ ReadOf ((entries.foldl (assign environment) values).filter (own ·.1))
      (putEntries written (entries.filter (own ·.1))) := by
  induction entries generalizing values written with
  | nil => exact each
  | cons entry rest ih =>
    rw [List.foldl_cons]
    cases mine : own entry.1 with
    | true =>
      rw [List.filter_cons, mine, if_pos rfl, putEntries_cons]
      refine ih ?_
      rw [assign, filter_putEntry, if_pos mine]
      exact readOf_putEntry each ⟨rfl, resolved_of_plain environment values⟩
    | false =>
      rw [List.filter_cons, mine, if_neg Bool.false_ne_true]
      refine ih ?_
      rwa [assign, filter_putEntry, mine]

end EnvironmentFile

/-! ### Values -/

namespace Settings

variable {α : Type} {s s' : Sources} {field : Field α}

/-- A property of each field together with its part of the settings. -/
structure Each (P : {α : Type} → Field α → (Settings → α) → Prop) : Prop where
  propertiesFile : P propertiesFileField (·.propertiesFile)
  connectAttempts : P connectAttemptsField (·.connectAttempts)
  connectBackoff : P connectBackoffField (·.connectBackoff)
  logLevel : P logLevelField (·.logLevel)
  logJson : P logJsonField (·.logJson)

/-- The names that arguments are given by. -/
def names : List String :=
  [propertiesFileField.key, propertiesFileField.alternative, connectAttemptsField.key,
    connectAttemptsField.alternative, connectBackoffField.key, connectBackoffField.alternative,
    logLevelField.key, logLevelField.alternative, logJsonField.key, logJsonField.alternative]

/-- All arguments are given by the name of a field. -/
def Sources.IsNamed (s : Sources) : Prop :=
  ∀ argument ∈ s.arguments, argument.1 ∈ names

/-- Of the names of fields, only those of a field itself differ from its key in case only. -/
def IsDistinct (field : Field α) : Prop :=
  ∀ name ∈ names, sameName name field.key = true → name = field.key ∨ name = field.alternative

namespace Each

variable {P Q : {α : Type} → Field α → (Settings → α) → Prop}

/-- What holds of all fields of distinct names holds of each field of the settings. -/
theorem of_distinct
    (holds : ∀ {α : Type} {field : Field α}, IsDistinct field → ∀ get, P field get) : Each P := by
  constructor <;> (apply holds; unfold IsDistinct; decide)

theorem mp (each : Each P) (implies : Each fun field get => P field get → Q field get) :
    Each Q where
  propertiesFile := implies.propertiesFile each.propertiesFile
  connectAttempts := implies.connectAttempts each.connectAttempts
  connectBackoff := implies.connectBackoff each.connectBackoff
  logLevel := implies.logLevel each.logLevel
  logJson := implies.logJson each.logJson

end Each

/-- The value of a name in an environment file. -/
def fileText? (environment : List (String × String)) (file : Option String) (name : String) :
    Option String :=
  file.bind fun text => fileValue (EnvironmentFile.read environment text) name

/-- The value that sources give for a field: that of the argument, else that of the variable, else
that of the entry in the file. -/
def value? (s : Sources) (field : Field α) : Option Value :=
  (field.value? s.arguments).or <| ((lookupName s.environment field.key).map .text).or <|
    (fileText? s.environment s.file field.key).map .text

private theorem similarArgument_eq_none (named : s.IsNamed) (distinct : IsDistinct field)
    (missing : field.value? s.arguments = none) : similarArgument s field.key = none := by
  rw [Field.value?, Option.or_eq_none_iff] at missing
  rw [similarArgument, Option.map_eq_none_iff, List.find?_eq_none]
  intro argument member alike
  have inside : argument ∈ s.arguments := List.mem_reverse.mp member
  have absent {key : String} (none : Value.lookup s.arguments key = none) : argument.1 ≠ key := by
    rw [Value.lookup, Option.map_eq_none_iff, List.find?_eq_none] at none
    simpa using none argument member
  rcases distinct _ (named _ inside) alike with same | same
  · exact absent missing.1 same
  · exact absent missing.2 same

/-- What a field is checked on if there is no argument for it. -/
theorem given_of_no_argument (named : s.IsNamed) (distinct : IsDistinct field)
    (missing : field.value? s.arguments = none) :
    given s field
      = ((ambient s field.key).map fun text => (field.key, Value.text text)).toList := by
  have similar := similarArgument_eq_none named distinct missing
  rw [Field.value?, Option.or_eq_none_iff] at missing
  simp only [given, missing, similar, Option.isSome_none, Bool.or_self, Bool.false_eq_true,
    if_false, Option.none_or]
  cases ambient s field.key <;> rfl

private theorem given_of_argument (present : field.value? s.arguments ≠ none) :
    given s field = s.arguments := by
  have some : ((Value.lookup s.arguments field.key).isSome
      || (Value.lookup s.arguments field.alternative).isSome) = true := by
    rwa [← Option.isSome_or, Option.isSome_iff_ne_none]
  simp only [given, some, if_true]

private theorem value?_given (named : s.IsNamed) (distinct : IsDistinct field) :
    field.value? (given s field) = value? s field := by
  by_cases missing : field.value? s.arguments = none
  · have only (v : Value) : field.value? [(field.key, v)] = some v := by
      simp [Field.value?, Value.lookup]
    rw [given_of_no_argument named distinct missing, value?, missing, Option.none_or,
      ← Option.map_or, fileText?, ← ambient]
    cases ambient s field.key with
    | some text => exact only (.text text)
    | none => rfl
  · have present := Option.isSome_iff_ne_none.mpr missing
    rw [given_of_argument missing, value?, Option.or_of_isSome present]

private theorem take_eq_valid_iff (named : s.IsNamed) (distinct : IsDistinct field) {a : α} :
    take s field = .valid a ↔ field.Holds (value? s field) a := by
  rw [take, Field.check_eq_valid_iff, value?_given named distinct]

/-- Settings are read field by field. -/
theorem read_eq_ok_iff {r : Settings} :
    read s = .ok r ↔ Each fun field get => take s field = .valid (get r) := by
  constructor
  · intro ran
    obtain ⟨⟨file, attempts, backoff, level, json⟩, valid, rfl⟩ :=
      Checked.map_eq_valid (Checked.run_eq_ok ran)
    obtain ⟨file, valid⟩ := Checked.both_eq_valid valid
    obtain ⟨attempts, valid⟩ := Checked.both_eq_valid valid
    obtain ⟨backoff, valid⟩ := Checked.both_eq_valid valid
    obtain ⟨level, json⟩ := Checked.both_eq_valid valid
    exact ⟨file, attempts, backoff, level, json⟩
  · rintro ⟨file, attempts, backoff, level, json⟩
    rw [read, file, attempts, backoff, level, json]
    rfl

/-! ### Independence -/

/-- Two sources say the same of a field. The environment counts only if there is no argument, and
the file only if there is no variable either. -/
structure Agree (field : Field α) (s s' : Sources) : Prop where
  key : Value.lookup s'.arguments field.key = Value.lookup s.arguments field.key
  alternative : Value.lookup s'.arguments field.alternative
    = Value.lookup s.arguments field.alternative
  environment : field.value? s.arguments = none →
    lookupName s'.environment field.key = lookupName s.environment field.key
  file : field.value? s.arguments = none → lookupName s.environment field.key = none →
    fileText? s'.environment s'.file field.key = fileText? s.environment s.file field.key

private theorem Agree.ambient_eq (agree : Agree field s s')
    (missing : field.value? s.arguments = none) :
    ambient s' field.key = ambient s field.key := by
  rw [ambient, ambient, agree.environment missing]
  cases unset : lookupName s.environment field.key with
  | some value => rw [Option.some_or, Option.some_or]
  | none => exact agree.file missing unset

private theorem Agree.take_eq (agree : Agree field s s') (named : s.IsNamed) (named' : s'.IsNamed)
    (distinct : IsDistinct field) : take s' field = take s field := by
  have same : field.value? s'.arguments = field.value? s.arguments := by
    rw [Field.value?, agree.key, agree.alternative, Field.value?]
  by_cases missing : field.value? s.arguments = none
  · rw [take, take, given_of_no_argument named distinct missing,
      given_of_no_argument named' distinct (same.trans missing), agree.ambient_eq missing]
  · rw [take, take, given_of_argument missing, given_of_argument (same ▸ missing)]
    exact Field.check_congr agree.key agree.alternative

/-- The assignments to a name, in any case, that an environment file has. -/
def assignments (file : Option String) (name : String) : List (String × Option String) :=
  ((file.map EnvironmentFile.bindings).getD []).filter (sameName ·.1 name)

/-- The assignment to a name that counts. -/
def decisive (file : Option String) (name : String) : Option (String × Option String) :=
  (mergeEntries (assignments file name)).getLast?

/-- The assignment to a name that counts does not refer to other names. -/
def IsPlain (file : Option String) (name : String) : Prop :=
  ∀ assignment ∈ decisive file name, ∀ value ∈ assignment.2, EnvironmentFile.IsPlain value

private theorem fileValue_eq (values : EnvironmentFile.Values) (name : String) :
    fileValue values name = (values.filter (sameName ·.1 name)).getLast?.bind (·.2) := by
  rw [fileValue, ← List.head?_filter, List.filter_reverse, List.head?_reverse]

/-- An entry without references depends on the assignments to its own name only. -/
theorem fileText?_of_plain (environment : List (String × String)) {file : Option String}
    {name : String} (plain : IsPlain file name) :
    fileText? environment file name = (decisive file name).bind (·.2) := by
  cases file with
  | none => rfl
  | some text =>
    have own : List.Forall₂ EnvironmentFile.ReadOf
        ((EnvironmentFile.read environment text).filter (sameName ·.1 name))
        (mergeEntries (assignments (some text) name)) :=
      EnvironmentFile.readOf_foldl_assign (sameName · name) environment _ .nil
    rw [fileText?, Option.bind_some, fileValue_eq]
    exact EnvironmentFile.getLast?_bind_of_readOf own plain

private theorem fileText?_congr (environment environment' : List (String × String))
    {file file' : Option String} {name : String}
    (same : assignments file' name = assignments file name) (plain : IsPlain file name) :
    fileText? environment' file' name = fileText? environment file name := by
  have counts : decisive file' name = decisive file name := by rw [decisive, same, decisive]
  have plain' : IsPlain file' name := by rwa [IsPlain, counts]
  rw [fileText?_of_plain environment' plain', fileText?_of_plain environment plain, counts]

/-- The settings that are read hold in each field what its rule makes of the value of its argument,
else of its variable, else of its entry in the file, or else the default. Two sources that say the
same of a field have the same outcome for it, whatever they say of others; and what they say of it
in the file depends on the assignments to it only, unless the one that counts has a reference. -/
theorem read_precedence (named : s.IsNamed) :
    (∀ r, read s = .ok r ↔ Each fun field get => field.Holds (value? s field) (get r)) ∧
    (∀ s', s'.IsNamed → Each fun field _ => Agree field s s' → take s' field = take s field) ∧
    ∀ environment file name, assignments file name = assignments s.file name →
      IsPlain s.file name →
        fileText? environment file name = fileText? s.environment s.file name := by
  refine ⟨fun r => read_eq_ok_iff.trans ⟨fun taken => ?_, fun held => ?_⟩, fun s' named' => ?_, ?_⟩
  · exact taken.mp (.of_distinct fun distinct _ => (take_eq_valid_iff named distinct).mp)
  · exact held.mp (.of_distinct fun distinct _ => (take_eq_valid_iff named distinct).mpr)
  · exact .of_distinct fun distinct _ agree => agree.take_eq named named' distinct
  · intro environment file name same plain
    exact fileText?_congr s.environment environment same plain

/-- Values of every kind: an argument under the name of a field, variables, and entries. -/
def layered : Sources where
  arguments := [("log_level", .text "DEBUG")]
  environment := [("LOG_LEVEL", "ERROR"), ("log_json", "1")]
  file := some "LOG_JSON=0\nDB_CONNECT_ATTEMPTS=4"

/-- The argument counts before the variable, and a variable before an entry. -/
theorem read_precedence_layered : ∃ r, layered.IsNamed ∧ read layered = .ok r ∧
    r.propertiesFile = "db.properties" ∧ r.connectAttempts = 4 ∧ r.logLevel = "DEBUG" ∧
    r.logJson = true := by
  have named : layered.IsNamed := by
    unfold Sources.IsNamed
    decide
  have read_ := (read_precedence named).1 ⟨"db.properties", 4, 1.0, "DEBUG", true⟩
  exact ⟨_, named, read_.mpr ⟨rfl, rfl, rfl, rfl, rfl⟩, rfl, rfl, rfl, rfl⟩

/-- An entry for the level that refers to the variable of another field. -/
def referring (json : String) : Sources where
  environment := [("LOG_JSON", json)]
  file := some "LOG_LEVEL=$\x7bLOG_JSON\x7d"

/-- A variable for one field decides another one, as that one's entry refers to it. -/
theorem read_precedence_reference : ∃ r r',
    (∀ name, sameName "LOG_JSON" name = false →
      lookupName (referring "1").environment name = lookupName (referring "0").environment name) ∧
    read (referring "1") = .ok r ∧ r.logLevel = "1" ∧
    read (referring "0") = .ok r' ∧ r'.logLevel = "0" := by
  refine ⟨_, _, ?_, rfl, rfl, rfl, rfl⟩
  intro name other
  simp [referring, lookupName, other]

end Settings

end BucketStore
