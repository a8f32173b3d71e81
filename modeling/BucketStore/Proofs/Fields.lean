import BucketStore.Proofs.Action
import BucketStore.Validation

/-!
Fields of records: what is found under a name, what it says about a value that it passed the rule
of its field, and when two sources are checked alike.
-/

namespace BucketStore

namespace Value

variable {fields more : List (String × Value)} {key : String}

theorem lookup_append (fields more : List (String × Value)) (key : String) :
    lookup (fields ++ more) key = (lookup more key).or (lookup fields key) := by
  simp [lookup, List.reverse_append, List.find?_append, Option.map_or]

theorem lookup_cons (entry : String × Value) (fields : List (String × Value)) (key : String) :
    lookup (entry :: fields) key
      = (lookup fields key).or (if entry.1 == key then some entry.2 else none) := by
  rw [← List.singleton_append, lookup_append]
  congr 1
  cases same : entry.1 == key <;> simp [lookup, same]

theorem lookup_eq_none (absent : ∀ entry ∈ fields, entry.1 ≠ key) : lookup fields key = none := by
  refine Option.map_eq_none_iff.mpr (List.find?_eq_none.mpr fun entry member => ?_)
  simpa using absent entry (List.mem_reverse.mp member)

/-- A choice of entries by their names leaves those of a name as they are, or none of them. -/
theorem lookup_filter (shown : String → Bool) (fields : List (String × Value)) (key : String) :
    lookup (fields.filter fun entry => shown entry.1) key
      = if shown key then lookup fields key else none := by
  induction fields with
  | nil => simp [lookup]
  | cons entry fields ih =>
    rw [List.filter_cons, lookup_cons]
    by_cases same : entry.1 = key
    · subst same
      cases chosen : shown entry.1 <;> simp [chosen, ih, lookup_cons]
    · cases chosen : shown entry.1 <;> simp [same, ih, lookup_cons]

end Value

namespace Checked

variable {α β : Type} {title : String}

theorem run_eq_ok {checked : Checked α} {a : α} (ran : checked.run title = .ok a) :
    checked = .valid a := by
  cases checked with
  | valid b => rw [Except.ok.inj ran]
  | flawed issues => cases ran

theorem map_eq_valid {checked : Checked α} {f : α → β} {b : β} (valid : checked.map f = .valid b) :
    ∃ a, checked = .valid a ∧ f a = b := by
  cases checked with
  | valid a => exact ⟨a, rfl, Checked.valid.inj valid⟩
  | flawed issues => cases valid

theorem both_eq_valid {first : Checked α} {last : Checked β} {a : α} {b : β}
    (valid : first.both last = .valid (a, b)) : first = .valid a ∧ last = .valid b := by
  cases first with
  | valid a' =>
    cases last with
    | valid b' =>
      cases valid
      exact ⟨rfl, rfl⟩
    | flawed issues => cases valid
  | flawed issues => cases last <;> cases valid

/-- Checks with related records, or with the same issues. -/
inductive Matches (R : α → β → Prop) : Checked α → Checked β → Prop
  | valid {a : α} {b : β} (related : R a b) : Matches R (.valid a) (.valid b)
  | flawed (issues : List Issue) : Matches R (.flawed issues) (.flawed issues)

theorem matches_refl {R : α → α → Prop} (same : ∀ a, R a a) (c : Checked α) :
    Checked.Matches R c c := by
  cases c with
  | valid a => exact .valid (same a)
  | flawed issues => exact .flawed issues

end Checked

namespace Rule

theorem text_eq_ok {v : Value} {s : String} (passed : text v = .ok s) : v = .text s := by
  cases v with
  | text other => rw [Except.ok.inj passed]
  | _ => cases passed

theorem nonemptyText_eq_ok {v : Value} {s : String} (passed : nonemptyText v = .ok s) :
    v = .text s ∧ s ≠ "" := by
  obtain ⟨given, isText, passed⟩ := Result.bind_eq_ok passed
  split at passed
  · cases passed
  · rename_i full
    obtain rfl := Except.ok.inj passed
    exact ⟨text_eq_ok isText, by simpa using full⟩

theorem intFrom_eq_ok {bound i : Int} {v : Value} (passed : intFrom bound v = .ok i) :
    bound ≤ i := by
  obtain ⟨given, -, passed⟩ := Result.bind_eq_ok passed
  split at passed
  · rename_i reached
    exact Except.ok.inj passed ▸ reached
  · cases passed

theorem floatAbove_eq_ok {bound : Int} {f : Float} {v : Value}
    (passed : floatAbove bound v = .ok f) : Float.ofInt bound < f := by
  obtain ⟨given, -, passed⟩ := Result.bind_eq_ok passed
  split at passed
  · rename_i above
    exact Except.ok.inj passed ▸ above
  · cases passed

theorem floatAbove_zero_eq_ok {f : Float} {v : Value} (passed : floatAbove 0 v = .ok f) :
    0 < f := by
  have zero : Float.ofInt 0 = 0 := rfl
  exact zero ▸ floatAbove_eq_ok passed

/-- Where a value may be absent, one that is there has passed the rule. -/
theorem optional_eq_ok {α : Type} {rule : Rule α} {v : Value} {a : α}
    (passed : optional rule v = .ok (some a)) : rule v = .ok a := by
  unfold optional at passed
  split at passed
  · cases passed
  · obtain ⟨b, ruled, same⟩ := Result.map_eq_ok passed
    rwa [← Option.some.inj same]

end Rule

namespace Field

variable {α : Type} {field : Field α} {source source' : List (String × Value)}

/-- What a source gives for a field. -/
def value? (field : Field α) (source : List (String × Value)) : Option Value :=
  (Value.lookup source field.key).or (Value.lookup source field.alternative)

/-- A field holds what its rule makes of a value, or its default if there is no value. -/
def Holds (field : Field α) (value? : Option Value) (a : α) : Prop :=
  match value? with
  | some v => field.rule v = .ok a
  | none => field.default? = some a

theorem check_eq_valid_iff {a : α} :
    field.check source = .valid a ↔ field.Holds (field.value? source) a := by
  simp only [check, value?, Holds]
  cases Value.lookup source field.key with
  | some v =>
    simp only [Option.map_some, Option.some_or]
    cases field.rule v <;> simp
  | none =>
    cases Value.lookup source field.alternative with
    | some v =>
      simp only [Option.map_none, Option.map_some, Option.none_or]
      cases field.rule v <;> simp
    | none => cases field.default? <;> simp

/-- A checked field holds what the rule makes of its value, or the default of a field that is not
given. -/
theorem check_eq_valid {a : α} (valid : field.check source = .valid a) :
    (∃ v, field.value? source = some v ∧ field.rule v = .ok a) ∨
      field.value? source = none ∧ field.default? = some a := by
  have holds := check_eq_valid_iff.mp valid
  cases given : field.value? source with
  | some v =>
    rw [given] at holds
    exact .inl ⟨v, rfl, holds⟩
  | none =>
    rw [given] at holds
    exact .inr ⟨rfl, holds⟩

/-- A value that breaks the rule of its field is reported under the name it was given by. -/
theorem check_eq_flawed {v : Value} {flaw : Flaw} (given : field.value? source = some v)
    (broken : field.rule v = .error flaw) :
    ∃ key, field.check source = .flawed [flaw.issue key] := by
  simp only [value?] at given
  cases first : Value.lookup source field.key with
  | some v' =>
    rw [first, Option.some_or] at given
    obtain rfl := Option.some.inj given
    exact ⟨field.key, by simp [check, first, broken]⟩
  | none =>
    rw [first, Option.none_or] at given
    exact ⟨field.alternative, by simp [check, first, given, broken]⟩

theorem check_congr (key : Value.lookup source' field.key = Value.lookup source field.key)
    (alternative : Value.lookup source' field.alternative = Value.lookup source field.alternative) :
    field.check source' = field.check source := by
  simp only [check, key, alternative]

end Field

end BucketStore
