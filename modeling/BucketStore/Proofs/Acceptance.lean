import BucketStore.Proofs.Fields
import BucketStore.Proofs.Opening
import BucketStore.Proofs.Trimming

/-!
Accepted sources. Settings that are read from a source have a pool that holds a connection, a wait
that is longer than nothing, and a lifetime that is positive or unlimited. Their address names
something, unless it was given as blanks or as the mark of another access layer alone: that it is
there is checked before it is cleaned.
-/

namespace BucketStore

namespace DatabaseSettings

/-- The address holds something that is no blank. -/
def IsFilled (url : String) : Prop :=
  ∃ c ∈ url.toList, Text.isBlank c = false

/-- An address that is given, but as blanks or as the mark alone. -/
def IsBare (raw : String) : Prop :=
  raw ≠ "" ∧ (Text.trim Text.isBlank raw.toList = [] ∨
    Text.trim Text.isBlank raw.toList = accessMark.toList)

instance (raw : String) : Decidable (IsBare raw) :=
  inferInstanceAs (Decidable (_ ∧ _))

/-- The end of a trimmed text is no blank, so whatever is left of its front is filled. -/
theorem isFilled_of_suffix {cs rest : List Char} (suffix : rest <:+ Text.trim Text.isBlank cs) :
    IsFilled (String.ofList rest) ↔ rest ≠ [] := by
  unfold IsFilled
  rw [String.toList_ofList]
  constructor
  · rintro ⟨c, found, -⟩ rfl
    cases found
  · intro some
    obtain ⟨front, whole⟩ := suffix
    have last : rest.getLast some ∈ (Text.trim Text.isBlank cs).getLast? := by
      rw [← whole, List.getLast?_append, List.getLast?_eq_some_getLast some]
      rfl
    exact ⟨_, List.getLast_mem some, Text.last_trimEnd last⟩

/-- Cleaning leaves something of an address unless that is empty or bare. -/
theorem isFilled_cleanUrl_iff {raw : String} :
    IsFilled (cleanUrl raw) ↔ raw ≠ "" ∧ ¬IsBare raw := by
  have given : raw ≠ "" ∧ ¬IsBare raw ↔ Text.trim Text.isBlank raw.toList ≠ [] ∧
      Text.trim Text.isBlank raw.toList ≠ accessMark.toList := by
    unfold IsBare
    by_cases empty : raw = ""
    · subst empty
      exact ⟨fun both => absurd rfl both.1, fun both => absurd rfl both.1⟩
    · simp [empty]
  rw [given, cleanUrl]
  generalize whole : Text.trim Text.isBlank raw.toList = cs
  split
  · rename_i marked
    obtain ⟨rest, rfl⟩ := List.isPrefixOf_iff_prefix.mp marked
    have behind : (accessMark.toList ++ rest).drop accessMark.length = rest := List.drop_left' rfl
    rw [behind, isFilled_of_suffix (whole ▸ List.suffix_append _ _)]
    simp [accessMark]
  · rename_i unmarked
    have all : cs <:+ Text.trim Text.isBlank raw.toList := ⟨[], whole.symm⟩
    rw [isFilled_of_suffix all]
    refine ⟨fun some => ⟨some, ?_⟩, And.left⟩
    rintro rfl
    exact unmarked (List.isPrefixOf_iff_prefix.mpr List.prefix_rfl)

/-- What a source gives as its address. -/
def addressOf (source : Option (List (String × Value))) : Option Value :=
  urlField.value? (source.getD [])

private theorem urlRule_eq_ok {v : Value} {url : String} (passed : urlRule v = .ok url) :
    ∃ raw, v = .text raw ∧ raw ≠ "" ∧ cleanUrl raw = url := by
  obtain ⟨raw, given, cleaned⟩ := Result.bind_eq_ok passed
  obtain ⟨isText, full⟩ := Rule.nonemptyText_eq_ok given
  exact ⟨raw, isText, full, Except.ok.inj cleaned⟩

/-- A lifetime is unlimited, or longer than nothing. -/
theorem lifetimeRule_eq_ok {v : Value} {lifetime : Float}
    (passed : lifetimeRule v = .ok (some lifetime)) : 0 < lifetime := by
  unfold lifetimeRule at passed
  split at passed
  · cases passed
  · exact Rule.floatAbove_zero_eq_ok (Rule.optional_eq_ok passed)

/-- What holds of all checked settings. -/
structure IsSized (s : DatabaseSettings) : Prop where
  poolSize : 1 ≤ s.poolSize
  timeout : 0 < s.timeout
  maxLifetime : ∀ lifetime ∈ s.maxLifetime, 0 < lifetime

/-- Valid settings hold what each of their fields was found to hold. -/
theorem check_fields {source : List (String × Value)} {s : DatabaseSettings}
    (valid : check source = .valid s) :
    urlField.check source = .valid s.url ∧ userField.check source = .valid s.user ∧
      passwordField.check source = .valid s.password ∧
      poolSizeField.check source = .valid s.poolSize ∧
      timeoutField.check source = .valid s.timeout ∧
      maxLifetimeField.check source = .valid s.maxLifetime ∧
      testQueryField.check source = .valid s.testQuery := by
  obtain ⟨⟨url, user, password, poolSize, timeout, maxLifetime, testQuery⟩, checked, rfl⟩ :=
    Checked.map_eq_valid valid
  obtain ⟨urlChecked, rest⟩ := Checked.both_eq_valid checked
  obtain ⟨userChecked, rest⟩ := Checked.both_eq_valid rest
  obtain ⟨passwordChecked, rest⟩ := Checked.both_eq_valid rest
  obtain ⟨sizeChecked, rest⟩ := Checked.both_eq_valid rest
  obtain ⟨timeoutChecked, rest⟩ := Checked.both_eq_valid rest
  obtain ⟨lifetimeChecked, queryChecked⟩ := Checked.both_eq_valid rest
  exact ⟨urlChecked, userChecked, passwordChecked, sizeChecked, timeoutChecked, lifetimeChecked,
    queryChecked⟩

theorem check_eq_valid {source : List (String × Value)} {s : DatabaseSettings}
    (valid : check source = .valid s) :
    s.IsSized ∧ ∃ raw, urlField.value? source = some (.text raw) ∧ raw ≠ "" ∧
      s.url = cleanUrl raw := by
  obtain ⟨urlChecked, -, -, sizeChecked, timeoutChecked, lifetimeChecked, -⟩ := check_fields valid
  have positive : (0 : Float) < 15.0 := by decide
  refine ⟨⟨?_, ?_, ?_⟩, ?_⟩
  · rcases Field.check_eq_valid sizeChecked with ⟨v, -, ruled⟩ | ⟨-, default⟩
    · exact Rule.intFrom_eq_ok ruled
    · have three : 3 = s.poolSize := Option.some.inj default
      omega
  · rcases Field.check_eq_valid timeoutChecked with ⟨v, -, ruled⟩ | ⟨-, default⟩
    · exact Rule.floatAbove_zero_eq_ok ruled
    · exact Option.some.inj default ▸ positive
  · rcases Field.check_eq_valid lifetimeChecked with ⟨v, -, ruled⟩ | ⟨-, default⟩
    · intro lifetime limited
      rw [Option.mem_def.mp limited] at ruled
      exact lifetimeRule_eq_ok ruled
    · have unlimited : none = s.maxLifetime := Option.some.inj default
      rw [← unlimited]
      exact nofun
  · rcases Field.check_eq_valid urlChecked with ⟨v, given, ruled⟩ | ⟨-, default⟩
    · obtain ⟨raw, rfl, full, cleaned⟩ := urlRule_eq_ok ruled
      exact ⟨raw, given, full, cleaned.symm⟩
    · cases default

end DatabaseSettings

namespace Manager

open DatabaseSettings (IsBare IsFilled addressOf cleanUrl)

variable {σ : Type}

theorem settingsOf_eq_some {source : Option (List (String × Value))} {s : DatabaseSettings}
    (found : settingsOf source = some s) : DatabaseSettings.check (source.getD []) = .valid s := by
  unfold settingsOf at found
  split at found
  · cases found
  · split at found
    · rename_i checked
      rw [checked, Option.some.inj found]
    · cases found

/-- A source is read without a fault, and the settings that it has can be used: they are sized, and
their address is the one given, cleaned. Unless that was bare, it is filled; and a source without an
address that cleaning leaves something of has no settings. -/
theorem readSource_usable (source : Option (List (String × Value))) (w : World σ) :
    ∃ found journal, readSource source w = (.ok found, { w with journal := journal }) ∧
      (∀ s ∈ found, s.IsSized ∧
        ∃ raw, addressOf source = some (.text raw) ∧ s.url = cleanUrl raw) ∧
      ((∀ raw, addressOf source = some (.text raw) → ¬IsBare raw) →
        (∀ s ∈ found, IsFilled s.url) ∧
        ((∀ raw, addressOf source = some (.text raw) → ¬IsFilled (cleanUrl raw)) →
          found = none)) := by
  obtain ⟨journal, read⟩ := readSource_apply source w
  have accepted {s : DatabaseSettings} (found : settingsOf source = some s) :=
    DatabaseSettings.check_eq_valid (settingsOf_eq_some found)
  refine ⟨settingsOf source, journal, read, ?_, fun ordinary => ⟨?_, fun unnamed => ?_⟩⟩
  · intro s found
    obtain ⟨sized, raw, given, -, cleaned⟩ := accepted found
    exact ⟨sized, raw, given, cleaned⟩
  · intro s found
    obtain ⟨-, raw, given, full, cleaned⟩ := accepted found
    rw [cleaned]
    exact DatabaseSettings.isFilled_cleanUrl_iff.mpr ⟨full, ordinary raw given⟩
  · cases found : settingsOf source with
    | none => rfl
    | some s =>
      obtain ⟨-, raw, given, full, -⟩ := accepted found
      exact absurd (DatabaseSettings.isFilled_cleanUrl_iff.mpr ⟨full, ordinary raw given⟩)
        (unnamed raw given)

/-- An address with its mark and blanks around it, and a lifetime of zero. -/
def markedSource : List (String × Value) :=
  [("jdbc.url", .text " jdbc:postgresql://h/db\n"), ("pool.size", .text "5"),
    ("max.lifetime", .text "0")]

theorem readSource_usable_marked : ∃ s w',
    readSource (some markedSource) ({ surroundings := () } : World Unit) = (.ok (some s), w') ∧
      s.IsSized ∧ s.url = "postgresql://h/db" ∧ IsFilled s.url := by
  obtain ⟨found, journal, read, accepted, filled⟩ :=
    readSource_usable (some markedSource) ({ surroundings := () } : World Unit)
  have ordinary : ∀ raw, addressOf (some markedSource) = some (.text raw) → ¬IsBare raw := by
    intro raw given
    obtain rfl : " jdbc:postgresql://h/db\n" = raw := Value.text.inj (Option.some.inj given)
    decide
  have settled : (readSource (some markedSource)
      ({ surroundings := () } : World Unit)).1.toOption.join.map (·.url)
        = some "postgresql://h/db" := by
    decide +kernel
  rw [read] at settled
  cases found with
  | none => cases settled
  | some s =>
    exact ⟨s, _, read, (accepted s rfl).1, Option.some.inj settled, (filled ordinary).1 s rfl⟩

/-- An address that is nothing but its mark is accepted, and cleaning leaves it empty. -/
theorem readSource_usable_bare : ∃ s w',
    readSource (some [("jdbc.url", .text "jdbc:")]) ({ surroundings := () } : World Unit)
      = (.ok (some s), w') ∧ s.url = "" ∧ ¬IsFilled s.url :=
  ⟨_, _, rfl, rfl, fun ⟨_, found, _⟩ => nomatch found⟩

end Manager

end BucketStore
