import BucketStore.DatabaseSettings
import BucketStore.Proofs.ConnectionParameters

/-!
Credentials in a connection string. Whatever the address gives, in either notation, comes out of
the composed connection string again, with the credentials in their places.
-/

namespace BucketStore.ConnectionString

open Keyword (setTexts writtenPair writtenBehind)

section Overrides

variable {ps ps' : Parameters} {pairs : List (String × String)} {name other value : String}

private theorem get?_setTexts_congr (same : ps.get? name = ps'.get? name)
    (pairs : List (String × String)) :
    (setTexts ps pairs).get? name = (setTexts ps' pairs).get? name := by
  induction pairs generalizing ps ps' with
  | nil => exact same
  | cons pair rest ih =>
    refine ih ?_
    dsimp only
    by_cases h : pair.1 = name
    · rw [h, Parameters.get?_set_self, Parameters.get?_set_self]
    · rw [Parameters.get?_set_of_ne _ _ h, Parameters.get?_set_of_ne _ _ h, same]

/-- Pairs with the value of one name replaced. -/
def replaced (pairs : List (String × String)) (name value : String) : List (String × String) :=
  pairs.map fun pair => if pair.1 = name then (name, value) else pair

private theorem get?_setTexts_replaced_self (ps : Parameters) (pairs : List (String × String))
    (name value : String) :
    (setTexts ps (replaced pairs name value)).get? name
      = if pairs.any (·.1 = name) then some (.text value) else ps.get? name := by
  induction pairs generalizing ps with
  | nil => rfl
  | cons pair rest ih =>
    refine (ih _).trans ?_
    rw [List.any_cons]
    by_cases h : pair.1 = name
    · simp [h, Parameters.get?_set_self]
    · simp only [h, decide_false, Bool.false_or, if_false, Parameters.get?_set_of_ne _ _ h]

private theorem get?_setTexts_replaced_of_ne (ps : Parameters) (pairs : List (String × String))
    (value : String) (h : name ≠ other) :
    (setTexts ps (replaced pairs name value)).get? other = (setTexts ps pairs).get? other := by
  induction pairs generalizing ps with
  | nil => rfl
  | cons pair rest ih =>
    refine (ih _).trans (get?_setTexts_congr ?_ rest)
    by_cases same : pair.1 = name
    · simp [same, Parameters.get?_set_of_ne _ _ h]
    · simp [same]

private theorem setTexts_concat (ps : Parameters) (pairs : List (String × String))
    (name value : String) :
    setTexts ps (pairs ++ [(name, value)]) = (setTexts ps pairs).set name (.text value) := by
  simp [setTexts]

/-- A name that is set has the new value. -/
theorem get?_setTexts_putEntry_self (ps : Parameters) (pairs : List (String × String))
    (name value : String) :
    (setTexts ps (putEntry pairs name value)).get? name = some (.text value) := by
  unfold putEntry
  split
  next present => rw [← replaced, get?_setTexts_replaced_self, if_pos present]
  · rw [setTexts_concat, Parameters.get?_set_self]

/-- All other names keep theirs. -/
theorem get?_setTexts_putEntry_of_ne (ps : Parameters) (pairs : List (String × String))
    (value : String) (h : name ≠ other) :
    (setTexts ps (putEntry pairs name value)).get? other = (setTexts ps pairs).get? other := by
  unfold putEntry
  split
  · rw [← replaced, get?_setTexts_replaced_of_ne _ _ _ h]
  · rw [setTexts_concat, Parameters.get?_set_of_ne _ _ h]

end Overrides

section Texts

variable {ps acc : Parameters} {entries : List (String × Setting)}
  {pairs : List (String × String)} {name : String}

private theorem texts_cons {value : String} :
    texts ((name, .text value) :: entries) = (texts entries).map ((name, value) :: ·) := by
  rw [texts]
  cases texts entries <;> rfl

/-- All values are texts, or there is no list of texts. -/
theorem texts_isOk_iff :
    (∃ pairs, texts entries = .ok pairs) ↔ ∀ entry ∈ entries, ∀ raw, entry.2 ≠ .bytes raw := by
  induction entries with
  | nil => exact ⟨fun _ _ member => absurd member List.not_mem_nil, fun _ => ⟨_, rfl⟩⟩
  | cons entry rest ih =>
    obtain ⟨name, value⟩ := entry
    cases value with
    | bytes raw =>
      constructor
      · rintro ⟨pairs, done⟩
        cases done
      · intro all
        exact absurd rfl (all _ List.mem_cons_self raw)
    | text value =>
      rw [texts_cons, List.forall_mem_cons]
      constructor
      · rintro ⟨pairs, done⟩
        obtain ⟨later, read, -⟩ := Result.map_eq_ok done
        exact ⟨fun raw same => (nomatch same), ih.mp ⟨later, read⟩⟩
      · rintro ⟨-, all⟩
        obtain ⟨later, read⟩ := ih.mpr all
        exact ⟨_, by rw [read]; rfl⟩

private theorem mem_of_texts (h : texts entries = .ok pairs) :
    ∀ pair ∈ pairs, (pair.1, Setting.text pair.2) ∈ entries := by
  induction entries generalizing pairs with
  | nil =>
    obtain rfl := Except.ok.inj h
    exact fun _ member => nomatch member
  | cons entry rest ih =>
    obtain ⟨name, value⟩ := entry
    cases value with
    | bytes raw => cases h
    | text value =>
      rw [texts_cons] at h
      obtain ⟨later, read, rfl⟩ := Result.map_eq_ok h
      rw [List.forall_mem_cons]
      exact ⟨List.mem_cons_self, fun pair member => List.mem_cons_of_mem _ (ih read pair member)⟩

theorem names_of_texts (h : texts ps.toList = .ok pairs) : ∀ pair ∈ pairs, pair.1 ∈ names := by
  intro pair member
  obtain ⟨name, known, found⟩ := List.mem_filterMap.mp (mem_of_texts h pair member)
  obtain ⟨value, -, same⟩ := Option.map_eq_some_iff.mp found
  exact (Prod.mk.inj same).1 ▸ known

private theorem get?_setTexts_listed {ns : List String}
    (h : texts (ns.filterMap fun n => (ps.get? n).map (n, ·)) = .ok pairs) :
    (setTexts acc pairs).get? name
      = if name ∈ ns then (ps.get? name).or (acc.get? name) else acc.get? name := by
  induction ns generalizing acc pairs with
  | nil =>
    obtain rfl := Except.ok.inj h
    rfl
  | cons n rest ih =>
    rw [List.filterMap_cons] at h
    cases found : ps.get? n with
    | none =>
      simp only [found, Option.map_none] at h
      rw [ih h]
      by_cases same : name = n
      · simp [same, found]
      · simp [same]
    | some value =>
      simp only [found, Option.map_some] at h
      cases value with
      | bytes raw => cases h
      | text value =>
        rw [texts_cons] at h
        obtain ⟨later, read, rfl⟩ := Result.map_eq_ok h
        refine (ih read).trans ?_
        by_cases same : name = n
        · subst same
          simp [found, Parameters.get?_set_self]
        · simp [same, Parameters.get?_set_of_ne _ _ (Ne.symm same)]

/-- The texts of all parameters, set again, are these parameters. -/
theorem get?_setTexts_toList (sound : ps.Sound) (h : texts ps.toList = .ok pairs) (name : String) :
    (setTexts {} pairs).get? name = ps.get? name := by
  rw [get?_setTexts_listed h]
  split
  · exact Option.or_none
  next unknown =>
    cases found : ps.get? name with
    | none => rfl
    | some value => exact absurd (sound.get? found).1 unknown

end Texts

section Cut

variable {name value : String} {pairs : List (String × String)} {cs : List Char}

/-- What holds no NUL is not cut. -/
theorem cut_append (free : '\x00' ∉ cs) (tail : List Char) :
    (cs ++ tail).takeWhile (· ≠ '\x00') = cs ++ tail.takeWhile (· ≠ '\x00') :=
  List.takeWhile_append_of_pos fun _ member => decide_eq_true fun nul => free (nul ▸ member)

theorem untilNul_of_free {s : String} (free : NulFree s) : untilNul s = s := by
  have whole := cut_append free []
  rw [List.append_nil, List.takeWhile_nil, List.append_nil] at whole
  rw [untilNul, whole, String.ofList_toList]

theorem escapedChar_free {c : Char} (other : c ≠ '\x00') : '\x00' ∉ Keyword.escapedChar c := by
  unfold Keyword.escapedChar
  split <;> simp [Ne.symm other]

theorem writtenValue_free (free : NulFree value) : '\x00' ∉ Keyword.writtenValue value := by
  have body : '\x00' ∉ value.toList.flatMap Keyword.escapedChar := by
    intro member
    obtain ⟨c, within, nul⟩ := List.mem_flatMap.mp member
    exact escapedChar_free (fun same => free (same ▸ within)) nul
  unfold Keyword.writtenValue
  dsimp only
  split
  · simpa using body
  · exact body

theorem nulFree_names : ∀ name ∈ names, NulFree name := by decide +kernel

theorem writtenPair_free (known : name ∈ names) (free : NulFree value) :
    '\x00' ∉ writtenPair name value := by
  have nameFree : '\x00' ∉ name.toList := nulFree_names name known
  simp [writtenPair, nameFree, writtenValue_free free]

theorem writtenBehind_free (all : ∀ pair ∈ pairs, pair.1 ∈ names ∧ NulFree pair.2) :
    '\x00' ∉ writtenBehind pairs := by
  induction pairs with
  | nil => exact List.not_mem_nil
  | cons pair rest ih =>
    rw [List.forall_mem_cons] at all
    simp [writtenBehind, writtenPair_free all.1.1 all.1.2, ih all.2]

/-- A written name is not the start of an address. -/
theorem afterScheme?_named (known : name ∈ names) (cs : List Char) :
    Uri.afterScheme? (name.toList ++ '=' :: cs) = none := by
  have apart : ∀ name ∈ names, ∀ scheme ∈ Uri.schemes,
      ¬ scheme.toList <+: name.toList ++ ['='] ∧ ¬ name.toList ++ ['='] <+: scheme.toList := by
    decide +kernel
  unfold Uri.afterScheme?
  rw [Option.map_eq_none_iff, List.find?_eq_none]
  intro scheme listed start
  have whole : name.toList ++ '=' :: cs = (name.toList ++ ['=']) ++ cs := by simp
  have marked := List.prefix_or_prefix_of_prefix (List.isPrefixOf_iff_prefix.mp start)
    (whole ▸ List.prefix_append (name.toList ++ ['=']) cs)
  exact marked.elim (apart name known scheme listed).1 (apart name known scheme listed).2

/-- Written pairs of known names and without NUL are a connection string with these values. -/
theorem read_write (all : ∀ pair ∈ pairs, pair.1 ∈ names ∧ NulFree pair.2) :
    read (Keyword.write pairs) = .ok (setTexts {} pairs) := by
  have pairsRead := Keyword.read_write fun pair member => (all pair member).1
  cases pairs with
  | nil => exact pairsRead
  | cons pair rest =>
    rw [List.forall_mem_cons] at all
    have free : NulFree (Keyword.write (pair :: rest)) := by
      rw [NulFree, Keyword.write_cons]
      simp [writtenPair_free all.1.1 all.1.2, writtenBehind_free all.2]
    have noScheme : Uri.afterScheme? (Keyword.write (pair :: rest)).toList = none := by
      rw [Keyword.write_cons, writtenPair, List.append_assoc, List.cons_append]
      exact afterScheme?_named all.1.1 _
    rw [read, untilNul_of_free free, noScheme]
    exact pairsRead

end Cut

end BucketStore.ConnectionString

namespace BucketStore.DatabaseSettings

open ConnectionString (Parameters Setting NulFree texts compose)
open ConnectionString.Keyword (setTexts)

variable {s : DatabaseSettings} {base : String} {given : Parameters}
  {pairs : List (String × String)}

/-- The value of a credential that is there and not empty. -/
def settingOf? (value : Option String) : Option Setting :=
  (value.filter (!·.isEmpty)).map .text

/-- What the credentials put in the place of a parameter. -/
def replacement? (s : DatabaseSettings) (name : String) : Option Setting :=
  if name = "user" then settingOf? s.user
  else if name = "password" then settingOf? s.password
  else none

theorem settingOf?_eq_none_iff {name : String} {value : Option String} :
    settingOf? value = none ↔ credential name value = [] := by
  cases value with
  | none => exact ⟨fun _ => rfl, fun _ => rfl⟩
  | some s => by_cases empty : s.isEmpty <;> simp [settingOf?, credential, empty, Option.filter]

private theorem get?_putEntries_credential (ps : Parameters) (pairs : List (String × String))
    (name : String) (value : Option String) (other : String) :
    (setTexts ps (putEntries pairs (credential name value))).get? other
      = (if other = name then settingOf? value else none).or ((setTexts ps pairs).get? other) := by
  cases value with
  | none => simp [credential, putEntries, settingOf?]
  | some s =>
    by_cases empty : s.isEmpty
    · simp [credential, putEntries, settingOf?, Option.filter, empty]
    · by_cases same : other = name
      · simp [credential, putEntries, settingOf?, Option.filter, empty, same,
          ConnectionString.get?_setTexts_putEntry_self]
      · simp [credential, putEntries, empty, same,
          ConnectionString.get?_setTexts_putEntry_of_ne _ _ _ (Ne.symm same)]

private theorem read_empty : ConnectionString.read "" = .ok {} :=
  ConnectionString.Keyword.readPairs_blank rfl

private theorem compose_nil (base : String) :
    compose base [] = match ConnectionString.read base with
      | .ok _ => .ok base
      | .error refusal => .error refusal.fault := rfl

/-- A composed string is written from the pairs of the address and checked. -/
theorem compose_eq {credentials : List (String × String)}
    (accepted : ConnectionString.read base = .ok given) (present : credentials ≠ []) :
    compose base credentials = texts given.toList >>= fun pairs =>
      let written := ConnectionString.Keyword.write (putEntries pairs credentials)
      match ConnectionString.read written with
      | .ok _ => .ok written
      | .error refusal => .error refusal.fault := by
  have shown : credentials.isEmpty = false := by simpa using present
  unfold compose
  simp only [shown, Bool.false_eq_true, if_false]
  split
  next empty =>
    obtain rfl : base = "" := String.isEmpty_iff.mp empty
    obtain rfl := Except.ok.inj (read_empty.symm.trans accepted)
    rfl
  · generalize ConnectionString.read base = opened at accepted ⊢
    cases accepted
    rfl

theorem compose_of_refused {refusal : ConnectionString.Refusal}
    {credentials : List (String × String)} (refused : ConnectionString.read base = .error refusal)
    (present : credentials ≠ []) : compose base credentials = .error refusal.fault := by
  have shown : credentials.isEmpty = false := by simpa using present
  have full : base.isEmpty = false := by
    refine Bool.eq_false_iff.mpr fun empty => ?_
    obtain rfl : base = "" := String.isEmpty_iff.mp empty
    exact nomatch read_empty.symm.trans refused
  unfold compose
  simp only [shown, full, Bool.false_eq_true, if_false, refused]
  rfl

private theorem compose_of_texts {credentials : List (String × String)}
    (accepted : ConnectionString.read base = .ok given) (listed : texts given.toList = .ok pairs)
    (present : credentials ≠ [])
    (sound : ∀ pair ∈ credentials, pair.1 ∈ ConnectionString.names ∧ NulFree pair.2) :
    ∃ conninfo, compose base credentials = .ok conninfo ∧
      ConnectionString.read conninfo = .ok (setTexts {} (putEntries pairs credentials)) := by
  have all : ∀ pair ∈ putEntries pairs credentials,
      pair.1 ∈ ConnectionString.names ∧ NulFree pair.2 := by
    intro pair member
    obtain old | fresh := List.mem_append.mp (mem_putEntries member)
    · have entry := ConnectionString.mem_of_texts listed pair old
      obtain ⟨name, -, found⟩ := List.mem_filterMap.mp entry
      obtain ⟨value, found, same⟩ := Option.map_eq_some_iff.mp found
      obtain ⟨known, free⟩ := (ConnectionString.read_sound accepted).get? found
      obtain ⟨rfl, rfl⟩ := Prod.mk.inj same
      exact ⟨known, free _ rfl⟩
    · exact sound pair fresh
  have written := ConnectionString.read_write all
  refine ⟨_, ?_, written⟩
  rw [compose_eq accepted present, listed]
  simp only [bind, Except.bind, written]

private theorem credential_sound {name : String} {value : Option String}
    (known : name ∈ ConnectionString.names) (free : ∀ s, value = some s → NulFree s) :
    ∀ pair ∈ credential name value, pair.1 ∈ ConnectionString.names ∧ NulFree pair.2 := by
  intro pair member
  cases value with
  | none => exact absurd member List.not_mem_nil
  | some s =>
    unfold credential at member
    dsimp only at member
    split at member
    · exact absurd member List.not_mem_nil
    · obtain rfl := List.mem_singleton.mp member
      exact ⟨known, free s rfl⟩

/-- The credentials to put in. -/
def credentials (s : DatabaseSettings) : List (String × String) :=
  credential "user" s.user ++ credential "password" s.password

theorem replacement?_eq_none_iff (s : DatabaseSettings) :
    (∀ name, s.replacement? name = none) ↔ s.credentials = [] := by
  rw [credentials, List.append_eq_nil_iff, ← settingOf?_eq_none_iff, ← settingOf?_eq_none_iff]
  constructor
  · intro all
    exact ⟨all "user", all "password"⟩
  · rintro ⟨user, password⟩ name
    unfold replacement?
    split
    · exact user
    split
    · exact password
    · rfl

private theorem get?_putEntries (s : DatabaseSettings) (ps : Parameters)
    (pairs : List (String × String)) (name : String) :
    (setTexts ps (putEntries pairs s.credentials)).get? name
      = (s.replacement? name).or ((setTexts ps pairs).get? name) := by
  rw [credentials, putEntries_append, get?_putEntries_credential, get?_putEntries_credential,
    replacement?]
  by_cases user : name = "user"
  · simp [user]
  · simp [user]

theorem texts_toList_isOk_iff (sound : given.Sound) :
    (∃ pairs, texts given.toList = .ok pairs) ↔
      ∀ name raw, given.get? name ≠ some (.bytes raw) := by
  rw [ConnectionString.texts_isOk_iff]
  constructor
  · intro all name raw found
    have entry : (name, Setting.bytes raw) ∈ given.toList :=
      List.mem_filterMap.mpr ⟨name, (sound.get? found).1, by rw [found]; rfl⟩
    exact all _ entry raw rfl
  · intro all entry member raw same
    obtain ⟨name, -, listed⟩ := List.mem_filterMap.mp member
    obtain ⟨value, found, rfl⟩ := Option.map_eq_some_iff.mp listed
    obtain rfl : value = .bytes raw := same
    exact all name raw found

/-- The credentials are intact in the connection string. It is made exactly if there is no
credential to put in, or the parameters of the address are all texts; read again, it gives these
parameters with the credentials in their places. -/
theorem conninfo_parameters (s : DatabaseSettings)
    (accepted : ConnectionString.read s.url = .ok given)
    (userFree : ∀ user, s.user = some user → NulFree user)
    (passwordFree : ∀ password, s.password = some password → NulFree password) :
    ((∃ conninfo, s.conninfo = .ok conninfo) ↔
      (∀ name, s.replacement? name = none) ∨ ∀ name raw, given.get? name ≠ some (.bytes raw)) ∧
    ∀ conninfo, s.conninfo = .ok conninfo →
      ∃ parsed, ConnectionString.read conninfo = .ok parsed ∧
        ∀ name, parsed.get? name = (s.replacement? name).or (given.get? name) := by
  have sound := ConnectionString.read_sound accepted
  rw [replacement?_eq_none_iff]
  by_cases present : s.credentials = []
  · have kept : s.conninfo = .ok s.url := by
      change compose s.url s.credentials = _
      rw [present, compose_nil, accepted]
    refine ⟨⟨fun _ => Or.inl present, fun _ => ⟨_, kept⟩⟩, fun conninfo made => ?_⟩
    obtain rfl := Except.ok.inj (kept.symm.trans made)
    refine ⟨given, accepted, fun name => ?_⟩
    rw [(replacement?_eq_none_iff s).mpr present name, Option.none_or]
  have known : ∀ pair ∈ s.credentials, pair.1 ∈ ConnectionString.names ∧ NulFree pair.2 := by
    intro pair member
    obtain user | password := List.mem_append.mp member
    · exact credential_sound (by decide) userFree pair user
    · exact credential_sound (by decide) passwordFree pair password
  have composed : s.conninfo = compose s.url s.credentials := rfl
  rw [← texts_toList_isOk_iff sound]
  cases listed : texts given.toList with
  | error fault =>
    have failed : s.conninfo = .error fault := by
      rw [composed, compose_eq accepted present, listed]
      rfl
    rw [failed]
    simp [present]
  | ok pairs =>
    obtain ⟨conninfo, made, parsed⟩ := compose_of_texts accepted listed present known
    rw [← composed] at made
    refine ⟨⟨fun _ => Or.inr ⟨_, rfl⟩, fun _ => ⟨_, made⟩⟩, fun conninfo' made' => ?_⟩
    obtain rfl := Except.ok.inj (made.symm.trans made')
    refine ⟨_, parsed, fun name => ?_⟩
    rw [get?_putEntries, ConnectionString.get?_setTexts_toList sound listed]

/-- An address with escapes, with an empty user and a password of all kinds of characters. -/
def escapedAddress : DatabaseSettings where
  url := "postgresql://ann%40x:old@[::1]:5433,db2/sales%20%27%C3%A9%5C?application_name=a%26b"
  user := some ""
  password := some "it's \\ a=\n\"b\""
  poolSize := 3
  timeout := 15.0
  maxLifetime := none
  testQuery := "SELECT 1"

def escapedParameters : Parameters :=
  ⟨[("application_name", .text "a&b"), ("dbname", .text "sales 'é\\"), ("port", .text "5433,"),
    ("host", .text "::1,db2"), ("password", .text "old"), ("user", .text "ann@x")]⟩

theorem conninfo_parameters_escaped : ∃ conninfo parsed,
    escapedAddress.conninfo = .ok conninfo ∧ ConnectionString.read conninfo = .ok parsed ∧
      parsed.get? "user" = some (.text "ann@x") ∧
      parsed.get? "password" = some (.text "it's \\ a=\n\"b\"") ∧
      parsed.get? "dbname" = some (.text "sales 'é\\") := by
  have accepted : ConnectionString.read escapedAddress.url = .ok escapedParameters := rfl
  have plain : ∀ name raw, escapedParameters.get? name ≠ some (.bytes raw) := by
    intro name raw found
    obtain ⟨entry, located, same⟩ := Option.map_eq_some_iff.mp found
    have texts : ∀ entry ∈ escapedParameters.given, ∀ raw, entry.2 ≠ .bytes raw := by
      simp [escapedParameters]
    exact texts entry (List.mem_of_find?_eq_some located) raw same
  obtain ⟨total, intact⟩ := conninfo_parameters escapedAddress accepted
    (fun user same => Option.some.inj same ▸ by decide)
    (fun password same => Option.some.inj same ▸ by decide)
  obtain ⟨conninfo, made⟩ := total.mpr (Or.inr plain)
  obtain ⟨parsed, read, values⟩ := intact conninfo made
  exact ⟨conninfo, parsed, made, read, values "user", values "password", values "dbname"⟩

end BucketStore.DatabaseSettings
