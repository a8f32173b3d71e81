import BucketStore.Proofs.Credentials
import BucketStore.Proofs.Fields
import BucketStore.Proofs.Veil

/-!
Sources that are equal except for their passwords. They are flawed alike, and their settings make
connection strings that are accepted or refused alike: a written password reads back whatever it
holds, so that nothing a connection string is refused for depends on it.
-/

namespace BucketStore

open ConnectionString (NulFree)

/-- A password that is there and that no NUL cuts short. -/
def IsSecret (password : String) : Prop :=
  password ≠ "" ∧ NulFree password

/-! ### Connection strings -/

namespace ConnectionString

open Keyword (Gap writtenPair writtenBehind readPairs)

variable {cs tail : List Char} {pairs pairs' : List (String × String)}

/-- Two outcomes of reading that are both good, or the same refusal. -/
abbrev Agree {ε α : Type} : Except ε α → Except ε α → Prop :=
  Result.Matches fun _ _ => True

private theorem agree_refl {ε α : Type} (a : Except ε α) : Agree a a :=
  Result.matches_refl (fun _ => trivial) a

/-- The text in front of the first NUL. -/
def cut (cs : List Char) : List Char :=
  cs.takeWhile (· ≠ '\x00')

/-- Nothing behind a NUL counts. -/
theorem cut_of_mem (nul : '\x00' ∈ cs) (tail : List Char) : cut (cs ++ tail) = cut cs := by
  induction cs with
  | nil => cases nul
  | cons c cs ih =>
    by_cases here : c = '\x00'
    · simp [cut, here]
    · have later := ih ((List.mem_cons.mp nul).resolve_left (Ne.symm here))
      simpa [cut, here] using later

private theorem writtenPair_nul {name value : String} (nul : ¬ NulFree value) :
    '\x00' ∈ writtenPair name value := by
  have within : '\x00' ∈ value.toList := not_not.mp nul
  have escaped : '\x00' ∈ value.toList.flatMap Keyword.escapedChar :=
    List.mem_flatMap.mpr ⟨_, within, by decide⟩
  have written : '\x00' ∈ Keyword.writtenValue value := by
    unfold Keyword.writtenValue
    dsimp only
    split
    · simp [escaped]
    · exact escaped
  simp [writtenPair, written]

/-- Whether a name can be set does not depend on what was set before. -/
theorem store?_eq_none_iff (ps ps' : Parameters) (name : String) (value : Setting) :
    ps.store? name value = none ↔ ps'.store? name value = none := by
  unfold Parameters.store?
  split
  · simp
  · split <;> simp

private theorem readPairs_agree (ps ps' : Parameters) (cs : List Char) :
    Agree (readPairs ps cs) (readPairs ps' cs) := by
  fun_induction readPairs ps cs generalizing ps' with
  | case1 ps cs blank =>
    rw [Keyword.readPairs_blank blank]
    exact .ok trivial
  | case2 ps cs c rest start le refusal failed =>
    rw [Keyword.readPairs_cons start, failed]
    exact .error refusal
  | case3 ps cs c rest start le p read name unknown =>
    have unknown' := (store?_eq_none_iff ps ps' _ _).mp unknown
    rw [Keyword.readPairs_cons start, read]
    dsimp only
    rw [unknown']
    exact .error _
  | case4 ps cs c rest start le p read name next known ih =>
    rw [Keyword.readPairs_cons start, read]
    dsimp only
    cases known' : ps'.store? (String.ofList p.name) (.text (String.ofList p.value)) with
    | none => exact nomatch ((store?_eq_none_iff ps ps' _ _).mpr known').symm.trans known
    | some next' => exact ih next'

/-- Pairs of one name that is known, with values that are equal or that no NUL cuts short. -/
structure Twins (pair pair' : String × String) : Prop where
  name : pair.1 = pair'.1
  known : pair.1 ∈ names
  value : pair.2 = pair'.2 ∨ NulFree pair.2 ∧ NulFree pair'.2

private theorem gap_cut_writtenBehind (pairs : List (String × String)) :
    Gap (cut (writtenBehind pairs)) := by
  cases pairs with
  | nil => exact .nothing
  | cons _ _ => exact .blank _

private theorem readPairs_cut_cons (ps : Parameters) {name value : String} (known : name ∈ names)
    (free : NulFree value) (rest : List (String × String)) :
    readPairs ps (cut (writtenBehind ((name, value) :: rest)))
      = readPairs (ps.set name (.text value)) (cut (writtenBehind rest)) := by
  have whole : cut (writtenBehind ((name, value) :: rest))
      = ' ' :: (writtenPair name value ++ cut (writtenBehind rest)) :=
    congrArg (' ' :: ·) (cut_append (writtenPair_free known free) _)
  rw [whole, Keyword.readPairs_space,
    Keyword.readPairs_writtenPair known value (gap_cut_writtenBehind rest)]

theorem readPairs_twins (twins : List.Forall₂ Twins pairs pairs') (ps ps' : Parameters) :
    Agree (readPairs ps (cut (writtenBehind pairs)))
      (readPairs ps' (cut (writtenBehind pairs'))) := by
  induction twins generalizing ps ps' with
  | nil => exact readPairs_agree ps ps' _
  | @cons pair pair' rest rest' twin _ ih =>
    obtain ⟨name, value⟩ := pair
    obtain ⟨name', value'⟩ := pair'
    obtain ⟨rfl, known, values⟩ := twin
    by_cases free : NulFree value ∧ NulFree value'
    · rw [readPairs_cut_cons ps known free.1, readPairs_cut_cons ps' known free.2]
      exact ih _ _
    -- A NUL ends both texts inside the same value.
    · obtain rfl : value = value' := values.resolve_right free
      have nul : '\x00' ∈ ' ' :: writtenPair name value :=
        List.mem_cons_of_mem _ (writtenPair_nul fun good => free ⟨good, good⟩)
      have ends : ∀ rest : List (String × String),
          cut (writtenBehind ((name, value) :: rest)) = cut (' ' :: writtenPair name value) :=
        fun rest => cut_of_mem nul (writtenBehind rest)
      rw [ends, ends]
      exact readPairs_agree ps ps' _

/-- Of what is written, the pairs in front of the first NUL are read. -/
theorem read_write_cut (known : ∀ pair ∈ pairs, pair.1 ∈ names) :
    read (Keyword.write pairs) = readPairs {} (cut (writtenBehind pairs)) := by
  cases pairs with
  | nil => rfl
  | cons pair rest =>
    obtain ⟨name, value⟩ := pair
    have nameKnown := known _ List.mem_cons_self
    have nameFree : '\x00' ∉ name.toList := nulFree_names name nameKnown
    have written : (Keyword.write ((name, value) :: rest)).toList
        = name.toList ++ '=' :: (Keyword.writtenValue value ++ writtenBehind rest) := by
      rw [Keyword.write_cons, writtenPair, List.append_assoc, List.cons_append]
    have shown : (untilNul (Keyword.write ((name, value) :: rest))).toList
        = name.toList ++ '=' :: cut (Keyword.writtenValue value ++ writtenBehind rest) := by
      rw [untilNul, String.toList_ofList, written, cut_append nameFree]
      rfl
    have behind : cut (writtenBehind ((name, value) :: rest))
        = ' ' :: (name.toList
          ++ '=' :: cut (Keyword.writtenValue value ++ writtenBehind rest)) := by
      rw [← shown, untilNul, String.toList_ofList, Keyword.write_cons]
      rfl
    rw [read, shown, afterScheme?_named nameKnown, Keyword.read, shown, behind,
      Keyword.readPairs_space]

theorem known_of_twins (twins : List.Forall₂ Twins pairs pairs') :
    (∀ pair ∈ pairs, pair.1 ∈ names) ∧ ∀ pair ∈ pairs', pair.1 ∈ names := by
  induction twins with
  | nil => exact ⟨by simp, by simp⟩
  | cons twin _ ih =>
    exact ⟨List.forall_mem_cons.mpr ⟨twin.known, ih.1⟩,
      List.forall_mem_cons.mpr ⟨twin.name ▸ twin.known, ih.2⟩⟩

/-- Twins are accepted, or refused for the same reason. -/
theorem read_twins (twins : List.Forall₂ Twins pairs pairs') :
    Agree (read (Keyword.write pairs)) (read (Keyword.write pairs')) := by
  obtain ⟨known, known'⟩ := known_of_twins twins
  rw [read_write_cut known, read_write_cut known']
  exact readPairs_twins twins {} {}

theorem Twins.refl {pair : String × String} (known : pair.1 ∈ names) : Twins pair pair :=
  ⟨rfl, known, .inl rfl⟩

/-- Twins come out of putting two values that no NUL cuts short in the place of one. -/
theorem putEntry_twins (known : ∀ pair ∈ pairs, pair.1 ∈ names) {name value value' : String}
    (nameKnown : name ∈ names) (free : NulFree value) (free' : NulFree value') :
    List.Forall₂ Twins (putEntry pairs name value) (putEntry pairs name value') := by
  unfold putEntry
  split
  · rw [List.forall₂_map_left_iff, List.forall₂_map_right_iff, List.forall₂_same]
    intro pair member
    split
    · exact ⟨rfl, nameKnown, .inr ⟨free, free'⟩⟩
    · exact .refl (known pair member)
  · exact List.rel_append
      (List.forall₂_same.mpr fun pair member => .refl (known pair member))
      (.cons ⟨rfl, nameKnown, .inr ⟨free, free'⟩⟩ .nil)

end ConnectionString

/-! ### Sources and settings -/

open ConnectionString (Agree)

/-- Settings that are equal, or that differ in nothing but two secret passwords. -/
inductive DatabaseSettings.Alike : DatabaseSettings → DatabaseSettings → Prop
  | same (s : DatabaseSettings) : Alike s s
  | passwords (s : DatabaseSettings) {p p' : String} (secret : IsSecret p) (secret' : IsSecret p') :
    Alike { s with password := some p } { s with password := some p' }

/-- Entries of two sources: the same, or a password that is secret in both. -/
inductive EntryAlike : String × Value → String × Value → Prop
  | same (entry : String × Value) : EntryAlike entry entry
  | passwords {p p' : String} (secret : IsSecret p) (secret' : IsSecret p') :
    EntryAlike ("password", .text p) ("password", .text p')

/-- Sources that are equal except for their passwords. -/
abbrev SourceAlike : List (String × Value) → List (String × Value) → Prop :=
  List.Forall₂ EntryAlike

theorem EntryAlike.key {entry entry' : String × Value} (alike : EntryAlike entry entry') :
    entry'.1 = entry.1 := by
  cases alike <;> rfl

section Lookups

variable {source source' : List (String × Value)}

/-- The entries of one key are alike, and missing from both sources or from none. -/
theorem SourceAlike.find? (alike : SourceAlike source source') (key : String) :
    Option.Rel EntryAlike (source.find? (·.1 == key)) (source'.find? (·.1 == key)) := by
  induction alike with
  | nil => exact .none
  | @cons entry entry' rest rest' entries _ ih =>
    rw [List.find?_cons, List.find?_cons, entries.key]
    cases entry.1 == key with
    | true => exact .some entries
    | false => exact ih

theorem SourceAlike.lookup (alike : SourceAlike source source') (key : String) :
    Value.lookup source' key = Value.lookup source key ∨
      key = "password" ∧ ∃ p p', IsSecret p ∧ IsSecret p' ∧
        Value.lookup source key = some (.text p) ∧ Value.lookup source' key = some (.text p') := by
  have entries := SourceAlike.find? (List.forall₂_reverse_iff.mpr alike) key
  unfold Value.lookup
  cases found : source.reverse.find? (·.1 == key) <;>
    cases found' : source'.reverse.find? (·.1 == key) <;> rw [found, found'] at entries
  · exact .inl rfl
  · cases entries
  · cases entries
  next entry entry' =>
    cases entries with
    | some same =>
      cases same with
      | same => exact .inl rfl
      | passwords secret secret' =>
        have named := List.find?_some found
        exact .inr ⟨(eq_of_beq named).symm, _, _, secret, secret', rfl, rfl⟩

end Lookups

namespace DatabaseSettings

variable {source source' : List (String × Value)} {s s' : DatabaseSettings}

/-- Sources that are equal except for their passwords are both flawed or both fine. -/
theorem check_alike (alike : SourceAlike source source') :
    Checked.Matches Alike (check source) (check source') := by
  have others {key : String} (other : key ≠ "password") :
      Value.lookup source' key = Value.lookup source key :=
    (alike.lookup key).resolve_right fun both => other both.1
  have url : urlField.check source' = urlField.check source :=
    Field.check_congr (others (by decide)) (others (by decide))
  have user : userField.check source' = userField.check source :=
    Field.check_congr (others (by decide)) (others (by decide))
  have poolSize : poolSizeField.check source' = poolSizeField.check source :=
    Field.check_congr (others (by decide)) (others (by decide))
  have timeout : timeoutField.check source' = timeoutField.check source :=
    Field.check_congr (others (by decide)) (others (by decide))
  have maxLifetime : maxLifetimeField.check source' = maxLifetimeField.check source :=
    Field.check_congr (others (by decide)) (others (by decide))
  have testQuery : testQueryField.check source' = testQueryField.check source :=
    Field.check_congr (others (by decide)) (others (by decide))
  unfold check
  rw [url, user, poolSize, timeout, maxLifetime, testQuery]
  obtain same | ⟨-, p, p', secret, secret', found, found'⟩ := alike.lookup "password"
  · have password : passwordField.check source' = passwordField.check source :=
      Field.check_congr same same
    rw [password]
    exact Checked.matches_refl Alike.same _
  · have password : passwordField.check source = .valid (some p) := by
      simp only [Field.check, passwordField, found]
      rfl
    have password' : passwordField.check source' = .valid (some p') := by
      simp only [Field.check, passwordField, found']
      rfl
    rw [password, password']
    generalize urlField.check source = url
    generalize userField.check source = user
    generalize (poolSizeField.check source).both _ = rest
    cases url <;> cases user <;> cases rest <;> try exact .flawed _
    next url user rest =>
      obtain ⟨poolSize, timeout, maxLifetime, testQuery⟩ := rest
      exact .valid
        (.passwords ⟨url, user, none, poolSize, timeout, maxLifetime, testQuery⟩ secret secret')

private theorem credential_name {name : String} {value : Option String} {pair : String × String}
    (member : pair ∈ credential name value) : pair.1 = name := by
  unfold credential at member
  split at member
  · split at member
    · cases member
    · exact congrArg Prod.fst (List.mem_singleton.mp member)
  · cases member

private theorem credential_of_secret {name p : String} (secret : IsSecret p) :
    credential name (some p) = [(name, p)] := by
  have full : p.isEmpty = false := by simpa using secret.1
  simp [credential, full]

/-- What a connection string is refused for does not depend on the password. -/
theorem conninfo_agree (alike : s.Alike s') : Agree s.conninfo s'.conninfo := by
  cases alike with
  | same => exact ConnectionString.agree_refl _
  | @passwords s p p' secret secret' =>
    unfold conninfo
    simp only [credential_of_secret secret, credential_of_secret secret']
    cases accepted : ConnectionString.read s.url with
    | error refusal =>
      rw [compose_of_refused accepted (by simp), compose_of_refused accepted (by simp)]
      exact .error _
    | ok given =>
      rw [compose_eq accepted (by simp), compose_eq accepted (by simp)]
      cases listed : ConnectionString.texts given.toList with
      | error fault => exact .error fault
      | ok pairs =>
        have known : ∀ pair ∈ putEntries pairs (credential "user" s.user),
            pair.1 ∈ ConnectionString.names := by
          intro pair member
          obtain old | fresh := List.mem_append.mp (mem_putEntries member)
          · exact ConnectionString.names_of_texts listed pair old
          · rw [credential_name fresh]
            decide
        have twins : List.Forall₂ ConnectionString.Twins (putEntry _ "password" p)
            (putEntry _ "password" p') :=
          ConnectionString.putEntry_twins known (by decide) secret.2 secret'.2
        have agree := ConnectionString.read_twins twins
        have last (pairs : List (String × String)) (p : String) :
            putEntries pairs [("password", p)] = putEntry pairs "password" p := rfl
        simp only [bind, Except.bind, putEntries_append, last]
        generalize ConnectionString.read (ConnectionString.Keyword.write
          (putEntry _ "password" p)) = first at agree ⊢
        generalize ConnectionString.read (ConnectionString.Keyword.write
          (putEntry _ "password" p')) = second at agree ⊢
        cases agree with
        | ok => exact .ok trivial
        | error refusal => exact .error refusal.fault

end DatabaseSettings

end BucketStore
