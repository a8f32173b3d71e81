import BucketStore.Proofs.Operations
import BucketStore.Schedule

/-!
The store as a data model: users with their last snapshots, one growing table for each granularity,
and selections of its newest rows. Histories of operations that return without an error refine it.
-/

namespace BucketStore

variable {σ α : Type}

/-- The database answers queries itself. -/
def Surroundings.Faithful (σ : Type) [Surroundings σ] : Prop :=
  ∀ s : σ, (answer s).1 = none

/-- A users table was updated: every name that was saved has its last snapshot. -/
def Saves (saved : List Store.UserEntry) (before after : List (String × String)) : Prop :=
  ∀ name, match saved.reverse.find? (·.name = name) with
    | some user => ∃ snapshot, user.snapshot = .ok snapshot ∧ after.lookup name = some snapshot
    | none => after.lookup name = before.lookup name

/-- A table was added to: one row for every entry, in order. -/
def Stores (g : Granularity) (entries : List (BucketKey × Averaged)) (before after : List Row) :
    Prop :=
  ∃ added, after = before ++ added ∧ List.Forall₂ (fun entry row =>
    ∃ average, entry.2.average = .ok average ∧ row = entry.1.row g average) entries added

/-- Points were selected from a table: the first of its rows after an instant, in descending order;
rows of one instant keep their order. -/
def Selects (since limit : Int) (table : List Row) (points : List Point) : Prop :=
  ∃ rows, List.Perm rows (table.filter (since < ·.timestamp)) ∧
    rows.Pairwise (fun a b => b.timestamp ≤ a.timestamp) ∧
    (∀ instant, rows.filter (·.timestamp = instant)
      = (table.filter (since < ·.timestamp)).filter (·.timestamp = instant)) ∧
    points = (rows.take limit.toNat).map fun row => ⟨row.timestamp, row.average⟩

theorem Saves.nil (users : List (String × String)) : Saves [] users users :=
  fun _ => rfl

theorem Saves.append {first last : List Store.UserEntry} {a b c : List (String × String)}
    (early : Saves first a b) (late : Saves last b c) : Saves (first ++ last) a c := by
  intro name
  have before := early name
  have after := late name
  rw [List.reverse_append, List.find?_append]
  cases found : last.reverse.find? (·.name = name) with
  | some user =>
    rw [found] at after
    exact after
  | none =>
    rw [found] at after
    rw [Option.none_or]
    cases found' : first.reverse.find? (·.name = name) with
    | some user =>
      rw [found'] at before
      obtain ⟨snapshot, taken, there⟩ := before
      exact ⟨snapshot, taken, after.trans there⟩
    | none =>
      rw [found'] at before
      exact after.trans before

theorem Stores.nil (g : Granularity) (rows : List Row) : Stores g [] rows rows :=
  ⟨[], by simp, .nil⟩

theorem Stores.append {g : Granularity} {first last : List (BucketKey × Averaged)}
    {a b c : List Row} (early : Stores g first a b) (late : Stores g last b c) :
    Stores g (first ++ last) a c := by
  obtain ⟨added, rfl, stored⟩ := early
  obtain ⟨added', rfl, stored'⟩ := late
  exact ⟨added ++ added', by simp, List.rel_append stored stored'⟩

/-- The users that an operation saves. -/
def Operation.saved : Operation → List Store.UserEntry
  | .saveUsers users => users
  | _ => []

/-- The entries that an operation inserts into one table. -/
def Operation.inserted (g : Granularity) : Operation → List (BucketKey × Averaged)
  | .insertAverages entries g' => if g' = g then entries else []
  | _ => []

namespace Database

private theorem upsert_saves (db : Database) {user : Store.UserEntry} {snapshot : String}
    (taken : user.snapshot = .ok snapshot) :
    Saves [user] db.users (db.apply (.upsert user.name snapshot)).users := by
  intro name
  by_cases same : user.name = name
  · subst same
    simpa [apply] using taken
  · simpa [apply, same] using lookup_putEntry_of_ne same db.users snapshot

private theorem upserts_rows {users : List Store.UserEntry} {changes : List Change} (db : Database)
    (whole : List.Forall₂ (fun user change => ∃ snapshot, user.snapshot = .ok snapshot ∧
      change = .upsert user.name snapshot) users changes) :
    (db.applyAll changes).rows = db.rows := by
  induction whole generalizing db with
  | nil => rfl
  | cons first _ ih =>
    obtain ⟨snapshot, _, rfl⟩ := first
    exact ih _

private theorem upserts_saves {users : List Store.UserEntry} {changes : List Change} (db : Database)
    (whole : List.Forall₂ (fun user change => ∃ snapshot, user.snapshot = .ok snapshot ∧
      change = .upsert user.name snapshot) users changes) :
    Saves users db.users (db.applyAll changes).users := by
  induction whole generalizing db with
  | nil => exact .nil db.users
  | cons first _ ih =>
    obtain ⟨snapshot, taken, rfl⟩ := first
    exact (upsert_saves db taken).append (ih _)

private theorem inserts_users {g : Granularity} {entries : List (BucketKey × Averaged)}
    {changes : List Change} (db : Database)
    (whole : List.Forall₂ (fun entry change => ∃ average, entry.2.average = .ok average ∧
      change = .insert g (entry.1.row g average)) entries changes) :
    (db.applyAll changes).users = db.users := by
  induction whole generalizing db with
  | nil => rfl
  | cons first _ ih =>
    obtain ⟨average, _, rfl⟩ := first
    exact ih _

theorem inserts_stores {g : Granularity} {entries : List (BucketKey × Averaged)}
    {changes : List Change} (db : Database)
    (whole : List.Forall₂ (fun entry change => ∃ average, entry.2.average = .ok average ∧
      change = .insert g (entry.1.row g average)) entries changes) (table : Granularity) :
    Stores table (if g = table then entries else []) (db.rows table)
      ((db.applyAll changes).rows table) := by
  by_cases same : g = table
  · subst same
    rw [if_pos rfl]
    induction whole generalizing db with
    | nil => exact .nil g _
    | @cons entry _ _ _ first _ ih =>
      obtain ⟨average, averaged, rfl⟩ := first
      have stored : Stores g [entry] (db.rows g)
          ((db.apply (.insert g (entry.1.row g average))).rows g) :=
        ⟨[entry.1.row g average], by simp [apply, setRows], .cons ⟨average, averaged, rfl⟩ .nil⟩
      exact stored.append (ih _)
  · rw [if_neg same]
    induction whole generalizing db with
    | nil => exact .nil table _
    | @cons entry _ _ _ first _ ih =>
      obtain ⟨average, _, rfl⟩ := first
      have kept (row : Row) : (db.apply (.insert g row)).rows table = db.rows table :=
        if_neg (Ne.symm same)
      have rest := ih (db.apply (.insert g (entry.1.row g average)))
      rw [kept] at rest
      exact rest

/-- Sorting keeps the order of items that may stand in any order. -/
theorem filter_mergeSort {le : α → α → Bool} (trans : ∀ a b c, le a b → le b c → le a c)
    (total : ∀ a b, le a b || le b a) {p : α → Bool} (tied : ∀ a b, p a → p b → le a b)
    (items : List α) : (items.mergeSort le).filter p = items.filter p := by
  have ordered : (items.filter p).Pairwise fun a b => le a b := by
    refine List.pairwise_of_forall_mem_list fun a first b last => ?_
    exact tied a b (List.mem_filter.mp first).2 (List.mem_filter.mp last).2
  have kept := (List.sublist_mergeSort trans total ordered List.filter_sublist).filter p
  rw [List.filter_filter] at kept
  simp only [Bool.and_self] at kept
  have same := ((List.mergeSort_perm items le).filter p).length_eq
  exact (kept.eq_of_length same.symm).symm

/-- The newest rows are what a selection is made from. -/
theorem points_selects (db : Database) (g : Granularity) (since limit : Int) :
    Selects since limit (db.rows g)
      ((db.points g since limit).map fun point => ⟨point.1, point.2⟩) := by
  have trans (a b c : Row) : decide (b.timestamp ≤ a.timestamp) →
      decide (c.timestamp ≤ b.timestamp) → decide (c.timestamp ≤ a.timestamp) := by
    simp only [decide_eq_true_eq]
    omega
  have total (a b : Row) :
      decide (b.timestamp ≤ a.timestamp) || decide (a.timestamp ≤ b.timestamp) := by
    simp only [Bool.or_eq_true, decide_eq_true_eq]
    omega
  refine ⟨db.newest g since, List.mergeSort_perm .., ?_, fun instant => ?_, ?_⟩
  · exact (List.pairwise_mergeSort trans total _).imp of_decide_eq_true
  · refine filter_mergeSort trans total (fun a b first last => ?_) _
    simp only [decide_eq_true_eq] at first last ⊢
    omega
  · simp [points, Function.comp_def]

end Database

/-- The operations of the data model. -/
def Operation.HandlesData : Operation → Prop
  | .saveUsers _ | .insertAverages _ _ | .selectPoints _ _ _ => True
  | .purge _ | .executeSql _ => False

private theorem Operation.whole_refines {op : Operation} (data : op.HandlesData) {present : Moment}
    {changes : List Change} (whole : op.Whole present changes) (db : Database) :
    Saves op.saved db.users (db.applyAll changes).users ∧
      ∀ g, Stores g (op.inserted g) (db.rows g) ((db.applyAll changes).rows g) := by
  cases op with
  | saveUsers users =>
    refine ⟨db.upserts_saves whole, fun g => ?_⟩
    rw [db.upserts_rows whole]
    exact .nil g _
  | insertAverages entries g =>
    refine ⟨?_, db.inserts_stores whole⟩
    rw [db.inserts_users whole]
    exact .nil _
  | selectPoints since limit g =>
    cases whole
    exact ⟨.nil _, fun g => .nil g _⟩
  | purge now => cases data
  | executeSql sql => cases data

/-- A batch that is summed up without an error was applied. -/
theorem Batch.finish_clean [Surroundings σ] {whole : List Change → Prop} {work : Nat → Action σ α}
    (prepares : ∀ id, Prepares id whole (work id)) {m : Manager} {operation : String}
    {attempted : Int} {policy : Policy} {details : List (String × Value)}
    {message : BatchResult × Option α → String → String}
    {told : BatchResult × Option α → List (String × Value)} {w w' : World σ} {r : BatchResult}
    (ran : (Batch.run m operation attempted policy details work >>= fun batch =>
      Batch.finish batch.1 (message batch) (told batch)) w = (.ok r, w'))
    (clean : r.error = none) :
    ∃ changes, whole changes ∧ w'.database = w.database.applyAll changes := by
  obtain ⟨⟨summary, outcome⟩, w₁, ran₁, finished⟩ := Action.bind_eq_ok ran
  obtain ⟨committed, effect, passed⟩ :=
    Batch.run_spec prepares m operation attempted policy details w
  have idle := Batch.finish_idle_of_ok finished
  rw [Batch.finish_eq_ok finished] at clean
  rw [ran₁] at effect passed
  have changed := effect.database
  rw [if_pos (passed summary outcome rfl clean), ← idle.database] at changed
  exact changed

/-- A batch that logged no error has an outcome: what its work gave on some connection. -/
theorem Batch.run_quiet [Surroundings σ] {whole : List Change → Prop} {work : Nat → Action σ α}
    (prepares : ∀ id, Prepares id whole (work id)) {m : Manager} {operation : String}
    {attempted : Int} {policy : Policy} {details : List (String × Value)} {w w' : World σ}
    {summary : BatchResult} {outcome : Option α}
    (ran : Batch.run m operation attempted policy details work w = (.ok (summary, outcome), w'))
    (quiet : ∀ entry ∈ w'.journal.drop w.journal.length, entry.level ≠ .error) :
    ∃ x id w₁ w₂, outcome = some x ∧ w₁.database = w.database ∧ work id w₁ = (.ok x, w₂) := by
  obtain ⟨s, result, w₁, s', _, leased, concluded, _⟩ := Batch.run_leased ran
  obtain ⟨committed, effect, _⟩ := Batch.lease_spec prepares m { w with surroundings := s }
  rw [leased] at effect
  cases result with
  | error fault =>
    obtain ⟨_, _, entry, logged, level⟩ := Batch.conclude_of_error concluded
    obtain ⟨entries, grown⟩ := effect.journal
    refine absurd level (quiet entry ?_)
    rw [logged]
    change entry ∈ (w₁.journal ++ [entry]).drop w.journal.length
    rw [← grown]
    simp
  | ok x =>
    cases concluded
    exact Batch.run_of_clean ran rfl

namespace Store

variable [Surroundings σ] {m : Manager} {policy : Policy} {w w' : World σ}

theorem saveUsers_clean (enabled : m.isEnabled = true) {users : List UserEntry} {r : BatchResult}
    (ran : saveUsers m users policy w = (.ok r, w')) (clean : r.error = none) (present : Moment) :
    ∃ changes, Operation.Whole present (.saveUsers users) changes ∧
      w'.database = w.database.applyAll changes := by
  dsimp only [saveUsers] at ran
  split at ran
  · rename_i nothing
    have none : users = [] := by simpa [enabled] using nothing
    subst none
    cases ran
    exact ⟨[], .nil, rfl⟩
  · rw [Batch.inform_bind] at ran
    obtain ⟨changes, whole, changed⟩ := Batch.finish_clean (saveUsers_prepares · present) ran clean
    exact ⟨changes, whole, changed⟩

theorem insertAverages_clean (enabled : m.isEnabled = true)
    {entries : List (BucketKey × Averaged)} {g : Granularity} {r : BatchResult}
    (ran : insertAverages m entries g policy w = (.ok r, w')) (clean : r.error = none)
    (present : Moment) :
    ∃ changes, Operation.Whole present (.insertAverages entries g) changes ∧
      w'.database = w.database.applyAll changes := by
  dsimp only [insertAverages] at ran
  split at ran
  · rename_i nothing
    have none : entries = [] := by simpa [enabled] using nothing
    subst none
    cases ran
    exact ⟨[], .nil, rfl⟩
  · rw [Batch.inform_bind] at ran
    obtain ⟨changes, whole, changed⟩ :=
      Batch.finish_clean (insertAverages_prepares g · present) ran clean
    exact ⟨changes, whole, changed⟩

omit [Surroundings σ] in
/-- Rows that the database answered are read back as the points that they show. -/
theorem pointsOfRows_shown (points : List (Int × Float)) :
    pointsOfRows (points.map fun (timestamp, value) => .list [.int timestamp, .float value])
      = .ok (points.map fun point => ⟨point.1, point.2⟩) := by
  induction points with
  | nil => rfl
  | cons point rest ih =>
    have first : pointOfRow (.list [.int point.1, .float point.2]) = .ok ⟨point.1, point.2⟩ := rfl
    rw [pointsOfRows] at ih ⊢
    rw [List.map_cons, List.mapM_cons, first, ih]
    rfl

/-- What is read on a connection comes from the committed contents. -/
theorem selected_on (faithful : Surroundings.Faithful σ) {id : Nat} {since limit : Int}
    {g : Granularity} {points : List Point}
    (ran : (do
      Connection.cursor id
      let rows ← Connection.select id g since limit
      Action.ofExcept ((pointsOfRows rows).mapError Fault.problem) : Action σ (List Point)) w
        = (.ok points, w')) :
    points = (w.database.points g since limit).map fun point => ⟨point.1, point.2⟩ := by
  obtain ⟨_, w₁, opened, ran⟩ := Action.bind_eq_ok ran
  obtain ⟨rows, w₂, selected, ran⟩ := Action.bind_eq_ok ran
  rw [Connection.select_eq] at selected
  obtain ⟨_, w₃, entered, selected⟩ := Action.bind_eq_ok selected
  have same : w₃.database = w.database := by
    have first := ((Stages.cursor id).uses w).database
    have second := ((Stages.enter id (Statement.selectPoints g).text (some [since, limit])).uses
      w₁).database
    rw [opened] at first
    rw [entered] at second
    exact second.trans first
  obtain ⟨answer, w₄, asked, selected⟩ := Action.bind_eq_ok selected
  have unanswered : answer = none := by
    cases asked
    exact faithful _
  subst unanswered
  have kept : w₄.database = w₃.database := congrArg (·.2.database) asked.symm
  cases selected
  have shown := Result.of_mapError (congrArg Prod.fst ran)
  rw [pointsOfRows_shown, kept, same] at shown
  exact (Except.ok.inj shown).symm

/-- A selection that logs no error gives the newest points of its table. -/
theorem selectPoints_clean (faithful : Surroundings.Faithful σ) (enabled : m.isEnabled = true)
    {since limit : Int} {g : Granularity} {points : List Point}
    (ran : selectPoints m since limit g policy w = (.ok points, w'))
    (clean : ∀ entry ∈ w'.journal.drop w.journal.length, entry.level ≠ .error) :
    points = (w.database.points g since limit).map fun point => ⟨point.1, point.2⟩ := by
  dsimp only [selectPoints] at ran
  split at ran
  · rename_i nothing
    have none : limit ≤ 0 := by simpa [enabled] using nothing
    cases ran
    simp [Database.points, Int.toNat_of_nonpos none]
  · obtain ⟨⟨summary, outcome⟩, w₁, ran₁, ended⟩ := Action.bind_eq_ok ran
    cases ended
    obtain ⟨x, id, w₂, w₃, rfl, kept, worked⟩ := Batch.run_quiet
      (selectPoints_prepares · since limit g (Surroundings.now w.surroundings)) ran₁ clean
    rw [← kept]
    exact selected_on faithful worked

end Store

/-- A selection changes nothing, whether it succeeds or not. -/
theorem Operation.selectPoints_keeps [Surroundings σ] (m : Manager) (policy : Policy)
    (since limit : Int) (g : Granularity) (w : World σ) :
    ((Operation.selectPoints since limit g).perform m policy w).2.database = w.database := by
  obtain ⟨committed, effect⟩ := (Operation.selectPoints since limit g).perform_effect m policy w
  have changed := effect.database
  split at changed
  · obtain ⟨changes, rfl, changed⟩ := changed
    exact changed
  · exact changed

/-- One call of an operation, and what it returned. -/
structure Call where
  op : Operation
  policy : Policy
  answer : Answer

/-- An answer without an error: a summary shows none, and next to points, which cannot show one,
none was logged. -/
def Answer.IsClean (logged : List LogEntry) : Answer → Prop
  | .summary r => r.error = none
  | .points _ => ∀ entry ∈ logged, entry.level ≠ .error

instance (logged : List LogEntry) (answer : Answer) : Decidable (answer.IsClean logged) :=
  match answer with
  | .summary r => inferInstanceAs (Decidable (r.error = none))
  | .points _ => inferInstanceAs (Decidable (∀ entry ∈ logged, entry.level ≠ .error))

instance (op : Operation) : Decidable op.HandlesData :=
  match op with
  | .saveUsers _ | .insertAverages _ _ | .selectPoints _ _ _ => .isTrue trivial
  | .purge _ | .executeSql _ => .isFalse id

/-- Histories of calls that each return without an error. -/
inductive History [Surroundings σ] (m : Manager) : World σ → List Call → World σ → Prop where
  | start (w : World σ) : History m w [] w
  | call {w w₁ w₂ : World σ} {rest : List Call} (c : Call) (data : c.op.HandlesData)
      (returned : c.op.perform m c.policy w = (.ok c.answer, w₁))
      (clean : c.answer.IsClean (w₁.journal.drop w.journal.length))
      (later : History m w₁ rest w₂) : History m w (c :: rest) w₂

namespace History

variable [Surroundings σ] {m : Manager} {w w₁ w' : World σ} {calls : List Call}

/-- What one call does to the data. -/
theorem call_refines (enabled : m.isEnabled = true) {c : Call} (data : c.op.HandlesData)
    (returned : c.op.perform m c.policy w = (.ok c.answer, w₁))
    (clean : c.answer.IsClean (w₁.journal.drop w.journal.length)) :
    Saves c.op.saved w.database.users w₁.database.users ∧
      ∀ g, Stores g (c.op.inserted g) (w.database.rows g) (w₁.database.rows g) := by
  let present := Surroundings.now w.surroundings
  suffices ∃ changes, c.op.Whole present changes ∧
      w₁.database = w.database.applyAll changes by
    obtain ⟨changes, whole, changed⟩ := this
    rw [changed]
    exact c.op.whole_refines data whole w.database
  obtain ⟨op, policy, answer⟩ := c
  cases op with
  | saveUsers users =>
    obtain ⟨r, w₂, ran, ended⟩ := Action.bind_eq_ok returned
    cases ended
    exact Store.saveUsers_clean enabled ran clean present
  | insertAverages entries g =>
    obtain ⟨r, w₂, ran, ended⟩ := Action.bind_eq_ok returned
    cases ended
    exact Store.insertAverages_clean enabled ran clean present
  | selectPoints since limit g =>
    have kept := Operation.selectPoints_keeps m policy since limit g w
    rw [returned] at kept
    exact ⟨[], rfl, kept⟩
  | purge now => cases data
  | executeSql sql => cases data

private theorem refines (enabled : m.isEnabled = true) (history : History m w calls w') :
    Saves (calls.flatMap (·.op.saved)) w.database.users w'.database.users ∧
      ∀ g, Stores g (calls.flatMap (·.op.inserted g)) (w.database.rows g) (w'.database.rows g) := by
  induction history with
  | start w => exact ⟨.nil _, fun g => .nil g _⟩
  | call c data returned clean later ih =>
    obtain ⟨saves, stores⟩ := call_refines enabled data returned clean
    exact ⟨saves.append ih.1, fun g => (stores g).append (ih.2 g)⟩

/-- A history can be stopped before any of its calls. -/
theorem split {before after : List Call} {c : Call}
    (history : History m w (before ++ c :: after) w') :
    ∃ w₁ w₂, History m w before w₁ ∧ History m w₂ after w' ∧
      c.op.perform m c.policy w₁ = (.ok c.answer, w₂) ∧
      c.answer.IsClean (w₂.journal.drop w₁.journal.length) := by
  induction before generalizing w with
  | nil =>
    cases history with
    | call c data returned clean later => exact ⟨w, _, .start w, later, returned, clean⟩
  | cons first rest ih =>
    cases history with
    | call _ data returned clean later =>
      obtain ⟨w₁, w₂, early, late, here⟩ := ih later
      exact ⟨w₁, w₂, .call first data returned clean early, late, here⟩

/-- After any history of calls without errors, the users have their last snapshots, each table has
grown by the rows of its entries, and each selection gave the newest points of its table as it was
then, and changed nothing. -/
theorem refines_data (faithful : Surroundings.Faithful σ) (enabled : m.isEnabled = true)
    (history : History m w calls w') :
    Saves (calls.flatMap (·.op.saved)) w.database.users w'.database.users ∧
      (∀ g, Stores g (calls.flatMap (·.op.inserted g)) (w.database.rows g)
        (w'.database.rows g)) ∧
      ∀ before since limit g policy answer after,
        calls = before ++ ⟨.selectPoints since limit g, policy, answer⟩ :: after →
        ∃ w₁ w₂ points, History m w before w₁ ∧ History m w₂ after w' ∧
          answer = .points points ∧ Selects since limit (w₁.database.rows g) points ∧
          w₂.database = w₁.database := by
  obtain ⟨saves, stores⟩ := history.refines enabled
  refine ⟨saves, stores, ?_⟩
  intro before since limit g policy answer after divided
  subst divided
  obtain ⟨w₁, w₂, early, late, returned, clean⟩ := history.split
  have kept := Operation.selectPoints_keeps m policy since limit g w₁
  rw [returned] at kept
  obtain ⟨points, w₃, ran, ended⟩ := Action.bind_eq_ok returned
  cases ended
  rw [Store.selectPoints_clean faithful enabled ran clean]
  exact ⟨w₁, w₂, _, early, late, rfl, w₁.database.points_selects g since limit, kept⟩

/-- Call operations in turn, as long as they return without an error. -/
def replay? (m : Manager) (w : World σ) : List (Operation × Policy) → Option (List Call × World σ)
  | [] => some ([], w)
  | (op, policy) :: rest =>
    match op.perform m policy w with
    | (.ok answer, w₁) =>
      if op.HandlesData ∧ answer.IsClean (w₁.journal.drop w.journal.length) then
        (replay? m w₁ rest).map fun (calls, w') => (⟨op, policy, answer⟩ :: calls, w')
      else none
    | (.error _, _) => none

private theorem of_replay? {ops : List (Operation × Policy)}
    (ran : replay? m w ops = some (calls, w')) :
    History m w calls w' := by
  induction ops generalizing w calls with
  | nil =>
    cases ran
    exact .start _
  | cons first rest ih =>
    obtain ⟨op, policy⟩ := first
    rw [replay?] at ran
    split at ran
    · rename_i answer w₁ returned
      split at ran
      · rename_i accepted
        obtain ⟨⟨others, w₂⟩, later, made⟩ := Option.map_eq_some_iff.mp ran
        cases made
        exact .call ⟨op, policy, answer⟩ accepted.1 returned accepted.2 (ih later)
      · cases ran
    · cases ran

end History

/-- Surroundings in which nothing fails and no time passes. -/
structure Calm where

namespace Calm

instance : Surroundings Calm where
  strike _ s := (none, s)
  tick s := (0.0, s)
  answer s := (none, s)
  count s := (none, s)
  refusal? _ := commandFault?
  triesOut _ := false
  now _ := { clock := 0 }

def manager : Manager :=
  .enabled 0
    { url := "", user := none, password := none, poolSize := 1, timeout := 1.0,
      maxLifetime := none, testQuery := "" }

def world : World Calm :=
  { surroundings := {}, pools := [{ size := 1, testQuery := "", closed := false }] }

/-- A key of one virtual pin. -/
def pinKey (bucket : Int) : BucketKey :=
  ⟨"ada", 1, ⟨2, by decide⟩, .virtual, bucket⟩

/-- Two snapshots of one user, a row in each of two tables, and the newest row of one of them. -/
def calls : List (Operation × Policy) :=
  [(.saveUsers [⟨"ada", .ok "first"⟩, ⟨"ada", .ok "second"⟩], .strict),
    (.insertAverages [(pinKey 3, .constant (.float 1.5))] .minute, .tolerant),
    (.insertAverages [(pinKey 3, .constant (.float 2.5))] .hourly, .tolerant),
    (.selectPoints 0 1 .minute, .tolerant)]

end Calm

theorem History.refines_data_calm :
    ∃ calls w', History.replay? Calm.manager Calm.world Calm.calls = some (calls, w') ∧
      Saves (calls.flatMap (·.op.saved)) [] w'.database.users ∧
      ∀ g, Stores g (calls.flatMap (·.op.inserted g)) [] (w'.database.rows g) := by
  have replayed : (History.replay? Calm.manager Calm.world Calm.calls).isSome = true := by
    decide +kernel
  obtain ⟨⟨calls, w'⟩, ran⟩ := Option.isSome_iff_exists.mp replayed
  have refined := History.refines_data (fun _ => rfl) rfl (History.of_replay? ran)
  exact ⟨calls, w', ran, refined.1, refined.2.1⟩

end BucketStore
