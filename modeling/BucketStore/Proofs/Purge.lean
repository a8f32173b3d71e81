import BucketStore.Proofs.Cutoff
import BucketStore.Proofs.DataModel

/-!
Purges. One that succeeds removes the rows up to its cutoffs and tells how many they were; two of
them in a row do what one at the later moment does.
-/

namespace BucketStore

variable {σ : Type}

/-- The database counts the rows that it deletes itself. -/
def Surroundings.Counting (σ : Type) [Surroundings σ] : Prop :=
  ∀ s : σ, (count s).1 = none

/-- Rows up to a cutoff in each table whose rows are not kept for ever were removed, and nothing
else was changed. -/
structure Pruned (minute hourly : Int) (before after : Database) : Prop where
  minutes : after.rows .minute = (before.rows .minute).filter (minute < ·.timestamp)
  hours : after.rows .hourly = (before.rows .hourly).filter (hourly < ·.timestamp)
  days : after.rows .daily = before.rows .daily
  users : after.users = before.users
  statements : after.statements = before.statements

/-- A summary gives the number of rows that were removed for each table, and altogether. -/
structure Purged (minute hourly : Int) (before after : Database) (r : BatchResult) : Prop
    extends Pruned minute hourly before after where
  counted : ∃ minuteCount hourlyCount : Nat,
    r.removed = some [(.minute, (minuteCount : Int)), (.hourly, (hourlyCount : Int))] ∧
      r.rows = minuteCount + hourlyCount ∧
      (before.rows .minute).length = (after.rows .minute).length + minuteCount ∧
      (before.rows .hourly).length = (after.rows .hourly).length + hourlyCount

namespace Database

private theorem eq_of_tables {a b : Database} (minutes : a.rows .minute = b.rows .minute)
    (hours : a.rows .hourly = b.rows .hourly) (days : a.rows .daily = b.rows .daily)
    (users : a.users = b.users) (statements : a.statements = b.statements) : a = b := by
  have rows : a.rows = b.rows := by
    funext g
    cases g with
    | minute => exact minutes
    | hourly => exact hours
    | daily => exact days
  cases a
  cases b
  cases rows
  cases users
  cases statements
  rfl

/-- What deleting up to a cutoff removes is what it does not keep. -/
theorem length_filter_add_expired (db : Database) (g : Granularity) (cutoff : Int) :
    ((db.rows g).filter (cutoff < ·.timestamp)).length + db.expired g cutoff
      = (db.rows g).length := by
  have parted := List.length_eq_countP_add_countP (fun row : Row => decide (cutoff < row.timestamp))
    (l := db.rows g)
  rw [parted, expired, ← List.countP_eq_length_filter, ← List.countP_eq_length_filter]
  congr 2
  funext row
  simp

end Database

/-- Deleting up to two cutoffs keeps what is after the greater one. -/
theorem Row.filter_filter_max (first last : Int) (rows : List Row) :
    (rows.filter (first < ·.timestamp)).filter (last < ·.timestamp)
      = rows.filter (max first last < ·.timestamp) := by
  rw [List.filter_filter]
  congr 1
  funext row
  by_cases kept : first < row.timestamp
  · by_cases kept' : last < row.timestamp
    · simp [kept, kept', max_lt kept kept']
    · simp [kept, kept']
  · simp [kept]

section

variable {minute hourly minute' hourly' minute'' hourly'' : Int} {a b c c' : Database}
  {r r' : BatchResult}

/-- Two purges in a row leave what one with the greater cutoffs leaves. -/
theorem Pruned.compose (first : Pruned minute hourly a b) (last : Pruned minute' hourly' b c)
    (once : Pruned minute'' hourly'' a c') (minutes : max minute minute' = minute'')
    (hours : max hourly hourly' = hourly'') : c = c' := by
  refine Database.eq_of_tables ?_ ?_ ?_ ?_ ?_
  · rw [last.minutes, first.minutes, once.minutes, Row.filter_filter_max, minutes]
  · rw [last.hours, first.hours, once.hours, Row.filter_filter_max, hours]
  · rw [last.days, first.days, once.days]
  · rw [last.users, first.users, once.users]
  · rw [last.statements, first.statements, once.statements]

/-- A purge with cutoffs that are not greater removes nothing. -/
theorem Purged.rows_eq_zero (first : Purged minute hourly a b r)
    (last : Purged minute' hourly' b c r') (minutes : minute' ≤ minute)
    (hours : hourly' ≤ hourly) : r'.rows = 0 := by
  have kept : (c.rows .minute).length = (b.rows .minute).length := by
    rw [last.minutes, first.minutes, Row.filter_filter_max, max_eq_left minutes]
  have kept' : (c.rows .hourly).length = (b.rows .hourly).length := by
    rw [last.hours, first.hours, Row.filter_filter_max, max_eq_left hours]
  obtain ⟨minuteCount, hourlyCount, _, total, lost, lost'⟩ := last.counted
  omega

end

namespace Connection

variable [Surroundings σ]

private theorem deleteUntil_count (counting : Surroundings.Counting σ) {id : Nat} {g : Granularity}
    {cutoff count : Int} {w w' : World σ}
    (ran : deleteUntil id g cutoff w = (.ok count, w')) : count = w.database.expired g cutoff := by
  rw [deleteUntil_eq] at ran
  obtain ⟨_, w₁, entered, ran⟩ := Action.bind_eq_ok ran
  have same := ((Stages.enter id (Statement.deleteUntil g).text (some [cutoff])).uses w).database
  rw [entered] at same
  obtain ⟨_, w₂, got, ran⟩ := Action.bind_eq_ok ran
  cases got
  obtain ⟨_, w₃, staged, ran⟩ := Action.bind_eq_ok ran
  obtain ⟨answer, w₄, asked, ran⟩ := Action.bind_eq_ok ran
  have unanswered : answer = none := by
    cases asked
    exact counting _
  subst unanswered
  cases ran
  rw [Option.getD_none, ← same]

end Connection

namespace Store

/-- The cutoff of a table at a moment. -/
def Cutoff (now : Moment) (g : Granularity) (c : Int) : Prop :=
  ∃ retention, g.retention? = some retention ∧ cutoff now retention = .ok c

namespace Cutoff

variable {now now' : Moment} {g : Granularity} {c c' : Int}

theorem mono (reached : Cutoff now g c) (reached' : Cutoff now' g c')
    (ordered : now.instant ≤ now'.instant) : c ≤ c' := by
  obtain ⟨retention, kept, early⟩ := reached
  obtain ⟨retention', kept', late⟩ := reached'
  obtain rfl : retention = retention' := Option.some.inj (kept.symm.trans kept')
  exact cutoff_mono early late ordered

theorem congr (reached : Cutoff now g c) (reached' : Cutoff now' g c')
    (same : now.instant = now'.instant) : c = c' :=
  le_antisymm (reached.mono reached' same.le) (reached'.mono reached same.ge)

/-- Of two cutoffs the later moment has the greater one. -/
theorem max_eq (reached : Cutoff now g c) (reached' : Cutoff now' g c')
    {later : Moment} {c'' : Int} (reached'' : Cutoff later g c'')
    (one : later = now ∨ later = now') (first : now.instant ≤ later.instant)
    (last : now'.instant ≤ later.instant) : max c c' = c'' := by
  refine le_antisymm (max_le (reached.mono reached'' first) (reached'.mono reached'' last)) ?_
  rcases one with rfl | rfl
  · exact (reached''.congr reached rfl).le.trans (le_max_left c c')
  · exact (reached''.congr reached' rfl).le.trans (le_max_right c c')

end Cutoff

private theorem cutoffs_eq_ok {now : Moment} {entries : List (Granularity × Int)}
    (found : cutoffs now = .ok entries) :
    ∃ minute hourly, entries = [(.minute, minute), (.hourly, hourly)] ∧
      Cutoff now .minute minute ∧ Cutoff now .hourly hourly := by
  cases cutoffs_forall₂ found with
  | @cons _ first _ _ atMinute rest =>
    cases rest with
    | @cons _ last _ _ atHour rest =>
      cases rest
      obtain ⟨_, kept, reached, named⟩ := atMinute
      obtain ⟨_, kept', reached', named'⟩ := atHour
      exact ⟨first.2, last.2, by rw [named, named'], ⟨_, kept, reached⟩, ⟨_, kept', reached'⟩⟩

variable [Surroundings σ] {m : Manager} {policy : Policy} {w w' : World σ} {r : BatchResult}

private theorem deleteExpired_counts (counting : Surroundings.Counting σ) {id : Nat}
    {entries removed : List (Granularity × Int)} {w w' : World σ}
    (ran : deleteExpired id entries w = (.ok removed, w')) :
    removed = entries.map fun entry => (entry.1, (w.database.expired entry.1 entry.2 : Int)) := by
  induction entries generalizing w removed with
  | nil =>
    cases ran
    rfl
  | cons entry rest ih =>
    obtain ⟨g, cutoff⟩ := entry
    obtain ⟨count, w₁, deleted, ran⟩ := Action.bind_eq_ok ran
    obtain ⟨others, w₂, later, ran⟩ := Action.bind_eq_ok ran
    have same := ((Stages.deleteUntil id g cutoff).uses w).database
    rw [deleted] at same
    have counted := Connection.deleteUntil_count counting deleted
    have nonneg : max count 0 = count := by omega
    cases ran
    rw [ih later, same, List.map_cons, nonneg, counted]

section

variable {operation : String} {entries : List (Granularity × Int)} {summary : BatchResult}
  {outcome : Option (List (Granularity × Int))}

/-- A batch of deletions that succeeds removes all that it was given to remove. -/
theorem deleteExpired_removes (ran : Batch.run m operation 0 policy [] (fun connection => do
      Connection.cursor connection
      deleteExpired connection entries) w = (.ok (summary, outcome), w'))
    (clean : summary.error = none) :
    w'.database = w.database.applyAll (entries.map fun (g, cutoff) => .deleteUntil g cutoff) := by
  have prepares (id : Nat) : Prepares id
      (· = entries.map fun (g, cutoff) => .deleteUntil g cutoff) (do
        Connection.cursor id
        deleteExpired id entries : Action σ (List (Granularity × Int))) :=
    ((Stages.cursor id).after fun _ => deleteExpired_stages id entries).prepares rfl
  obtain ⟨committed, effect, passed⟩ := Batch.run_spec prepares m operation 0 policy [] w
  rw [ran] at effect passed
  have changed := effect.database
  rw [if_pos (passed summary outcome rfl clean)] at changed
  obtain ⟨_, rfl, changed⟩ := changed
  exact changed

/-- A batch of deletions that succeeds counts what it removes. -/
theorem deleteExpired_counted (counting : Surroundings.Counting σ)
    (ran : Batch.run m operation 0 policy [] (fun connection => do
      Connection.cursor connection
      deleteExpired connection entries) w = (.ok (summary, outcome), w'))
    (clean : summary.error = none) :
    outcome = some (entries.map fun entry =>
      (entry.1, (w.database.expired entry.1 entry.2 : Int))) := by
  obtain ⟨removed, id, w₁, w₂, rfl, kept, worked⟩ := Batch.run_of_clean ran clean
  obtain ⟨_, w₃, opened, worked⟩ := Action.bind_eq_ok worked
  have same := ((Stages.cursor id).uses w₁).database
  rw [opened] at same
  rw [deleteExpired_counts counting worked, same, kept]

end

/-- A purge comes to its end without an error. -/
def Purges (m : Manager) (now : Option Moment) (policy : Policy) (w : World σ) (r : BatchResult)
    (w' : World σ) : Prop :=
  purge m now policy w = (.ok r, w') ∧ r.error = none

/-- A run that is known to have no error is a purge. -/
theorem Purges.of_ended (m : Manager) (now : Option Moment) (policy : Policy) (w : World σ)
    (ended : (purge m now policy w).1.toOption.map (·.error) = some none) :
    ∃ r, Purges m now policy w r (purge m now policy w).2 := by
  rcases ran : purge m now policy w with ⟨_ | r, w'⟩ <;> rw [ran] at ended
  · cases ended
  · exact ⟨r, ran, Option.some.inj ended⟩

/-- The moment that a purge is made for. -/
def purgedAt (now : Option Moment) (w : World σ) : Moment :=
  now.getD (Surroundings.now w.surroundings)

/-- A purge that succeeds removes the rows up to its cutoffs. Where the database counts what it
deletes, it tells their numbers. -/
theorem Purges.pruned {now : Option Moment} (purges : Purges m now policy w r w')
    (enabled : m.isEnabled = true) :
    ∃ minute hourly, Cutoff (purgedAt now w) .minute minute ∧
      Cutoff (purgedAt now w) .hourly hourly ∧ Pruned minute hourly w.database w'.database ∧
      (Surroundings.Counting σ → Purged minute hourly w.database w'.database r) := by
  obtain ⟨ran, clean⟩ := purges
  rw [purge_apply, if_pos enabled] at ran
  obtain ⟨entries, w₀, found, ran⟩ := Action.bind_eq_ok ran
  obtain rfl : w = w₀ := congrArg Prod.snd found
  obtain ⟨minute, hourly, rfl, atMinute, atHour⟩ :=
    cutoffs_eq_ok (Result.of_mapError (congrArg Prod.fst found))
  rw [Batch.inform_bind] at ran
  obtain ⟨⟨summary, outcome⟩, w₁, ran₁, finished⟩ := Action.bind_eq_ok ran
  have named := Batch.finish_eq_ok finished
  have idle := Batch.finish_idle_of_ok finished
  have clean' : summary.error = none := by rwa [named] at clean
  have changed := deleteExpired_removes ran₁ clean'
  rw [← idle.database] at changed
  have pruned : Pruned minute hourly w.database w'.database := by
    rw [changed]
    exact ⟨rfl, rfl, rfl, rfl, rfl⟩
  refine ⟨minute, hourly, atMinute, atHour, pruned, fun counting => ⟨pruned, ?_⟩⟩
  rw [changed, named, deleteExpired_counted counting ran₁ clean']
  refine ⟨_, _, rfl, ?_, ?_, ?_⟩
  · simp [removedRows]
  · exact (w.database.length_filter_add_expired .minute minute).symm
  · exact (w.database.length_filter_add_expired .hourly hourly).symm

/-- What a purge leaves of a table whose rows are not kept for ever. -/
theorem Purges.table {now : Option Moment} {g : Granularity} {retention : Nat}
    (purges : Purges m now policy w r w') (enabled : m.isEnabled = true)
    (kept : g.retention? = some retention) :
    ∃ c, cutoff (purgedAt now w) retention = .ok c ∧
      w'.database.rows g = (w.database.rows g).filter (c < ·.timestamp) := by
  obtain ⟨minute, hourly, atMinute, atHour, pruned, _⟩ := purges.pruned enabled
  have found {c : Int} (reached : Cutoff (purgedAt now w) g c) :
      cutoff (purgedAt now w) retention = .ok c := by
    obtain ⟨retention', held, reached⟩ := reached
    rwa [Option.some.inj (kept.symm.trans held)]
  cases g with
  | minute => exact ⟨minute, found atMinute, pruned.minutes⟩
  | hourly => exact ⟨hourly, found atHour, pruned.hours⟩
  | daily => cases kept

/-- Two moments of one instant purge alike, whatever else happens. -/
theorem purgeAt_congr {now now' : Moment} {entries entries' : List (Granularity × Int)}
    (found : cutoffs now = .ok entries) (found' : cutoffs now' = .ok entries')
    (same : now.instant = now'.instant) (w : World σ) :
    purgeAt m now policy w = purgeAt m now' policy w := by
  obtain ⟨minute, hourly, rfl, atMinute, atHour⟩ := cutoffs_eq_ok found
  obtain ⟨minute', hourly', rfl, atMinute', atHour'⟩ := cutoffs_eq_ok found'
  obtain rfl := atMinute.congr atMinute' same
  obtain rfl := atHour.congr atHour' same
  simp only [purgeAt, found, found']

/-- The later one of two moments. -/
def later (a b : Moment) : Moment :=
  if a.instant ≤ b.instant then b else a

/-- A purge that succeeds removes exactly the rows up to its cutoffs and tells their numbers. Two in
a row leave what one at the later moment leaves, and the second removes nothing unless it is later.
Two moments of one instant purge alike. -/
theorem purge_laws (counting : Surroundings.Counting σ) (enabled : m.isEnabled = true) :
    (∀ {now policy} {w : World σ} {r w'}, Purges m now policy w r w' →
      ∃ minute hourly, Cutoff (purgedAt now w) .minute minute ∧
        Cutoff (purgedAt now w) .hourly hourly ∧
        Purged minute hourly w.database w'.database r) ∧
    (∀ {t t' policy policy'} {w : World σ} {r w₁ r' w₂}, Purges m (some t) policy w r w₁ →
      Purges m (some t') policy' w₁ r' w₂ →
        (∀ {policy''} {v : World σ} {r'' v'}, v.database = w.database →
          Purges m (some (later t t')) policy'' v r'' v' → v'.database = w₂.database) ∧
        (t'.instant ≤ t.instant → r'.rows = 0)) ∧
    (∀ {t t' entries entries'}, cutoffs t = .ok entries → cutoffs t' = .ok entries' →
      t.instant = t'.instant →
        ∀ policy (w : World σ), purge m (some t) policy w = purge m (some t') policy w) := by
  refine ⟨?_, ?_, ?_⟩
  · intro now policy w r w' purges
    obtain ⟨minute, hourly, atMinute, atHour, _, purged⟩ := purges.pruned enabled
    exact ⟨minute, hourly, atMinute, atHour, purged counting⟩
  · intro t t' policy policy' w r w₁ r' w₂ early late
    obtain ⟨minute, hourly, atMinute, atHour, first, counted⟩ := early.pruned enabled
    obtain ⟨minute', hourly', atMinute', atHour', last, counted'⟩ := late.pruned enabled
    refine ⟨?_, fun ordered => ?_⟩
    · intro policy'' v r'' v' same single
      obtain ⟨minute'', hourly'', atMinute'', atHour'', once, _⟩ := single.pruned enabled
      rw [same] at once
      have one : later t t' = t ∨ later t t' = t' := by
        unfold later
        split <;> simp
      have bounds : t.instant ≤ (later t t').instant ∧ t'.instant ≤ (later t t').instant := by
        unfold later
        split <;> omega
      refine (first.compose last once ?_ ?_).symm
      · exact atMinute.max_eq atMinute' atMinute'' one bounds.1 bounds.2
      · exact atHour.max_eq atHour' atHour'' one bounds.1 bounds.2
    · exact (counted counting).rows_eq_zero (counted' counting)
        (atMinute'.mono atMinute ordered) (atHour'.mono atHour ordered)
  · intro t t' entries entries' found found' same policy w
    rw [purge_apply, purge_apply, if_pos enabled, if_pos enabled]
    exact purgeAt_congr found found' same w

end Store

namespace Calm

/-- A calm world with an expired and a fresh row of each granularity. -/
def stocked : World Calm :=
  { world with database := { rows := fun g => [0, 600000 * g.period].map fun timestamp =>
      ⟨"ada", 1, 2, "v", timestamp, 1.5⟩ } }

/-- Noon of the first of January 1971 in UTC. -/
def noon : Moment := { clock := 31579200000000, offset := some 0 }

/-- The same instant on a clock that is an hour ahead. -/
def noonAhead : Moment := { clock := 31582800000000, offset := some 3600000000 }

end Calm

theorem Store.purge_laws_stocked : ∃ r w₁ r' w₂,
    Store.Purges Calm.manager (some Calm.noon) .strict Calm.stocked r w₁ ∧ r.rows = 2 ∧
      Store.Purges Calm.manager (some Calm.noonAhead) .tolerant w₁ r' w₂ ∧ r'.rows = 0 ∧
      ∀ policy (w : World Calm), Store.purge Calm.manager (some Calm.noon) policy w
        = Store.purge Calm.manager (some Calm.noonAhead) policy w := by
  have laws := Store.purge_laws (σ := Calm) (m := Calm.manager) (fun _ => rfl) rfl
  have twice : (Store.purge Calm.manager (some Calm.noon) .strict Calm.stocked).1.toOption.map
        (fun r => (r.rows, r.error)) = some (2, none) ∧
      (Store.purge Calm.manager (some Calm.noonAhead) .tolerant
        (Store.purge Calm.manager (some Calm.noon) .strict Calm.stocked).2).1.toOption.map
          (·.error) = some none := by
    decide +kernel
  rcases first : Store.purge Calm.manager (some Calm.noon) .strict Calm.stocked with ⟨_ | r, w₁⟩
  · rw [first] at twice
    cases twice.1
  rcases last : Store.purge Calm.manager (some Calm.noonAhead) .tolerant w₁ with ⟨_ | r', w₂⟩
  · rw [first, last] at twice
    cases twice.2
  rw [first, last] at twice
  obtain ⟨counted, clean⟩ := Prod.mk.inj (Option.some.inj twice.1)
  have early : Store.Purges Calm.manager (some Calm.noon) .strict Calm.stocked r w₁ :=
    ⟨first, clean⟩
  have late : Store.Purges Calm.manager (some Calm.noonAhead) .tolerant w₁ r' w₂ :=
    ⟨last, Option.some.inj twice.2⟩
  have found : Store.cutoffs Calm.noon = .ok [(.minute, 31557540000), (.hourly, 30970800000)] := by
    decide +kernel
  have found' : Store.cutoffs Calm.noonAhead
      = .ok [(.minute, 31557540000), (.hourly, 30970800000)] := by
    decide +kernel
  exact ⟨r, w₁, r', w₂, early, counted, late, (laws.2.1 early late).2 (by decide),
    laws.2.2 found found' (by decide)⟩

end BucketStore
