import BucketStore.Proofs.DataModel
import BucketStore.Proofs.Frame
import BucketStore.Proofs.Retention
import Mathlib.Order.Interval.Set.UnorderedInterval

/-!
What a batch of averages hands to the driver: once, a row for each entry in its order. Different
keys have rows that differ in the columns that identify them, and a key that was made for an instant
has the row of the bucket in which the instant lies.
-/

namespace BucketStore

variable {σ α β : Type}

/-! ### Handing batches over -/

/-- The batch that an event hands to the driver, with its statement. -/
def Event.batch? : Event → Option (String × Batch)
  | .executeMany sql batch => some (sql, batch)
  | _ => none

private theorem Event.batch?_of_isSingle {e : Event} (single : e.isSingle = true) :
    e.batch? = none := by
  cases e with
  | executeMany sql batch => cases single
  | _ => rfl

/-- The batches that were handed to the driver, in order. -/
def World.batches (w : World σ) : List (String × Batch) :=
  w.events.filterMap Event.batch?

/-- No batch was handed over. -/
def Withheld (w w' : World σ) : Prop :=
  w'.batches = w.batches

instance : Margin (Withheld : World σ → World σ → Prop) where
  refl _ := rfl
  trans _ _ _ first last := Eq.trans last first
  unseen events _ _ := congrArg (List.filterMap Event.batch?) events
  exchange w e single := by
    simp [Withheld, World.batches, List.filterMap_append, Event.batch?_of_isSingle single]
  debug _ _ _ := rfl

theorem Remarks.withheld {w w' : World σ} (remarks : Remarks w w') : Withheld w w' := by
  obtain ⟨entries, rfl⟩ := remarks
  rfl

/-- An action hands over one batch, which is of some kind, or none. It hands one over wherever its
result is clean. -/
def HandsOver (kind : String × Batch → Prop) (clean : α → Prop) (a : Action σ α) : Prop :=
  ∀ w, (∃ batch, kind batch ∧ (a w).2.batches = w.batches ++ [batch]) ∨
    Withheld w (a w).2 ∧ ∀ x, (a w).1 = .ok x → ¬ clean x

namespace HandsOver

variable {kind : String × Batch → Prop} {clean : α → Prop} {clean' : β → Prop}

theorem after {a : Action σ α} {f : α → Action σ β} (withheld : Action.Within Withheld a)
    (rest : ∀ x, HandsOver kind clean' (f x)) : HandsOver kind clean' (a >>= f) := by
  intro w
  have before := withheld w
  rcases ran : a w with ⟨fault | x, w₁⟩ <;> rw [ran] at before
  · rw [Action.bind_of_error ran]
    exact .inr ⟨before, nofun⟩
  · rw [Action.bind_of_ok ran]
    rcases rest x w₁ with ⟨batch, fits, handed⟩ | ⟨after, unclean⟩
    · exact .inl ⟨batch, fits, handed.trans (by rw [before])⟩
    · exact .inr ⟨trans_of Withheld before after, unclean⟩

/-- What has to be found out first may fail. -/
theorem of_result {result : Except Fault β} {f : β → Action σ α}
    (rest : ∀ x, result = .ok x → HandsOver kind clean (f x)) :
    HandsOver kind clean (Action.ofExcept result >>= f) := by
  cases result with
  | error fault => exact fun w => .inr ⟨refl_of Withheld w, nofun⟩
  | ok x => exact rest x rfl

theorem imp {kind' : String × Batch → Prop} {a : Action σ α} (handsOver : HandsOver kind clean a)
    (fits : ∀ batch, kind batch → kind' batch) : HandsOver kind' clean a := fun w =>
  (handsOver w).imp_left fun ⟨batch, kept, handed⟩ => ⟨batch, fits batch kept, handed⟩

/-- What follows hands nothing over, and its result is clean only if the one before was. -/
theorem andThen {a : Action σ α} {f : α → Action σ β} (first : HandsOver kind clean a)
    (rest : ∀ x, Action.Within Withheld (f x))
    (kept : ∀ {x y w w'}, f x w = (.ok y, w') → clean' y → clean x) :
    HandsOver kind clean' (a >>= f) := by
  intro w
  have before := first w
  rcases ran : a w with ⟨fault | x, w₁⟩ <;> rw [ran] at before
  · rw [Action.bind_of_error ran]
    exact before.imp_right fun ⟨withheld, _⟩ => ⟨withheld, nofun⟩
  · rw [Action.bind_of_ok ran]
    have later : (f x w₁).2.batches = w₁.batches := rest x w₁
    rcases before with ⟨batch, fits, handed⟩ | ⟨withheld, unclean⟩
    · exact .inl ⟨batch, fits, later.trans handed⟩
    · refine .inr ⟨later.trans withheld, fun y ended good => ?_⟩
      exact unclean x rfl (kept (Prod.ext ended rfl) good)

theorem attempt {a : Action σ α} (handsOver : HandsOver kind clean a) :
    HandsOver kind (fun result => ∃ x, result = .ok x ∧ clean x) (Action.attempt a) := by
  intro w
  refine (handsOver w).imp_right fun ⟨withheld, unclean⟩ => ⟨withheld, ?_⟩
  rintro result ended ⟨x, rfl, good⟩
  exact unclean x (Except.ok.inj ended) good

end HandsOver

private theorem Batch.inform_withheld (message : String) (details : List (String × Value)) :
    Action.Within Withheld (inform message details : Action σ Unit) :=
  inform_within Remarks.withheld message details

private theorem Batch.finish_withheld (summary : BatchResult) (message : String → String)
    (details : List (String × Value)) :
    Action.Within Withheld (finish summary message details : Action σ BatchResult) :=
  finish_within Remarks.withheld summary message details

variable [Surroundings σ] {kind : String × Batch → Prop}

theorem Connection.insertRows_handsOver (id : Nat) (g : Granularity) (rows : List Row) :
    HandsOver (· = ((Statement.insertRow g).text, .rows g rows)) (fun _ => True)
      (insertRows id g rows : Action σ Unit) := by
  intro w
  let sql := (Statement.insertRow g).text
  have rest : Action.Within Withheld (touch id (.executeMany sql) >>= fun _ =>
      insertAll id g sql rows : Action σ Unit) :=
    .bind (touch_framed id _) fun _ => .bind .get fun _ => insertEach_framed id g _ _ 0 rows
  -- The event comes before the contact, so that a batch that fails there was handed over.
  have later := rest { w with events := w.events ++ [.executeMany sql (.rows g rows)] }
  have split : (insertRows id g rows : Action σ Unit)
      = Action.record (.executeMany sql (.rows g rows)) >>= fun _ =>
        touch id (.executeMany sql) >>= fun _ => insertAll id g sql rows := by
    simp only [insertRows_eq, handOver, bind_assoc, sql]
  rw [split]
  refine .inl ⟨_, rfl, later.trans ?_⟩
  simp [World.batches, Event.batch?, sql]

/-- A lease hands over what its use does. It comes to its end only if the use did. -/
theorem Manager.withConnection_handsOver (m : Manager) {use : Nat → Action σ α}
    (used : ∀ id, HandsOver kind (fun _ => True) (use id)) :
    HandsOver kind (fun _ => True) (m.withConnection use) := by
  refine .after m.acquire_framed fun connection => .andThen (used connection).attempt ?_ ?_
  · rintro (fault | x)
    · exact .bind (m.leave_framed connection true) fun _ => .throw _
    · exact .bind (m.leave_framed connection false) fun _ => .pure _
  · rintro (fault | x) y w w' ended -
    · obtain ⟨_, _, _, raised⟩ := Action.bind_eq_ok ended
      cases raised
    · exact ⟨x, rfl, trivial⟩

/-- A batch without an error has handed over what its work does. -/
theorem Batch.run_handsOver {m : Manager} {operation : String} {attempted : Int} {policy : Policy}
    {details : List (String × Value)} {work : Nat → Action σ α}
    (worked : ∀ id, HandsOver kind (fun _ => True) (work id)) :
    HandsOver kind (fun ended => ended.1.error = none)
      (run m operation attempted policy details work) := by
  have ticks : Action.Within Withheld (Action.ask Surroundings.tick : Action σ Float) := .ask _
  have leased : HandsOver kind (fun _ => True) (m.withConnection (block work)) :=
    m.withConnection_handsOver fun id =>
      .andThen (worked id) (fun _ => .bind (Connection.commit_framed id) fun _ => .pure _)
        fun _ _ => trivial
  have measured : HandsOver kind (fun ended => ∃ x, ended.1 = .ok x)
      (Stopwatch.measure (m.withConnection (block work))) := by
    refine .after ticks fun _ => .andThen leased.attempt
      (fun _ => .bind ticks fun _ => .pure _) ?_
    intro result ended w w' ran good
    obtain ⟨_, _, _, ran⟩ := Action.bind_eq_ok ran
    cases ran
    exact good.imp fun _ same => ⟨same, trivial⟩
  refine .andThen measured (fun ended w => ?_) ?_
  · exact (conclude_remarks operation attempted policy details ended.1 ended.2 w).withheld
  · intro ended answer w w' ran clean
    obtain ⟨x, same, _⟩ := conclude_of_clean ran clean
    exact ⟨x, same⟩

namespace Store

variable {m : Manager} {entries : List (BucketKey × Averaged)}

private theorem insertAverages_withheld (idle : m.isEnabled = false ∨ entries = [])
    (g : Granularity) (policy : Policy) :
    Action.Within Withheld (insertAverages m entries g policy : Action σ BatchResult) := by
  have skipped : (!m.isEnabled || entries.isEmpty) = true := by simpa using idle
  simp only [insertAverages, skipped, if_true]
  exact .pure _

/-- The rows are all taken before the driver is turned to. -/
theorem insertAverages_handsOver (enabled : m.isEnabled = true) (filled : entries ≠ [])
    (g : Granularity) (policy : Policy) :
    HandsOver (fun batch => ∃ rows, Row.ofEntries g entries = .ok rows ∧
        batch = ((Statement.insertRow g).text, .rows g rows))
      (fun r => r.error = none) (insertAverages m entries g policy : Action σ BatchResult) := by
  have active : (!m.isEnabled || entries.isEmpty) = false := by simp [enabled, filled]
  simp only [insertAverages, active, Bool.false_eq_true, if_false]
  refine .after (Batch.inform_withheld _ _) fun _ => .andThen (Batch.run_handsOver fun id => ?_)
    (fun _ => Batch.finish_withheld _ _ _) fun finished clean => Batch.finish_eq_ok finished ▸ clean
  refine .of_result fun rows taken => .after (Connection.touch_framed id _) fun _ => ?_
  exact (Connection.insertRows_handsOver id g rows).imp fun _ same => ⟨rows, taken, same⟩

end Store

/-! ### Rows of keys -/

private theorem PinKind.letter_injective : Function.Injective letter := fun a b same =>
  Option.some.inj (by rw [← ofLetter?_letter a, same, ofLetter?_letter])

namespace BucketKey

/-- The columns that identify the row of a key. -/
def rowIdentity (g : Granularity) (key : BucketKey) : Row.Identity :=
  ⟨key.username, key.dashboard, key.pin.val, key.pinKind.letter, key.timestamp g⟩

/-- No column loses a part of the key. -/
theorem rowIdentity_injective (g : Granularity) : Function.Injective (rowIdentity g) := by
  rintro ⟨username, dashboard, pin, kind, bucket⟩ ⟨username', dashboard', pin', kind', bucket'⟩ same
  obtain ⟨rfl, rfl, pins, kinds, times⟩ := Row.Identity.mk.inj same
  obtain rfl : pin = pin' := Fin.ext (Int.ofNat.inj pins)
  obtain rfl := PinKind.letter_injective kinds
  obtain rfl : bucket = bucket' :=
    Int.eq_of_mul_eq_mul_right (by have := g.period_pos; omega) times
  rfl

/-- The start of a bucket is the greatest multiple of its width up to each instant in it. -/
theorem bucketOf_isGreatest (g : Granularity) (millis : Int) :
    IsGreatest {t : Int | (g.period : Int) ∣ t ∧ t ≤ millis} (bucketOf g millis * g.period) := by
  refine ⟨⟨Int.dvd_mul_left _ _, bucketOf_mul_le g millis⟩, ?_⟩
  rintro _ ⟨⟨n, rfl⟩, early⟩
  rw [Int.mul_comm] at early ⊢
  exact Int.mul_le_mul_of_nonneg_right ((le_bucketOf_iff g n millis).mpr early) (by omega)

/-- An instant has a later bucket than another if a bucket starts after the other, up to it. -/
theorem bucketOf_lt_iff (g : Granularity) (millis millis' : Int) :
    bucketOf g millis < bucketOf g millis' ↔
      ∃ t, (millis < t ∧ t ≤ millis') ∧ (g.period : Int) ∣ t := by
  constructor
  · intro later
    refine ⟨bucketOf g millis' * g.period, ⟨?_, bucketOf_mul_le g millis'⟩, Int.dvd_mul_left _ _⟩
    rwa [← not_le, ← le_bucketOf_iff, not_le]
  · rintro ⟨_, ⟨late, early⟩, n, rfl⟩
    rw [Int.mul_comm] at late early
    rw [← not_le, ← le_bucketOf_iff, not_le] at late
    exact late.trans_le ((le_bucketOf_iff g n millis').mpr early)

/-- Two instants share a bucket unless a multiple of its width separates them. -/
theorem bucketOf_eq_iff (g : Granularity) (millis millis' : Int) :
    bucketOf g millis = bucketOf g millis' ↔
      ¬ ∃ t ∈ Set.uIoc millis millis', (g.period : Int) ∣ t := by
  have apart := bucketOf_lt_iff g millis millis'
  have apart' := bucketOf_lt_iff g millis' millis
  simp only [Set.mem_uIoc, or_and_right, exists_or, ← apart, ← apart']
  omega

variable {g : Granularity} {username dashboard pin pinKind : Value} {key key' : BucketKey}

/-- Arguments that give a key at one instant give one at every other, which differs in its bucket
only. -/
theorem forInstant_at {millis : Int}
    (made : forInstant g username dashboard pin pinKind (.int millis) = .ok key) (millis' : Int) :
    forInstant g username dashboard pin pinKind (.int millis')
      = .ok { key with bucket := bucketOf g millis' } := by
  obtain ⟨named, dashed, numbered, sorted, -⟩ := ofFields_eq_ok.mp made
  exact ofFields_eq_ok.mpr ⟨named, dashed, numbered, sorted, rfl⟩

private theorem forInstant_eq_iff {millis millis' : Int}
    {username' dashboard' pin' pinKind' : Value}
    (made : forInstant g username dashboard pin pinKind (.int millis) = .ok key)
    (made' : forInstant g username' dashboard' pin' pinKind' (.int millis') = .ok key')
    (others : { key' with bucket := key.bucket } = key) :
    key = key' ↔ ¬ ∃ t ∈ Set.uIoc millis millis', (g.period : Int) ∣ t := by
  rw [← bucketOf_eq_iff, ← forInstant_bucket made, ← forInstant_bucket made']
  constructor
  · exact congrArg bucket
  · intro same
    rw [← others, same]

end BucketKey

/-- A row stores an entry: it has the key's columns, with the start of the bucket, and the entry's
average. -/
structure Row.Carries (g : Granularity) (entry : BucketKey × Averaged) (row : Row) : Prop where
  username : row.username = entry.1.username
  dashboard : row.dashboard = entry.1.dashboard
  pin : row.pin = entry.1.pin.val
  pinKind : row.pinKind = entry.1.pinKind.letter
  timestamp : row.timestamp = entry.1.bucket * g.period
  average : entry.2.average = .ok row.average

namespace Row

variable {g : Granularity} {entries : List (BucketKey × Averaged)} {rows : List Row}

private theorem ofEntries_carries (taken : ofEntries g entries = .ok rows) :
    List.Forall₂ (Carries g) entries rows := by
  refine (ofEntries_forall₂ taken).imp ?_
  rintro entry row ⟨average, averaged, rfl⟩
  exact ⟨rfl, rfl, rfl, rfl, rfl, averaged⟩

theorem Carries.identity {entry : BucketKey × Averaged} {row : Row}
    (carries : Carries g entry row) : row.identity = entry.1.rowIdentity g := by
  rw [Row.identity, carries.username, carries.dashboard, carries.pin, carries.pinKind,
    carries.timestamp]
  rfl

/-- Rows of different keys are different in the columns that identify them. -/
theorem identities_nodup (stored : List.Forall₂ (Carries g) entries rows)
    (distinct : (entries.map Prod.fst).Nodup) : (rows.map Row.identity).Nodup := by
  -- The columns follow the keys in their order, whatever the averages are.
  have same : rows.map Row.identity = (entries.map Prod.fst).map (BucketKey.rowIdentity g) := by
    induction stored with
    | nil => rfl
    | cons first rest ih =>
      rw [List.map_cons, first.identity, ih (List.nodup_cons.mp distinct).2]
      rfl
  rw [same]
  exact distinct.map (BucketKey.rowIdentity_injective g)

end Row

namespace Store

/-- What is handed to the driver for the averages under different keys: if anything, then one batch,
with a row for each entry in its order, and the rows differ in the columns that identify them. A
result without an error means that it was handed over, unless there was nothing to do. Where a key
was made for an instant, its row's timestamp is the greatest multiple of the period up to that
instant; its arguments give a key for every instant, and the keys of two instants that agree in
everything but their buckets are equal unless a multiple of the period separates the instants. -/
theorem insertAverages_rows (m : Manager) {entries : List (BucketKey × Averaged)}
    (distinct : (entries.map Prod.fst).Nodup) (g : Granularity) (policy : Policy) (w : World σ) :
    ((insertAverages m entries g policy w).2.batches = w.batches ∧
        (m.isEnabled = true → entries ≠ [] →
          ∀ r, (insertAverages m entries g policy w).1 = .ok r → r.error ≠ none) ∨
      ∃ rows, (insertAverages m entries g policy w).2.batches
          = w.batches ++ [((Statement.insertRow g).text, .rows g rows)] ∧
        List.Forall₂ (Row.Carries g) entries rows ∧ (rows.map Row.identity).Nodup) ∧
    ∀ {username dashboard pin pinKind : Value} {millis : Int} {key : BucketKey},
      BucketKey.forInstant g username dashboard pin pinKind (.int millis) = .ok key →
      (∀ (value : Averaged) (row : Row), row.Carries g (key, value) →
        IsGreatest {t : Int | (g.period : Int) ∣ t ∧ t ≤ millis} row.timestamp) ∧
      (∀ millis', BucketKey.forInstant g username dashboard pin pinKind (.int millis')
        = .ok { key with bucket := BucketKey.bucketOf g millis' }) ∧
      ∀ {username' dashboard' pin' pinKind' : Value} {millis' : Int} {key' : BucketKey},
        BucketKey.forInstant g username' dashboard' pin' pinKind' (.int millis') = .ok key' →
        { key' with bucket := key.bucket } = key →
        (key = key' ↔ ¬ ∃ t ∈ Set.uIoc millis millis', (g.period : Int) ∣ t) := by
  refine ⟨?_, fun {username dashboard pin pinKind millis key} made => ⟨?_, ?_, ?_⟩⟩
  · by_cases active : m.isEnabled = true ∧ entries ≠ []
    · rcases insertAverages_handsOver active.1 active.2 g policy w with
        ⟨_, ⟨rows, taken, rfl⟩, handed⟩ | ⟨withheld, unclean⟩
      · have stored := Row.ofEntries_carries taken
        exact .inr ⟨rows, handed, stored, Row.identities_nodup stored distinct⟩
      · exact .inl ⟨withheld, fun _ _ => unclean⟩
    · have nothing : m.isEnabled = false ∨ entries = [] := by
        simpa [Classical.or_iff_not_imp_left] using active
      exact .inl ⟨insertAverages_withheld nothing g policy w,
        fun enabled filled => absurd ⟨enabled, filled⟩ active⟩
  · intro value row carries
    rw [carries.timestamp, BucketKey.forInstant_bucket made]
    exact BucketKey.bucketOf_isGreatest g millis
  · exact BucketKey.forInstant_at made
  · exact fun made' others => BucketKey.forInstant_eq_iff made made' others

end Store

/-- Averages of the last minute before the epoch and of the first minute after it. -/
def Calm.epochAverages : List (BucketKey × Averaged) :=
  [(pinKey (-1), .constant (.float 1.5)), (pinKey 0, .constant (.float 2.5))]

/-- The last instant before the epoch lies in the bucket that starts a minute before the epoch, and
not in the one that starts with it. -/
theorem Store.insertAverages_rows_epoch :
    (∃ rows, (Store.insertAverages Calm.manager Calm.epochAverages .minute .strict
        Calm.world).2.batches = [((Statement.insertRow .minute).text, .rows .minute rows)] ∧
      List.Forall₂ (Row.Carries .minute) Calm.epochAverages rows ∧
      (rows.map Row.identity).Nodup) ∧
    IsGreatest {t : Int | (60000 : Int) ∣ t ∧ t ≤ -1} (-60000) ∧
    Calm.pinKey (-1) ≠ Calm.pinKey 0 := by
  have distinct : (Calm.epochAverages.map Prod.fst).Nodup := by decide
  obtain ⟨written, instants⟩ :=
    Store.insertAverages_rows Calm.manager distinct .minute .strict Calm.world
  obtain ⟨greatest, -, separated⟩ := instants (Calm.pinKey_made (-1))
  refine ⟨?_, ?_, ?_⟩
  · rcases written with ⟨withheld, -⟩ | written
    · have once : (Store.insertAverages Calm.manager Calm.epochAverages .minute .strict
          Calm.world).2.batches.length = 1 := by decide +kernel
      rw [withheld] at once
      cases once
    · exact written
  · exact greatest (.constant (.float 1.5)) ((Calm.pinKey (-1)).row .minute 1.5)
      ⟨rfl, rfl, rfl, rfl, rfl, rfl⟩
  · intro same
    exact (separated (Calm.pinKey_made 0) rfl).mp same ⟨0, by simp, by decide⟩

end BucketStore
