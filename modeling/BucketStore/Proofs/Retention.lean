import BucketStore.Proofs.Fields
import BucketStore.Proofs.Purge

/-!
Retention. A purge keeps the bucket of every sample inside the nominal window of its granularity,
and removes every bucket that ended before it. The kept buckets are one more than the window has, so
that the bucket in which the window begins is kept as well.
-/

namespace BucketStore

variable {σ : Type}

namespace Granularity

/-- The nominal window in milliseconds. -/
def window? : Granularity → Option Nat
  | .minute => some (360 * 60000)
  | .hourly => some (168 * 3600000)
  | .daily => none

/-- Rows are kept for one bucket more than the window. -/
theorem retention?_eq (g : Granularity) : g.retention? = g.window?.map (· + g.period) := by
  cases g <;> rfl

private theorem thousand_dvd_period (g : Granularity) : 1000 ∣ g.period := by
  cases g <;> decide

end Granularity

namespace BucketKey

variable {g : Granularity} {key : BucketKey}

/-- A key is made if all its fields pass their checks, and holds what these give. -/
theorem ofFields_eq_ok {fields : List (String × Value)} :
    ofFields fields = .ok key ↔ usernameField.check fields = .valid key.username ∧
      dashboardField.check fields = .valid key.dashboard ∧
      pinField.check fields = .valid key.pin ∧
      pinKindField.check fields = .valid key.pinKind ∧
      bucketField.check fields = .valid key.bucket := by
  constructor
  · intro made
    obtain ⟨⟨name, dash, number, kind, bucket⟩, checked, rfl⟩ :=
      Checked.map_eq_valid (Checked.run_eq_ok made)
    obtain ⟨named, rest⟩ := Checked.both_eq_valid checked
    obtain ⟨dashed, rest⟩ := Checked.both_eq_valid rest
    obtain ⟨numbered, rest⟩ := Checked.both_eq_valid rest
    obtain ⟨sorted, last⟩ := Checked.both_eq_valid rest
    exact ⟨named, dashed, numbered, sorted, last⟩
  · rintro ⟨named, dashed, numbered, sorted, last⟩
    rw [ofFields, named, dashed, numbered, sorted, last]
    rfl

/-- The key of an instant has the bucket that holds it. -/
theorem forInstant_bucket {username dashboard pin pinKind : Value} {millis : Int}
    (made : forInstant g username dashboard pin pinKind (.int millis) = .ok key) :
    key.bucket = bucketOf g millis := by
  obtain ⟨-, -, -, -, last⟩ := ofFields_eq_ok.mp made
  have given : bucketField.check [("username", username), ("dash_id", dashboard), ("pin", pin),
      ("pin_type", pinKind), ("ts", .int (bucketOf g millis))]
        = .valid (bucketOf g millis) := rfl
  exact (Checked.valid.inj (given.symm.trans last)).symm

/-- A sample is taken while its bucket is filled. -/
theorem forInstant_span {username dashboard pin pinKind : Value} {millis : Int}
    (made : forInstant g username dashboard pin pinKind (.int millis) = .ok key) :
    key.timestamp g ≤ millis ∧ millis < key.timestamp g + g.period := by
  have first := bucketOf_mul_le g millis
  have last := lt_bucketOf_add_one_mul g millis
  rw [timestamp, forInstant_bucket made]
  rw [Int.add_mul, Int.one_mul] at last
  exact ⟨first, last⟩

/-- Unless the sample is the last of its bucket, the next millisecond is in it too. -/
theorem forInstant_next {username dashboard pin pinKind : Value} {millis : Int}
    (made : forInstant g username dashboard pin pinKind (.int millis) = .ok key)
    (inside : bucketOf g (millis + 1) = bucketOf g millis) :
    millis + 1 < key.timestamp g + g.period := by
  have last := lt_bucketOf_add_one_mul g (millis + 1)
  rw [inside, ← forInstant_bucket made, Int.add_mul, Int.one_mul] at last
  exact last

/-- Buckets start at whole seconds. -/
theorem exists_timestamp_eq (g : Granularity) (key : BucketKey) :
    ∃ s : Int, key.timestamp g = s * 1000 := by
  obtain ⟨n, seconds⟩ := g.thousand_dvd_period
  refine ⟨key.bucket * n, ?_⟩
  rw [timestamp, seconds]
  push_cast
  ring

end BucketKey

namespace Store

variable [Surroundings σ] {m : Manager} {policy : Policy} {w w' : World σ} {r : BatchResult}
  {now : Option Moment} {g : Granularity} {window : Nat}

/-- The cutoff lies before the epoch, and the sample is taken in the first half millisecond of the
window and is the last of its bucket: rounding may put the cutoff behind the start of the bucket. -/
def AtEdge (now : Moment) (g : Granularity) (window : Nat) (millis : Int) : Prop :=
  now.instant < (window + g.period) * 1000 ∧ millis * 1000 < now.instant - window * 1000 + 500 ∧
    BucketKey.bucketOf g (millis + 1) ≠ BucketKey.bucketOf g millis

instance (now : Moment) (g : Granularity) (window : Nat) (millis : Int) :
    Decidable (AtEdge now g window millis) :=
  inferInstanceAs (Decidable (_ ∧ _ ∧ _))

/-- Except at the edge, the row of a sample inside the window outlives a purge; the row of a bucket
that ended before the window does not. -/
theorem purge_retention (purges : Purges m now policy w r w') (enabled : m.isEnabled = true)
    (zoned : (purgedAt now w).IsZoned) (kept : g.window? = some window)
    {username dashboard pin pinKind : Value} {millis : Int} {key : BucketKey}
    (made : BucketKey.forInstant g username dashboard pin pinKind (.int millis) = .ok key)
    (average : Float) :
    ((purgedAt now w).instant - window * 1000 ≤ millis * 1000 →
      ¬AtEdge (purgedAt now w) g window millis → key.row g average ∈ w.database.rows g →
        key.row g average ∈ w'.database.rows g) ∧
    ((key.timestamp g + g.period) * 1000 ≤ (purgedAt now w).instant - window * 1000 →
      key.row g average ∉ w'.database.rows g) := by
  have held : g.retention? = some (window + g.period) := by
    rw [g.retention?_eq, kept, Option.map_some]
  obtain ⟨c, reached, left⟩ := purges.table enabled held
  rw [left, List.mem_filter]
  have shown : (key.row g average).timestamp = key.timestamp g := rfl
  rw [shown, decide_eq_true_eq]
  constructor
  · intro inside ordinary there
    refine ⟨there, cutoff_lt reached zoned ?_⟩
    obtain ⟨_, span⟩ := BucketKey.forInstant_span made
    push_cast
    by_cases early : (purgedAt now w).instant < (window + g.period) * 1000
    · left
      by_cases near : millis * 1000 < (purgedAt now w).instant - window * 1000 + 500
      · have next := BucketKey.forInstant_next made
          (Decidable.not_not.mp fun last => ordinary ⟨early, near, last⟩)
        omega
      · omega
    · right
      omega
  · intro ended ⟨_, after⟩
    obtain ⟨s, start⟩ := key.exists_timestamp_eq g
    have past : s * Moment.microsPerSecond
        ≤ (purgedAt now w).instant - (window + g.period : Nat) * 1000 := by
      rw [Moment.microsPerSecond]
      push_cast
      omega
    have reached := second_le_cutoff reached zoned past
    omega

end Store

namespace Calm

/-- A calm world with a row for each of some minutes. -/
def holding (buckets : List Int) : World Calm :=
  { world with database := { rows := fun
    | .minute => buckets.map fun bucket => (pinKey bucket).row .minute 1.5
    | _ => [] } }

theorem pinKey_made (millis : Int) :
    BucketKey.forInstant .minute (.text "ada") (.int 1) (.int 2) (.text "v") (.int millis)
      = .ok (pinKey (BucketKey.bucketOf .minute millis)) := by
  rfl

end Calm

/-- The first sample of a window stays, and a bucket that ended a minute before it goes. -/
theorem Store.purge_retention_noon : ∃ r w',
    Store.Purges Calm.manager (some Calm.noon) .strict (Calm.holding [525960, 525958]) r w' ∧
      (Calm.pinKey 525960).row .minute 1.5 ∈ w'.database.rows .minute ∧
      (Calm.pinKey 525958).row .minute 1.5 ∉ w'.database.rows .minute := by
  have ended : (Store.purge Calm.manager (some Calm.noon) .strict
      (Calm.holding [525960, 525958])).1.toOption.map (·.error) = some none := by
    decide +kernel
  rcases ran : Store.purge Calm.manager (some Calm.noon) .strict (Calm.holding [525960, 525958])
    with ⟨_ | r, w'⟩
  · rw [ran] at ended
    cases ended
  rw [ran] at ended
  have purges : Store.Purges Calm.manager (some Calm.noon) .strict
      (Calm.holding [525960, 525958]) r w' := ⟨ran, Option.some.inj ended⟩
  refine ⟨r, w', purges, ?_, ?_⟩
  · exact (Store.purge_retention purges rfl (by decide) rfl (Calm.pinKey_made 31557600000)
      1.5).1 (by decide) (by decide) (List.mem_cons_self ..)
  · exact (Store.purge_retention purges rfl (by decide) rfl (Calm.pinKey_made 31557480000)
      1.5).2 (by decide)

/-- One millisecond before 20:54 on the last day of 1969. -/
def Calm.evening : Moment := { clock := -11160001000 }

/-- The first sample of a window before the epoch goes, because its cutoff of -32820001 milliseconds
is rounded up to the start of its bucket. -/
theorem Store.purge_retention_evening : ∃ r w',
    Store.Purges Calm.manager (some Calm.evening) .strict (Calm.holding [-547]) r w' ∧
      Granularity.minute.window? = some 21600000 ∧
      BucketKey.forInstant .minute (.text "ada") (.int 1) (.int 2) (.text "v") (.int (-32760001))
        = .ok (Calm.pinKey (-547)) ∧
      Calm.evening.instant - 21600000 * 1000 ≤ -32760001 * 1000 ∧
      (Calm.pinKey (-547)).row .minute 1.5 ∈ (Calm.holding [-547]).database.rows .minute ∧
      (Calm.pinKey (-547)).row .minute 1.5 ∉ w'.database.rows .minute := by
  have ended : (Store.purge Calm.manager (some Calm.evening) .strict
        (Calm.holding [-547])).1.toOption.map (·.error) = some none ∧
      ((Store.purge Calm.manager (some Calm.evening) .strict
        (Calm.holding [-547])).2.database.rows .minute).isEmpty = true := by
    decide +kernel
  rcases ran : Store.purge Calm.manager (some Calm.evening) .strict (Calm.holding [-547])
    with ⟨_ | r, w'⟩
  · rw [ran] at ended
    cases ended.1
  rw [ran] at ended
  refine ⟨r, w', ⟨ran, Option.some.inj ended.1⟩, rfl, rfl, by decide, List.mem_cons_self .., ?_⟩
  rw [List.isEmpty_iff.mp ended.2]
  exact List.not_mem_nil

end BucketStore
