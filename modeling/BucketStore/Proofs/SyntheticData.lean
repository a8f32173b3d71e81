import BucketStore.Generator
import BucketStore.Proofs.Handover
import BucketStore.Proofs.JsonText

/-!
Synthetic metrics. The samples of a user are drawn before it matters at what time and in buckets of
which width they are put, and before the users behind it: so the entries for a seed are the same at
all granularities and times but for their buckets, and more users only add entries at the end. There
is one entry for each bucket of each user, none of which lies later than the given moment or as many
buckets earlier as were asked for.
-/

namespace BucketStore

namespace Draw

variable {α : Type}

private theorem length_times (d : Draw α) (n : Nat) (t : Twister) : (times d n t).1.length = n := by
  induction n generalizing t with
  | zero => rfl
  | succ n ih => exact congrArg (· + 1) (ih (d t).2)

private theorem times_all {P : α → Prop} {d : Draw α} (each : ∀ t, P (d t).1) (n : Nat)
    (t : Twister) :
    ∀ a ∈ (times d n t).1, P a := by
  induction n generalizing t with
  | zero => exact nofun
  | succ n ih =>
    rintro a (_ | ⟨_, later⟩)
    · exact each t
    · exact ih (d t).2 a later

private theorem between_bounds {low high : Nat} (some : low ≤ high) (t : Twister) :
    low ≤ (between low high t).1 ∧ (between low high t).1 ≤ high := by
  have small := below_lt (high + 1 - low) (by omega) t
  have drawn : (between low high t).1 = low + (below (high + 1 - low) t).1 := rfl
  omega

end Draw

namespace Generator

/-! ### Portions -/

/-- What is drawn for a user: a metric, and the tallies of its buckets from the latest one back. -/
structure Portion where
  metric : Metric
  tallies : List Tally

/-- The entries of a metric's tallies, if the first of them is for the given bucket. -/
def Metric.entries (m : Metric) (last : Int) : List Tally → List (BucketKey × Tally)
  | [] => []
  | tally :: rest => (m.key last, tally) :: entries m (last - 1) rest

def Portion.entries (p : Portion) (last : Int) : List (BucketKey × Tally) :=
  p.metric.entries last p.tallies

def drawPortion (buckets samples user : Nat) : Draw Portion := do
  let metric ← drawMetric user
  return ⟨metric, ← Draw.times (drawTally samples) buckets⟩

/-- Draw the portions of some users, the first of which has the number `user`. -/
def drawPortions (buckets samples user : Nat) : Nat → Draw (List Portion)
  | 0 => pure []
  | count + 1 => do
    let portion ← drawPortion buckets samples user
    return portion :: (← drawPortions buckets samples (user + 1) count)

/-- The portions for a seed. -/
def portions (amount : Amount) (seed : Int) : List Portion :=
  (drawPortions amount.buckets.toNat amount.samples.toNat 0 amount.users.toNat
    (Twister.ofSeed seed)).1

variable {buckets samples user : Nat}

/-- The buckets do not decide what is drawn for them. -/
theorem drawBuckets_eq (m : Metric) (last : Int) (count : Nat) (t : Twister) :
    drawBuckets m last samples count t =
      (m.entries last (Draw.times (drawTally samples) count t).1,
        (Draw.times (drawTally samples) count t).2) := by
  induction count generalizing last t with
  | zero => rfl
  | succ count ih =>
    change ((m.key last, (drawTally samples t).1)
        :: (drawBuckets m (last - 1) samples count (drawTally samples t).2).1,
      (drawBuckets m (last - 1) samples count (drawTally samples t).2).2) = _
    rw [ih]
    rfl

/-- Entries are drawn as portions, which are put into buckets afterwards. -/
theorem drawUsers_eq (last : Int) (count : Nat) (t : Twister) :
    drawUsers last buckets samples user count t =
      ((drawPortions buckets samples user count t).1.flatMap (·.entries last),
        (drawPortions buckets samples user count t).2) := by
  induction count generalizing user t with
  | zero => rfl
  | succ count ih =>
    let drawn := drawMetric user t
    let filled := drawBuckets drawn.1 last samples buckets drawn.2
    change (filled.1 ++ (drawUsers last buckets samples (user + 1) count filled.2).1,
      (drawUsers last buckets samples (user + 1) count filled.2).2) = _
    rw [ih]
    simp only [filled, drawBuckets_eq]
    rfl

/-- More users have their portions behind those of the first ones. -/
theorem drawPortions_prefix (count more : Nat) (t : Twister) :
    (drawPortions buckets samples user count t).1
      <+: (drawPortions buckets samples user (count + more) t).1 := by
  induction count generalizing user t with
  | zero => exact List.nil_prefix
  | succ count ih =>
    rw [Nat.succ_add]
    exact List.cons_prefix_cons.mpr ⟨rfl, ih _⟩

/-- A metric of a user, on a dashboard from 1 to 1000 and a pin up to 127. -/
structure Metric.IsOf (user : Nat) (m : Metric) : Prop where
  username : m.username = userName user
  dashboard : 1 ≤ m.dashboard ∧ m.dashboard ≤ 1000
  pin : m.pin.val ≤ 127

theorem drawMetric_isOf (user : Nat) (t : Twister) : (drawMetric user t).1.IsOf user := by
  let placed := Draw.between 1 1000 t
  have numbered : 1 ≤ placed.1 ∧ placed.1 ≤ 1000 := Draw.between_bounds (by decide) t
  have small := Draw.below_lt 128 (by decide) placed.2
  refine ⟨rfl, numbered, ?_⟩
  change (Draw.below 128 placed.2).1 % 256 ≤ 127
  omega

private theorem drawTally_count (samples : Nat) (t : Twister) :
    (drawTally samples t).1.count = samples := by
  have counted (drawn : List Float) (start : Tally) :
      (drawn.foldl (fun t f => ⟨t.sum + f, t.count + 1⟩) start : Tally).count
        = start.count + drawn.length := by
    induction drawn generalizing start with
    | nil => rfl
    | cons f rest ih =>
      rw [List.foldl_cons, ih, List.length_cons]
      exact Nat.add_right_comm _ 1 _
  have drawn : (drawTally samples t).1.count = 0 + (Draw.times drawSample samples t).1.length :=
    counted _ _
  rw [drawn, Draw.length_times, Nat.zero_add]

/-- A portion of a user, with a number of tallies of some samples each. -/
structure Portion.IsOf (buckets samples user : Nat) (p : Portion) : Prop where
  metric : p.metric.IsOf user
  buckets : p.tallies.length = buckets
  samples : ∀ tally ∈ p.tallies, tally.count = samples

theorem drawPortion_isOf (t : Twister) :
    (drawPortion buckets samples user t).1.IsOf buckets samples user :=
  ⟨drawMetric_isOf user t, Draw.length_times _ _ _, Draw.times_all (drawTally_count samples) _ _⟩

private theorem length_drawPortions (count : Nat) (t : Twister) :
    (drawPortions buckets samples user count t).1.length = count := by
  induction count generalizing user t with
  | zero => rfl
  | succ count ih => exact congrArg (· + 1) (ih _)

theorem drawPortions_isOf (count : Nat) (t : Twister) {i : Nat} {p : Portion}
    (there : (drawPortions buckets samples user count t).1[i]? = some p) :
    p.IsOf buckets samples (user + i) := by
  induction count generalizing user t i with
  | zero => cases there
  | succ count ih =>
    cases i with
    | zero => exact Option.some.inj there ▸ drawPortion_isOf t
    | succ i => exact Nat.add_right_comm user 1 i ▸ ih _ there

/-! ### Keys -/

theorem Metric.entries_keys (m : Metric) (last : Int) (tallies : List Tally) :
    (m.entries last tallies).map Prod.fst
      = (List.range tallies.length).map fun (i : Nat) => m.key (last - i) := by
  induction tallies generalizing last with
  | nil => rfl
  | cons tally rest ih =>
    rw [List.length_cons, List.range_succ_eq_map, List.map_cons, List.map_map]
    refine congrArg₂ List.cons (congrArg m.key (Int.sub_zero last).symm) ((ih (last - 1)).trans ?_)
    refine List.map_congr_left fun i _ => congrArg m.key ?_
    change last - 1 - i = last - (i + 1 : Nat)
    omega

private theorem Metric.entries_tallies (m : Metric) (last : Int) (tallies : List Tally) :
    (m.entries last tallies).map Prod.snd = tallies := by
  induction tallies generalizing last with
  | nil => rfl
  | cons tally rest ih => exact congrArg (tally :: ·) (ih _)

private theorem userName_injective : Function.Injective userName := by
  intro i j same
  have texts := congrArg String.toList same
  simp only [userName, String.toList_append, List.append_cancel_right_eq,
    List.append_cancel_left_eq] at texts
  have first := naturalText?_intText (Int.natCast_nonneg i)
  rw [texts, naturalText?_intText (Int.natCast_nonneg j)] at first
  exact (Option.some.inj first).symm

private theorem Metric.key_injective (m : Metric) : Function.Injective m.key :=
  fun _ _ same => congrArg BucketKey.bucket same

variable {amount : Amount} {seed : Int}

theorem portions_isOf {i : Nat} {p : Portion} (there : (portions amount seed)[i]? = some p) :
    p.IsOf amount.buckets.toNat amount.samples.toNat i := by
  have drawn := drawPortions_isOf _ _ there
  rwa [Nat.zero_add] at drawn

private theorem mem_portions {p : Portion} (member : p ∈ portions amount seed) :
    ∃ user, p.IsOf amount.buckets.toNat amount.samples.toNat user := by
  obtain ⟨i, there⟩ := List.mem_iff_getElem?.mp member
  exact ⟨i, portions_isOf there⟩

/-- The keys of a user differ in their buckets, and those of different users in their names. -/
theorem keys_nodup (last : Int) :
    (((portions amount seed).flatMap (·.entries last)).map Prod.fst).Nodup := by
  simp only [List.map_flatMap, Portion.entries, Metric.entries_keys]
  refine List.nodup_flatMap.mpr ⟨fun p _ => ?_, ?_⟩
  · refine List.nodup_range.map fun i j same => ?_
    have buckets := p.metric.key_injective same
    omega
  · refine List.pairwise_iff_getElem.mpr fun i j firstThere lastThere before => ?_
    have named {k : Nat} (there : k < (portions amount seed).length) :=
      (portions_isOf (List.getElem?_eq_getElem there)).metric.username
    refine List.disjoint_left.mpr fun key one other => ?_
    obtain ⟨m, -, rfl⟩ := List.mem_map.mp one
    obtain ⟨n, -, same⟩ := List.mem_map.mp other
    have names := congrArg BucketKey.username same
    have users := userName_injective ((named lastThere).symm.trans (names.trans (named firstThere)))
    omega

/-- No key is drawn twice, so that no entry takes the place of another one. -/
theorem entries_eq (g : Granularity) (amount : Amount) (seed nowMillis : Int) :
    entries g amount seed nowMillis
      = (portions amount seed).flatMap (·.entries (BucketKey.bucketOf g nowMillis)) := by
  rw [entries, drawUsers_eq]
  exact mergeEntries_of_nodup (keys_nodup _)

/-- Entries that differ in the buckets of their keys only. -/
def Alike (entry entry' : BucketKey × Tally) : Prop :=
  { entry'.1 with bucket := entry.1.bucket } = entry.1 ∧ entry'.2 = entry.2

private theorem Metric.entries_alike (m : Metric) (last last' : Int) (tallies : List Tally) :
    List.Forall₂ Alike (m.entries last tallies) (m.entries last' tallies) := by
  induction tallies generalizing last last' with
  | nil => exact .nil
  | cons tally rest ih => exact .cons ⟨rfl, rfl⟩ (ih _ _)

private theorem flatMap_alike (ps : List Portion) (last last' : Int) :
    List.Forall₂ Alike (ps.flatMap (·.entries last)) (ps.flatMap (·.entries last')) := by
  induction ps with
  | nil => exact .nil
  | cons p rest ih => exact List.rel_append (p.metric.entries_alike last last' p.tallies) ih

/-! ### Rows -/

/-- A tally always has an average, so that every entry has a row. -/
theorem ofEntries_tallies (g : Granularity) (es : List (BucketKey × Tally)) :
    Row.ofEntries g (es.map fun (key, tally) => (key, Averaged.tally tally))
      = .ok (es.map fun (key, tally) => key.row g tally.average) := by
  induction es with
  | nil => rfl
  | cons e rest ih =>
    rw [List.map_cons, Row.ofEntries, ih]
    rfl

/-- The starts of the last few buckets lie within as many widths up to the given moment. -/
theorem timestamp_bounds (g : Granularity) (nowMillis : Int) {i buckets : Int} (first : 0 ≤ i)
    (last : i < buckets) :
    nowMillis - buckets * g.period < (BucketKey.bucketOf g nowMillis - i) * g.period ∧
      (BucketKey.bucketOf g nowMillis - i) * g.period ≤ nowMillis := by
  have width : (0 : Int) ≤ g.period := Int.natCast_nonneg _
  have early := BucketKey.bucketOf_mul_le g nowMillis
  have late := BucketKey.lt_bucketOf_add_one_mul g nowMillis
  have back : 0 ≤ i * g.period := Int.mul_nonneg first width
  have reach : (i + 1) * g.period ≤ buckets * g.period :=
    Int.mul_le_mul_of_nonneg_right last width
  rw [Int.add_mul] at late reach
  rw [Int.sub_mul]
  omega

/-! ### Entries -/

/-- The keys of some metrics, one metric after the other, each from the latest bucket back. -/
def keysOf (metrics : List Metric) (last : Int) (buckets : Nat) : List BucketKey :=
  metrics.flatMap fun m => (List.range buckets).map fun i => m.key (last - i)

private theorem length_keysOf (metrics : List Metric) (last : Int) (buckets : Nat) :
    (keysOf metrics last buckets).length = metrics.length * buckets := by
  simp [keysOf, List.length_flatMap]

private theorem mem_keysOf {metrics : List Metric} {last : Int} {key : BucketKey}
    (member : key ∈ keysOf metrics last buckets) : ∃ i < buckets, key.bucket = last - i := by
  obtain ⟨m, -, within⟩ := List.mem_flatMap.mp member
  obtain ⟨i, small, rfl⟩ := List.mem_map.mp within
  exact ⟨i, List.mem_range.mp small, rfl⟩

/-- What holds of the entries for some amount at a moment. -/
structure IsRegular (amount : Amount) (g : Granularity) (nowMillis : Int)
    (es : List (BucketKey × Tally)) : Prop where
  count : (es.length : Int) = max amount.users 0 * max amount.buckets 0
  distinct : (es.map Prod.fst).Nodup
  /-- The users come one after the other, each with one metric. -/
  keys : ∃ metrics : List Metric, metrics.length = amount.users.toNat ∧
    (∀ (user : Nat) (m : Metric), metrics[user]? = some m → m.IsOf user) ∧
    es.map Prod.fst = keysOf metrics (BucketKey.bucketOf g nowMillis) amount.buckets.toNat
  samples : ∀ e ∈ es, (e.2.count : Int) = max amount.samples 0
  rows : ∃ rows,
    Row.ofEntries g (es.map fun (key, tally) => (key, Averaged.tally tally)) = .ok rows ∧
    ∀ row ∈ rows, nowMillis - amount.buckets * g.period < row.timestamp ∧
      row.timestamp ≤ nowMillis

theorem entries_keys (g : Granularity) (amount : Amount) (seed nowMillis : Int) :
    (entries g amount seed nowMillis).map Prod.fst
      = keysOf ((portions amount seed).map Portion.metric) (BucketKey.bucketOf g nowMillis)
          amount.buckets.toNat := by
  rw [entries_eq, List.map_flatMap, keysOf, List.flatMap_map]
  refine List.flatMap_congr fun p member => ?_
  obtain ⟨user, isOf⟩ := mem_portions member
  rw [Portion.entries, Metric.entries_keys, isOf.buckets]

private theorem entries_samples {g : Granularity} {nowMillis : Int} {e : BucketKey × Tally}
    (member : e ∈ entries g amount seed nowMillis) : e.2.count = amount.samples.toNat := by
  rw [entries_eq] at member
  obtain ⟨p, among, within⟩ := List.mem_flatMap.mp member
  obtain ⟨user, isOf⟩ := mem_portions among
  refine isOf.samples e.2 ?_
  rw [← p.metric.entries_tallies (BucketKey.bucketOf g nowMillis) p.tallies]
  exact List.mem_map_of_mem within

private theorem entries_isRegular (g : Granularity) (amount : Amount) (seed nowMillis : Int) :
    IsRegular amount g nowMillis (entries g amount seed nowMillis) := by
  have keys := entries_keys g amount seed nowMillis
  have users : (portions amount seed).length = amount.users.toNat := length_drawPortions _ _
  constructor
  case count =>
    have counted := congrArg List.length keys
    rw [List.length_map, length_keysOf, List.length_map, users] at counted
    rw [counted, Int.natCast_mul, Int.ofNat_toNat, Int.ofNat_toNat]
  case distinct =>
    rw [entries_eq]
    exact keys_nodup _
  case keys =>
    refine ⟨_, by rw [List.length_map, users], fun user m there => ?_, keys⟩
    rw [List.getElem?_map] at there
    obtain ⟨p, drawn, rfl⟩ := Option.map_eq_some_iff.mp there
    exact (portions_isOf drawn).metric
  case samples =>
    intro e member
    rw [entries_samples member, Int.ofNat_toNat]
  case rows =>
    refine ⟨_, ofEntries_tallies g _, fun row member => ?_⟩
    obtain ⟨e, among, rfl⟩ := List.mem_map.mp member
    have listed := List.mem_map_of_mem (f := Prod.fst) among
    rw [keys] at listed
    obtain ⟨i, small, bucket⟩ := mem_keysOf listed
    change _ < e.1.bucket * g.period ∧ e.1.bucket * g.period ≤ _
    rw [bucket]
    exact timestamp_bounds g nowMillis (Int.natCast_nonneg i) (by omega)

private theorem entries_alike (g g' : Granularity) (amount : Amount)
    (seed nowMillis nowMillis' : Int) :
    List.Forall₂ Alike (entries g amount seed nowMillis) (entries g' amount seed nowMillis') := by
  rw [entries_eq, entries_eq]
  exact flatMap_alike _ _ _

private theorem entries_prefix (g : Granularity) {amount : Amount} {users : Int}
    (more : amount.users ≤ users) (seed nowMillis : Int) :
    entries g amount seed nowMillis <+: entries g { amount with users } seed nowMillis := by
  have all : users.toNat = amount.users.toNat + (users.toNat - amount.users.toNat) := by omega
  obtain ⟨rest, whole⟩ : portions amount seed <+: portions { amount with users } seed := by
    simp only [portions]
    rw [all]
    exact drawPortions_prefix _ _ _
  rw [entries_eq, entries_eq, ← whole, List.flatMap_append]
  exact List.prefix_append _ _

/-- The entries for a seed are regular whatever the amount and the moment are. At every other
granularity and moment they are the same but for their buckets, and more users only add entries
behind them. -/
theorem entries_reproducible (g : Granularity) (amount : Amount) (seed nowMillis : Int) :
    IsRegular amount g nowMillis (entries g amount seed nowMillis) ∧
      (∀ g' nowMillis',
        List.Forall₂ Alike (entries g amount seed nowMillis) (entries g' amount seed nowMillis')) ∧
      ∀ users, amount.users ≤ users →
        entries g amount seed nowMillis <+: entries g { amount with users } seed nowMillis :=
  ⟨entries_isRegular g amount seed nowMillis,
    fun g' nowMillis' => entries_alike g g' amount seed nowMillis nowMillis',
    fun _ more => entries_prefix g more seed nowMillis⟩

/-- The three entries of a user in the last hours before the epoch come before those of a second
one. -/
theorem entries_reproducible_second :
    (entries .hourly ⟨1, 3, 4⟩ 7 (-1)).length = 3 ∧
      entries .hourly ⟨1, 3, 4⟩ 7 (-1) <+: entries .hourly ⟨2, 3, 4⟩ 7 (-1) := by
  obtain ⟨regular, -, more⟩ := entries_reproducible .hourly ⟨1, 3, 4⟩ 7 (-1)
  exact ⟨Int.ofNat.inj regular.count, more 2 (by decide)⟩

end Generator

end BucketStore
