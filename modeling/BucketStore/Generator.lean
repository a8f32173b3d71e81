import BucketStore.Bucket.Key
import BucketStore.Bucket.Tally
import BucketStore.Entries
import BucketStore.Random.Draw

namespace BucketStore.Generator

/-- How much to generate. Numbers below zero count as zero. -/
structure Amount where
  users : Int
  /-- Buckets of each user. -/
  buckets : Int
  /-- Samples in each bucket. -/
  samples : Int

/-- The metric of a user, without its bucket. -/
structure Metric where
  username : String
  dashboard : Nat
  pin : Fin 256
  pinKind : PinKind

def Metric.key (m : Metric) (bucket : Int) : BucketKey :=
  ⟨m.username, m.dashboard, m.pin, m.pinKind, bucket⟩

def userName (i : Nat) : String :=
  "user" ++ intText i ++ "@example.com"

def drawMetric (user : Nat) : Draw Metric := do
  let dashboard ← Draw.between 1 1000
  let pin ← Draw.below 128
  let kind ← Draw.below PinKind.all.length
  return ⟨userName user, dashboard, Fin.ofNat 256 pin, (PinKind.all[kind]?).getD .digital⟩

def drawSample : Draw Float := do
  return 0.0 + 100.0 * (← Draw.fraction)

def drawTally (samples : Nat) : Draw Tally := do
  let samples ← Draw.times drawSample samples
  return samples.foldl (fun t f => ⟨t.sum + f, t.count + 1⟩) {}

/-- Draw some buckets of a metric, from the latest one back. -/
def drawBuckets (m : Metric) (last : Int) (samples : Nat) : Nat → Draw (List (BucketKey × Tally))
  | 0 => pure []
  | count + 1 => do
    let tally ← drawTally samples
    return (m.key last, tally) :: (← drawBuckets m (last - 1) samples count)

/-- Draw the entries of some users, the first of which has the number `user`. -/
def drawUsers (last : Int) (buckets samples user : Nat) : Nat → Draw (List (BucketKey × Tally))
  | 0 => pure []
  | count + 1 => do
    let metric ← drawMetric user
    let entries ← drawBuckets metric last samples buckets
    return entries ++ (← drawUsers last buckets samples (user + 1) count)

/-- The entries for a seed, one for each key. -/
def entries (g : Granularity) (amount : Amount) (seed nowMillis : Int) :
    List (BucketKey × Tally) :=
  let last := BucketKey.bucketOf g nowMillis
  mergeEntries (drawUsers last amount.buckets.toNat amount.samples.toNat 0 amount.users.toNat
    (Twister.ofSeed seed)).1

end BucketStore.Generator
