import BucketStore.CommandLine.Program
import BucketStore.Generator
import BucketStore.Store.Store

namespace BucketStore.CommandLine

structure Generation where
  amount : Generator.Amount
  seed : Int

namespace Generation

def usage : String :=
  "Usage: bucketstore generate [-u USERS] [-b BUCKETS] [--samples SAMPLES] [--seed SEED]\n"

def usersOption : OptionNames := { long := "--users", letter? := some 'u' }

def bucketsOption : OptionNames := { long := "--buckets", letter? := some 'b' }

def samplesOption : OptionNames := { long := "--samples" }

def seedOption : OptionNames := { long := "--seed" }

def read (args : List String) : Order Generation :=
  readOrder [usersOption, bucketsOption, samplesOption, seedOption] args fun a => do
    let users ← intOption a usersOption.long 10
    let buckets ← intOption a bucketsOption.long 60
    let samples ← intOption a samplesOption.long 5
    let seed ← intOption a seedOption.long 42
    noPlain a
    return ⟨⟨users, buckets, samples⟩, seed⟩

def batchLine (g : Granularity) (r : BatchResult) : String :=
  let error := if r.showsError then " (error: " ++ r.error.getD "" ++ ")" else ""
  g.title ++ ": " ++ groupedIntText r.rows ++ " rows in " ++ placesText 2 r.seconds ++ "s"
    ++ error ++ "\n"

variable {σ : Type} [Surroundings σ]

def store (host : Host) (m : Manager) (order : Generation) (nowMillis : Int) (g : Granularity) :
    Action σ Unit := do
  let entries := Generator.entries g order.amount order.seed nowMillis
  let averaged := entries.map fun (key, tally) => (key, Averaged.tally tally)
  let result ← Store.insertAverages m averaged g .tolerant
  host.say (batchLine g result)

def perform (host : Host) (order : Generation) : Action σ Nat := do
  let (_, m) ← host.connect
  if !m.isEnabled then
    host.complain "DB storage is disabled (no usable db.properties); nothing to do."
    return 1
  let nowMillis := (Surroundings.now (← get).surroundings).epochMillis
  let started ← Action.ask Surroundings.tick
  Action.ensuring (Granularity.all.forM (store host m order nowMillis)) m.close
  let ended ← Action.ask Surroundings.tick
  host.say ("Total time " ++ placesText 2 (ended - started) ++ "s\n")
  return 0

end Generation

def generate {σ : Type} [Surroundings σ] (host : Host) (args : List String) : Action σ Nat :=
  obey Generation.usage (Generation.read args) (Generation.perform host)

end BucketStore.CommandLine
