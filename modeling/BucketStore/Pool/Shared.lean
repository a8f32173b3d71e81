import BucketStore.Pool.Manager

/-!
The manager that all users of a process share. Settings and manager are made when they are first
asked for, and then kept, also once the manager is closed; a failure is not kept.
-/

namespace BucketStore

structure Shared where
  settings? : Option Settings := none
  manager? : Option Manager := none

namespace Shared

variable {σ : Type}

/-- The settings, read now if they have not been read before. -/
def settings (s : Shared) (sources : Settings.Sources) : Except Fault Settings :=
  match s.settings? with
  | some settings => .ok settings
  | none => Settings.read sources

/-- The manager, made now if it has not been made before, and what is kept from now on. -/
def manager [Surroundings σ] (s : Shared) (sources : Settings.Sources)
    (file : String → Properties.File) : Action σ (Except Fault Manager × Shared) :=
  match s.manager? with
  | some m => return (.ok m, s)
  | none =>
    match s.settings sources with
    | .error fault => return (.error fault, s)
    | .ok settings => do
      let s : Shared := { s with settings? := some settings }
      match ← Action.attempt (Manager.ofSettings settings file) with
      | .ok m => return (.ok m, { s with manager? := some m })
      | .error fault => return (.error fault, s)

end Shared

end BucketStore
