import BucketStore.Pool.Pool
import BucketStore.Pool.Retry
import BucketStore.Configuration.Properties
import BucketStore.Configuration.Settings

/-!
Managers own one open pool, or nothing. Which of the two is decided when a manager is made: without
a usable configuration, or if the database cannot be reached, it stays disabled for good.
-/

namespace BucketStore

inductive Manager where
  | disabled
  | enabled (pool : Pool.Id) (settings : DatabaseSettings)

namespace Manager

variable {σ : Type}

def isEnabled : Manager → Bool
  | .disabled => false
  | .enabled _ _ => true

def settings? : Manager → Option DatabaseSettings
  | .disabled => none
  | .enabled _ settings => some settings

/-- Settings out of a configuration source. A source that is missing, empty or flawed has none. -/
def readSource (source : Option (List (String × Value))) : Action σ (Option DatabaseSettings) := do
  let warn (message : String) (details : List (String × Value)) : Action σ Unit :=
    Action.log { level := .warning, logger := .configuration, message, details }
  match source.getD [] with
  | [] =>
    warn "No DB configuration found. Separate DB storage disabled." []
    return none
  | fields =>
    match DatabaseSettings.check fields with
    | .valid settings => return some settings
    | .flawed issues =>
      warn "Invalid DB configuration. Separate DB storage disabled."
        [("errors", .int issues.length)]
      return none

/-- The entries of a properties file; one that cannot be read is reported and has none. A path
that no file can have is a fault. -/
def readProperties (path : String) (file : Properties.File) : Action σ Properties.Entries := do
  match Properties.load file with
  | .ok entries => return entries
  | .error .tooLong => Action.fail (.pathTooLong (Text.quoted (Path.normal path)))
  | .error failure =>
    Action.log
      { level := .warning, logger := .configuration,
        message := "Not able to read " ++ Path.normal path
          ++ ". Separate DB storage disabled.",
        details := [("error_type", .text failure.name)] }
    return []

/-- Create a pool and open it. If that fails the pool is closed again. -/
def openPoolOnce [Surroundings σ] (s : DatabaseSettings) : Action σ Pool.Id := do
  let conninfo ← Action.ofExcept s.conninfo
  let pool ← Pool.create conninfo s
  match ← Action.attempt (Pool.open_ pool s.timeout) with
  | .ok () => return pool
  | .error fault =>
    Pool.close pool
    throw fault

/-- Try to open a pool, again after a fault of the connection as long as attempts are left. The
pause is worked out before attempts are counted. -/
def openPool [Surroundings σ] (s : DatabaseSettings) (retry : Retry) (made : Nat) :
    Nat → Action σ Pool.Id
  | 0 => openPoolOnce s
  | left + 1 => do
    match ← Action.attempt (openPoolOnce s) with
    | .ok pool => return pool
    | .error fault =>
      if fault.isOperational then
        let pause ← Action.ofProblem (retry.pauseAfter (made + 1))
        if ← Action.ofProblem (retry.isSpent (made + 1)) then throw fault
        Action.record (.sleep pause)
        openPool s retry (made + 1) left
      else throw fault

/-- Make a manager. No error of the configuration or the database reaches the caller. -/
def make [Surroundings σ] (source : Option (List (String × Value))) (retry : Retry) :
    Action σ Manager := do
  match ← readSource source with
  | none => return .disabled
  | some settings =>
    let inform (message : String) (details : List (String × Value)) : Action σ Unit :=
      Action.log { level := .info, logger := .pool, message, details }
    inform ("DB url : " ++ settings.url) []
    inform ("DB user : " ++ settings.user.getD "None") []
    inform "Connecting to DB..." []
    match ← Action.attempt (openPool settings retry 0 (max 1 retry.limit)) with
    | .ok pool =>
      inform "Connected to database successfully." [("pool_size", .int settings.poolSize)]
      return .enabled pool settings
    | .error fault =>
      if fault.isError then
        Action.log
          { level := .error, logger := .pool, message := "Not able connect to DB. Skipping.",
            details := [("error_type", .text fault.name)], fault := some fault }
        return .disabled
      else throw fault

/-- Make a manager from the properties file that the settings name. -/
def ofSettings [Surroundings σ] (settings : Settings) (file : String → Properties.File) :
    Action σ Manager := do
  let path := settings.propertiesFile
  let entries ← readProperties path (file (Path.normal path))
  make (some (entries.map fun (key, value) => (key, .text value)))
    { attempts := .int settings.connectAttempts, backoff := .float settings.connectBackoff }

/-- What is told of a fault of the pool: a closed and an exhausted pool have words of their own. -/
def refusal (settings : DatabaseSettings) (fault : Fault) : Fault :=
  match fault with
  | .driver .poolClosed _ =>
    .store .connectionUnavailable "Connection pool is closed." (some fault)
  | .driver .poolTimeout _ =>
    .store .poolExhausted
      ("No connection available after " ++ conciseText settings.timeout ++ "s (pool size "
        ++ intText settings.poolSize ++ ").") (some fault)
  | _ => fault

def acquire [Surroundings σ] : Manager → Action σ Nat
  | .disabled =>
    throw (.store .storageDisabled "Separate DB storage is disabled." none)
  | .enabled pool settings => do
    match ← Action.attempt (Pool.take pool settings.timeout) with
    | .ok connection => return connection
    | .error fault => throw (refusal settings fault)

/-- End the use of a connection: roll back if it ends by a fault, and give it back in any case. -/
def leave [Surroundings σ] (m : Manager) (connection : Nat) (faulted : Bool) : Action σ Unit :=
  match m with
  | .disabled => pure ()
  | .enabled pool _ =>
    Action.ensuring (if faulted then Connection.rollbackQuietly connection else pure ())
      (Pool.giveBack pool connection)

def withConnection [Surroundings σ] {α : Type} (m : Manager) (use : Nat → Action σ α) :
    Action σ α := do
  let connection ← m.acquire
  match ← Action.attempt (use connection) with
  | .ok a =>
    m.leave connection false
    return a
  | .error fault =>
    m.leave connection true
    throw fault

/-- Close the pool, the first time only. -/
def close [Surroundings σ] : Manager → Action σ Unit
  | .disabled => pure ()
  | .enabled pool _ => do
    let retired := ((Pool.get? pool (← get)).map (·.retired)).getD false
    if retired then pure ()
    else
      Pool.modify pool fun p => { p with retired := true }
      Pool.close pool
      Action.log { level := .info, logger := .pool, message := "DB connection pool closed." }

end Manager

end BucketStore
