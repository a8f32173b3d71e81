import BucketStore.Value
import BucketStore.Fault

namespace BucketStore

inductive LogLevel where
  | debug
  | info
  | warning
  | error
deriving Repr, DecidableEq

def LogLevel.name : LogLevel → String
  | .debug => "DEBUG"
  | .info => "INFO"
  | .warning => "WARNING"
  | .error => "ERROR"

inductive Logger where
  | configuration
  | pool
  | store
deriving Repr, DecidableEq

def Logger.name : Logger → String
  | .configuration => "reportstore.config"
  | .pool => "reportstore.infrastructure.pool"
  | .store => "reportstore.store"

structure LogEntry where
  level : LogLevel
  logger : Logger
  message : String
  details : List (String × Value) := []
  /-- The fault that is logged with its history. -/
  fault : Option Fault := none

end BucketStore
