import BucketStore.Validation
import BucketStore.ConnectionString.Compose

namespace BucketStore

structure DatabaseSettings where
  url : String
  user : Option String
  password : Option String
  poolSize : Int
  /-- Seconds to wait for a connection. -/
  timeout : Float
  /-- Seconds after which a connection is too old, if there is a limit. -/
  maxLifetime : Option Float
  testQuery : String

namespace DatabaseSettings

/-- The mark in front of an address. -/
def accessMark : String := "jdbc:"

/-- Cut blanks off an address, and one mark off its front. -/
def cleanUrl (s : String) : String :=
  let cs := Text.trim Text.isBlank s.toList
  String.ofList (if accessMark.toList.isPrefixOf cs then cs.drop accessMark.length else cs)

def urlRule : Rule String := fun v => do
  let s ← Rule.nonemptyText v
  return cleanUrl s

/-- Values that stand for no limit. -/
def meansUnlimited : Value → Bool
  | .int i => i = 0
  | .bool b => !b
  | .float f => f == 0.0
  | .text s => s == "0" || s.isEmpty
  | _ => false

def lifetimeRule : Rule (Option Float) := fun v =>
  if meansUnlimited v then .ok none else Rule.optional (Rule.floatAbove 0) v

def urlField : Field String :=
  { key := "jdbc.url", alternative := "url", rule := urlRule }

def userField : Field (Option String) :=
  { key := "user", rule := Rule.optional Rule.text, default? := some none }

def passwordField : Field (Option String) :=
  { key := "password", rule := Rule.optional Rule.text, default? := some none }

def poolSizeField : Field Int :=
  { key := "pool.size", alternative := "pool_size", rule := Rule.intFrom 1, default? := some 3 }

def timeoutField : Field Float :=
  { key := "connection.timeout", alternative := "connection_timeout", rule := Rule.floatAbove 0,
    default? := some 15.0 }

def maxLifetimeField : Field (Option Float) :=
  { key := "max.lifetime", alternative := "max_lifetime", rule := lifetimeRule,
    default? := some none }

def testQueryField : Field String :=
  { key := "connection.test.query", alternative := "connection_test_query", rule := Rule.text,
    default? := some "SELECT 1" }

def check (source : List (String × Value)) : Checked DatabaseSettings :=
  let checked := (urlField.check source).both <|
    (userField.check source).both <|
    (passwordField.check source).both <|
    (poolSizeField.check source).both <|
    (timeoutField.check source).both <|
    (maxLifetimeField.check source).both <|
    testQueryField.check source
  checked.map fun (url, user, password, poolSize, timeout, maxLifetime, testQuery) =>
    ⟨url, user, password, poolSize, timeout, maxLifetime, testQuery⟩

def title : String := "DatabaseSettings"

def ofFields (fields : List (String × Value)) : Except Fault DatabaseSettings :=
  (check fields).run title

def credential (name : String) (value : Option String) : List (String × String) :=
  match value with
  | some s => if s.isEmpty then [] else [(name, s)]
  | none => []

def conninfo (s : DatabaseSettings) : Except Fault String :=
  ConnectionString.compose s.url (credential "user" s.user ++ credential "password" s.password)

end DatabaseSettings

end BucketStore
