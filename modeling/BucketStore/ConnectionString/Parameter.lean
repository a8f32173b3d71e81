import BucketStore.Text.Utf8

namespace BucketStore.ConnectionString

inductive Refusal where
  | missingEquals (name : String)
  | unterminatedQuote
  | unknownOption (name : String)
  | unclosedBracket (uri : String)
  | emptyAddress (uri : String)
  | unexpectedCharacter (shown : Char) (position : Nat) (uri : String)
  | extraSeparator (name : String)
  | missingSeparator (name : String)
  | unknownParameter (name : String)
  | malformedPercent (token : String)
  | forbiddenZero (token : String)
  | spacesInside (token : String)
deriving Repr, DecidableEq

namespace Refusal

def explanation : Refusal → String
  | .missingEquals name => "missing \"=\" after \"" ++ name ++ "\" in connection info string"
  | .unterminatedQuote => "unterminated quoted string in connection info string"
  | .unknownOption name => "invalid connection option \"" ++ name ++ "\""
  | .unclosedBracket uri =>
    "end of string reached when looking for matching \"]\" in IPv6 host address in URI: \""
      ++ uri ++ "\""
  | .emptyAddress uri => "IPv6 host address may not be empty in URI: \"" ++ uri ++ "\""
  | .unexpectedCharacter shown position uri =>
    "unexpected character \"" ++ String.singleton shown ++ "\" at position " ++ toString position
      ++ " in URI (expected \":\" or \"/\"): \"" ++ uri ++ "\""
  | .extraSeparator name =>
    "extra key/value separator \"=\" in URI query parameter: \"" ++ name ++ "\""
  | .missingSeparator name =>
    "missing key/value separator \"=\" in URI query parameter: \"" ++ name ++ "\""
  | .unknownParameter name => "invalid URI query parameter: \"" ++ name ++ "\""
  | .malformedPercent token => "invalid percent-encoded token: \"" ++ token ++ "\""
  | .forbiddenZero token => "forbidden value %00 in percent-encoded value: \"" ++ token ++ "\""
  | .spacesInside token =>
    "unexpected spaces found in \"" ++ token ++ "\", use percent-encoded spaces (%20) instead"

def message (r : Refusal) : String :=
  r.explanation ++ "\n"

end Refusal

/-- A parameter's value: a text, or bytes without one. -/
inductive Setting where
  | text (s : String)
  | bytes (raw : List UInt8)
deriving Repr, DecidableEq

def Setting.ofBytes (raw : List UInt8) : Setting :=
  match Text.decodeUtf8 raw with
  | .ok s => .text s
  | .error _ => .bytes raw

def names : List String :=
  ["service", "user", "password", "passfile", "channel_binding",
    "connect_timeout", "dbname", "host", "hostaddr", "port", "client_encoding", "options",
    "application_name", "fallback_application_name", "keepalives", "keepalives_idle",
    "keepalives_interval", "keepalives_count", "tcp_user_timeout", "sslmode", "sslnegotiation",
    "sslcompression", "sslcert", "sslkey", "sslcertmode", "sslpassword", "sslrootcert", "sslcrl",
    "sslcrldir", "sslsni", "requirepeer", "require_auth", "min_protocol_version",
    "max_protocol_version", "ssl_min_protocol_version", "ssl_max_protocol_version", "gssencmode",
    "krbsrvname", "gsslib", "gssdelegation", "replication", "target_session_attrs",
    "load_balance_hosts", "scram_client_key", "scram_server_key", "oauth_issuer",
    "oauth_client_id", "oauth_client_secret", "oauth_scope", "sslkeylogfile"]

/-- The values given so far; a later value for a name counts. -/
structure Parameters where
  given : List (String × Setting) := []
deriving Repr

namespace Parameters

def get? (ps : Parameters) (name : String) : Option Setting :=
  (ps.given.find? (·.1 == name)).map (·.2)

def set (ps : Parameters) (name : String) (value : Setting) : Parameters :=
  ⟨(name, value) :: ps.given.filter (·.1 ≠ name)⟩

/-- Set a parameter if there is one of that name. The older switch for encryption stands for the
newer one. -/
def store? (ps : Parameters) (name : String) (value : Setting) : Option Parameters :=
  if name == "requiressl" then
    let required := match value with
      | .text s => s.toList.head? == some '1'
      | .bytes raw => raw.head? == some 49
    some (ps.set "sslmode" (.text (if required then "require" else "prefer")))
  else if names.contains name then some (ps.set name value)
  else none

def toList (ps : Parameters) : List (String × Setting) :=
  names.filterMap fun name => (ps.get? name).map (name, ·)

theorem get?_set_self (ps : Parameters) (name : String) (value : Setting) :
    (ps.set name value).get? name = some value := by
  simp [get?, set]

theorem get?_set_of_ne (ps : Parameters) {name other : String} (value : Setting)
    (h : name ≠ other) : (ps.set name value).get? other = ps.get? other := by
  have differ : (name == other) = false := by simpa using h
  simp only [get?, set, List.find?_cons, differ, List.find?_filter]
  congr 2
  funext entry
  by_cases same : entry.1 = other
  · simp [same, Ne.symm h]
  · simp [same]

end Parameters

end BucketStore.ConnectionString
