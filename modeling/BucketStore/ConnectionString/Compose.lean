import BucketStore.ConnectionString.Keyword
import BucketStore.ConnectionString.Uri
import BucketStore.Entries
import BucketStore.Fault

/-!
Connection strings put together from a given one and credentials. Without credentials the given
string is checked and kept; otherwise its parameters are written out again with the credentials
in the place of those it has.
-/

namespace BucketStore.ConnectionString

/-- Text ends at the first NUL. -/
def untilNul (s : String) : String :=
  String.ofList (s.toList.takeWhile (· ≠ '\x00'))

def read (s : String) : Except Refusal Parameters :=
  let s := untilNul s
  match Uri.afterScheme? s.toList with
  | some body => Uri.readBody s body
  | none => Keyword.read s

def Refusal.fault (r : Refusal) : Fault :=
  .driver .programming r.message

/-- The fault of bytes that encode no text. -/
def undecodable (raw : List UInt8) : Fault :=
  match Text.decodeUtf8 raw with
  | .ok _ => .problem (.undecodable "utf-8" 0 0 "")
  | .error e =>
    if e.length = 1 then
      .problem (.undecodable "utf-8" e.first.toNat e.start e.flaw.reason)
    else .problem (.undecodableRun "utf-8" e.start (e.start + e.length - 1) e.flaw.reason)

def texts : List (String × Setting) → Except Fault (List (String × String))
  | [] => .ok []
  | (name, .text s) :: rest => do return (name, s) :: (← texts rest)
  | (_, .bytes raw) :: _ => .error (undecodable raw)

def compose (base : String) (given : List (String × String)) : Except Fault String :=
  if given.isEmpty then
    match read base with
    | .ok _ => .ok base
    | .error refusal => .error refusal.fault
  else do
    let pairs ← if base.isEmpty then pure [] else
      match read base with
      | .ok ps => texts ps.toList
      | .error refusal => .error refusal.fault
    let written := Keyword.write (putEntries pairs given)
    match read written with
    | .ok _ => .ok written
    | .error refusal => .error refusal.fault

end BucketStore.ConnectionString
