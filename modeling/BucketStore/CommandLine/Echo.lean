namespace BucketStore.CommandLine

/-- Characters between the bracket and the letter of a sequence. -/
def isSteeringSign (c : Char) : Bool :=
  c.isDigit || c == ';' || c == '?'

/-- What follows a sequence whose escape and bracket have been read, if it is one. -/
def afterSequence? (cs : List Char) : Option (List Char) :=
  match cs.dropWhile isSteeringSign with
  | c :: rest => if c.isAlpha then some rest else none
  | [] => none

private theorem length_afterSequence?_lt {cs rest : List Char} (h : afterSequence? cs = some rest) :
    rest.length < cs.length := by
  unfold afterSequence? at h
  split at h
  · next c more found =>
    have shorter := (List.dropWhile_sublist isSteeringSign : (cs.dropWhile _).Sublist cs).length_le
    rw [found, List.length_cons] at shorter
    split at h
    · obtain rfl := Option.some.inj h
      omega
    · cases h
  · cases h

/-- A text without the sequences in it. -/
def withoutSequences (cs : List Char) : List Char :=
  match cs with
  | [] => []
  | '\x1b' :: '[' :: body =>
    match h : afterSequence? body with
    | some rest =>
      have := length_afterSequence?_lt h
      withoutSequences rest
    | none => '\x1b' :: withoutSequences ('[' :: body)
  | c :: rest => c :: withoutSequences rest
termination_by cs.length
decreasing_by all_goals simp_all; try omega

def told (s : String) : String :=
  String.ofList (withoutSequences s.toList)

end BucketStore.CommandLine
