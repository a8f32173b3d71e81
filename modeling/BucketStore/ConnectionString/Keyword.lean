import BucketStore.ConnectionString.Parameter
import BucketStore.Text.Blank

namespace BucketStore.ConnectionString.Keyword

/-- A value without quotes ends at a blank. -/
def bareValue : List Char → List Char × List Char
  | [] => ([], [])
  | '\\' :: [] => ([], [])
  | '\\' :: c :: rest =>
    let (value, after) := bareValue rest
    (c :: value, after)
  | c :: rest =>
    if Text.isLayout c then ([], rest)
    else
      let (value, after) := bareValue rest
      (c :: value, after)

def quotedValue? : List Char → Option (List Char × List Char)
  | [] => none
  | '\\' :: [] => none
  | '\\' :: c :: rest => (quotedValue? rest).map fun (value, after) => (c :: value, after)
  | '\x27' :: rest => some ([], rest)
  | c :: rest => (quotedValue? rest).map fun (value, after) => (c :: value, after)

private theorem length_bareValue_le (cs : List Char) : (bareValue cs).2.length ≤ cs.length := by
  fun_induction bareValue cs <;> simp_all <;> omega

private theorem length_quotedValue?_lt {cs : List Char} {result : List Char × List Char}
    (h : quotedValue? cs = some result) : result.2.length < cs.length := by
  fun_induction quotedValue? cs generalizing result with
  | case1 => simp at h
  | case2 => simp at h
  | case3 c rest ih =>
    obtain ⟨p, found, rfl⟩ := Option.map_eq_some_iff.mp h
    have := ih found
    simp only [List.length_cons]
    omega
  | case4 rest =>
    obtain rfl := Option.some.inj h
    simp
  | case5 c rest _ _ _ ih =>
    obtain ⟨p, found, rfl⟩ := Option.map_eq_some_iff.mp h
    have := ih found
    simp only [List.length_cons]
    omega

/-- One pair, and the rest of the text, which is shorter. -/
structure Pair (cs : List Char) where
  name : List Char
  value : List Char
  rest : List Char
  shorter : rest.length < cs.length

def value? (cs : List Char) :
    Except Refusal { p : List Char × List Char // p.2.length ≤ cs.length } :=
  match h : cs.dropWhile Text.isLayout with
  | '\x27' :: body =>
    match found : quotedValue? body with
    | none => .error .unterminatedQuote
    | some p => .ok ⟨p, by
        have a := length_quotedValue?_lt found
        have b := (List.dropWhile_sublist (Text.isLayout) : (cs.dropWhile _).Sublist cs).length_le
        rw [h, List.length_cons] at b
        omega⟩
  | body => .ok ⟨bareValue body, by
      have a := length_bareValue_le body
      have b := (List.dropWhile_sublist (Text.isLayout) : (cs.dropWhile _).Sublist cs).length_le
      rw [h] at b
      omega⟩

def endsName (c : Char) : Bool :=
  c == '=' || Text.isLayout c

def pair? (cs : List Char) : Except Refusal (Pair cs) :=
  let name := cs.takeWhile (!endsName ·)
  let afterName := cs.dropWhile (!endsName ·)
  match h : afterName.dropWhile Text.isLayout with
  | '=' :: more => do
    let ⟨p, le⟩ ← value? more
    return ⟨name, p.1, p.2, by
      have a := (List.dropWhile_sublist (Text.isLayout) :
        (afterName.dropWhile _).Sublist afterName).length_le
      have b := (List.dropWhile_sublist (!endsName ·) : (cs.dropWhile _).Sublist cs).length_le
      rw [h, List.length_cons] at a
      change afterName.length ≤ cs.length at b
      omega⟩
  | _ => .error (.missingEquals (String.ofList name))

def readPairs (ps : Parameters) (cs : List Char) : Except Refusal Parameters :=
  match h : cs.dropWhile Text.isLayout with
  | [] => .ok ps
  | c :: rest =>
    have _le : (c :: rest).length ≤ cs.length :=
      h ▸ (List.dropWhile_sublist Text.isLayout).length_le
    match pair? (c :: rest) with
    | .error refusal => .error refusal
    | .ok p =>
      let name := String.ofList p.name
      match ps.store? name (.text (String.ofList p.value)) with
      | none => .error (.unknownOption name)
      | some next => readPairs next p.rest
termination_by cs.length
decreasing_by
  exact Nat.lt_of_lt_of_le p.shorter _le

def read (s : String) : Except Refusal Parameters :=
  readPairs {} s.toList

def escapedChar (c : Char) : List Char :=
  if c == '\\' || c == '\x27' then ['\\', c] else [c]

/-- The written form of a value: quoted if it is empty or holds blanks. -/
def writtenValue (s : String) : List Char :=
  let body := s.toList.flatMap escapedChar
  if s.isEmpty || s.toList.any Text.isBlank then '\x27' :: body ++ ['\x27'] else body

/-- The pairs of a connection string, one blank between them. -/
def write (pairs : List (String × String)) : String :=
  " ".intercalate (pairs.map fun (name, value) =>
    name ++ "=" ++ String.ofList (writtenValue value))

end BucketStore.ConnectionString.Keyword
