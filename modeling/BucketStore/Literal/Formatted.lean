import BucketStore.Literal.Escape

namespace BucketStore.Literal

/-- The characters of a formatted text up to its next part or its end. -/
structure LiteralText where
  /-- The characters, latest first. -/
  gathered : List Char
  rest : List Char
  /-- A doubled brace has been read, and more literal text may follow. -/
  goesOn : Bool

/-- Read literal text. At the outermost level a brace has to be doubled, unless it opens a part.
`isInName` says that the braces of an escape by name are open. -/
def readLiteral (isRaw isOutermost isInName : Bool) (gathered : List Char) :
    List Char → Except Defect LiteralText
  | [] => .ok ⟨gathered, [], false⟩
  | c :: rest =>
    if isInName then readLiteral isRaw isOutermost (c != '}') (c :: gathered) rest
    else if c == '\\' && !isRaw then
      match rest with
      | 'N' :: opening :: rest =>
        readLiteral isRaw isOutermost (opening == '{') (opening :: 'N' :: c :: gathered) rest
      | escaped :: behind =>
        if escaped == '{' || escaped == '}' then
          readLiteral isRaw isOutermost false (c :: gathered) (escaped :: behind)
        else readLiteral isRaw isOutermost false (escaped :: c :: gathered) behind
      | [] => .ok ⟨c :: gathered, [], false⟩
    else if c == '{' || c == '}' then
      if !isOutermost then .ok ⟨gathered, c :: rest, false⟩
      else if rest.head? == some c then .ok ⟨c :: gathered, rest.drop 1, true⟩
      else if c == '}' then .error .strayBrace
      else .ok ⟨gathered, c :: rest, false⟩
    else readLiteral isRaw isOutermost false (c :: gathered) rest

/-- Signs that end an expression outside brackets. -/
def endsPart (c : Char) : Bool :=
  c == '!' || c == ':' || c == '}' || c == '='

/-- Signs that an equals sign may follow within an expression. -/
def takesEquals (c : Char) : Bool :=
  c == '!' || c == '=' || c == '<' || c == '>'

/-- The rest from the sign that ends an expression on. `openings` are the brackets that are open,
`text?` is the quote of the text that is, and whether it is a long one. -/
def partRest (openings : List Char) (text? : Option (Char × Bool)) :
    List Char → Except Defect (List Char)
  | [] =>
    if text?.isSome then .error .openTextInPart
    else match openings with
      | opening :: _ => .error (.unmatchedInPart opening)
      | [] => .ok []
  | c :: rest =>
    if c == '\\' then .error .backslashInPart
    else match text? with
      | some (quote, isLong) =>
        if c != quote then partRest openings text? rest
        else if isLong then
          match rest with
          | a :: b :: behind =>
            if a == c && b == c then partRest openings none behind
            else partRest openings text? (a :: b :: behind)
          | rest => partRest openings text? rest
        else partRest openings none rest
      | none =>
        if isQuote c then
          match rest with
          | a :: b :: behind =>
            if a == c && b == c then partRest openings (some (c, true)) behind
            else partRest openings (some (c, false)) (a :: b :: behind)
          | rest => partRest openings (some (c, false)) rest
        else if (closingOf? c).isSome then
          if openings.length ≥ Scan.mostOpenings then .error .bracketsTooDeepInPart
          else partRest (c :: openings) none rest
        else if c == '#' then .error .commentInPart
        else if openings.isEmpty && (endsPart c || takesEquals c) then
          match rest with
          | '=' :: behind =>
            if takesEquals c then partRest openings none behind else .ok (c :: rest)
          | rest => if endsPart c then .ok (c :: rest) else partRest openings none rest
        else if isClosing c then
          match openings with
          | [] => .error (.unmatchedInPart c)
          | opening :: outer =>
            if closingOf? opening == some c then partRest outer none rest
            else .error (.mismatchedInPart c opening)
        else partRest openings none rest

/-- A part consists of more than blanks. -/
def emptyPart? (sign : Char) (part : List Char) : Option Defect :=
  if part.all fun c => isLineBlank c || c == '\n' then
    some (.emptyPart (if sign == '}' then none else some sign))
  else none

/-- The rest behind an equals sign, which shows an expression beside its value. -/
def behindEquals : List Char → Except Defect (List Char)
  | '=' :: rest =>
    match rest.dropWhile fun c => c == ' ' || (9 ≤ c.toNat && c.toNat ≤ 13) with
    | [] => .error .openPart
    | rest => .ok rest
  | rest => .ok rest

def behindConversion : List Char → Except Defect (List Char)
  | '!' :: c :: rest =>
    if c == 's' || c == 'r' || c == 'a' then .ok rest else .error .conversionOfPart
  | '!' :: [] => .error .openPart
  | rest => .ok rest

/-- The rest of a formatted text behind its literal texts and parts: nothing at the outermost
level, the closing brace and what follows it within a format. Each step takes a character, so the
length of the text bounds them. -/
def formattedRest (partDefect? : List Char → Option Defect) (isRaw : Bool) :
    Nat → Nat → List Char → Except Defect (List Char)
  | 0, _, _ => .ok []
  | fuel + 1, level, cs => do
    let literal ← readLiteral isRaw (level = 0) false [] cs
    match if isRaw then none else escapeDefect? 0 literal.gathered.reverse with
    | some defect => throw defect
    | none => pure ()
    match literal.goesOn, literal.rest with
    | true, rest => formattedRest partDefect? isRaw fuel level rest
    | false, '{' :: rest =>
      if level ≥ 2 then throw .partsTooDeep
      let stop ← partRest [] none rest
      match stop with
      | [] => throw .openPart
      | sign :: _ =>
        let part := before rest stop
        match emptyPart? sign part <|> partDefect? part with
        | some defect => throw defect
        | none => pure ()
      let behind ← behindConversion (← behindEquals stop)
      let behind ← match behind with
        | ':' :: spec =>
          if spec.isEmpty then throw .openPart
          else formattedRest partDefect? isRaw fuel (level + 1) spec
        | behind => pure behind
      match behind with
      | '}' :: behind => formattedRest partDefect? isRaw fuel level behind
      | _ => throw .openPart
    | false, rest => return rest

namespace Quotation

/-- What is wrong with the contents of a text, if its parts are judged. -/
def defect? (partDefect? : List Char → Option Defect) (q : Quotation) : Option Defect :=
  if q.isFormatted then
    match formattedRest partDefect? q.isRaw (q.body.length + 1) 0 q.body with
    | .ok _ => none
    | .error defect => some defect
  else if q.isBinary then
    if q.body.any (·.toNat ≥ 128) then some .wideByte
    else if q.isRaw then none
    else byteDefect? 0 q.body
  else if q.isRaw then none
  else escapeDefect? 0 q.body

/-- The first defect of texts in a row, which are all binary or none of them. Parts are judged
after that. -/
def rowDefect? (partDefect? : List Char → Option Defect) (isBinary? : Option Bool) :
    List Quotation → Option Defect
  | [] => none
  | q :: rest =>
    let isMixed := isBinary?.getD q.isBinary != q.isBinary
    (if q.isFormatted && isMixed then some .mixedTexts
      else q.defect? partDefect? <|> if isMixed then some .mixedTexts else none)
      <|> rowDefect? partDefect? (some q.isBinary) rest

end Quotation

end BucketStore.Literal
