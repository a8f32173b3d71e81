import BucketStore.Text.Case
import BucketStore.Value.Number

namespace BucketStore.Console

/-- What a style may set besides colours and a link. -/
inductive Feature where
  | bold | dim | italic | underline | blink | blink2 | reverse | conceal | strike
  | underline2 | frame | encircle | overline
deriving Repr, DecidableEq

namespace Feature

def all : List Feature :=
  [.bold, .dim, .italic, .underline, .blink, .blink2, .reverse, .conceal, .strike,
    .underline2, .frame, .encircle, .overline]

theorem mem_all (a : Feature) : a ∈ all := by
  cases a <;> decide

def name : Feature → String
  | .bold => "bold"
  | .dim => "dim"
  | .italic => "italic"
  | .underline => "underline"
  | .blink => "blink"
  | .blink2 => "blink2"
  | .reverse => "reverse"
  | .conceal => "conceal"
  | .strike => "strike"
  | .underline2 => "underline2"
  | .frame => "frame"
  | .encircle => "encircle"
  | .overline => "overline"

def shortName? : Feature → Option String
  | .bold => some "b"
  | .dim => some "d"
  | .italic => some "i"
  | .underline => some "u"
  | .reverse => some "r"
  | .conceal => some "c"
  | .strike => some "s"
  | .underline2 => some "uu"
  | .overline => some "o"
  | _ => none

def ofName? (word : String) : Option Feature :=
  all.find? fun a => a.name == word || a.shortName? == some word

end Feature

def colourNames : List (List Char) := Text.words "
    black red green yellow blue magenta cyan white bright_black bright_red bright_green
    bright_yellow bright_blue bright_magenta bright_cyan bright_white grey0 gray0 navy_blue
    dark_blue blue3 blue1 dark_green deep_sky_blue4 dodger_blue3 dodger_blue2 green4 spring_green4
    turquoise4 deep_sky_blue3 dodger_blue1 green3 spring_green3 dark_cyan light_sea_green
    deep_sky_blue2 deep_sky_blue1 spring_green2 cyan3 dark_turquoise turquoise2 green1
    spring_green1 medium_spring_green cyan2 cyan1 dark_red deep_pink4 purple4 purple3 blue_violet
    orange4 grey37 gray37 medium_purple4 slate_blue3 royal_blue1 chartreuse4 dark_sea_green4
    pale_turquoise4 steel_blue steel_blue3 cornflower_blue chartreuse3 cadet_blue sky_blue3
    steel_blue1 pale_green3 sea_green3 aquamarine3 medium_turquoise chartreuse2 sea_green2
    sea_green1 aquamarine1 dark_slate_gray2 dark_magenta dark_violet purple light_pink4 plum4
    medium_purple3 slate_blue1 yellow4 wheat4 grey53 gray53 light_slate_grey light_slate_gray
    medium_purple light_slate_blue dark_olive_green3 dark_sea_green light_sky_blue3 sky_blue2
    dark_sea_green3 dark_slate_gray3 sky_blue1 chartreuse1 light_green pale_green1
    dark_slate_gray1 red3 medium_violet_red magenta3 dark_orange3 indian_red hot_pink3
    medium_orchid3 medium_orchid medium_purple2 dark_goldenrod light_salmon3 rosy_brown grey63
    gray63 medium_purple1 gold3 dark_khaki navajo_white3 grey69 gray69 light_steel_blue3
    light_steel_blue yellow3 dark_sea_green2 light_cyan3 light_sky_blue1 green_yellow
    dark_olive_green2 dark_sea_green1 pale_turquoise1 deep_pink3 magenta2 hot_pink2 orchid
    medium_orchid1 orange3 light_pink3 pink3 plum3 violet light_goldenrod3 tan misty_rose3
    thistle3 plum2 khaki3 light_goldenrod2 light_yellow3 grey84 gray84 light_steel_blue1 yellow2
    dark_olive_green1 honeydew2 light_cyan1 red1 deep_pink2 deep_pink1 magenta1 orange_red1
    indian_red1 hot_pink dark_orange salmon1 light_coral pale_violet_red1 orchid2 orchid1 orange1
    sandy_brown light_salmon1 light_pink1 pink1 plum1 gold1 navajo_white1 misty_rose1 thistle1
    yellow1 light_goldenrod1 khaki1 wheat1 cornsilk1 grey100 gray100 grey3 gray3 grey7 gray7
    grey11 gray11 grey15 gray15 grey19 gray19 grey23 gray23 grey27 gray27 grey30 gray30 grey35
    gray35 grey39 gray39 grey42 gray42 grey46 gray46 grey50 gray50 grey54 gray54 grey58 gray58
    grey62 gray62 grey66 gray66 grey70 gray70 grey74 gray74 grey78 gray78 grey82 gray82 grey85
    gray85 grey89 gray89 grey93 gray93
"

def isColourNumber (cs : List Char) : Bool :=
  1 ≤ cs.length && cs.length ≤ 3 && cs.all isAsciiDigit && digitsValue cs ≤ 255

def argument? (opening : String) (cs : List Char) : Option (List Char) :=
  let opening := opening.toList
  if opening.isPrefixOf cs && cs.getLast? == some ')' then
    some ((cs.drop opening.length).dropLast)
  else none

def isComponentChar (c : Char) : Bool :=
  c == ',' || (Text.digit? c).isSome || Text.isBlank c

def component (cs : List Char) : Except Problem Int :=
  (Value.text (String.ofList cs)).toInt

/-- Whether three numbers up to 255, between commas, make a colour. -/
def areComponents (cs : List Char) : Except Problem Bool :=
  if cs.isEmpty || !cs.all isComponentChar then .ok false
  else match cs.splitOn ',' with
    | [red, green, blue] => do
      let red ← component red
      let green ← component green
      let blue ← component blue
      return red ≤ 255 && green ≤ 255 && blue ≤ 255
    | _ => .ok false

/-- Whether a word in lower case is a colour: a name, six hexadecimal digits, a number or three
components. -/
def isColour (word : List Char) : Except Problem Bool :=
  match argument? "rgb(" word with
  | some components => areComponents components
  | none => .ok <|
    word == "default".toList || colourNames.contains word
      || (match word with
        | '#' :: digits => digits.length == 6 && digits.all (fun c => (Text.hexDigit? c).isSome)
        | _ => false)
      || ((argument? "color(" word).any isColourNumber)

structure Style where
  /-- Features switched on or off. -/
  features : List (Feature × Bool) := []
  colour : Option (List Char) := none
  background : Option (List Char) := none
  link : Option (List Char) := none

inductive StyleReading (α : Type) where
  | style (a : α)
  /-- Words that make no style; they are passed over. -/
  | unknown
  /-- A word that cannot even be judged. -/
  | flawed (p : Problem)

namespace StyleReading

variable {α β : Type}

def bind (a : StyleReading α) (f : α → StyleReading β) : StyleReading β :=
  match a with
  | .style a => f a
  | .unknown => .unknown
  | .flawed p => .flawed p

/-- A style, if a word is a colour. -/
def ifColour (word : List Char) (a : α) : StyleReading α :=
  match isColour word with
  | .ok true => .style a
  | .ok false => .unknown
  | .error p => .flawed p

def ofOption : Option α → StyleReading α
  | some a => .style a
  | none => .unknown

end StyleReading

namespace Style

/-- What a word announces about the next one. -/
inductive Expected where
  | any
  | background
  | negated
  | link

def add (s : Style) (expected : Expected) (word : List Char) : StyleReading (Style × Expected) :=
  match expected with
  | .background =>
    let word := Text.lower word
    .ifColour word (⟨s.features, s.colour, word, s.link⟩, .any)
  | .negated =>
    .ofOption <| (Feature.ofName? (String.ofList word)).map fun a =>
      (⟨(a, false) :: s.features, s.colour, s.background, s.link⟩, .any)
  | .link => .style (⟨s.features, s.colour, s.background, word⟩, .any)
  | .any =>
    let word := Text.lower word
    if word == "on".toList then .style (s, .background)
    else if word == "not".toList then .style (s, .negated)
    else if word == "link".toList then .style (s, .link)
    else match Feature.ofName? (String.ofList word) with
      | some a => .style (⟨(a, true) :: s.features, s.colour, s.background, s.link⟩, .any)
      | none => .ifColour word (⟨s.features, word, s.background, s.link⟩, .any)

/-- Read the words of a definition; one that announces a word must not be the last. -/
def addAll (s : Style) (expected : Expected) : List (List Char) → StyleReading Style
  | [] => match expected with
    | .any => .style s
    | _ => .unknown
  | word :: rest => (s.add expected word).bind fun (s, expected) => addAll s expected rest

/-- The words of the normal form: features in their order, then colours and link. -/
def normalWords (s : Style) : List (List Char) :=
  (Feature.all.flatMap fun a => match s.features.find? (·.1 == a) with
    | some (_, true) => [a.name.toList]
    | some (_, false) => ["not".toList, a.name.toList]
    | none => [])
    ++ s.colour.toList
    ++ (s.background.map fun c => ["on".toList, c]).getD []
    ++ (s.link.map fun l => ["link".toList, l]).getD []

def blankWords (cs : List Char) : List (List Char) :=
  (cs.splitOnP Text.isBlank).filter (!·.isEmpty)

/-- Read a definition; the word for no style must stand alone. -/
def read (cs : List Char) : StyleReading Style :=
  if Text.trim Text.isBlank cs == "none".toList then .style {} else addAll {} .any (blankWords cs)

end Style

/-- The normal form of a definition. One that is no style is only trimmed and put in lower case. -/
def normalForm (cs : List Char) : Except Problem (List Char) :=
  match Style.read cs with
  | .style style =>
    let words := style.normalWords
    .ok (if words.isEmpty then "none".toList else [' '].intercalate words)
  | .unknown => .ok (Text.lower (Text.trim Text.isBlank cs))
  | .flawed p => .error p

/-- The problem of a definition, which shows once it is used. -/
def definitionFlaw? (cs : List Char) : Option Problem :=
  match Style.read cs with
  | .flawed p => some p
  | _ => none

end BucketStore.Console
