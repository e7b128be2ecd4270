import SchemaAtlas.Terminal.Error
import SchemaAtlas.Text.Case
import SchemaAtlas.Text.Pieces

/-! # Styles of marked up text

A tag names a style: attributes that are switched on or off, a colour, the colour behind the
text, and a link. Styles come to the same when their normal forms do; a tag that names none is
kept as a word.
-/
namespace SchemaAtlas.Terminal

/-- What can be switched on or off, in the order of normal forms. -/
def attributes : List String :=
  ["bold", "dim", "italic", "underline", "blink", "blink2", "reverse", "conceal", "strike",
    "underline2", "frame", "encircle", "overline"]

def shortAttributes : List (String × String) :=
  [("b", "bold"), ("d", "dim"), ("i", "italic"), ("u", "underline"), ("r", "reverse"),
    ("c", "conceal"), ("s", "strike"), ("uu", "underline2"), ("o", "overline")]

def attribute? (word : List Char) : Option String :=
  let w := String.ofList word
  if attributes.contains w then some w else shortAttributes.lookup w

def colorTable : String :=
"black red green yellow blue magenta cyan white bright_black bright_red bright_green bright_yellow
bright_blue bright_magenta bright_cyan bright_white grey0 gray0 navy_blue dark_blue blue3 blue1
dark_green deep_sky_blue4 dodger_blue3 dodger_blue2 green4 spring_green4 turquoise4 deep_sky_blue3
dodger_blue1 green3 spring_green3 dark_cyan light_sea_green deep_sky_blue2 deep_sky_blue1
spring_green2 cyan3 dark_turquoise turquoise2 green1 spring_green1 medium_spring_green cyan2 cyan1
dark_red deep_pink4 purple4 purple3 blue_violet orange4 grey37 gray37 medium_purple4 slate_blue3
royal_blue1 chartreuse4 dark_sea_green4 pale_turquoise4 steel_blue steel_blue3 cornflower_blue
chartreuse3 cadet_blue sky_blue3 steel_blue1 pale_green3 sea_green3 aquamarine3 medium_turquoise
chartreuse2 sea_green2 sea_green1 aquamarine1 dark_slate_gray2 dark_magenta dark_violet purple
light_pink4 plum4 medium_purple3 slate_blue1 yellow4 wheat4 grey53 gray53 light_slate_grey
light_slate_gray medium_purple light_slate_blue dark_olive_green3 dark_sea_green light_sky_blue3
sky_blue2 dark_sea_green3 dark_slate_gray3 sky_blue1 chartreuse1 light_green pale_green1
dark_slate_gray1 red3 medium_violet_red magenta3 dark_orange3 indian_red hot_pink3 medium_orchid3
medium_orchid medium_purple2 dark_goldenrod light_salmon3 rosy_brown grey63 gray63 medium_purple1
gold3 dark_khaki navajo_white3 grey69 gray69 light_steel_blue3 light_steel_blue yellow3
dark_sea_green2 light_cyan3 light_sky_blue1 green_yellow dark_olive_green2 dark_sea_green1
pale_turquoise1 deep_pink3 magenta2 hot_pink2 orchid medium_orchid1 orange3 light_pink3 pink3
plum3 violet light_goldenrod3 tan misty_rose3 thistle3 plum2 khaki3 light_goldenrod2 light_yellow3
grey84 gray84 light_steel_blue1 yellow2 dark_olive_green1 honeydew2 light_cyan1 red1 deep_pink2
deep_pink1 magenta1 orange_red1 indian_red1 hot_pink dark_orange salmon1 light_coral
pale_violet_red1 orchid2 orchid1 orange1 sandy_brown light_salmon1 light_pink1 pink1 plum1 gold1
navajo_white1 misty_rose1 thistle1 yellow1 light_goldenrod1 khaki1 wheat1 cornsilk1 grey100
gray100 grey3 gray3 grey7 gray7 grey11 gray11 grey15 gray15 grey19 gray19 grey23 gray23 grey27
gray27 grey30 gray30 grey35 gray35 grey39 gray39 grey42 gray42 grey46 gray46 grey50 gray50 grey54
gray54 grey58 gray58 grey62 gray62 grey66 gray66 grey70 gray70 grey74 gray74 grey78 gray78 grey82
gray82 grey85 gray85 grey89 gray89 grey93 gray93"

def colorNames : List (List Char) :=
  (Text.pieces '\n' colorTable.toList).flatMap (Text.pieces ' ')

def argument? (word : String) (s : List Char) : Option (List Char) :=
  let opening := word.toList ++ ['(']
  if opening.isPrefixOf s && s.getLast? = some ')' then
    some ((s.drop opening.length).dropLast)
  else none

def maxPart : Nat := 255

/-- Whether some characters between brackets are the three parts of a colour. Digits of any
script count, but every part has to be a number. -/
def isTriple (s : List Char) : Except MarkupError Bool := do
  if s.isEmpty || !s.all (fun c => c = ',' || Text.isDecimalDigit c) then return false
  match Text.pieces ',' s with
  | [red, green, blue] =>
    let parts ← [red, green, blue].mapM fun part =>
      (Number.wholeNumber part).mapError .badColor
    return parts.all (· ≤ maxPart)
  | _ => return false

def isColorNumber (ds : List Char) : Bool :=
  !ds.isEmpty && ds.length ≤ 3 && ds.all Char.isDigit && Text.ofDigits 10 ds ≤ maxPart

/-- Whether a word in lower case is a colour: by name, by number, or by its parts. -/
def isColor (s : List Char) : Except MarkupError Bool :=
  match argument? "rgb" s with
  | some parts => isTriple parts
  | none =>
    .ok <| s = "default".toList || colorNames.contains s ||
      (s.length = 7 && s.head? = some '#' &&
        (s.drop 1).all fun d => (Text.hexDigit? d).isSome) ||
      (argument? "color" s).any isColorNumber

/-- A style. Of several settings of one thing the first in the list counts. -/
structure Style where
  switches : List (String × Bool) := []
  color? : Option (List Char) := none
  behind? : Option (List Char) := none
  link? : Option (List Char) := none

/-- The style that words call for, after those read; nothing if they name none. -/
def styleOf? (s : Style) : List (List Char) → Except MarkupError (Option Style)
  | [] => .ok (some s)
  | word :: rest =>
    let w := Text.lower word
    if w = "on".toList then
      match rest with
      | color :: rest => do
        let color := Text.lower color
        if ← isColor color then styleOf? { s with behind? := some color } rest else return none
      | [] => .ok none
    else if w = "not".toList then
      match rest with
      | name :: rest => match attribute? name with
        | some a => styleOf? { s with switches := (a, false) :: s.switches } rest
        | none => .ok none
      | [] => .ok none
    else if w = "link".toList then
      match rest with
      | target :: rest => styleOf? { s with link? := some target } rest
      | [] => .ok none
    else match attribute? w with
      | some a => styleOf? { s with switches := (a, true) :: s.switches } rest
      | none => do
        if ← isColor w then styleOf? { s with color? := some w } rest else return none

def Style.words (s : Style) : List (List Char) :=
  (attributes.flatMap fun a => match s.switches.lookup a with
    | some true => [a.toList]
    | some false => ["not".toList, a.toList]
    | none => []) ++
  s.color?.toList ++
  (match s.behind? with
    | some c => ["on".toList, c]
    | none => []) ++
  match s.link? with
  | some target => ["link".toList, target]
  | none => []

def wordsOf (s : List Char) : List (List Char) :=
  (Text.pieces ' ' (s.map fun c => if Text.isBlank c then ' ' else c)).filter (!·.isEmpty)

def namedStyle? (name : List Char) : Except MarkupError (Option Style) :=
  styleOf? {} (if Text.strip name = "none".toList then [] else wordsOf name)

def normalName (name : List Char) : Except MarkupError (List Char) := do
  match ← namedStyle? name with
  | some s => match s.words with
    | [] => return "none".toList
    | ws => return [' '].intercalate ws
  | none => return Text.lower (Text.strip name)

end SchemaAtlas.Terminal
