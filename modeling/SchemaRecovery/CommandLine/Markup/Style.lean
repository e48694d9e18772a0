/-
  SchemaRecovery.CommandLine.Markup.Style

  Styles of console text by their definitions, such as `bold red on blue`.
  Definitions that ask for the same style have one spelling in common, by
  which a closing tag finds the tag that it closes.
-/
import SchemaRecovery.Text.Affix
import SchemaRecovery.Text.Blank
import SchemaRecovery.Text.Digit
import SchemaRecovery.Text.LetterCase

namespace SchemaRecovery.CommandLine.Markup

/-- The attributes of text, in the order in which a spelling lists them, each
with its short names. -/
def attributeNames : List (Text × List Text) :=
  [("bold", ["b"]), ("dim", ["d"]), ("italic", ["i"]), ("underline", ["u"]), ("blink", []),
    ("blink2", []), ("reverse", ["r"]), ("conceal", ["c"]), ("strike", ["s"]),
    ("underline2", ["uu"]), ("frame", []), ("encircle", []), ("overline", ["o"])]

/-- The colours that have names, some in a row. -/
def colourNames : List String :=
  ["aquamarine1 aquamarine3 black blue blue1 blue3 blue_violet bright_black bright_blue",
    "bright_cyan bright_green bright_magenta bright_red bright_white bright_yellow cadet_blue",
    "chartreuse1 chartreuse2 chartreuse3 chartreuse4 cornflower_blue cornsilk1 cyan cyan1 cyan2",
    "cyan3 dark_blue dark_cyan dark_goldenrod dark_green dark_khaki dark_magenta",
    "dark_olive_green1 dark_olive_green2 dark_olive_green3 dark_orange dark_orange3 dark_red",
    "dark_sea_green dark_sea_green1 dark_sea_green2 dark_sea_green3 dark_sea_green4",
    "dark_slate_gray1 dark_slate_gray2 dark_slate_gray3 dark_turquoise dark_violet deep_pink1",
    "deep_pink2 deep_pink3 deep_pink4 deep_sky_blue1 deep_sky_blue2 deep_sky_blue3",
    "deep_sky_blue4 dodger_blue1 dodger_blue2 dodger_blue3 gold1 gold3 gray0 gray100 gray11",
    "gray15 gray19 gray23 gray27 gray3 gray30 gray35 gray37 gray39 gray42 gray46 gray50 gray53",
    "gray54 gray58 gray62 gray63 gray66 gray69 gray7 gray70 gray74 gray78 gray82 gray84 gray85",
    "gray89 gray93 green green1 green3 green4 green_yellow grey0 grey100 grey11 grey15 grey19",
    "grey23 grey27 grey3 grey30 grey35 grey37 grey39 grey42 grey46 grey50 grey53 grey54 grey58",
    "grey62 grey63 grey66 grey69 grey7 grey70 grey74 grey78 grey82 grey84 grey85 grey89 grey93",
    "honeydew2 hot_pink hot_pink2 hot_pink3 indian_red indian_red1 khaki1 khaki3 light_coral",
    "light_cyan1 light_cyan3 light_goldenrod1 light_goldenrod2 light_goldenrod3 light_green",
    "light_pink1 light_pink3 light_pink4 light_salmon1 light_salmon3 light_sea_green",
    "light_sky_blue1 light_sky_blue3 light_slate_blue light_slate_gray light_slate_grey",
    "light_steel_blue light_steel_blue1 light_steel_blue3 light_yellow3 magenta magenta1",
    "magenta2 magenta3 medium_orchid medium_orchid1 medium_orchid3 medium_purple medium_purple1",
    "medium_purple2 medium_purple3 medium_purple4 medium_spring_green medium_turquoise",
    "medium_violet_red misty_rose1 misty_rose3 navajo_white1 navajo_white3 navy_blue orange1",
    "orange3 orange4 orange_red1 orchid orchid1 orchid2 pale_green1 pale_green3 pale_turquoise1",
    "pale_turquoise4 pale_violet_red1 pink1 pink3 plum1 plum2 plum3 plum4 purple purple3",
    "purple4 red red1 red3 rosy_brown royal_blue1 salmon1 sandy_brown sea_green1 sea_green2",
    "sea_green3 sky_blue1 sky_blue2 sky_blue3 slate_blue1 slate_blue3 spring_green1",
    "spring_green2 spring_green3 spring_green4 steel_blue steel_blue1 steel_blue3 tan thistle1",
    "thistle3 turquoise2 turquoise4 violet wheat1 wheat4 white yellow yellow1 yellow2 yellow3",
    "yellow4"]

/-- The attribute that a word names. -/
def attribute? (word : Text) : Option Text :=
  (attributeNames.find? fun a => a.1 = word || a.2.contains word).map (·.1)

/-- Why a definition asks for no style. -/
inductive StyleFault where
  /-- A word means nothing. -/
  | unknown
  /-- A colour of three parts lacks one of them. -/
  | missingPart
  deriving DecidableEq

/-- What stands in brackets after a word. -/
def bracketed? (word s : Text) : Option Text :=
  if Text.hasStart s (word ++ "(") && Text.hasEnding s ")" then
    some ((s.drop (word.length + 1)).dropLast)
  else none

/-- A word that names a colour. -/
def isColourName (word : Text) : Bool :=
  word = "default" || colourNames.any fun (row : String) => (Text.words row).contains word

/-- A colour by six hexadecimal digits. -/
def isHexColour (word : Text) : Bool :=
  Text.hasStart word "#" && word.length == 7 &&
    (word.drop 1).all fun c => c.holds fun x => (Text.hexValue? x).isSome

/-- A colour by its number, which has plain digits. -/
def isNumberedColour (word : Text) : Bool :=
  (bracketed? "color" word).any fun n =>
    !n.isEmpty && n.length ≤ 3 && n.all Text.isPlainDigit && Text.plainNumber n ≤ 255

/-- The number that the decimal digits of any script stand for. -/
def decimalNumber (digits : Text) : Nat :=
  digits.foldl (fun n c => 10 * n + (Text.digitValue? c).getD 0) 0

/-- A word that holds digits and commas in brackets must be a colour of three
parts up to 255. -/
def checkParts (content : Text) : Except StyleFault Unit :=
  let parts := Text.pieces ',' content
  if parts.length ≠ 3 then .error .unknown
  else if parts.any List.isEmpty then .error .missingPart
  else if parts.all fun part => decimalNumber part ≤ 255 then .ok ()
  else .error .unknown

/-- A word must mean a colour. -/
def checkColour (word : Text) : Except StyleFault Unit :=
  if isColourName word || isHexColour word || isNumberedColour word then .ok ()
  else
    match bracketed? "rgb" word with
    | some content =>
      if content ≠ [] && content.all fun c => c = .char ',' || (Text.digitValue? c).isSome then
        checkParts content
      else .error .unknown
    | none => .error .unknown

/-- What a definition asks for. -/
structure Style where
  attributes : List (Text × Bool) := []
  colour : Option Text := none
  background : Option Text := none
  link : Option Text := none

namespace Style

/-- Turns an attribute on or off. -/
def set (s : Style) (name : Text) (on : Bool) : Style :=
  { s with attributes := (name, on) :: s.attributes }

/-- Adds what a word by itself asks for. -/
def addWord (s : Style) (word : Text) : Except StyleFault Style :=
  match attribute? word with
  | some a => .ok (s.set a true)
  | none => (checkColour word).map fun _ => { s with colour := some word }

/-- Adds what the words of a definition ask for. -/
def addWords (s : Style) : List Text → Except StyleFault Style
  | [] => .ok s
  | [word] => s.addWord (Text.lower word)
  | word :: next :: rest =>
    if Text.lower word = "on" then do
      checkColour (Text.lower next)
      addWords { s with background := some (Text.lower next) } rest
    else if Text.lower word = "not" then
      match attribute? next with
      | some a => addWords (s.set a false) rest
      | none => .error .unknown
    else if Text.lower word = "link" then addWords { s with link := some next } rest
    else do
      addWords (← s.addWord (Text.lower word)) (next :: rest)

/-- The style that a definition asks for. -/
def ofDefinition (definition : Text) : Except StyleFault Style :=
  addWords {} (Text.words definition)

/-- The words of the common spelling. -/
def spelling (s : Style) : List Text :=
  let attributes : List Text := attributeNames.filterMap fun a =>
    (s.attributes.lookup a.1).map fun on => if on then a.1 else "not " ++ a.1
  let background : Option Text := s.background.map fun (c : Text) => "on " ++ c
  let link : Option Text := s.link.map fun (l : Text) => "link " ++ l
  attributes ++ s.colour.toList ++ background.toList ++ link.toList

end Style

/-- The text without the blanks at either end. -/
def trimmed (s : Text) : Text :=
  ((s.dropWhile Text.isBlank).reverse.dropWhile Text.isBlank).reverse

/-- The common spelling of a definition; one with a word that means nothing is
its own, in lower case. -/
def styleSpelling (definition : Text) : Except StyleFault Text :=
  match Style.ofDefinition definition with
  | .ok s => .ok (if s.spelling.isEmpty then "none" else Text.join " " s.spelling)
  | .error .unknown => .ok (Text.lower (trimmed definition))
  | .error .missingPart => .error .missingPart

/-- Text can be shown in the style with a definition; words that mean nothing
change nothing. -/
def isShowable (definition : Text) : Bool :=
  match Style.ofDefinition definition with
  | .error .missingPart => false
  | _ => true

end SchemaRecovery.CommandLine.Markup
