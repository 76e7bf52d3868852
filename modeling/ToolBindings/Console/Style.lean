import ToolBindings.Text.AnyDigit
import ToolBindings.Text.Digits
import ToolBindings.Text.Scan

/-!
# Styles

The inside of a tag names a style: words for attributes, a colour, a background after `on` and an
address after `link`. Two definitions of one style have the same normal form; what defines no style
is its own, in small letters.
-/

namespace ToolBindings.Console

/-- A style. Of the settings of one attribute, the first counts. -/
structure Style where
  attributes : List (String × Bool)
  colour : Option String
  background : Option String
  link : Option String

namespace Style

/-! ## Words -/

/-- The attributes, in the order in which they are written. -/
def attributeNames : List String := [
  "bold", "dim", "italic", "underline", "blink", "blink2", "reverse", "conceal", "strike",
  "underline2", "frame", "encircle", "overline"]

/-- The short words for attributes. -/
def shortNames : List (String × String) := [
  ("d", "dim"), ("b", "bold"), ("i", "italic"), ("u", "underline"), ("uu", "underline2"),
  ("r", "reverse"), ("c", "conceal"), ("s", "strike"), ("o", "overline")]

/-- The attribute that a word stands for. -/
def attribute? (word : String) : Option String :=
  if attributeNames.contains word then some word
  else (shortNames.find? (·.1 == word)).map (·.2)

/-- The names of colours, by line. -/
def colourLines : List String := [
  "black red green yellow blue magenta cyan white bright_black bright_red bright_green",
  "bright_yellow bright_blue bright_magenta bright_cyan bright_white grey0 gray0 navy_blue",
  "dark_blue blue3 blue1 dark_green deep_sky_blue4 dodger_blue3 dodger_blue2 green4",
  "spring_green4 turquoise4 deep_sky_blue3 dodger_blue1 green3 spring_green3 dark_cyan",
  "light_sea_green deep_sky_blue2 deep_sky_blue1 spring_green2 cyan3 dark_turquoise turquoise2",
  "green1 spring_green1 medium_spring_green cyan2 cyan1 dark_red deep_pink4 purple4 purple3",
  "blue_violet orange4 grey37 gray37 medium_purple4 slate_blue3 royal_blue1 chartreuse4",
  "dark_sea_green4 pale_turquoise4 steel_blue steel_blue3 cornflower_blue chartreuse3",
  "cadet_blue sky_blue3 steel_blue1 pale_green3 sea_green3 aquamarine3 medium_turquoise",
  "chartreuse2 sea_green2 sea_green1 aquamarine1 dark_slate_gray2 dark_magenta dark_violet",
  "purple light_pink4 plum4 medium_purple3 slate_blue1 yellow4 wheat4 grey53 gray53",
  "light_slate_grey light_slate_gray medium_purple light_slate_blue dark_olive_green3",
  "dark_sea_green light_sky_blue3 sky_blue2 dark_sea_green3 dark_slate_gray3 sky_blue1",
  "chartreuse1 light_green pale_green1 dark_slate_gray1 red3 medium_violet_red magenta3",
  "dark_orange3 indian_red hot_pink3 medium_orchid3 medium_orchid medium_purple2 dark_goldenrod",
  "light_salmon3 rosy_brown grey63 gray63 medium_purple1 gold3 dark_khaki navajo_white3 grey69",
  "gray69 light_steel_blue3 light_steel_blue yellow3 dark_sea_green2 light_cyan3",
  "light_sky_blue1 green_yellow dark_olive_green2 dark_sea_green1 pale_turquoise1 deep_pink3",
  "magenta2 hot_pink2 orchid medium_orchid1 orange3 light_pink3 pink3 plum3 violet",
  "light_goldenrod3 tan misty_rose3 thistle3 plum2 khaki3 light_goldenrod2 light_yellow3 grey84",
  "gray84 light_steel_blue1 yellow2 dark_olive_green1 honeydew2 light_cyan1 red1 deep_pink2",
  "deep_pink1 magenta1 orange_red1 indian_red1 hot_pink dark_orange salmon1 light_coral",
  "pale_violet_red1 orchid2 orchid1 orange1 sandy_brown light_salmon1 light_pink1 pink1 plum1",
  "gold1 navajo_white1 misty_rose1 thistle1 yellow1 light_goldenrod1 khaki1 wheat1 cornsilk1",
  "grey100 gray100 grey3 gray3 grey7 gray7 grey11 gray11 grey15 gray15 grey19 gray19 grey23",
  "gray23 grey27 gray27 grey30 gray30 grey35 gray35 grey39 gray39 grey42 gray42 grey46 gray46",
  "grey50 gray50 grey54 gray54 grey58 gray58 grey62 gray62 grey66 gray66 grey70 gray70 grey74",
  "gray74 grey78 gray78 grey82 gray82 grey85 gray85 grey89 gray89 grey93 gray93"]

/-- A text of decimal digits for a number of one octet. -/
def isOctet (s : List Char) : Bool :=
  !s.isEmpty && s.all Char.isDigit && Text.decimalValue s ≤ 255

/-- The text between a front and a bracket at the end. -/
def argument? (front : String) (word : List Char) : Option (List Char) := do
  let rest ← Text.dropText? front.toList word
  if rest.getLast? = some ')' then some rest.dropLast else none

/-- A word in small letters is a colour: by its name, by six hexadecimal digits, by its number, or by
three shares. -/
def isColour (word : List Char) : Bool :=
  word == "default".toList
  || colourLines.any (fun line => (Text.splitOn ' ' line.toList).contains word)
  || (match word with
      | '#' :: digits => digits.length == 6 && digits.all fun c => (Text.hexValue? c).isSome
      | _ => false)
  || (match argument? "color(" word with
      | some number => number.length ≤ 3 && isOctet number
      | none => false)
  || (match argument? "rgb(" word with
      | some shares => (Text.splitOn ',' shares).length == 3 && (Text.splitOn ',' shares).all isOctet
      | none => false)

/-! ## Definitions -/

/-- A word in small letters. -/
def small (word : List Char) : List Char := word.map Text.smallLetter

/-- The words of a definition. -/
def words (s : List Char) : List (List Char) :=
  (Text.splitOn ' ' (s.map fun c => if Text.isSpace c then ' ' else c)).filter (· ≠ [])

/-- The style that words define, in addition to a style. -/
def read? (style : Style) : List (List Char) → Option Style
  | [] => some style
  | word :: rest =>
    if small word = "on".toList then
      match rest with
      | colour :: rest =>
        if isColour (small colour) then
          read? { style with background := some (String.ofList (small colour)) } rest
        else none
      | [] => none
    else if small word = "not".toList then
      match rest with
      | word :: rest => do
        let name ← attribute? (String.ofList word)
        read? { style with attributes := (name, false) :: style.attributes } rest
      | [] => none
    else if small word = "link".toList then
      match rest with
      | link :: rest => read? { style with link := some (String.ofList link) } rest
      | [] => none
    else
      match attribute? (String.ofList (small word)) with
      | some name => read? { style with attributes := (name, true) :: style.attributes } rest
      | none =>
        if isColour (small word) then
          read? { style with colour := some (String.ofList (small word)) } rest
        else none

/-- The words for a style, in a fixed order. -/
def toWords (style : Style) : List String :=
  let attributes := attributeNames.flatMap fun name =>
    match style.attributes.find? (·.1 == name) with
    | some (_, true) => [name]
    | some (_, false) => ["not", name]
    | none => []
  attributes ++ style.colour.toList ++ (style.background.map (["on", ·])).getD []
    ++ (style.link.map (["link", ·])).getD []

/-- A definition in normal form. -/
def normal (s : List Char) : String :=
  let trimmed := Text.trimBlanks Text.isSpace s
  if trimmed = [] ∨ trimmed = "none".toList then "none"
  else
    match read? ⟨[], none, none, none⟩ (words s) with
    | some style => Text.joinWith " " style.toWords
    | none => String.ofList (small trimmed)

end Style
end ToolBindings.Console
