import Inspection.Text.Blank

/-!
# Styles

How a style is called: by attributes that are set or unset, a colour, a colour of the background,
and a link. Names that ask for the same style have one common form.
-/

namespace Inspection.Text.Style

/-- The attributes of a style, in the order in which the common form gives them. -/
def attributes : List String :=
  ["bold", "dim", "italic", "underline", "blink", "blink2", "reverse", "conceal", "strike",
    "underline2", "frame", "encircle", "overline"]

/-- The short names of attributes. -/
def shortNames : List (String × String) :=
  [("d", "dim"), ("b", "bold"), ("i", "italic"), ("u", "underline"), ("r", "reverse"),
    ("c", "conceal"), ("s", "strike"), ("uu", "underline2"), ("o", "overline")]

/-- The attribute of a name. -/
def attribute? (word : String) : Option String :=
  if word ∈ attributes then some word else shortNames.lookup word

/-- The colours that have names. -/
def colourNames : String := "
black red green yellow blue magenta cyan white bright_black bright_red bright_green bright_yellow
bright_blue bright_magenta bright_cyan bright_white grey0 gray0 navy_blue dark_blue blue3 blue1
dark_green deep_sky_blue4 dodger_blue3 dodger_blue2 green4 spring_green4 turquoise4
deep_sky_blue3 dodger_blue1 green3 spring_green3 dark_cyan light_sea_green deep_sky_blue2
deep_sky_blue1 spring_green2 cyan3 dark_turquoise turquoise2 green1 spring_green1
medium_spring_green cyan2 cyan1 dark_red deep_pink4 purple4 purple3 blue_violet orange4 grey37
gray37 medium_purple4 slate_blue3 royal_blue1 chartreuse4 dark_sea_green4 pale_turquoise4
steel_blue steel_blue3 cornflower_blue chartreuse3 cadet_blue sky_blue3 steel_blue1 pale_green3
sea_green3 aquamarine3 medium_turquoise chartreuse2 sea_green2 sea_green1 aquamarine1
dark_slate_gray2 dark_magenta dark_violet purple light_pink4 plum4 medium_purple3 slate_blue1
yellow4 wheat4 grey53 gray53 light_slate_grey light_slate_gray medium_purple light_slate_blue
dark_olive_green3 dark_sea_green light_sky_blue3 sky_blue2 dark_sea_green3 dark_slate_gray3
sky_blue1 chartreuse1 light_green pale_green1 dark_slate_gray1 red3 medium_violet_red magenta3
dark_orange3 indian_red hot_pink3 medium_orchid3 medium_orchid medium_purple2 dark_goldenrod
light_salmon3 rosy_brown grey63 gray63 medium_purple1 gold3 dark_khaki navajo_white3 grey69
gray69 light_steel_blue3 light_steel_blue yellow3 dark_sea_green2 light_cyan3 light_sky_blue1
green_yellow dark_olive_green2 dark_sea_green1 pale_turquoise1 deep_pink3 magenta2 hot_pink2
orchid medium_orchid1 orange3 light_pink3 pink3 plum3 violet light_goldenrod3 tan misty_rose3
thistle3 plum2 khaki3 light_goldenrod2 light_yellow3 grey84 gray84 light_steel_blue1 yellow2
dark_olive_green1 honeydew2 light_cyan1 red1 deep_pink2 deep_pink1 magenta1 orange_red1
indian_red1 hot_pink dark_orange salmon1 light_coral pale_violet_red1 orchid2 orchid1 orange1
sandy_brown light_salmon1 light_pink1 pink1 plum1 gold1 navajo_white1 misty_rose1 thistle1
yellow1 light_goldenrod1 khaki1 wheat1 cornsilk1 grey100 gray100 grey3 gray3 grey7 gray7 grey11
gray11 grey15 gray15 grey19 gray19 grey23 gray23 grey27 gray27 grey30 gray30 grey35 gray35 grey39
gray39 grey42 gray42 grey46 gray46 grey50 gray50 grey54 gray54 grey58 gray58 grey62 gray62 grey66
gray66 grey70 gray70 grey74 gray74 grey78 gray78 grey82 gray82 grey85 gray85 grey89 gray89 grey93
gray93"

/-- Whether a text is a number of one to three digits, at most 255. -/
def isByte (cs : List Char) : Bool :=
  !cs.isEmpty && cs.all Char.isDigit && cs.length ≤ 3 &&
    cs.foldl (fun n c => n * 10 + (c.toNat - '0'.toNat)) 0 ≤ 255

/-- What stands between a name with an opening bracket and a closing bracket at the end. -/
def inBrackets? (name : String) (cs : List Char) : Option (List Char) :=
  if name.toList.isPrefixOf cs && cs.getLast? = some ')' then
    some ((cs.drop name.length).dropLast)
  else none

/-- Whether a text in small letters is a colour: a name, a number, or three numbers. -/
def isColour (word : String) : Bool :=
  let cs := word.toList
  let isNamed := (colourNames.split Char.isWhitespace).toList.any fun n => n.toString = word
  let isHex : Bool := match cs with
    | '#' :: ds => ds.length = 6 && ds.all fun c => c.isDigit || ('a' ≤ c && c ≤ 'f')
    | _ => false
  let isNumber : Bool := match inBrackets? "color(" cs with
    | some ds => isByte ds
    | none => false
  let isTriple : Bool := match inBrackets? "rgb(" cs with
    | some ds =>
      let parts := (String.ofList ds).splitOn ","
      parts.length = 3 && parts.all fun p => isByte p.toList
    | none => false
  word = "default" || (word ≠ "" && isNamed) || isHex || isNumber || isTriple

/-- What a style is made of so far. -/
structure Parts where
  set : List (String × Bool)
  colour : Option String
  background : Option String
  link : Option String

/-- Adds what words ask for. There is no answer if they ask for no style. -/
def Parts.add? (p : Parts) : List String → Option Parts
  | [] => some p
  | word :: rest =>
    match word.toLower, rest with
    | "on", c :: rest =>
      if isColour c.toLower then { p with background := some c.toLower }.add? rest else none
    | "not", a :: rest =>
      match attribute? a with
      | some a => { p with set := (a, false) :: p.set }.add? rest
      | none => none
    | "link", l :: rest => { p with link := some l }.add? rest
    | small, rest =>
      match attribute? small with
      | some a => { p with set := (a, true) :: p.set }.add? rest
      | none => if isColour small then { p with colour := some small }.add? rest else none

/-- The common form of a style. -/
def Parts.text (p : Parts) : String :=
  let set := attributes.filterMap fun a =>
    (p.set.lookup a).map fun isSet => if isSet then a else "not " ++ a
  let words := set ++ p.colour.toList ++ (p.background.map ("on " ++ ·)).toList ++
    (p.link.map ("link " ++ ·)).toList
  if words.isEmpty then "none" else String.intercalate " " words

/-- The words of a text. -/
def wordsOf (cs : List Char) : List String :=
  ((cs.splitBy fun a b => isBlank a = isBlank b).filter fun w => !w.any isBlank).map String.ofList

/-- The common form of a name of a style; what is no style is taken in small letters. -/
def canonical (name : List Char) : String :=
  let trimmed := String.ofList (trim name)
  if trimmed = "none" then "none"
  else
    match (⟨[], none, none, none⟩ : Parts).add? (wordsOf name) with
    | some p => p.text
    | none => trimmed.toLower

end Inspection.Text.Style
