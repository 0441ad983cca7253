import SecretScan.Decimal.Reading
import SecretScan.Text.CharRanges
import SecretScan.Text.LetterCase
import SecretScan.Text.Lines

/-!
# Names of styles

A style is named by words: attributes, which can be negated, a color, a background, a link. Names of
one style have one normal form (`Style.normalForm`); a name that is no style is only trimmed and
written in lower case.
-/

namespace SecretScan.Markup

/-- A style. -/
structure Style where
  /-- The attributes that are set or unset, the last one first. -/
  attributes : List (List Char × Bool) := []
  color : Option (List Char) := none
  background : Option (List Char) := none
  link : Option (List Char) := none
  deriving Repr

namespace Style

/-- The attributes, in the order in which normal forms list them. -/
def attributeNames : List (List Char) :=
  ["bold", "dim", "italic", "underline", "blink", "blink2", "reverse", "conceal", "strike",
    "underline2", "frame", "encircle", "overline"].map String.toList

/-- Short names of attributes. -/
def shortNames : List (List Char × List Char) :=
  [("b", "bold"), ("d", "dim"), ("i", "italic"), ("u", "underline"), ("r", "reverse"),
    ("c", "conceal"), ("s", "strike"), ("uu", "underline2"), ("o", "overline")].map
    fun (short, name) => (short.toList, name.toList)

/-- The attribute of this name. -/
def attribute? (word : List Char) : Option (List Char) :=
  if attributeNames.contains word then some word else shortNames.lookup word

/-- The colors that have a name. -/
def colorNames : List (List Char) := Text.CharRanges.words "
   black red green yellow blue magenta cyan white bright_black bright_red bright_green
   bright_yellow bright_blue bright_magenta bright_cyan bright_white grey0 gray0 navy_blue
   dark_blue blue3 blue1 dark_green deep_sky_blue4 dodger_blue3 dodger_blue2 green4 spring_green4
   turquoise4 deep_sky_blue3 dodger_blue1 green3 spring_green3 dark_cyan light_sea_green
   deep_sky_blue2 deep_sky_blue1 spring_green2 cyan3 dark_turquoise turquoise2 green1
   spring_green1 medium_spring_green cyan2 cyan1 dark_red deep_pink4 purple4 purple3 blue_violet
   orange4 grey37 gray37 medium_purple4 slate_blue3 royal_blue1 chartreuse4 dark_sea_green4
   pale_turquoise4 steel_blue steel_blue3 cornflower_blue chartreuse3 cadet_blue sky_blue3
   steel_blue1 pale_green3 sea_green3 aquamarine3 medium_turquoise chartreuse2 sea_green2
   sea_green1 aquamarine1 dark_slate_gray2 dark_magenta dark_violet purple light_pink4 plum4
   medium_purple3 slate_blue1 yellow4 wheat4 grey53 gray53 light_slate_grey light_slate_gray
   medium_purple light_slate_blue dark_olive_green3 dark_sea_green light_sky_blue3 sky_blue2
   dark_sea_green3 dark_slate_gray3 sky_blue1 chartreuse1 light_green pale_green1 dark_slate_gray1
   red3 medium_violet_red magenta3 dark_orange3 indian_red hot_pink3 medium_orchid3 medium_orchid
   medium_purple2 dark_goldenrod light_salmon3 rosy_brown grey63 gray63 medium_purple1 gold3
   dark_khaki navajo_white3 grey69 gray69 light_steel_blue3 light_steel_blue yellow3
   dark_sea_green2 light_cyan3 light_sky_blue1 green_yellow dark_olive_green2 dark_sea_green1
   pale_turquoise1 deep_pink3 magenta2 hot_pink2 orchid medium_orchid1 orange3 light_pink3 pink3
   plum3 violet light_goldenrod3 tan misty_rose3 thistle3 plum2 khaki3 light_goldenrod2
   light_yellow3 grey84 gray84 light_steel_blue1 yellow2 dark_olive_green1 honeydew2 light_cyan1
   red1 deep_pink2 deep_pink1 magenta1 orange_red1 indian_red1 hot_pink dark_orange salmon1
   light_coral pale_violet_red1 orchid2 orchid1 orange1 sandy_brown light_salmon1 light_pink1
   pink1 plum1 gold1 navajo_white1 misty_rose1 thistle1 yellow1 light_goldenrod1 khaki1 wheat1
   cornsilk1 grey100 gray100 grey3 gray3 grey7 gray7 grey11 gray11 grey15 gray15 grey19 gray19
   grey23 gray23 grey27 gray27 grey30 gray30 grey35 gray35 grey39 gray39 grey42 gray42 grey46
   gray46 grey50 gray50 grey54 gray54 grey58 gray58 grey62 gray62 grey66 gray66 grey70 gray70
   grey74 gray74 grey78 gray78 grey82 gray82 grey85 gray85 grey89 gray89 grey93 gray93".toList

/-- What stands in a word between a beginning and a closing parenthesis at its end. -/
def argument? (beginning : String) (word : List Char) : Option (List Char) :=
  let start := beginning.toList
  if start.isPrefixOf word && word.getLast? = some ')' then
    some ((word.drop start.length).dropLast)
  else none

/-- Is this the number of a color? -/
def isColorNumber (cs : List Char) : Bool :=
  1 ≤ cs.length && cs.length ≤ 3 && cs.all Char.isDigit && Decimal.digitsValue cs ≤ 255

/-- Is this a list of three intensities? -/
def isIntensities (cs : List Char) : Bool :=
  let parts := Text.cutAt ',' cs
  parts.length == 3 && parts.all fun p =>
    ((Decimal.readWhole? p).map fun n => 0 ≤ n && n ≤ 255).getD false

/-- Does the word stand for a color? -/
def isColor (word : List Char) : Bool :=
  word == "default".toList || colorNames.contains word ||
    (match word with
      | '#' :: digits =>
        digits.length == 6 && digits.all fun c => c.isDigit || ('a' ≤ c && c ≤ 'f')
      | _ => false) ||
    (argument? "color(" word).any isColorNumber || (argument? "rgb(" word).any isIntensities

/-- What the next word has to be. -/
inductive Awaited where
  | anything
  | background
  | unset
  | link
  deriving DecidableEq, Repr

/-- Sets or unsets an attribute. -/
def setAttribute (s : Style) (name : List Char) (value : Bool) : Style :=
  { s with attributes := (name, value) :: s.attributes }

/-- Reads a word that may be anything. -/
def readWord (s : Style) (word : List Char) : Option (Style × Awaited) :=
  if word == "on".toList then some (s, .background)
  else if word == "not".toList then some (s, .unset)
  else if word == "link".toList then some (s, .link)
  else
    match attribute? word with
    | some name => some (s.setAttribute name true, .anything)
    | none => if isColor word then some ({ s with color := some word }, .anything) else none

/-- Reads the next word. -/
def step (state : Style × Awaited) (word : List Char) : Option (Style × Awaited) :=
  let (s, awaited) := state
  match awaited with
  | .anything => s.readWord (Text.lowered word)
  | .background =>
    let color := Text.lowered word
    if isColor color then some ({ s with background := some color }, .anything) else none
  | .unset => (attribute? word).map fun name => (s.setAttribute name false, .anything)
  | .link => some ({ s with link := some word }, .anything)

/-- The words of a name. -/
def wordsOf (name : List Char) : List (List Char) :=
  (Text.cutAt ' ' (name.map fun c => if Text.isBlank c then ' ' else c)).filter (!·.isEmpty)

/-- The style of this name. -/
def ofName? (name : List Char) : Option Style := do
  let words := wordsOf name
  if words == ["none".toList] then return {}
  match ← words.foldlM step (({} : Style), Awaited.anything) with
  | (s, .anything) => return s
  | _ => none

/-- The words of the normal form. -/
def words (s : Style) : List (List Char) :=
  let attributes := attributeNames.flatMap fun name =>
    match s.attributes.lookup name with
    | some true => [name]
    | some false => ["not".toList, name]
    | none => []
  attributes ++ s.color.toList ++
    (s.background.toList.flatMap fun c => ["on".toList, c]) ++
    (s.link.toList.flatMap fun l => ["link".toList, l])

/-- The normal form of the name of a style. -/
def text (s : Style) : List Char :=
  if s.words.isEmpty then "none".toList else [' '].intercalate s.words

/-- A text without the blanks around it. -/
def trimmed (cs : List Char) : List Char :=
  Text.trimEndBlanks (cs.dropWhile Text.isBlank)

/-- The normal form of a name. -/
def normalForm (name : List Char) : List Char :=
  match ofName? name with
  | some s => s.text
  | none => Text.lowered (trimmed name)

end Style

end SecretScan.Markup
