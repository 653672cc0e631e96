import KotlinAudit.Decimal.Numeral
import KotlinAudit.Text.CaseMapping
import KotlinAudit.Text.Scan

/-! How text may be styled, and the one name that each style has however it is written: `[red bold]`
and `[b red]` name the same style. -/

/-! ### The names of colours, divided by blanks -/

namespace KotlinAudit.Console

namespace ColorNames

def all : List String :=
  ["aquamarine1 aquamarine3 black blue blue1 blue3 blue_violet bright_black bright_blue",
    "bright_cyan bright_green bright_magenta bright_red bright_white bright_yellow cadet_blue",
    "chartreuse1 chartreuse2 chartreuse3 chartreuse4 cornflower_blue cornsilk1 cyan cyan1 cyan2",
    "cyan3 dark_blue dark_cyan dark_goldenrod dark_green dark_khaki dark_magenta",
    "dark_olive_green1 dark_olive_green2 dark_olive_green3 dark_orange dark_orange3 dark_red",
    "dark_sea_green dark_sea_green1 dark_sea_green2 dark_sea_green3 dark_sea_green4",
    "dark_slate_gray1 dark_slate_gray2 dark_slate_gray3 dark_turquoise dark_violet deep_pink1",
    "deep_pink2 deep_pink3 deep_pink4 deep_sky_blue1 deep_sky_blue2 deep_sky_blue3 deep_sky_blue4",
    "dodger_blue1 dodger_blue2 dodger_blue3 gold1 gold3 gray0 gray100 gray11 gray15 gray19 gray23",
    "gray27 gray3 gray30 gray35 gray37 gray39 gray42 gray46 gray50 gray53 gray54 gray58 gray62",
    "gray63 gray66 gray69 gray7 gray70 gray74 gray78 gray82 gray84 gray85 gray89 gray93 green",
    "green1 green3 green4 green_yellow grey0 grey100 grey11 grey15 grey19 grey23 grey27 grey3",
    "grey30 grey35 grey37 grey39 grey42 grey46 grey50 grey53 grey54 grey58 grey62 grey63 grey66",
    "grey69 grey7 grey70 grey74 grey78 grey82 grey84 grey85 grey89 grey93 honeydew2 hot_pink",
    "hot_pink2 hot_pink3 indian_red indian_red1 khaki1 khaki3 light_coral light_cyan1 light_cyan3",
    "light_goldenrod1 light_goldenrod2 light_goldenrod3 light_green light_pink1 light_pink3",
    "light_pink4 light_salmon1 light_salmon3 light_sea_green light_sky_blue1 light_sky_blue3",
    "light_slate_blue light_slate_gray light_slate_grey light_steel_blue light_steel_blue1",
    "light_steel_blue3 light_yellow3 magenta magenta1 magenta2 magenta3 medium_orchid",
    "medium_orchid1 medium_orchid3 medium_purple medium_purple1 medium_purple2 medium_purple3",
    "medium_purple4 medium_spring_green medium_turquoise medium_violet_red misty_rose1",
    "misty_rose3 navajo_white1 navajo_white3 navy_blue orange1 orange3 orange4 orange_red1 orchid",
    "orchid1 orchid2 pale_green1 pale_green3 pale_turquoise1 pale_turquoise4 pale_violet_red1",
    "pink1 pink3 plum1 plum2 plum3 plum4 purple purple3 purple4 red red1 red3 rosy_brown",
    "royal_blue1 salmon1 sandy_brown sea_green1 sea_green2 sea_green3 sky_blue1 sky_blue2",
    "sky_blue3 slate_blue1 slate_blue3 spring_green1 spring_green2 spring_green3 spring_green4",
    "steel_blue steel_blue1 steel_blue3 tan thistle1 thistle3 turquoise2 turquoise4 violet wheat1",
    "wheat4 white yellow yellow1 yellow2 yellow3 yellow4"]

end ColorNames

/-! ### Styles -/

inductive Trait
  | bold | dim | italic | underline | blink | fastBlink | reverse | conceal | strike
  | doubleUnderline | framed | encircled | overlined
deriving DecidableEq, Repr

namespace Trait

def all : List Trait :=
  [bold, dim, italic, underline, blink, fastBlink, reverse, conceal, strike, doubleUnderline, framed,
    encircled, overlined]

def name : Trait → String
  | bold => "bold"
  | dim => "dim"
  | italic => "italic"
  | underline => "underline"
  | blink => "blink"
  | fastBlink => "blink2"
  | reverse => "reverse"
  | conceal => "conceal"
  | strike => "strike"
  | doubleUnderline => "underline2"
  | framed => "frame"
  | encircled => "encircle"
  | overlined => "overline"

def shortName? : Trait → Option String
  | bold => some "b"
  | dim => some "d"
  | italic => some "i"
  | underline => some "u"
  | reverse => some "r"
  | conceal => some "c"
  | strike => some "s"
  | doubleUnderline => some "uu"
  | overlined => some "o"
  | _ => none

def ofName? (name : List Char) : Option Trait :=
  all.find? fun trait =>
    trait.name.toList == name || (trait.shortName?.map (·.toList)) == some name

end Trait

/-- Colours are known by their names. -/
structure Style where
  traits : List (Trait × Bool)
  color : Option (List Char)
  background : Option (List Char)
  link : Option (List Char)
deriving DecidableEq, Repr

namespace Style

inductive Fault
  | unknown
  /-- A colour is given by components of which one has no digits. -/
  | emptyComponent
deriving DecidableEq, Repr

private def isHexDigit (c : Char) : Bool := Text.isAsciiDigit c || ('a' ≤ c && c ≤ 'f')

private def arguments? (word : String) (text : List Char) : Option (List Char) :=
  let opening := word.toList ++ ['(']
  if opening.isPrefixOf text && text.getLast? == some ')' then
    some ((text.drop opening.length).dropLast)
  else none

private def component (text : List Char) : Except Fault Unit :=
  let parts := Text.splitAll (· == ',') text
  if !text.all (fun c => c == ',' || Text.isDigit c) || text.isEmpty || parts.length != 3 then
    .error .unknown
  else if parts.any (·.isEmpty) then .error .emptyComponent
  else if parts.all fun part => Decimal.natOfDigits part ≤ 255 then .ok ()
  else .error .unknown

def colorName (word : List Char) : Except Fault (List Char) :=
  let word := Text.lower word
  let known := "default".toList :: ColorNames.all.flatMap fun part => Text.words (· == ' ') part.toList
  if known.contains word then .ok word
  else match word, arguments? "color" word, arguments? "rgb" word with
    | '#' :: digits, _, _ =>
      if digits.length == 6 && digits.all isHexDigit then .ok word else .error .unknown
    | _, some number, _ =>
      if !number.isEmpty && number.length ≤ 3 && number.all Text.isAsciiDigit &&
        Decimal.natOfDigits number ≤ 255 then .ok word
      else .error .unknown
    | _, _, some components => (component components).map fun _ => word
    | _, _, _ => .error .unknown

/-- The style that words name, added to `style`. -/
def ofWords (style : Style) : List (List Char) → Except Fault Style
  | [] => .ok style
  | word :: rest =>
    let word := Text.lower word
    match String.ofList word, rest with
    | "on", color :: rest =>
      (colorName color).bind fun color => ofWords { style with background := some color } rest
    | "not", name :: rest =>
      match Trait.ofName? name with
      | some trait =>
        ofWords { style with traits := (trait, false) :: style.traits } rest
      | none => .error .unknown
    | "link", address :: rest => ofWords { style with link := some address } rest
    | "on", [] | "not", [] | "link", [] => .error .unknown
    | _, rest =>
      match Trait.ofName? word with
      | some trait =>
        ofWords { style with traits := (trait, true) :: style.traits } rest
      | none => (colorName word).bind fun color => ofWords { style with color := some color } rest

def words (style : Style) : List (List Char) :=
  (Trait.all.flatMap fun trait =>
    match style.traits.lookup trait with
    | some true => [trait.name.toList]
    | some false => ["not".toList, trait.name.toList]
    | none => []) ++
  style.color.toList ++
  (style.background.toList.flatMap fun color => ["on".toList, color]) ++
  (style.link.toList.flatMap fun address => ["link".toList, address])

/-- The one name of the style that a text names. A text that names none stands for itself, in small
letters. -/
def nameOf (text : List Char) : Except Fault (List Char) :=
  let text := Text.trim text
  let words := Text.words Text.isBlank text
  if words == ["none".toList] then .ok "none".toList
  else match ofWords ⟨[], none, none, none⟩ words with
    | .ok style =>
      .ok (if style.words.isEmpty then "none".toList else Text.join [' '] style.words)
    | .error .unknown => .ok (Text.lower text)
    | .error fault => .error fault

end Style
end KotlinAudit.Console
