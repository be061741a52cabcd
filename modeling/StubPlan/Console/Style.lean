import StubPlan.Numeral
import StubPlan.Text.Replace
import StubPlan.Unicode.LetterCase
import StubPlan.Url.Host

/-! Styles of console text, as they are named in markup. Names that mean the same style have one
canonical spelling, by which the end of a styled part finds its beginning. -/
namespace StubPlan
open Chars

/-- What can be switched on or off for a part of a text. -/
inductive TextEffect where
  | bold | dim | italic | underline | blink | rapidBlink | reverse | conceal | strike
  | doubleUnderline | frame | encircle | overline
  deriving DecidableEq, Repr

namespace TextEffect

def all : List TextEffect :=
  [bold, dim, italic, underline, blink, rapidBlink, reverse, conceal, strike, doubleUnderline,
   frame, encircle, overline]

/-- The names of an effect; the first one is canonical. -/
def names : TextEffect → List String
  | bold => ["bold", "b"]
  | dim => ["dim", "d"]
  | italic => ["italic", "i"]
  | underline => ["underline", "u"]
  | blink => ["blink"]
  | rapidBlink => ["blink2"]
  | reverse => ["reverse", "r"]
  | conceal => ["conceal", "c"]
  | strike => ["strike", "s"]
  | doubleUnderline => ["underline2", "uu"]
  | frame => ["frame"]
  | encircle => ["encircle"]
  | overline => ["overline", "o"]

def ofName? (name : List Char) : Option TextEffect :=
  all.find? fun e => e.names.any fun s => s.toList = name

def name (e : TextEffect) : String := e.names.head?.getD ""

end TextEffect

/-- The names of colours, but for the greys, without the digit at the end of most. -/
def colourNames : List (String × String) :=
  [("black", "_"), ("red", "_13"), ("green", "_134"), ("yellow", "_1234"), ("blue", "_13"),
   ("magenta", "_123"), ("cyan", "_123"), ("white", "_"), ("bright_black", "_"),
   ("bright_red", "_"), ("bright_green", "_"), ("bright_yellow", "_"), ("bright_blue", "_"),
   ("bright_magenta", "_"), ("bright_cyan", "_"), ("bright_white", "_"), ("navy_blue", "_"),
   ("dark_blue", "_"), ("dark_green", "_"), ("deep_sky_blue", "1234"), ("dodger_blue", "123"),
   ("spring_green", "1234"), ("turquoise", "24"), ("dark_cyan", "_"), ("light_sea_green", "_"),
   ("dark_turquoise", "_"), ("medium_spring_green", "_"), ("dark_red", "_"),
   ("deep_pink", "1234"), ("purple", "_34"), ("blue_violet", "_"), ("orange", "134"),
   ("medium_purple", "_1234"), ("slate_blue", "13"), ("royal_blue", "1"), ("chartreuse", "1234"),
   ("dark_sea_green", "_1234"), ("pale_turquoise", "14"), ("steel_blue", "_13"),
   ("cornflower_blue", "_"), ("cadet_blue", "_"), ("sky_blue", "123"), ("pale_green", "13"),
   ("sea_green", "123"), ("aquamarine", "13"), ("medium_turquoise", "_"),
   ("dark_slate_gray", "123"), ("dark_magenta", "_"), ("dark_violet", "_"), ("light_pink", "134"),
   ("plum", "1234"), ("wheat", "14"), ("light_slate_grey", "_"), ("light_slate_gray", "_"),
   ("light_slate_blue", "_"), ("dark_olive_green", "123"), ("light_sky_blue", "13"),
   ("light_green", "_"), ("medium_violet_red", "_"), ("dark_orange", "_3"), ("indian_red", "_1"),
   ("hot_pink", "_23"), ("medium_orchid", "_13"), ("dark_goldenrod", "_"), ("light_salmon", "13"),
   ("rosy_brown", "_"), ("gold", "13"), ("dark_khaki", "_"), ("navajo_white", "13"),
   ("light_steel_blue", "_13"), ("light_cyan", "13"), ("green_yellow", "_"), ("orchid", "_12"),
   ("pink", "13"), ("violet", "_"), ("light_goldenrod", "123"), ("tan", "_"), ("misty_rose", "13"),
   ("thistle", "13"), ("khaki", "13"), ("light_yellow", "3"), ("honeydew", "2"),
   ("orange_red", "1"), ("salmon", "1"), ("light_coral", "_"), ("pale_violet_red", "1"),
   ("sandy_brown", "_"), ("cornsilk", "1")]

def greyLevels : List String :=
  ["0", "3", "7", "11", "15", "19", "23", "27", "30", "35", "37", "39", "42", "46", "50", "53", "54",
   "58", "62", "63", "66", "69", "70", "74", "78", "82", "84", "85", "89", "93", "100"]

/-- Why a text is no style: it has a word that means nothing, or a colour in parts that cannot be read. -/
inductive StyleFault where
  | noStyle
  | unreadable
  deriving DecidableEq, Repr

def inParentheses? (front : String) (s : List Char) : Option (List Char) :=
  (dropFront? front.toList s).bind fun rest =>
    if rest.getLast? = some ')' then some rest.dropLast else none

/-- Whether a text names a colour by its parts of red, green and blue, each up to 255. A part without
digits, or with too many, cannot be read. -/
def isMixedColour (s : List Char) : Except StyleFault Bool :=
  match inParentheses? "rgb(" s with
  | some inside =>
    let parts := splitAt ',' inside
    if parts.length = 3 ∧ inside.all (fun c => c = ',' || Unicode.isDecimal c) then
      match parts.mapM Numeral.nat? with
      | some values => .ok (values.all (· ≤ 255))
      | none => .error .unreadable
    else .ok false
  | none => .ok false

/-- Whether a text names a colour by a word, a number up to 255, or six hexadecimal digits. -/
def isNamedColour (s : List Char) : Bool :=
  let isHexDigit (c : Char) : Bool := c.isDigit || ('a' ≤ c && c ≤ 'f')
  s = "default".toList ||
    (colourNames.any fun (name, digits) =>
      digits.toList.any fun d => s = name.toList ++ (if d = '_' then [] else [d])) ||
    (greyLevels.any fun n => s = "grey".toList ++ n.toList || s = "gray".toList ++ n.toList) ||
    (s.length = 7 && s.head? = some '#' && s.tail.all isHexDigit) ||
    ((inParentheses? "color(" s).any fun n =>
      n.length ≤ 3 && Url.isDigits n && Url.digitsValue n ≤ 255)

def checkColour (word : List Char) : Except StyleFault Unit := do
  if !(isNamedColour word || (← isMixedColour word)) then throw .noStyle

/-- A style: effects that are switched on or off, colours of text and ground, and a link. -/
structure TextStyle where
  effects : List (TextEffect × Bool)
  colour : Option (List Char)
  ground : Option (List Char)
  link : Option (List Char)

namespace TextStyle

def plain : TextStyle := ⟨[], none, none, none⟩

/-- The style that a list of words describes, on top of another; a later word wins. -/
def ofWords (style : TextStyle) : List (List Char) → Except StyleFault TextStyle
  | [] => .ok style
  | word :: rest =>
    let lowered := Unicode.lower word
    if lowered = "on".toList then
      match rest with
      | ground :: rest => do
        checkColour (Unicode.lower ground)
        ofWords { style with ground := some (Unicode.lower ground) } rest
      | [] => .error .noStyle
    else if lowered = "not".toList then
      match rest with
      | name :: rest => match TextEffect.ofName? name with
        | some e => ofWords { style with effects := (e, false) :: style.effects } rest
        | none => .error .noStyle
      | [] => .error .noStyle
    else if lowered = "link".toList then
      match rest with
      | link :: rest => ofWords { style with link := some link } rest
      | [] => .error .noStyle
    else match TextEffect.ofName? lowered with
      | some e => ofWords { style with effects := (e, true) :: style.effects } rest
      | none => do
        checkColour lowered
        ofWords { style with colour := some lowered } rest

def words (style : TextStyle) : List (List Char) :=
  let effects := TextEffect.all.filterMap fun e =>
    (style.effects.find? (·.1 = e)).map fun (_, on) =>
      (if on then "" else "not ").toList ++ e.name.toList
  effects ++ style.colour.toList ++
    (style.ground.map ("on ".toList ++ ·)).toList ++ (style.link.map ("link ".toList ++ ·)).toList

/-- The words of a text: its parts between blanks. -/
def wordsOf (s : List Char) : List (List Char) :=
  (splitAt ' ' (s.map fun c => if Text.isBlankChar c then ' ' else c)).filter (· ≠ [])

def ofText (text : List Char) : Except StyleFault TextStyle :=
  ofWords plain (if trim text = "none".toList then [] else wordsOf text)

/-- The canonical spelling of the name of a style; a name that describes none is only trimmed and
put in small letters. There is none for a name with a colour that cannot be read. -/
def canonical? (name : List Char) : Option (List Char) :=
  match ofText name with
  | .ok style => some (if style.words = [] then "none".toList else [' '].intercalate style.words)
  | .error .noStyle => some (Unicode.lower (trim name))
  | .error .unreadable => none

end TextStyle
end StubPlan
