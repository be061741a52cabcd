import StubPlan.Calendar
import StubPlan.Url.Host
import StubPlan.Yaml.Cursor
import StubPlan.Yaml.ScalarKind

/-! Dates and times in YAML: a date, or a date and a time of day, with or without an offset. -/
namespace StubPlan.Yaml
open Calendar

/-- The number of the digits here, of which there are at least `least` and at most `most`, and the
text after them. -/
def fieldOf? (least most : Nat) (s : List Char) : Option (Nat × List Char) :=
  let ds := (s.take most).takeWhile Form.isDigit
  if least ≤ ds.length then some (Url.digitsValue ds, s.drop ds.length) else none

def after? (c : Char) : List Char → Option (List Char)
  | [] => none
  | d :: rest => if c = d then some rest else none

/-- The text of an offset: the letter Z, or a sign, hours and perhaps minutes. -/
def offset? (s : List Char) : Option Offset :=
  match s.dropWhile fun c => c = ' ' || c = '\t' with
  | [] => if s = [] then some none else none
  | ['Z'] => some (some 0)
  | sign :: rest =>
    if sign = '+' || sign = '-' then do
      let (hours, rest) ← fieldOf? 1 2 rest
      let minutes ← match rest with
        | [] => some 0
        | rest => do
          let (m, rest) ← fieldOf? 2 2 (← after? ':' rest)
          if rest = [] then some m else none
      let seconds : Int := hours * 3600 + minutes * 60
      some (some (if sign = '-' then -seconds else seconds))
    else none

/-- The time of day and what follows a date: the gap, hours, minutes, seconds, a fraction and an
offset. -/
def timeOfDay? (s : List Char) : Option (Nat × Nat × Nat × Nat × Offset) := do
  let blanks := s.takeWhile fun c => c = ' ' || c = '\t'
  let s ← match s with
    | 'T' :: rest | 't' :: rest => some rest
    | s => if blanks = [] then none else some (s.drop blanks.length)
  let (hour, s) ← fieldOf? 1 2 s
  let (minute, s) ← fieldOf? 2 2 (← after? ':' s)
  let (second, s) ← fieldOf? 2 2 (← after? ':' s)
  let (fraction, s) := match s with
    | '.' :: rest => (rest.takeWhile Form.isDigit, rest.dropWhile Form.isDigit)
    | s => ([], s)
  let offset ← offset? s
  some (hour, minute, second, micros fraction, offset)

/-- The moment that a text writes, or the fault that there is no such moment; nothing when the text
does not have the form of one. -/
def moment? (s : List Char) : Option (Except ParserFault Moment) := do
  let (year, rest) ← fieldOf? 4 4 s
  let (month, rest) ← fieldOf? 1 2 (← after? '-' rest)
  let (day, rest) ← fieldOf? 1 2 (← after? '-' rest)
  if rest = [] then
    if isDate year month day then some (.ok (.date year month day))
    else some (.error (.raised .unreadable))
  else
    let (hour, minute, second, micro, offset) ← timeOfDay? rest
    if isDate year month day && isTime hour minute second && offset.all isOffset then
      some (.ok (.dateTime (dateCode year month day ++ ", " ++ timeCode hour minute second micro ++
        offsetCode offset)))
    else some (.error (.raised .unreadable))

/-- Whether a text is taken for a moment by itself: month and day of a date without a time must
have two digits then. -/
def isPlainMoment (s : List Char) : Bool :=
  (moment? s).isSome && (s.length = 10 || s.contains ':')

/-- The kind of a plain scalar, by its form. -/
def Kind.ofPlain (text : String) : Kind :=
  let s := text.toList
  if trueWords.contains text || falseWords.contains text then .flag
  else if Form.isFloat s then .float
  else if Form.isInt s then .int
  else if text = "<<" then .merge
  else if nullWords.contains text then .null
  else if isPlainMoment s then .moment
  else if text = "=" then .defaultValue
  else if ["!", "&", "*"].contains text then .unknown
  else .text

end StubPlan.Yaml
