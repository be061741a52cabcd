import StubPlan.Value

/-! Dates and times of the Gregorian calendar, and their text in code. -/
namespace StubPlan.Calendar

def isLeap (year : Nat) : Bool := (year % 4 = 0 && year % 100 ≠ 0) || year % 400 = 0

def monthLength (year month : Nat) : Nat :=
  match month with
  | 2 => if isLeap year then 29 else 28
  | 4 | 6 | 9 | 11 => 30
  | _ => 31

def isDate (year month day : Nat) : Bool :=
  1 ≤ year && year ≤ 9999 && 1 ≤ month && month ≤ 12 && 1 ≤ day && day ≤ monthLength year month

def isTime (hour minute second : Nat) : Bool := hour < 24 && minute < 60 && second < 60

/-- The distance of a clock from universal time, in seconds, where one is given. -/
abbrev Offset := Option Int

/-- Whether a clock may be that far from universal time: less than a day. -/
def isOffset (seconds : Int) : Bool := -86400 < seconds && seconds < 86400

def offsetCode (offset : Offset) : String :=
  match offset with
  | none => ""
  | some 0 => ", tzinfo=datetime.timezone.utc"
  | some s =>
    let days := if s < 0 then "days=-1, " else ""
    let seconds := if s < 0 then s + 86400 else s
    ", tzinfo=datetime.timezone(datetime.timedelta(" ++ days ++ "seconds=" ++ toString seconds ++ "))"

/-- The text of a time of day in code: seconds and microseconds only when they are not zero. -/
def timeCode (hour minute second micro : Nat) : String :=
  toString hour ++ ", " ++ toString minute ++
    (if second = 0 ∧ micro = 0 then "" else ", " ++ toString second) ++
    (if micro = 0 then "" else ", " ++ toString micro)

def dateCode (year month day : Nat) : String :=
  toString year ++ ", " ++ toString month ++ ", " ++ toString day

/-- The microseconds that the digits of a fraction write; digits past the sixth do not count. -/
def micros (fraction : List Char) : Nat :=
  let six := (fraction ++ List.replicate 6 '0').take 6
  six.foldl (fun n c => 10 * n + (c.toNat - 48)) 0

end StubPlan.Calendar
