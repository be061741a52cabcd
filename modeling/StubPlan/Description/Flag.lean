import StubPlan.Description.Fault
import StubPlan.Value

/-! Reading a flag. Besides the two truth values, zero and one and some words stand for a flag, in
any case of letters. -/
namespace StubPlan

def falseWords : List String := ["0", "off", "f", "false", "n", "no"]

def trueWords : List String := ["1", "on", "t", "true", "y", "yes"]

def flagOfWord? (word : String) : Option Bool :=
  let small := String.ofList (word.toList.map Char.toLower)
  if falseWords.contains small then some false
  else if trueWords.contains small then some true
  else none

def flagOfInt? (n : Int) : Option Bool :=
  if n = 0 then some false else if n = 1 then some true else none

def readFlagWord (word : String) : Checked Bool :=
  match flagOfWord? word with
  | some b => .ok b
  | none => Checked.fault .unreadableFlag

/-- The flag that a value stands for. A number outside the signed 64-bit range, and a float that is
its negative end, is of another kind than asked for. -/
def readFlag : Value → Checked Bool
  | .flag b => .ok b
  | .text s => readFlagWord s
  | .bytes bs => match Checked.textOfBytes bs with
    | .ok s => readFlagWord s
    | .error _ => Checked.fault .unreadableFlag
  | .int n =>
    if -(twoTo 63 : Int) ≤ n ∧ n < twoTo 63 then
      match flagOfInt? n with
      | some b => .ok b
      | none => Checked.fault .unreadableFlag
    else Checked.fault .notFlag
  | .float x => match x.toInt? with
    | some n =>
      if -(twoTo 63 : Int) < n ∧ n < twoTo 63 then
        match flagOfInt? n with
        | some b => .ok b
        | none => Checked.fault .unreadableFlag
      else Checked.fault .notFlag
    | none => Checked.fault .notFlag
  | _ => Checked.fault .notFlag

end StubPlan
