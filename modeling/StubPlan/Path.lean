import StubPlan.Text.Blank
import StubPlan.Text.Replace

/-! Paths whose segments are separated by slashes. -/
namespace StubPlan.Path
open Chars

def join (parts : List (Option String)) : String :=
  Text.join "/" (parts.filterMap Text.present?)

/-- A directory option without slashes at its ends; blank and `.` mean none. -/
def normalizeRelative (raw : Option String) : String :=
  let value := trim (raw.getD "").toList
  if value = ['.'] then "" else String.ofList (dropEndsWhile (· = '/') value)

/-- The segments that name something: neither empty nor `.`. -/
def segments (path : List Char) : List (List Char) :=
  (splitAt '/' path).filter fun s => s ≠ [] ∧ s ≠ ['.']

/-- A path without empty segments and single dots. -/
def tidy (path : String) : String :=
  let s := path.toList
  let front := match s with
    | '/' :: '/' :: '/' :: _ => ['/']
    | '/' :: '/' :: _ => ['/', '/']
    | '/' :: _ => ['/']
    | _ => []
  let body := ['/'].intercalate (segments s)
  if front = [] && body = [] then "." else String.ofList (front ++ body)

/-- The last segment, or nothing when no segment names anything. -/
def lastSegment (path : String) : String :=
  String.ofList ((segments path.toList).getLast?.getD [])

/-- The path under which an application is mounted: absolute, without a slash at its end; nothing
for the root. -/
def context (raw : Option String) : String :=
  match trim (raw.getD "").toList with
  | [] => ""
  | c :: rest =>
    String.ofList (dropEndWhile (· = '/') (if c = '/' then c :: rest else '/' :: c :: rest))

end StubPlan.Path
