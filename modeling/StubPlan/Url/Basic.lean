import StubPlan.Numeral
import StubPlan.Url.Host
import StubPlan.Name.SnakeCase

/-! URLs: scheme, authority, path, query and fragment. Reading one fails only on its authority. -/
namespace StubPlan
open Chars

/-- The parts of a URL; a part that is not there is empty. -/
structure Url where
  scheme : String
  authority : String
  path : String
  query : String
  fragment : String
  deriving DecidableEq, Repr

namespace Url

/-- Whether a character may follow the letter that begins a scheme. -/
def isSchemeChar (c : Char) : Bool :=
  Name.isCapital c || Name.isSmall c || ('0' ≤ c && c ≤ '9') || c = '+' || c = '-' || c = '.'

/-- The scheme in lower case and the text after its colon; without a scheme the whole text. -/
def takeScheme (s : List Char) : List Char × List Char :=
  match cutAt? ':' s with
  | some (c :: more, rest) =>
    if (Name.isCapital c || Name.isSmall c) && more.all isSchemeChar then
      ((c :: more).map Char.toLower, rest)
    else ([], s)
  | _ => ([], s)

/-- The authority, which follows two slashes and ends before the next slash, question mark or
number sign, and the text after it. -/
def takeAuthority : List Char → List Char × List Char
  | '/' :: '/' :: rest =>
    let inside := fun c => c ≠ '/' ∧ c ≠ '?' ∧ c ≠ '#'
    (rest.takeWhile inside, rest.dropWhile inside)
  | s => ([], s)

/-- The text before the first mark and the text after it, which is empty when there is no mark. -/
def cutOff (mark : Char) (s : List Char) : List Char × List Char := (cutAt? mark s).getD (s, [])

/-- The characters whose compatibility form has one of the marks that delimit a URL's parts. -/
def hiddenDelimiters : List Nat :=
  [0x2047, 0x2048, 0x2049, 0x2100, 0x2101, 0x2105, 0x2106, 0x2A74, 0xFE13, 0xFE16, 0xFE55, 0xFE56,
   0xFE5F, 0xFE6B, 0xFF03, 0xFF0F, 0xFF1A, 0xFF1F, 0xFF20]

/-- The part of an authority after the user's name and password. -/
def hostAndPort (authority : List Char) : List Char :=
  ((cutAtLast? '@' authority).map (·.2)).getD authority

/-- The host, without its brackets, and what follows it. -/
def takeHost (authority : List Char) : List Char × List Char :=
  let text := hostAndPort authority
  match cutAt? '[' text with
  | some (_, bracketed) => cutOff ']' bracketed
  | none =>
    let outside := fun c => c ≠ ':'
    (text.takeWhile outside, text.dropWhile outside)

/-- Whether brackets, if there are any, enclose a host that may stand in them and have nothing
around them but the user before and the port after. -/
def bracketsFit (authority : List Char) : Bool :=
  match authority.contains '[', authority.contains ']' with
  | false, false => true
  | true, true =>
    let (host, rest) := takeHost authority
    let before := (hostAndPort authority).takeWhile (· ≠ '[')
    let closed := !(hostAndPort authority).contains '[' ||
      (before = [] && (rest = [] || rest.head? = some ':'))
    closed && isBracketedHost host
  | _, _ => false

/-- The URL that a text writes. Leading controls and spaces do not count, nor do tabs and line ends
anywhere. -/
def parse? (text : List Char) : Option Url :=
  let clean := (text.dropWhile (·.toNat ≤ 32)).filter fun c => c ≠ '\t' ∧ c ≠ '\r' ∧ c ≠ '\n'
  let (scheme, rest) := takeScheme clean
  let (authority, rest) := takeAuthority rest
  let (rest, fragment) := cutOff '#' rest
  let (path, query) := cutOff '?' rest
  if bracketsFit authority && !authority.any (fun c => hiddenDelimiters.contains c.toNat) then
    some ⟨.ofList scheme, .ofList authority, .ofList path, .ofList query, .ofList fragment⟩
  else none

/-- The text of the port: what follows the first colon after the host. -/
def portText (u : Url) : List Char :=
  (cutOff ':' (takeHost u.authority.toList).2).2

/-- The port, or `none` when it is not there. The outer `none` is a port that is not a number up to
65535, or has more digits than a numeral may have. -/
def port? (u : Url) : Option (Option Nat) :=
  match u.portText with
  | [] => some none
  | text =>
    if isDigits text ∧ text.length ≤ maxNumeralDigits ∧ digitsValue text ≤ 65535 then
      some (some (digitsValue text))
    else none

end Url

/-- Whether a text names something to fetch: a URL with a scheme and an authority. -/
def isUrl (text : String) : Bool :=
  match Url.parse? text.toList with
  | some u => u.scheme ≠ "" && u.authority ≠ ""
  | none => false

end StubPlan
