import StubPlan.HostName.Basic
import StubPlan.Unicode.LetterCase
import StubPlan.Url.Basic

/-! The form in which a URL is requested: lower case scheme and host, no default port, no dot
segments, and escapes for characters that cannot stand in their part. -/
namespace StubPlan.Url
open Chars

/-- The two hexadecimal digits of a byte, in upper case. -/
def hexByte (b : Nat) : List Char :=
  let digit (n : Nat) : Char := (Nat.digitChar n).toUpper
  [digit (b / 16 % 16), digit (b % 16)]

/-- The escapes of a character's bytes. -/
def percentEncode (c : Char) : List Char :=
  c.toString.toUTF8.toList.flatMap fun b => '%' :: hexByte b.toNat

/-- The characters of ASCII that may stand in a part, given those that may not. -/
def isAllowed (forbidden : List Char) (c : Char) : Bool :=
  32 < c.toNat && c.toNat < 127 && !forbidden.contains c

/-- A part with escapes for all characters that are not allowed; escapes in it stay. -/
def quotePart (allowed : Char → Bool) : List Char → List Char
  | [] => []
  | '%' :: a :: b :: rest =>
    if (hexValue? a).isSome && (hexValue? b).isSome then '%' :: a :: b :: quotePart allowed rest
    else percentOr '%' ++ quotePart allowed (a :: b :: rest)
  | c :: rest => percentOr c ++ quotePart allowed rest
where
  /-- A character, or its escapes when it is not allowed. -/
  percentOr (c : Char) : List Char := if allowed c then [c] else percentEncode c

def notInQuery : List Char := ['"', '#', '<', '>']

def notInPath : List Char := notInQuery ++ ['?', '\x60', '\x7b', '\x7d']

def notInUser : List Char := notInPath ++ ['/', ';', '=', '@', '[', '\\', ']', '^', '|']

def notInFragment : List Char := ['"', '<', '>', '\x60']

def isHostChar (c : Char) : Bool :=
  c.isAlphanum || "-._~!$&'()*+,;=\"\x60\x7b\x7d%|\\".toList.contains c

/-- Whether a host has the form of an IPv4 address: four numbers with dots between them. -/
def looksIPv4 (s : List Char) : Bool :=
  let numbers := splitAt '.' s
  numbers.length = 4 && numbers.all isDigits

def defaultPort? (scheme : String) : Option Int :=
  match scheme with
  | "ftp" => some 21
  | "http" | "ws" => some 80
  | "https" | "wss" => some 443
  | _ => none

/-- The parts of an authority: user, host with its brackets, and the text of the port. -/
def authorityParts (authority : List Char) : List Char × List Char × List Char :=
  let (user, rest) := (cutAtLast? '@' authority).getD ([], authority)
  let colonOff : List Char → List Char
    | ':' :: s => s
    | s => s
  match rest, cutAtLast? ']' rest with
  | '[' :: _, some (inside, after) => (user, inside ++ [']'], colonOff after)
  | _, _ =>
    let outside := fun c => c ≠ ':' ∧ c ≠ '@'
    (user, rest.takeWhile outside, colonOff (rest.dropWhile outside))

/-- The host in the form in which it is requested. A host that looks like an address must be one, and
one with characters beyond ASCII a name. -/
def requestHost? (host : List Char) : Option (List Char) :=
  match host with
  | '[' :: inside =>
    if host.getLast? = some ']' then
      if isIPv6 inside.dropLast then some host else none
    else some (quotePart isHostChar (host.map Char.toLower))
  | host =>
    if looksIPv4 host then (if isIPv4 host then some host else none)
    else if host.all (·.toNat < 128) then some (quotePart isHostChar (host.map Char.toLower))
    else (HostName.encode (Unicode.lower host)).toOption

def resolveDots (path : List Char) : List Char :=
  let parts := splitAt '/' path
  if parts.contains ['.'] || parts.contains ['.', '.'] then
    let kept := parts.foldl (fun done part =>
      if part = ['.'] then done
      else if part = ['.', '.'] then (if done = [] || done = [[]] then done else done.dropLast)
      else done ++ [part]) ([] : List (List Char))
    ['/'].intercalate kept
  else path

/-- A URL as it is requested: its text and its scheme. One without a scheme or a host is not addressed
to anybody. -/
structure Requested where
  text : String
  scheme : String
  isAddressed : Bool
  deriving DecidableEq, Repr

/-- Why a URL cannot be requested: a part of it is invalid, or its host stands for a name that is
none. -/
inductive RequestFault where
  | invalid
  | host (fault : HostName.Fault)
  deriving DecidableEq, Repr

def maxRequestLength : Nat := 65536

/-- A URL as it is requested and its host; nothing when a part of it is invalid. The port that the
scheme implies is left out if the scheme is written in lower case. -/
def requestParts? (text : String) : Option (Requested × List Char) := do
  let s := text.toList
  if s.length > maxRequestLength ∨ s.any (fun c => c.toNat < 32 || c.toNat = 127) then none
  let (scheme, rest) := takeScheme s
  let written := s.take scheme.length
  let (authority, rest) := takeAuthority rest
  let (rest, fragment) := (cutAt? '#' rest).elim (rest, none) fun (a, b) => (a, some b)
  let (path, query) := (cutAt? '?' rest).elim (rest, none) fun (a, b) => (a, some b)
  let (user, host, port) := authorityParts authority
  let host ← requestHost? host
  let port ← if port = [] then some none else (Numeral.int? port).map some
  let port := if port = defaultPort? (String.ofList written) then none else port
  let path := if scheme = [] && authority = [] then path else resolveDots path
  let user := quotePart (isAllowed notInUser) user
  let shownAuthority :=
    (if user = [] then [] else user ++ ['@']) ++ host ++
      (match port with | some n => ':' :: (toString n).toList | none => [])
  let shown :=
    (if scheme = [] then [] else scheme ++ [':']) ++
    (if shownAuthority = [] then [] else '/' :: '/' :: shownAuthority) ++
    quotePart (isAllowed notInPath) path ++
    (match query with | some q => '?' :: quotePart (isAllowed notInQuery) q | none => []) ++
    (match fragment with | some f => '#' :: quotePart (isAllowed notInFragment) f | none => [])
  some (⟨String.ofList shown, String.ofList scheme, scheme ≠ [] && host ≠ []⟩, host)

/-- A URL as it is requested, or why it cannot be. -/
def request (text : String) : Except RequestFault Requested := do
  match requestParts? text with
  | none => .error .invalid
  | some (r, host) =>
    if r.isAddressed then (HostName.check host).mapError .host
    return r

end StubPlan.Url
