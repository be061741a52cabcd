import StubPlan.Description.Load
import StubPlan.Url.Request
import StubPlan.Yaml.Document

/-! The loader that the program runs with: its parser, its requests and its validator. -/
namespace StubPlan

/-- The codes with both halves of a surrogate pair, where they stand side by side, as the one code
that they make. -/
def joinHalves : List Nat → List Nat
  | high :: low :: rest =>
    if 0xD800 ≤ high ∧ high < 0xDC00 ∧ 0xDC00 ≤ low ∧ low < 0xE000 then
      (0x10000 + (high - 0xD800) * 0x400 + (low - 0xDC00)) :: joinHalves rest
    else high :: joinHalves (low :: rest)
  | codes => codes

namespace Value

mutual
/-- A value in which halves of surrogate pairs that make up texts are those texts. -/
def joined : Value → Value
  | .halves codes =>
    let whole := joinHalves codes
    if whole.any Yaml.isHalf then .halves codes else .text (String.ofList (whole.map Char.ofNat))
  | .list items => .list (joinedItems items)
  | .map entries => .map (joinedEntries entries)
  | v => v
def joinedItems : List Value → List Value
  | [] => []
  | v :: rest => v.joined :: joinedItems rest
def joinedEntries : List (Value × Value) → List (Value × Value)
  | [] => []
  | (k, v) :: rest => (k.joined, v.joined) :: joinedEntries rest
end

end Value

/-- What a server answers to a request: a page with a status, or a failure of the transfer, by its
name. -/
inductive Served where
  | page (status : Int) (text : String)
  | failure (name : String)
  deriving DecidableEq, Repr

def foreignFailures : List String :=
  ["InvalidURL", "CookieConflict", "StreamError", "StreamConsumed", "StreamClosed",
   "ResponseNotRead", "RequestNotRead"]

def Url.RequestFault.name : Url.RequestFault → String
  | .invalid => "InvalidURL"
  | .host .form => "IDNAError"
  | .host .character => "InvalidCodepoint"
  | .host .context => "InvalidCodepointContext"
  | .host .direction => "IDNABidiError"

def schemeMessage : String → String
  | "" => "Request URL is missing an 'http://' or 'https://' protocol."
  | scheme => "Request URL has an unsupported protocol '" ++ scheme ++ "://'."

/-- What a request for a URL comes to, given what a server serves. Without a server no scheme is
served, and an answer to a request that is addressed to nobody is of no use. -/
def Url.fetch (served : Option Served) (text : String) : Reply :=
  match Url.request text with
  | .error fault => .raised fault.name
  | .ok requested => match served with
    | none => .failed "UnsupportedProtocol"
        (some (schemeMessage (if requested.isAddressed then requested.scheme else "")))
    | some (.failure name) =>
      if foreignFailures.contains name then .raised name else .failed name none
    | some (.page status text) =>
      if !requested.isAddressed then .raised "ValueError"
      else if 200 ≤ status ∧ status ≤ 299 then .text text
      else .failed "HTTPStatusError" none

def requestedUrls (source : String) : List String :=
  if isUrl source then (Url.request source).toOption.toList.map (·.text) else []

/-- The loader for what a server serves, whose YAML texts may have no more than `maxDepth` nodes around
another. Halves of surrogate pairs that stay single are no texts to it. -/
def Loader.standard (served : Option Served) (maxDepth : Nat) : Loader ApiDescription where
  yaml := Yaml.read .common maxDepth
  fetch := Url.fetch served
  validate v := Described.read ApiDescription v.joined

end StubPlan
