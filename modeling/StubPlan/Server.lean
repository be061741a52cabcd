import StubPlan.Description.Basic
import StubPlan.Path
import StubPlan.Url.Basic

/-! Servers: the URL that a template gives, and the port and context path that a list of servers
implies for the generated application. -/
namespace StubPlan
open Chars

/-- The text that marks the place of a variable in a template. -/
def placeholder (name : String) : String := String.ofList ('{' :: name.toList ++ ['}'])

/-- What stands for a variable: its default, or its name when no default is given. -/
def ServerVariable.replacement (name : String) (given : Option ServerVariable) : String :=
  (Text.present? (given.bind (·.default))).getD name

/-- Whether a character cannot stand in a URL; braces left over from a template are among them. -/
def isIllegalUrlChar (c : Char) : Bool :=
  Text.isBlankChar c ||
    ['"', '<', '>', '\\', '^', '\x60', '{', '|', '}'].contains c

namespace Server

/-- The template with every declared variable put in, one variable after another. -/
def substituted (server : Server) : String :=
  server.declared.foldl
    (fun url (name, given) =>
      Text.replace (placeholder name) (ServerVariable.replacement name given) url)
    (server.url.getD "")

/-- The server's URL; there is none when the template is blank or what it gives cannot be read. -/
def resolvedUrl? (server : Server) : Option Url :=
  if Text.isBlank (server.url.getD "") then none
  else
    let text := trim server.substituted.toList
    if text.any isIllegalUrlChar then none
    else (Url.parse? text).filter fun url => url.port?.isSome

end Server

def schemePort (scheme : String) : Nat :=
  if scheme = "https" then 443 else if scheme = "http" then 80 else 0

/-- The port that a URL carries or implies; nothing when there is none. -/
def Url.listenPort (url : Url) : String :=
  match (url.port?.bind id).getD 0 with
  | 0 => match schemePort url.scheme with
    | 0 => ""
    | port => toString port
  | port => toString port

/-- The context path that a URL carries; nothing for the root. -/
def Url.contextPath (url : Url) : String :=
  if Text.isBlank url.path then ""
  else Path.context (some (String.ofList (Url.percentDecode url.path.toList)))

/-- A port given by the user, if it is made of ASCII digits; nothing otherwise. -/
def explicitPort (raw : Option String) : String :=
  let text := trim (raw.getD "").toList
  if Url.isDigits text then String.ofList text else ""

/-- The port to listen on, in digits, and the context path, which is empty for the root. -/
structure ServerDefaults where
  port : String
  contextPath : String
  deriving DecidableEq, Repr

namespace ServerDefaults

def defaultPort : String := "8080"

/-- Look through the servers in order for what is still missing, and stop when nothing is. -/
def scan (known : ServerDefaults) : List (Option Server) → ServerDefaults
  | [] => known
  | server :: rest =>
    if known.port ≠ "" ∧ known.contextPath ≠ "" then known
    else match server.bind Server.resolvedUrl? with
      | none => scan known rest
      | some url =>
        let port := if known.port = "" then url.listenPort else known.port
        let contextPath := if known.contextPath = "" then url.contextPath else known.contextPath
        scan ⟨port, contextPath⟩ rest

/-- The defaults for a list of servers; what the user gives explicitly comes first. -/
def resolve (servers : List (Option Server)) (port contextPath : Option String) :
    ServerDefaults :=
  let found := scan ⟨explicitPort port, Path.context contextPath⟩ servers
  if found.port = "" then { found with port := defaultPort } else found

end ServerDefaults
end StubPlan
