import StubPlan.Description.Schema
import StubPlan.Failure
import StubPlan.Parser
import StubPlan.Text.Quoted
import StubPlan.Url.Basic
import StubPlan.Workspace

/-! Loading an API description from a file or from behind a URL. How a text is parsed, what a request
comes to and which values are descriptions is up to a loader. -/
namespace StubPlan

/-- What a request for a URL comes to: the text of a response, a failure of the transfer or of the
response, or an error of another kind. Both have a name, and a failure may have a message. -/
inductive Reply where
  | text (s : String)
  | failed (name : String) (message : Option String)
  | raised (name : String)
  deriving DecidableEq, Repr

/-- What descriptions are loaded with: a parser of YAML texts, a way to request a URL, and a validator,
which makes a description of a value or tells what is wrong with it. -/
structure Loader (δ : Type) where
  yaml : List Char → Except ParserFault Value
  fetch : String → Reply
  validate : Value → Checked δ

inductive LoadCause where
  | notFound (path : String)
  | isDirectory (path : String)
  | nameTooLong (path : String)
  | undecodable (fault : Utf8.Fault)
  | malformed
  | invalid (faults : List Fault)
  | transfer (name : String) (message : Option String)
  deriving DecidableEq, Repr

/-- How loading fails: with a cause that is reported, or by an error of the parser or of the request
that ends the run. -/
inductive LoadError where
  | failed (source : String) (cause : LoadCause)
  | parser (error : ParserError)
  | request (name : String)
  deriving DecidableEq, Repr

/-- The text of a cause, for the causes whose text is told. A cause found by the file system comes
with its number there. -/
def LoadCause.text? : LoadCause → Option String
  | notFound path => some ("Description file not found: " ++ path)
  | isDirectory path => some ("[Errno 21] Is a directory: " ++ Text.quoted (Path.tidy path))
  | nameTooLong path => some ("[Errno 36] File name too long: " ++ Text.quoted (Path.tidy path))
  | undecodable fault => some fault.message
  | transfer _ message => message
  | _ => none

namespace Loader

variable {δ : Type} (l : Loader δ)

/-- The description in a document; one that says nothing describes nothing. -/
def ofDocument (source : String) (v : Value) : Except LoadError δ :=
  match l.validate (if v.isEmpty then .map [] else v) with
  | .ok d => .ok d
  | .error faults => .error (.failed source (.invalid faults))

def ofText (source : String) (text : List Char) : Except LoadError δ :=
  match l.yaml text with
  | .ok v => l.ofDocument source v
  | .error .malformed => .error (.failed source .malformed)
  | .error (.raised error) => .error (.parser error)

def ofFile (w : Workspace) (source : String) : Except LoadError δ :=
  match w.find source with
  | .nameTooLong => .error (.failed source (.nameTooLong source))
  | .stored .directory => .error (.failed source (.isDirectory source))
  | .stored (.file bytes) => match fileText bytes with
    | .error fault => .error (.failed source (.undecodable fault))
    | .ok text => l.ofText source text
  | _ => .error (.failed source (.notFound source))

def ofUrl (source : String) : Except LoadError δ :=
  match l.fetch source with
  | .text s => l.ofText source s.toList
  | .failed name message => .error (.failed source (.transfer name message))
  | .raised name => .error (.request name)

def load (w : Workspace) (source : String) : Except LoadError δ :=
  if isUrl source then l.ofUrl source else l.ofFile w source

end Loader
end StubPlan
