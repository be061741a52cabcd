import StubPlan.Layout
import StubPlan.Name.Package
import StubPlan.Options.Basic
import StubPlan.Server

/-! The values that hold for a whole generation run, resolved from the options and the description
once. -/
namespace StubPlan

/-- Why the values of a run cannot be resolved: an option that was assigned later is no text. The
output folder must be one; other options may also be unset. -/
inductive Obstacle where
  | outputFolderNotText
  | optionNotText (f : OptionField)
  deriving DecidableEq, Repr

/-- The values of a run. Two options are handed on to the templates unread. -/
structure Context where
  packageName : String
  packageVersion : String
  apiPackage : String
  modelPackage : String
  handlerPackage : String
  layout : Layout
  server : ServerDefaults
  appName : Option String
  appDescription : String
  infoEmail : String
  packageUrl : String
  featureCors : Value
  languageVersion : Value

namespace Options

def text? (o : Options) (f : OptionField) : Except Obstacle (Option String) :=
  match o.value f with
  | .null => .ok none
  | .text s => .ok (some s)
  | _ => .error (.optionNotText f)

def outputFolder (o : Options) : Except Obstacle String :=
  match o.value .outputFolder with
  | .text s => .ok s
  | _ => .error .outputFolderNotText

/-- The text that names the package; a value that says nothing counts as none. -/
def packageText (o : Options) : Except Obstacle (Option String) :=
  if (o.value .packageName).isEmpty then .ok none else o.text? .packageName

end Options

namespace Context

/-- The version of a package when neither options nor description give one. -/
def defaultVersion : String := "1.0.0"

/-- The email address when neither options nor description give one. -/
def defaultEmail : String := "support@example.com"

/-- The address of the project when neither options nor description give one. -/
def defaultUrl : String := "https://example.com"

/-- The first of two texts that is present, else a default that is never blank. -/
def firstOr (default : String) (values : List (Option String)) : String :=
  (Text.firstPresent? values).getD default

/-- An application's name made of its package's name. -/
def spokenName (packageName : String) : String :=
  Name.capitalize (Text.replace "_" " " packageName)

/-- The text that introduces an application about which nothing is said. -/
def defaultDescription (appName : Option String) : String :=
  appName.getD "None" ++ " server stub generated by OpenAPI Generator."

def resolve (o : Options) (d : ApiDescription) : Except Obstacle Context := do
  let outputFolder ← o.outputFolder
  let packageName := Name.packageName (← o.packageText) (some (Path.lastSegment outputFolder))
  let apiPackage ← o.text? .apiPackage
  let modelPackage ← o.text? .modelPackage
  let handlerPackage ← o.text? .handlerPackage
  let contextPath ← o.text? .contextPath
  let pythonSrcRoot ← o.text? .pythonSrcRoot
  let testsRoot ← o.text? .testsRoot
  let packageVersion ← o.text? .packageVersion
  let appName ← o.text? .appName
  let appDescription ← o.text? .appDescription
  let infoEmail ← o.text? .infoEmail
  let packageUrl ← o.text? .packageUrl
  let contact := d.info.bind (·.contact)
  let handlerPackage := firstOr (packageName ++ ".handlers") [handlerPackage]
  let appName :=
    Text.firstPresent? [appName, d.info.bind (·.title), some (spokenName packageName)]
  return {
    packageName
    packageVersion := firstOr defaultVersion [packageVersion, d.info.bind (·.version)]
    apiPackage := firstOr (packageName ++ ".controllers") [apiPackage]
    modelPackage := firstOr (packageName ++ ".schemas") [modelPackage]
    handlerPackage
    layout := Layout.resolve packageName (some outputFolder) pythonSrcRoot testsRoot
      (some handlerPackage)
    server := ServerDefaults.resolve (d.servers.map some) (o.value .serverPort).scalarText?
      contextPath
    appName
    appDescription :=
      firstOr (defaultDescription appName) [appDescription, d.info.bind (·.description)]
    infoEmail := firstOr defaultEmail [infoEmail, contact.bind (·.email)]
    packageUrl :=
      firstOr defaultUrl [packageUrl, contact.bind (·.url), d.info.bind (·.termsOfService)]
    featureCors := o.value .featureCors
    languageVersion := o.value .languageVersion }

/-- The values of a run under the names that the templates use. -/
def properties (c : Context) : List (String × Value) :=
  [("packageName", .text c.packageName),
   ("projectName", .text c.packageName),
   ("invokerPackage", .text c.packageName),
   ("packageVersion", .text c.packageVersion),
   ("apiPackage", .text c.apiPackage),
   ("modelPackage", .text c.modelPackage),
   ("handlerPackage", .text c.handlerPackage),
   ("pythonSrcRoot", .text c.layout.sourceRoot),
   ("sourceFolder", .text c.layout.sourceRoot),
   ("testsRoot", .text c.layout.testsRoot),
   ("serverPort", .text c.server.port),
   ("contextPath", .text c.server.contextPath),
   ("featureCORS", c.featureCors),
   ("generatorLanguageVersion", c.languageVersion),
   ("appName", match c.appName with | some name => .text name | none => .null),
   ("appDescription", .text c.appDescription),
   ("infoEmail", .text c.infoEmail),
   ("packageUrl", .text c.packageUrl)]

end Context
end StubPlan
