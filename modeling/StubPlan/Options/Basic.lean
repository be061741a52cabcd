import StubPlan.Value

/-! The options of a generation run. -/
namespace StubPlan

/-- The options, in the order in which they are read. -/
inductive OptionField where
  | description
  | outputFolder
  | packageName
  | packageVersion
  | pythonSrcRoot
  | testsRoot
  | apiPackage
  | modelPackage
  | handlerPackage
  | serverPort
  | contextPath
  | featureCors
  | languageVersion
  | appName
  | appDescription
  | infoEmail
  | packageUrl
  deriving DecidableEq, Repr

/-- What an option takes: a text, with a default of its own, a text or nothing, or a flag. -/
inductive OptionKind where
  | text (default : String)
  | optionalText
  | flag
  deriving DecidableEq, Repr

namespace OptionField

def all : List OptionField :=
  [.description, .outputFolder, .packageName, .packageVersion, .pythonSrcRoot, .testsRoot,
   .apiPackage, .modelPackage, .handlerPackage, .serverPort, .contextPath, .featureCors,
   .languageVersion, .appName, .appDescription, .infoEmail, .packageUrl]

def name : OptionField → String
  | description => "description"
  | outputFolder => "output_folder"
  | packageName => "package_name"
  | packageVersion => "package_version"
  | pythonSrcRoot => "python_src_root"
  | testsRoot => "tests_root"
  | apiPackage => "api_package"
  | modelPackage => "model_package"
  | handlerPackage => "handler_package"
  | serverPort => "server_port"
  | contextPath => "context_path"
  | featureCors => "feature_cors"
  | languageVersion => "generator_language_version"
  | appName => "app_name"
  | appDescription => "app_description"
  | infoEmail => "info_email"
  | packageUrl => "package_url"

def kind : OptionField → OptionKind
  | outputFolder => .text "generated-code/aiohttp-openapi-codegen"
  | packageName => .text "aiohttp_server"
  | pythonSrcRoot => .text ""
  | testsRoot => .text "tests"
  | languageVersion => .text "3.11"
  | featureCors => .flag
  | _ => .optionalText

def default (f : OptionField) : Value :=
  match f.kind with
  | .text s => .text s
  | .optionalText => .null
  | .flag => .flag false

def ofName? (name : String) : Option OptionField := all.find? (·.name = name)

theorem mem_all (f : OptionField) : f ∈ all := by cases f <;> decide

end OptionField

structure Options where
  value : OptionField → Value

namespace Options

def set (o : Options) (f : OptionField) (v : Value) : Options :=
  ⟨fun g => if g = f then v else o.value g⟩

def entries (o : Options) : List (Value × Value) :=
  OptionField.all.map fun f => (.text f.name, o.value f)

end Options
end StubPlan
