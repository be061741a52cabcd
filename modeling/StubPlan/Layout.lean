import StubPlan.Name.SnakeCase
import StubPlan.Path

/-! Where the files of a generated project go. Directories are relative to the output folder; the
empty path is the output folder itself. -/
namespace StubPlan

/-- A file that belongs to the project as a whole: its template, its directory and its name. -/
structure SupportingFile where
  template : String
  folder : String
  destination : String
  deriving DecidableEq, Repr

/-- The path of a supporting file, relative to the output folder. -/
def SupportingFile.path (f : SupportingFile) : String :=
  Path.join [some f.folder, some f.destination]

/-- The directories of one generated project. It is flattened when the output folder already is the
package. The output folder may be unset in a layout that is not written out. -/
structure Layout where
  packageName : String
  outputFolder : Option String
  sourceRoot : String
  testsRoot : String
  handlerPackage : String
  flatten : Bool
  packageRootDir : String
  controllersDir : String
  schemasDir : String
  handlersDir : String
  testsDir : String
  controllerTestsDir : String
  deriving DecidableEq, Repr

def packagePath (package : String) : String := Text.replace "." "/" package

/-- The directory of a package relative to the root package; blank and the root package itself are
the root's own directory. -/
def relativePackageDir (packageName : String) (target : Option String) : String :=
  let name := Text.trim (target.getD "")
  if name = "" ∨ name = packageName then ""
  else packagePath ((Text.dropFront? (packageName ++ ".") name).getD name)

namespace Layout

/-- The directory of the tests when nothing else names it. -/
def defaultTestsRoot : String := "tests"

/-- The layout of a project. Without a handler package, handlers live in the package `handlers` of
the root package. -/
def resolve (packageName : String)
    (outputFolder sourceRoot testsRoot handlerPackage : Option String) : Layout :=
  let handlerPackage :=
    Text.trim ((Text.present? handlerPackage).getD (packageName ++ ".handlers"))
  let flatten :=
    !packageName.toList.contains '.' && Path.lastSegment (outputFolder.getD "") = packageName
  let sourceRoot := Path.normalizeRelative sourceRoot
  let testsRoot := Path.normalizeRelative testsRoot
  let root := if flatten then "" else Path.join [some sourceRoot, some (packagePath packageName)]
  let testsDir := Path.join [some root, some testsRoot]
  { packageName, outputFolder, sourceRoot, testsRoot, handlerPackage, flatten
    packageRootDir := root
    controllersDir := Path.join [some root, some "controllers"]
    schemasDir := Path.join [some root, some "schemas"]
    handlersDir := Path.join [some root, some (relativePackageDir packageName handlerPackage)]
    testsDir
    controllerTestsDir := Path.join [some testsDir, some "controllers"] }

def outputPath (l : Layout) (relative : String) : Option String :=
  if relative = "" then l.outputFolder else some (Path.join [l.outputFolder, some relative])

def modelFilename (classname : String) : String := Name.snakeCase classname ++ ".py"

def controllerFilename (group : String) : String := Name.snakeCase group ++ "_controller.py"

def controllerTestFilename (group : String) : String :=
  Name.snakeCase group ++ "_controller_test.py"

def handlerFilename (group : String) : String := Name.snakeCase group ++ "_handler.py"

def supportingFiles (l : Layout) : List SupportingFile :=
  [⟨"app.mustache", l.packageRootDir, "app.py"⟩,
   ⟨"__init__main.mustache", l.packageRootDir, "__init__.py"⟩,
   ⟨"typing_utils.mustache", l.packageRootDir, "typing_utils.py"⟩,
   ⟨"util.mustache", l.packageRootDir, "util.py"⟩,
   ⟨"__init__.mustache", l.controllersDir, "__init__.py"⟩,
   ⟨"handler_init.mustache", l.handlersDir, "__init__.py"⟩,
   ⟨"handler_base.mustache", l.handlersDir, "base.py"⟩,
   ⟨"base_model.mustache", l.schemasDir, "base_model.py"⟩,
   ⟨"__init__model.mustache", l.schemasDir, "__init__.py"⟩,
   ⟨"conftest.mustache", l.testsDir, "conftest.py"⟩,
   ⟨"__init__test.mustache", l.testsDir, "__init__.py"⟩]

end Layout
end StubPlan
