import StubPlan.CommandLine.Run
import StubPlan.Console.Standard
import StubPlan.Description.Standard

/-! The program: it looks at the files that its arguments lead to, and prints what the arguments ask
for. -/
open StubPlan

namespace Program

/-- The number by which the operating system says that a path is a directory. -/
def directoryCode : UInt32 := 21

def stored? (path : String) : IO (Option Stored) := do
  try
    return some (.file (← IO.FS.readBinFile path).toList)
  catch
    | .inappropriateType _ code _ => return if code = directoryCode then some .directory else none
    | _ => return none

def look (w : Workspace) (paths : List String) : IO Workspace := do
  let found ← paths.filterMapM fun path => return (← stored? path).map (path, ·)
  return { w with entries := found ++ w.entries }

def environment : IO Environment :=
  OptionField.all.filterMapM fun f => do
    let name := (environmentPrefix ++ f.name).toUpper
    return (← IO.getEnv name).map (name, ·)

/-- What the program reads and prints with, on a console of a width. It asks no server. -/
def tools (width : Nat) : Tools :=
  ⟨.standard .usual, .standard none Configuration.Depths.usual.yaml, .standard width⟩

def lookFor (w : Workspace) (env : Environment) (s : Selection) : IO Workspace := do
  let candidates := Configuration.filenames ++ [Configuration.projectFilename]
  let w ← look w (candidates ++ s.config.toList)
  match Configuration.load (Configuration.Parsers.standard .usual).reader ⟨env, w⟩ s.config with
  | .ok options => look w (s.source options).toOption.join.toList
  | .error _ => return w

def defaultWidth : Nat := 80

end Program

def main (args : List String) : IO UInt32 := do
  let width := ((← IO.getEnv "COLUMNS").bind String.toNat?).getD Program.defaultWidth
  let env ← Program.environment
  let empty : Workspace := ⟨(← IO.getEnv "PWD").getD "/", []⟩
  let w ← match Invocation.read false args with
    | .ok (.properties s) | .ok (.layout s) => Program.lookFor empty env s
    | _ => pure empty
  let outcome := runArguments (Program.tools width) ⟨env, w⟩ args
  for line in outcome.lines do
    IO.println line
  match outcome.ending with
  | .misused e => IO.eprintln e.message
  | .interrupted e => IO.eprintln (repr e).pretty
  | _ => pure ()
  return outcome.ending.exitCode.toUInt32
