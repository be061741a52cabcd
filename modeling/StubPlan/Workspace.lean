import StubPlan.Path
import StubPlan.Text.Utf8

/-! The files that a run can see from its directory. -/
namespace StubPlan
open Chars

/-- What stands under a path: a file with its bytes, or a directory. -/
inductive Stored where
  | file (bytes : List UInt8)
  | directory
  deriving DecidableEq, Repr

/-- The directory of a run and what stands under paths, absolute or relative to it. -/
structure Workspace where
  root : String
  entries : List (String × Stored)

/-- What a look-up gives: something that is stored or nothing, or a fault of the path. It may lead on
from a file, have a name too long for a file system, or hold a character that no name has. -/
inductive Found where
  | stored (s : Stored)
  | nothing
  | underFile
  | nameTooLong
  | unnameable
  deriving DecidableEq, Repr

/-- The most bytes of a file's name. -/
def maxNameBytes : Nat := 255

/-- The most bytes of a path, with the mark at its end. -/
def maxPathBytes : Nat := 4096

namespace Workspace

/-- Where a path leads from a directory, by its names alone: two dots go up, and not beyond the root
of the file system. -/
def descend (here names : List (List Char)) : List (List Char) :=
  names.foldl (fun here name => if name = ['.', '.'] then here.dropLast else here ++ [name]) here

/-- The directory that a path starts from: the root of the file system or of the workspace. -/
def origin (w : Workspace) (path : String) : List (List Char) :=
  if path.toList.head? = some '/' then [] else Path.segments w.root.toList

/-- The names that lead from the root of the file system to an entry. -/
def place (w : Workspace) (path : String) : List (List Char) :=
  descend (w.origin path) (Path.segments path.toList)

/-- What stands under names from the root of the file system. The root of the workspace is a
directory, and so is all that holds an entry or the root. -/
def at? (w : Workspace) (names : List (List Char)) : Option Stored :=
  match w.entries.find? fun (path, _) => w.place path = names with
  | some (_, s) => some s
  | none =>
    if names.isPrefixOf (Path.segments w.root.toList) ||
        w.entries.any fun (path, _) => names.isPrefixOf (w.place path) then
      some .directory
    else none

/-- What is found on a walk along names, from a directory or a file. -/
def walk (w : Workspace) (here : List (List Char)) : List (List Char) → Found
  | [] => match w.at? here with
    | some s => .stored s
    | none => .nothing
  | name :: rest => match w.at? here with
    | none => .nothing
    | some (.file _) => .underFile
    | some .directory =>
      if (String.ofList name).utf8ByteSize > maxNameBytes then .nameTooLong
      else walk w (descend here [name]) rest

def find (w : Workspace) (path : String) : Found :=
  if path.toList.contains '\x00' then .unnameable
  else if (Path.tidy path).utf8ByteSize ≥ maxPathBytes then .nameTooLong
  else w.walk (w.origin path) (Path.segments path.toList)

/-- The names that stand right under a directory. -/
def namesIn (w : Workspace) (path : String) : List String :=
  let here := w.place path
  ((w.entries.map fun (path, _) => w.place path).filterMap fun names =>
    if here.isPrefixOf names then (names.drop here.length).head?.map String.ofList else none).eraseDups

def under (w : Workspace) (name : String) : String := w.root ++ "/" ++ name

end Workspace

/-- A text with every line break as a line feed. -/
def unifyBreaks : List Char → List Char
  | '\r' :: '\n' :: rest => '\n' :: unifyBreaks rest
  | '\r' :: rest => '\n' :: unifyBreaks rest
  | c :: rest => c :: unifyBreaks rest
  | [] => []

def fileText (bytes : List UInt8) : Except Utf8.Fault (List Char) :=
  (Utf8.decode bytes).map unifyBreaks

end StubPlan
