import ParenCalc.Files.Path
import ParenCalc.Text.Utf8

namespace ParenCalc

/--
Files and directories, each with the names that lead to it from the root. Where a directory has no
bytes, a file has its contents. The directories on the way to an entry are there as well, and so is
the root. Paths that do not start at the root start at the working directory.
-/
structure FileTree where
  workingDirectory : List String := []
  entries : List (List String × Option (List UInt8)) := []

namespace FileTree

inductive Entry
  | file (bytes : List UInt8)
  | directory
  deriving DecidableEq, Repr

/--
What a path leads to. A name that is longer than file names can be is not looked up.
-/
inductive Lookup
  | file (bytes : List UInt8)
  | directory
  | missing
  | nameTooLong
  deriving DecidableEq, Repr

def entryAt? (tree : FileTree) (names : List String) : Option Entry :=
  match tree.entries.find? fun entry => entry.1 == names with
  | some (_, some bytes) => some (.file bytes)
  | some (_, none) => some .directory
  | none =>
    if names = [] ∨ tree.entries.any fun entry => names.isPrefixOf entry.1 then some .directory
    else none

def names (tree : FileTree) (directory : List String) : List String :=
  let names := tree.entries.filterMap fun entry =>
    if directory.isPrefixOf entry.1 then (entry.1.drop directory.length).head? else none
  names.eraseDups.mergeSort fun a b => decide (a ≤ b)

def maxNameLength : Nat := 255

def maxPathLength : Nat := 4095

/--
What the parts of a path lead to from the place that `names` lead to. A double dot leads back, and
stays at the root.
-/
def walk (tree : FileTree) (names : List String) : List String → Lookup
  | [] =>
    match tree.entryAt? names with
    | some (.file bytes) => .file bytes
    | some .directory => .directory
    | none => .missing
  | part :: parts =>
    if tree.entryAt? names ≠ some .directory then .missing
    else if part = ".." then tree.walk names.dropLast parts
    else if Text.Utf8.size part > maxNameLength then .nameTooLong
    else tree.walk (names ++ [part]) parts

def lookup (tree : FileTree) (path : Path) : Lookup :=
  let text := toString path
  if text.toList.contains '\x00' then .missing
  else if Text.Utf8.size text > maxPathLength then .nameTooLong
  else tree.walk (if path.isAbsolute then [] else tree.workingDirectory) path.parts

end FileTree

end ParenCalc
