/-!
This module contains file paths: a text is split at its slashes, and what does not lead anywhere,
empty parts and single dots, is left out. Double dots stay, since what they lead to is known only to
the files.
-/

namespace ParenCalc

/--
A path. It starts with `slashes` slashes, no more than two, and its parts are neither empty nor a
single dot nor hold a slash.
-/
structure Path where
  slashes : Nat := 0
  parts : List String := []
  deriving DecidableEq, Repr

namespace Path

def pieces : List Char → List (List Char)
  | [] => [[]]
  | c :: rest =>
    if c = '/' then [] :: pieces rest
    else
      match pieces rest with
      | [] => [[c]]
      | piece :: pieces => (c :: piece) :: pieces

/--
The path that a text stands for. Exactly two slashes at its start are kept apart from one; three or
more are one.
-/
def ofString (text : String) : Path :=
  let chars := text.toList
  let slashes := (chars.takeWhile (· == '/')).length
  let parts := (pieces chars).map String.ofList
  { slashes := if slashes ≤ 2 then slashes else 1
    parts := parts.filter fun part => part != "" && part != "." }

protected def toString (path : Path) : String :=
  if path.slashes = 0 ∧ path.parts = [] then "."
  else String.ofList (List.replicate path.slashes '/') ++ "/".intercalate path.parts

instance : ToString Path := ⟨Path.toString⟩

def isAbsolute (path : Path) : Bool :=
  path.slashes != 0

def collapse (parts : List String) : List String :=
  (parts.foldl step []).reverse
where
  step (kept : List String) (part : String) : List String :=
    if part = ".." then kept.tail else part :: kept

/--
The path from the root without double dots that a path stands for where the names in `directory`
lead to the working directory.
-/
def resolve (directory : List String) (path : Path) : Path :=
  { slashes := 1
    parts := collapse (if path.isAbsolute then path.parts else directory ++ path.parts) }

def child (path : Path) (name : String) : Path :=
  { path with parts := path.parts ++ [name] }

end Path

end ParenCalc
