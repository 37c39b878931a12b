import Docblock.Text.Quoted
import Docblock.Text.Split

/-!
# Paths

Paths of files, their parts between slashes. A path in normal form has no empty part, no point, and
two points only at its start.

The normal form is found in the text alone. No file is looked at, so two points take away the part
in front of them whatever that part is.
-/

namespace Docblock.Path

open Text

/-- The slashes that a path in normal form begins with: one for a path from the root, and two
where the path has exactly two. -/
def rootMark (cs : List Char) : List Char :=
  match (cs.takeWhile (· == '/')).length with
  | 0 => []
  | 2 => ['/', '/']
  | _ => ['/']

/-- Go on by one part of a path from the parts so far, which are given last first. Two points
take a part back; before the first part they stay, but the root has nothing above it. -/
def step (rooted : Bool) (parts : List (List Char)) (part : List Char) : List (List Char) :=
  if part.isEmpty || part == ['.'] then parts
  else if part != ['.', '.'] then part :: parts
  else
    match parts with
    | [] => if rooted then [] else [part]
    | last :: rest => if last == ['.', '.'] then part :: parts else rest

/-- The normal form of a path. -/
def normalChars (cs : List Char) : List Char :=
  let mark := rootMark cs
  let parts := (splitOn '/' cs).foldl (step !mark.isEmpty) []
  let path := mark ++ join ['/'] parts.reverse
  if path.isEmpty then ['.'] else path

/-- The normal form of a path. -/
def normal (path : String) : String := String.ofList (normalChars path.toList)

/-- The folder of a file: what stands before the last slash, without slashes at its end unless
there is nothing else. -/
def folder (path : String) : String :=
  let head := (path.toList.reverse.dropWhile (· != '/')).reverse
  if head.all (· == '/') then String.ofList head
  else String.ofList (head.reverse.dropWhile (· == '/')).reverse

/-- A path from a folder. A path from the root stands for itself. -/
def inFolder (folder path : String) : String :=
  if path.toList.head? = some '/' then path
  else if folder = "" || folder.toList.getLast? = some '/' then folder ++ path
  else folder ++ "/" ++ path

end Docblock.Path
