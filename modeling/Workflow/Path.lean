import Workflow.Text.Split

/-!
# Paths

The few facts about paths that matter for documents: how a path is written without needless parts,
whether a path names the working directory or one above it rather than a file, and whether any file
can have it.
-/

namespace Workflow.Path

/-- The parts of a path that lead somewhere. -/
def parts (path : String) : List String :=
  ((Text.splitAt '/' path.toList).map String.ofList).filter fun part => part != "" && part != "."

/-- How many slashes a written path starts with; more than two are one. -/
def rootOf (path : String) : String :=
  match path.toList with
  | ['/', '/'] => "//"
  | '/' :: '/' :: c :: _ => if c = '/' then "/" else "//"
  | '/' :: _ => "/"
  | _ => ""

/-- A path without empty parts and without parts that stay where they are. -/
def normal (path : String) : String :=
  let written := rootOf path ++ "/".intercalate (parts path)
  if written = "" then "." else written

/-- Whether a path leads to the working directory or to one above it. -/
def isDirectory (path : String) : Bool :=
  path != "" && (parts path).all (· == "..")

/-- Whether a path ends in a way that only a directory's may. -/
def endsAsDirectory (path : String) : Bool :=
  match (Text.splitAt '/' path.toList).getLast? with
  | some last => last == [] || last == ['.']
  | none => false

/-- Whether a path is longer than any file's: a whole path has less than 4096 bytes, and a name at
most 255.  Names behind the first are looked at by nobody, as there are no directories below. -/
def isTooLong (path : String) : Bool :=
  decide (4096 ≤ path.utf8ByteSize) ||
    match (parts path).dropWhile (· == "..") with
    | name :: _ => decide (255 < name.utf8ByteSize)
    | [] => false

end Workflow.Path
