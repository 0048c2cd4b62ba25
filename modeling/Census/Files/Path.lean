/-
Paths and the names of files.

* `Path.parts`, `Path.steps`: what a path leads through, part by part;
* `Path.join`: a path continued by another;
* `Path.fileName?`: the last part of a path, if it names something;
* `Path.splitName`: a file name as its stem and its extension;
* `Path.tableId?`: the identifier of the table that a file holds;
* `Path.isCsv`: the extension of comma-separated values.
-/
import Census.Text.Fold

namespace Census.Path

/-! ### Parts -/

/-- The pieces of a text between slashes. -/
def pieces : List Char → List (List Char)
  | [] => [[]]
  | c :: cs =>
    if c = '/' then [] :: pieces cs
    else match pieces cs with
      | [] => [[c]]
      | piece :: rest => (c :: piece) :: rest

/-- The parts of a path.  Neither an empty piece nor a single point is one. -/
def parts (path : String) : List String :=
  ((pieces path.toList).map String.ofList).filter fun piece => piece ≠ "" ∧ piece ≠ "."

/-- The path ends in a slash. -/
def endsInSlash (path : String) : Bool :=
  path.toList.getLast? == some '/'

/-- The path ends in a single point, whatever slashes follow it. -/
def endsInPoint (path : String) : Bool :=
  ((pieces path.toList).filter (· ≠ [])).getLast? == some ['.']

/-- The parts of a path, and a point at the end where it ends in one: what is in front of it has to
be there. -/
def steps (path : String) : List String :=
  parts path ++ if endsInPoint path then ["."] else []

/-- The most bytes that a path has. -/
def maxLength : Nat :=
  4095

/-- The most bytes that a name has. -/
def maxNameLength : Nat :=
  255

/-- The path `first` continued by `second`, which stands alone when it starts at the top. -/
def join (first second : String) : String :=
  if second.toList.head? = some '/' ∨ first = "" then second
  else if endsInSlash first then first ++ second
  else first ++ "/" ++ second

/-! ### Names of files -/

/-- The last part of a path.  Two points name nothing. -/
def fileName? (path : String) : Option String :=
  match (parts path).getLast? with
  | some ".." => none
  | last => last

/-- A file name as what stands before its last point and what stands after it.  A name without a
point, or with none but its first character, has no extension. -/
def splitName (name : List Char) : List Char × Option (List Char) :=
  let after := (name.reverse.takeWhile (· ≠ '.')).reverse
  match (name.reverse.dropWhile (· ≠ '.')).reverse with
  | [] | ['.'] => (name, none)
  | before => (before.dropLast, some after)

/-- The identifier of the table in a file of some name; none for a blank stem. -/
def tableId? (name : String) : Option String :=
  let id := Text.identifier (String.ofList (splitName name.toList).1)
  if id = "" then none else some id

/-- The name has the extension of comma-separated values, in upper or lower case. -/
def isCsv (name : String) : Bool :=
  match (splitName name.toList).2 with
  | some extension => Text.sameName (String.ofList extension) "csv"
  | none => false

end Census.Path
