/-
Files and directories below a top directory.

* `FileTree`: a file with its bytes, or a directory with its entries;
* `FileTree.at?`, `putAt`: what is at a location, and what becomes of the tree when it is replaced;
* `FileTree.locate`, `resolve`, `find?`: the location that a path leads to, and what is there;
* `isDirectory`, `isFile`, `fileNames`, `read?`: what a path leads to;
* `makeDirectories`, `change`, `write`, `append`: the changes at a path;
* `FileError`: why an operation is refused;
* `lookup_setEntry`: what a replaced entry does to a look-up.

A location is the list of names from the top.  The parent of the top is the top itself.  A path
leads from a location, or from the top if it starts with a slash.
-/
import Census.Files.Path

namespace Census

/-- Why an operation on files is refused. -/
inductive FileError
  | notFound
  | occupied
  | notDirectory
  | isDirectory
  | nameTooLong
  /-- The path has the character with the number zero. -/
  | zeroCharacter
  /-- Any other cause, with its number and its text. -/
  | other (number : Nat) (text : String)
  deriving DecidableEq, Repr

namespace FileError

/-- The number of a cause that the system gives. -/
def number? : FileError → Option Nat
  | notFound => some 2
  | occupied => some 17
  | notDirectory => some 20
  | isDirectory => some 21
  | nameTooLong => some 36
  | zeroCharacter => none
  | other number _ => some number

/-- What a cause says. -/
def reason : FileError → String
  | notFound => "No such file or directory"
  | occupied => "File exists"
  | notDirectory => "Not a directory"
  | isDirectory => "Is a directory"
  | nameTooLong => "File name too long"
  | zeroCharacter => "file name contained an unexpected NUL byte"
  | other _ text => text

/-- The text shown for a cause. -/
def text (e : FileError) : String :=
  match e.number? with
  | some number => s!"{e.reason} (os error {number})"
  | none => e.reason

end FileError

/-- A file with its bytes, or a directory with what it holds, by name. -/
inductive FileTree
  | file (content : ByteArray)
  | directory (entries : List (String × FileTree))

namespace FileTree

/-- The names from the top to a file or directory. -/
abbrev Location := List String

instance : Inhabited FileTree :=
  ⟨directory []⟩

/-! ### Locations -/

/-- What is at a location. -/
def at? (t : FileTree) : Location → Option FileTree
  | [] => some t
  | name :: rest =>
    match t with
    | directory entries => (entries.lookup name).bind fun child => at? child rest
    | file _ => none

/-- The entries with one of a name replaced, or added at the end. -/
def setEntry (name : String) (t : FileTree) :
    List (String × FileTree) → List (String × FileTree)
  | [] => [(name, t)]
  | e :: es => if name = e.1 then (name, t) :: es else e :: setEntry name t es

/-- The tree with something else at a location below directories.  Directories that are missing on
the way are put in; below a file nothing changes. -/
def putAt (new : FileTree) (t : FileTree) : Location → FileTree
  | [] => new
  | name :: rest =>
    match t with
    | directory entries =>
      directory (setEntry name (putAt new ((entries.lookup name).getD default) rest) entries)
    | file content => file content

theorem lookup_setEntry (name : String) (t : FileTree) (entries : List (String × FileTree))
    (other : String) : (setEntry name t entries).lookup other =
      if other = name then some t else entries.lookup other := by
  have hcons : ∀ (e : String × FileTree) (es : List (String × FileTree)),
      (e :: es).lookup other = if other = e.1 then some e.2 else es.lookup other := by
    intro e es
    rw [List.lookup_cons]
    by_cases h : other = e.1
    · simp [h]
    · simp [h, show (other == e.1) = false by simpa using h]
  induction entries with
  | nil => simp [setEntry, hcons]
  | cons e es ih =>
    simp only [setEntry]
    split
    · next h => subst h; simp only [hcons]; split <;> rfl
    · next h =>
      simp only [hcons, ih]
      by_cases ho : other = e.1
      · have hn : ¬e.1 = name := fun h' => h h'.symm
        simp [ho, hn]
      · simp [ho]

/-! ### Paths -/

/-- The location that a step leads to. -/
def stepTo (here : Location) (step : String) : Location :=
  if step = "." then here
  else if step = ".." then here.dropLast
  else here ++ [step]

/-- The location that steps lead to from a location.  What they lead through has to be a
directory. -/
def locate (t : FileTree) (here : Location) : List String → Except FileError Location
  | [] => .ok here
  | step :: rest =>
    match t.at? here with
    | some (directory _) =>
      if Path.maxNameLength < step.utf8ByteSize then .error .nameTooLong
      else locate t (stepTo here step) rest
    | some (file _) => .error .notDirectory
    | none => .error .notFound

/-- The steps of a path that a file system takes. -/
def stepsOf (path : String) : Except FileError (List String) :=
  if path.toList.contains '\x00' then .error .zeroCharacter
  else if Path.maxLength < path.utf8ByteSize then .error .nameTooLong
  else .ok (Path.steps path)

/-- The location that a path starts from, given the location that one without a slash does. -/
def startOf (here : Location) (path : String) : Location :=
  if path.toList.head? = some '/' then [] else here

/-- The location that a path leads to. -/
def resolve (t : FileTree) (here : Location) (path : String) : Except FileError Location := do
  if path = "" then throw .notFound
  t.locate (startOf here path) (← stepsOf path)

/-- What a path leads to. -/
def find? (t : FileTree) (here : Location) (path : String) : Option FileTree :=
  match t.resolve here path with
  | .ok there => t.at? there
  | .error _ => none

/-- The path leads to a directory. -/
def isDirectory (t : FileTree) (here : Location) (path : String) : Bool :=
  match t.find? here path with
  | some (directory _) => true
  | _ => false

/-- The path leads to a file. -/
def isFile (t : FileTree) (here : Location) (path : String) : Bool :=
  match t.find? here path with
  | some (file _) => true
  | _ => false

/-- The names of the files, not the directories, that the directory of a path holds.  Where the path
continued by a name leads nowhere, as it does when it is too long, the name is passed over. -/
def fileNames (t : FileTree) (here : Location) (path : String) : List String :=
  match t.find? here path with
  | some (directory entries) =>
    (entries.map Prod.fst).filter fun name => t.isFile here (Path.join path name)
  | _ => []

/-- The bytes of the file that a path leads to. -/
def read? (t : FileTree) (here : Location) (path : String) : Option ByteArray :=
  match t.find? here path with
  | some (file content) => some content
  | _ => none

/-! ### Changes -/

/-- The tree with a directory at every stage that steps lead through from a location.  In front of a
point at the end nothing is made. -/
def makeFrom (t : FileTree) (here : Location) : List String → Except FileError FileTree
  | [] => .ok t
  | step :: rest =>
    if Path.maxNameLength < step.utf8ByteSize then .error .nameTooLong
    else
      let there := stepTo here step
      match t.at? there with
      | some (directory _) => makeFrom t there rest
      | some (file _) => .error (if rest = [] then .occupied else .notDirectory)
      | none =>
        if rest = ["."] then .error .notFound
        else makeFrom (putAt default t there) there rest

/-- The tree with a directory at a path, and at every stage on the way to it. -/
def makeDirectories (t : FileTree) (here : Location) (path : String) :
    Except FileError FileTree := do
  t.makeFrom (startOf here path) (← stepsOf path)

/-- The location of a file that a path leads to, or at which there can be one.  Where a slash is at
the end, no file is looked for. -/
def fileLocation (t : FileTree) (here : Location) (path : String) :
    Except FileError Location := do
  if path = "" then throw .notFound
  let steps ← stepsOf path
  let there ← t.locate (startOf here path)
    (if Path.endsInSlash path then steps.dropLast ++ ["."] else steps)
  match t.at? there with
  | some (directory _) => throw .isDirectory
  | _ => return there

/-- The tree with a file at a path whose content is a function of what the file held before; a file
that was not there held nothing. -/
def change (t : FileTree) (here : Location) (path : String) (content : ByteArray → ByteArray) :
    Except FileError FileTree := do
  let there ← t.fileLocation here path
  match t.at? there with
  | some (file old) => return putAt (file (content old)) t there
  | _ => return putAt (file (content .empty)) t there

/-- The tree with a file of some text at a path. -/
def write (t : FileTree) (here : Location) (path text : String) : Except FileError FileTree :=
  t.change here path fun _ => text.toUTF8

/-- The tree with some text added at the end of a file. -/
def append (t : FileTree) (here : Location) (path text : String) : Except FileError FileTree :=
  t.change here path fun old => old ++ text.toUTF8

end FileTree

end Census
