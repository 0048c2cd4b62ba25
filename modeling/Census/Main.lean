/-
The program: commands on the files of the machine it runs on.

* `Disk.host`: files, clocks and the error output of the machine;
* `main`: a command line carried out.
-/
import Census.CommandLine.Run
import Std.Time.DateTime

namespace Census.Disk

/-- A path as the root of nothing further. -/
def entry (path : String) : IO.FS.DirEntry :=
  ⟨path, ""⟩

/-- The cause that the system gives for a refusal. -/
def fileError : IO.Error → FileError
  | .noFileOrDirectory _ _ _ => .notFound
  | .alreadyExists _ _ _ => .occupied
  | .inappropriateType _ number text =>
    if number = 20 then .notDirectory
    else if number = 21 then .isDirectory
    else .other number.toNat text
  | .invalidArgument (some _) 36 _ => .nameTooLong
  | .permissionDenied _ number text => .other number.toNat text
  | .resourceExhausted _ number text => .other number.toNat text
  | .invalidArgument _ number text => .other number.toNat text
  | .unsatisfiedConstraints number text => .other number.toNat text
  | .otherError number text => .other number.toNat text
  | e => .other 0 e.toString

/-- An action at a path whose refusal is a result. -/
def attempt (path : String) (action : IO Unit) : IO (Except FileError Unit) := do
  if path.toList.contains '\x00' then return .error .zeroCharacter
  try
    action
    return .ok ()
  catch e => return .error (fileError e)

/-- The paths that lead part of the way that a path leads. -/
def wayTo (path : String) : List String :=
  let parts := Path.parts path
  let top := if path.startsWith "/" then "/" else ""
  (List.range parts.length).tail.map fun n => top ++ "/".intercalate (parts.take n)

/-- Makes a directory unless it is there. -/
def makeDirectory (path : String) : IO Unit := do
  try IO.FS.createDir path
  catch e => unless ← (entry path).root.isDir do throw e

/-- Makes a directory and those on the way to it.  What is refused on the way shows at its end. -/
def makeDirectories (path : String) : IO Unit := do
  if path = "" then return
  try makeDirectory path
  catch
    | .noFileOrDirectory _ _ _ =>
      for stage in wayTo path do
        try makeDirectory stage
        catch _ => pure ()
      makeDirectory path
    | e => throw e

/-- The names of the files in a directory; none when it cannot be listed. -/
def fileNames (path : String) : IO (List String) := do
  try
    let entries ← (entry path).root.readDir
    let files ← entries.filterM fun e => do
      try
        return (← e.path.metadata).type matches .file
      catch _ => return false
    return files.toList.map (·.fileName)
  catch _ => return []

/-- The bytes of a file, if it can be read. -/
def read (path : String) : IO (Option ByteArray) := do
  try
    return some (← IO.FS.readBinFile path)
  catch _ => return none

/-- Adds some text to a file. -/
def append (path text : String) : IO Unit :=
  IO.FS.withFile path .append fun h => h.putStr text

/-- Date and time of day. -/
def now : IO String := do
  let instant ← Std.Time.Timestamp.now
  return stampText instant.toMillisecondsSinceUnixEpoch.toInt

/-- The number of processors that the system lists; one when it lists none. -/
def processors : IO Nat := do
  try
    let lines ← IO.FS.lines "/proc/cpuinfo"
    return max 1 (lines.filter fun line => line.startsWith "processor").size
  catch _ => return 1

/-- The files, clocks and error output of the machine. -/
def host (processors : Nat) : Host IO where
  isDirectory path := (entry path).root.isDir
  fileNames := fileNames
  read := read
  makeDirectories path := attempt path (makeDirectories path)
  write path text := attempt path (IO.FS.writeFile path text)
  append path text := attempt path (append path text)
  now := now
  clock := do return (← IO.monoNanosNow) / 1000
  processors
  remark := IO.eprint
  log _ := pure ()

end Census.Disk

/-- Carries out a command line.  The status is the program's. -/
def main (args : List String) : IO UInt32 := do
  let answer ← (Census.Disk.host (← Census.Disk.processors)).answer args
  IO.print answer.output
  IO.eprint answer.complaint
  return answer.status.toUInt32
