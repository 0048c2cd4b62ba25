/-
What surrounds a command: files, clocks and a log.

* `Host m`: the operations, as actions of `m`;
* `Host.onTree`: the operations on a tree of files, at a time that stands still;
* `Host.recording`: the operations with remarks collected;
* `Host.within`: the operations with events logged inside a span.
-/
import Census.Files.Tree
import Census.Log.Event

namespace Census

/-- The operations that a command has at its disposal.  File operations take paths. -/
structure Host (m : Type → Type) where
  isDirectory : String → m Bool
  /-- The names of the files that a directory holds, in whatever order. -/
  fileNames : String → m (List String)
  read : String → m (Option ByteArray)
  /-- Makes a directory and those on the way to it, unless they are there. -/
  makeDirectories : String → m (Except FileError Unit)
  /-- Makes a file of some text, in place of one that is there. -/
  write : String → String → m (Except FileError Unit)
  /-- Adds some text to a file, which is made unless it is there. -/
  append : String → String → m (Except FileError Unit)
  /-- Date and time of day. -/
  now : m String
  /-- Microseconds since some moment. -/
  clock : m Nat
  /-- The number of processors. -/
  processors : Nat
  /-- Shows some text at once, apart from what a command gives. -/
  remark : String → m Unit
  log : Log.Event → m Unit

namespace Host

/-- A change of a tree as an action.  A change that is refused leaves the tree as it is. -/
def changeTree (change : FileTree → Except FileError FileTree) :
    StateM FileTree (Except FileError Unit) :=
  fun t => match change t with
    | .ok t => (.ok (), t)
    | .error e => (.error e, t)

/-- The operations on a tree of files, where paths without a slash in front lead from a location.
The time is given; remarks and events are dropped. -/
def onTree (now : String) (here : FileTree.Location) : Host (StateM FileTree) where
  isDirectory path := fun t => (t.isDirectory here path, t)
  fileNames path := fun t => (t.fileNames here path, t)
  read path := fun t => (t.read? here path, t)
  makeDirectories path := changeTree (·.makeDirectories here path)
  write path text := changeTree (·.write here path text)
  append path text := changeTree (·.append here path text)
  now := pure now
  clock := pure 0
  processors := 1
  remark _ := pure ()
  log _ := pure ()

variable {m : Type → Type} [Monad m]

/-- The operations with remarks put after a text, rather than shown. -/
def recording (h : Host m) : Host (StateT String m) where
  isDirectory path := liftM (h.isDirectory path)
  fileNames path := liftM (h.fileNames path)
  read path := liftM (h.read path)
  makeDirectories path := liftM (h.makeDirectories path)
  write path text := liftM (h.write path text)
  append path text := liftM (h.append path text)
  now := liftM h.now
  clock := liftM h.clock
  processors := h.processors
  remark text := modify (· ++ text)
  log e := liftM (h.log e)

/-- The operations with events logged inside one more span. -/
def within (h : Host m) (span : Log.Span) : Host m :=
  { h with log := fun e => h.log (e.within span) }

/-- Logs events in order. -/
def logAll (h : Host m) (es : List Log.Event) : m Unit :=
  es.forM h.log

end Host

end Census
