/-
Validation: a directory of tables checked against the rules of a cycle, and the report written.

* `Request`: what is to be validated and where the report goes;
* `ReportFile`, `ReportFormat`: the files of a report, and which of them are written;
* `ValidationError`: why there is no report;
* `Validation`: what was found;
* `Host.load`: the tables of a directory;
* `Host.validate`: a request carried out.

The cycle is looked up before anything is read, and everything is read before anything is written.
-/
import Census.Host
import Census.Loading
import Census.Log.Journal
import Census.Report.Document

namespace Census

/-! ### The files of a report -/

/-- A file that a report is written to. -/
inductive ReportFile
  /-- The rows of all issues as comma-separated values. -/
  | issues
  /-- The codes that need attention as comma-separated values. -/
  | summary
  /-- Both as one JSON document. -/
  | document
  deriving DecidableEq, Repr

namespace ReportFile

/-- The name of the file. -/
def name : ReportFile → String
  | issues => "issues.csv"
  | summary => "summary.csv"
  | document => "validation_report.json"

/-- What is done when the file is written. -/
def task : ReportFile → String
  | issues => "write issue listing"
  | summary => "write summary"
  | document => "write json report"

/-- What the file holds. -/
def text (f : ReportFile) (r : Report) (writtenAt cycle : String) : String :=
  match f with
  | issues => issuesCsv r.issues
  | summary => summaryCsv r.summary
  | document => r.document writtenAt cycle

end ReportFile

/-- Which files are written. -/
inductive ReportFormat
  | csv
  | json
  | both
  deriving DecidableEq, Repr

namespace ReportFormat

/-- The files of a format, in the order in which they are written. -/
def files : ReportFormat → List ReportFile
  | csv => [.issues, .summary]
  | json => [.document]
  | both => [.issues, .summary, .document]

/-- The format as a setting. -/
def name : ReportFormat → String
  | csv => "csv"
  | json => "json"
  | both => "both"

/-- The format of a setting. -/
def named? (s : String) : Option ReportFormat :=
  [csv, json, both].find? fun f => f.name == s

end ReportFormat

/-! ### Requests and results -/

/-- What is to be validated.  Without rules all of the cycle's rules are run; zero jobs stand for as
many as there are processors. -/
structure Request where
  dataDirectory : String
  cycle : String
  rules : List String
  outputDirectory : String
  format : ReportFormat
  jobs : Nat
  deriving DecidableEq, Repr

/-- The codes that a request selects, if it selects any. -/
def Request.selection (q : Request) : Option (List String) :=
  if q.rules = [] then none else some q.rules

/-- Why there is no report. -/
inductive ValidationError
  | unresolved (cycle : String) (cause : RegistryError)
  | unloaded (fault : LoadFault)
  | unwritten (file : ReportFile) (path : String) (cause : FileError)
  deriving DecidableEq, Repr

/-- What was being done when a cycle could not be found. -/
def resolving (cycle : String) : String :=
  s!"resolve cycle '{cycle}'"

/-- What went wrong, the broadest account first. -/
def ValidationError.account : ValidationError → List String
  | unresolved cycle cause => [resolving cycle, cause.text]
  | unloaded fault => [fault.text]
  | unwritten file path cause => [file.task, s!"Failed to write {path}: {cause.text}", cause.text]

/-- What was found: the tables with their heights, the number of rules run, the report, and the
paths of the files written. -/
structure Validation where
  cycle : Cycle
  tables : List (String × Nat)
  executed : Nat
  report : Report
  written : List String

/-! ### Carrying out a request -/

namespace Host

variable {m : Type → Type} [Monad m]

/-- The table of a file, if it can be read.  It is logged as loaded with its identifier. -/
def loadTable (h : Host m) (id path : String) : m (Option Table) := do
  match (← h.read path).bind Csv.read? with
  | none => return none
  | some t =>
    h.log (tableLoaded id t)
    return some t

/-- Loads the tables of a directory.  Each is logged before the next file is read, which may be the
log itself. -/
def load (h : Host m) (directory : String) : m Loading := do
  if ← h.isDirectory directory then
    let table := fun id name => h.loadTable id (Path.join directory name)
    Loading.gather directory table [] (csvNames (← h.fileNames directory))
  else return Loading.failed (.noDirectory directory)

/-- Writes one file of a report into a directory, which is made unless it is there.  Gives the
path. -/
def writeFile (h : Host m) (directory : String) (r : Report) (cycle : Cycle) (f : ReportFile) :
    m (Except ValidationError String) := do
  match ← h.makeDirectories directory with
  | .error e => return .error (.unwritten f directory e)
  | .ok () =>
    let path := Path.join directory f.name
    match ← h.write path (f.text r (← h.now) cycle.id) with
    | .error e => return .error (.unwritten f path e)
    | .ok () => return .ok path

/-- Writes files of a report in order, up to the first that cannot be written.  Gives their
paths. -/
def writeFiles (h : Host m) (directory : String) (r : Report) (cycle : Cycle) :
    List ReportFile → m (Except ValidationError (List String))
  | [] => return .ok []
  | f :: rest => do
    match ← h.writeFile directory r cycle f with
    | .error e => return .error e
    | .ok path => return (← h.writeFiles directory r cycle rest).map (path :: ·)

/-- Runs the selected rules of a registry, logging what becomes of them. -/
def run (h : Host m) (r : Registry) (jobs : Nat) (selection : Option (List String))
    (data : Submission) : m Ledger := do
  let plan := Plan.of r selection
  let workers := (RunOptions.mk jobs h.processors).workers plan
  let start ← h.clock
  let outcomes := plan.outcomes workers data
  let stop ← h.clock
  h.logAll (plan.journal workers outcomes (stop - start))
  return plan.ledger outcomes

/-- Carries out a request. -/
def validate (h : Host m) (p : Publications) (q : Request) :
    m (Except ValidationError Validation) := do
  match p.ruleset q.cycle with
  | .error cause => return .error (.unresolved q.cycle cause)
  | .ok ruleset =>
    let cycle := ruleset.cycle
    let h := h.within ⟨"validate", [textField "cycle" cycle.id]⟩
    let start ← h.clock
    match (← h.load q.dataDirectory).submission with
    | .error fault => return .error (.unloaded fault)
    | .ok data =>
      let ledger ← h.run ruleset.registry q.jobs q.selection data
      let report := Report.compile ledger
      match ← h.writeFiles q.outputDirectory report cycle q.format.files with
      | .error e => return .error e
      | .ok written =>
        h.log (validationCompleted data report.issueCount ((← h.clock) - start))
        return .ok
          { cycle
            tables := data.tables.entries.map fun (id, t) => (id, t.height)
            executed := ledger.executed
            report
            written }

end Host

end Census
