/-
Commands carried out.

* `Answer`: the exit status of the program and what it prints;
* `Host.logging`: the surroundings with events logged as the settings say;
* `Host.perform`: a command carried out on given publications;
* `Host.runCommand`: the same with the built-in rulesets and under settings;
* `Host.answer`: a command line carried out.

The status is 0 when all is well, 1 when a submission has errors, and 2 when a command fails.
-/
import Census.CommandLine.Command
import Census.CommandLine.Listing

namespace Census

open CommandLine (Command Settings)

/-- The exit status of the program, what it prints, and what it prints apart from that to the
user. -/
structure Answer where
  status : Nat
  output : String
  complaint : String
  deriving DecidableEq, Repr

namespace Answer

/-- The answer of a command that did what it was asked to do. -/
def success (output : String) : Answer :=
  ⟨0, output, ""⟩

/-- The answer of a command that failed, given what went wrong, the broadest account first. -/
def failure (account : List String) : Answer :=
  ⟨2, "", "error: " ++ ": ".intercalate account ++ "\n"⟩

/-- The answer of a validation. -/
def ofValidation (v : Validation) : Answer :=
  ⟨if v.report.hasErrors then 1 else 0, v.listing, ""⟩

end Answer

namespace CommandLine

/-- The name of the program and its version. -/
def versionText : String :=
  "rulebook 0.1.0\n"

/-- How the program is used. -/
def helpText : String :=
  "Validate tabular returns against a cycle's rule set\n\n" ++
  "Usage: rulebook [OPTIONS] <COMMAND>\n\n" ++
  "Commands:\n" ++
  "  validate DATA_DIR --cycle ID [--rule CODE]... [--output-dir DIR]\n" ++
  "           [--format csv|json|both] [--jobs N]\n" ++
  "  rules [--cycle ID]\n" ++
  "  cycles\n" ++
  "  diff FROM TO\n" ++
  "  help [COMMAND]\n\n" ++
  "Options:\n" ++
  "  -v, --verbose               Log more\n" ++
  "  -q, --quiet                 Log less\n" ++
  "      --color auto|always|never\n" ++
  "      --log-level error|warn|info|debug|trace\n" ++
  "      --log-format pretty|compact|json\n" ++
  "      --log-file PATH         Log to a file\n" ++
  "  -h, --help                  Print help\n" ++
  "  -V, --version               Print version\n"

/-- What is said of a command line that is not understood. -/
def refusal : String :=
  "error: invalid arguments\n\nFor more information, try '--help'.\n"

/-- The ruleset of a cycle; without one, the latest. -/
def select (p : Publications) (cycle : Option String) : Except (List String) Ruleset :=
  match cycle with
  | some cycle =>
    match p.ruleset cycle with
    | .ok r => .ok r
    | .error e => .error [resolving cycle, e.text]
  | none =>
    match p.latest? with
    | some r => .ok r
    | none => .error ["no cycles are published"]

end CommandLine

namespace Host

variable {m : Type → Type} [Monad m]

/-- The surroundings with the events that settings let through logged to the file of the settings,
or else remarked. -/
def logging (h : Host m) (s : Settings) : Host m :=
  { h with
    log := fun e => do
      match e.line? s.threshold s.format (← h.now), s.file with
      | some line, some path => do
        let _ ← h.append path line
        return ()
      | some line, none => h.remark line
      | none, _ => return () }

/-- Carries out a command. -/
def perform (h : Host m) (p : Publications) : Command → m (Except (List String) Answer)
  | .validate request => do
    match ← h.validate p request with
    | .ok v => return .ok (Answer.ofValidation v)
    | .error e => return .error e.account
  | .rules cycle =>
    return (CommandLine.select p cycle).map fun r => Answer.success (rulesListing r)
  | .cycles => return .ok (Answer.success (cyclesListing p))
  | .diff older newer => return do
    let older ← CommandLine.select p (some older)
    let newer ← CommandLine.select p (some newer)
    return Answer.success (changesListing older newer)

/-- Carries out a command with the built-in rulesets.  A failure is logged. -/
def runBuiltIn (h : Host m) (c : Command) : m Answer := do
  match Catalog.publications 0 with
  | .error e => return Answer.failure ["publish built-in rulesets", e.text]
  | .ok p =>
    h.logAll ((Catalog.journal p).toOption.getD [])
    match ← h.perform p c with
    | .ok answer => return answer
    | .error account =>
      h.log (commandFailed (account.head?.getD ""))
      return Answer.failure account

/-- Carries out a command under settings.  It fails at once when its log cannot be opened. -/
def runCommand (h : Host m) (s : Settings) (c : Command) : m Answer := do
  match s.file with
  | none => (h.logging s).runBuiltIn c
  | some path =>
    match ← h.append path "" with
    | .ok () => (h.logging s).runBuiltIn c
    | .error e => return Answer.failure ["failed to initialize logging", e.text]

/-- Carries out a command line. -/
def answer (h : Host m) (args : List String) : m Answer :=
  match CommandLine.parse args with
  | .run s c => h.runCommand s c
  | .help => return Answer.success CommandLine.helpText
  | .version => return Answer.success CommandLine.versionText
  | .nothing => return ⟨2, "", CommandLine.helpText⟩
  | .refused => return ⟨2, "", CommandLine.refusal⟩

end Host

end Census
