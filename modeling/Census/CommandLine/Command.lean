/-
The commands of the program.

* `Command`: what the program is asked to do;
* `Settings`: what is logged, and where to;
* `Verb`: the word that names a command, with the options and words that go with it;
* `Parsed`, `parse`: what a command line asks for.

An option that is understood everywhere may stand before the verb and after it; where it stands in
both places, the one after counts.
-/
import Census.CommandLine.Options

namespace Census.CommandLine

/-- What the program is asked to do. -/
inductive Command
  /-- Checks a directory of tables against the rules of a cycle. -/
  | validate (request : Request)
  /-- Lists the rules of a cycle, the latest without one. -/
  | rules (cycle : Option String)
  /-- Lists the cycles. -/
  | cycles
  /-- Lists what changed from one cycle to another. -/
  | diff (older newer : String)
  deriving DecidableEq, Repr

/-- What is logged, in what form, and to which file, if to one. -/
structure Settings where
  threshold : Log.Threshold
  format : Log.Format
  file : Option String
  deriving DecidableEq, Repr

/-- What a command line asks for. -/
inductive Parsed
  | run (settings : Settings) (command : Command)
  | help
  | version
  /-- There is no argument. -/
  | nothing
  /-- The command line is not understood. -/
  | refused
  deriving DecidableEq, Repr

/-! ### Verbs -/

/-- The word that names a command. -/
inductive Verb
  | validate
  | rules
  | cycles
  | diff
  deriving DecidableEq, Repr

namespace Verb

/-- The spelling of a verb. -/
def name : Verb → String
  | validate => "validate"
  | rules => "rules"
  | cycles => "cycles"
  | diff => "diff"

/-- The verb of a spelling. -/
def named? (s : String) : Option Verb :=
  [validate, rules, cycles, diff].find? fun v => v.name == s

/-- What is understood after a verb. -/
def scope : Verb → Scope
  | validate => ⟨globalKeys ++ [.cycle, .rule, .outputDir, .format, .jobs], 1, false⟩
  | rules => ⟨globalKeys ++ [.cycle], 0, false⟩
  | cycles => ⟨globalKeys, 0, false⟩
  | diff => ⟨globalKeys, 2, true⟩

/-- The directory of the report files: the one that is given, or a place inside the data. -/
def outputDirectory (g : Given) (dataDirectory : String) : String :=
  (g.values .outputDir).head?.getD (Path.join dataDirectory "output")

/-- The command of a verb with what is given for it, unless something is lacking. -/
def command? (v : Verb) (g : Given) : Option Command :=
  match v, g.words, (g.values .cycle).head? with
  | validate, [dataDirectory], some cycle =>
    some (.validate
      { dataDirectory
        cycle
        rules := g.values .rule
        outputDirectory := outputDirectory g dataDirectory
        format := ((g.values .format).head?.bind ReportFormat.named?).getD .both
        jobs := ((g.values .jobs).head?.bind Number.unsigned64?).getD 1 })
  | rules, [], cycle => some (.rules cycle)
  | cycles, [], _ => some .cycles
  | diff, [older, newer], _ => some (.diff older newer)
  | _, _, _ => none

end Verb

/-- What is understood before a verb. -/
def topScope : Scope :=
  ⟨globalKeys ++ [.version], 0, false⟩

/-! ### Command lines -/

/-- The values of an option, given after the verb or else before it. -/
def deepest (before after : Given) (k : Key) : List String :=
  if after.has k then after.values k else before.values k

/-- The settings, from what is given before the verb and after it.  A level that is named counts
more than turns up and down. -/
def settings (before after : Given) : Settings :=
  let turned := Log.Threshold.turned (deepest before after .verbose).length
    (deepest before after .quiet).length
  { threshold :=
      ((deepest before after .logLevel).head?.bind Log.Threshold.named?).getD turned
    format := ((deepest before after .logFormat).head?.bind Log.Format.named?).getD .pretty
    file := (deepest before after .logFile).head? }

/-- What a command line asks for that was not scanned to its end. -/
def Stop.parsed : Stop → Parsed
  | help => .help
  | version => .version
  | refused => .refused

/-- What the verb and what follows it ask for, after what is given before. -/
def parseVerb (before : Given) (v : Verb) (args : List String) : Parsed :=
  match scan v.scope Given.empty args with
  | .error stop => stop.parsed
  | .ok (after, []) =>
    match v.command? after with
    | some command =>
      if before.contradicts || after.contradicts then .refused
      else .run (settings before after) command
    | none => .refused
  | .ok (_, _ :: _) => .refused

/-- The word `help` takes one verb, or itself, or nothing. -/
def parseHelp : List String → Parsed
  | [] => .help
  | [word] => if word = "help" ∨ (Verb.named? word).isSome then .help else .refused
  | _ => .refused

/-- What a command line asks for. -/
def parse (args : List String) : Parsed :=
  match scan topScope Given.empty args with
  | .error stop => stop.parsed
  | .ok (given, []) => if given.options = [] then .nothing else .refused
  | .ok (given, word :: rest) =>
    match Verb.named? word with
    | some v => parseVerb given v rest
    | none => if word = "help" then parseHelp rest else .refused

end Census.CommandLine
