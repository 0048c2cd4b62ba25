/-
How much is logged.

* `Level`: the weight of an event, from errors down to traces;
* `Threshold`: the lightest level that is logged, or no level at all;
* `Threshold.admits`: an event of some level is logged;
* `Threshold.turned`: the threshold after turns of verbosity up and down;
* `Threshold.directives`: the threshold spelled out for each part of the program.
-/

namespace Census.Log

/-- The weight of an event. -/
inductive Level
  | error
  | warn
  | info
  | debug
  | trace
  deriving DecidableEq, Repr

namespace Level

/-- The level as a setting. -/
def name : Level → String
  | error => "error"
  | warn => "warn"
  | info => "info"
  | debug => "debug"
  | trace => "trace"

/-- The level in capitals. -/
def label : Level → String
  | error => "ERROR"
  | warn => "WARN"
  | info => "INFO"
  | debug => "DEBUG"
  | trace => "TRACE"

/-- The level at the head of a line, five characters wide. -/
def heading (l : Level) : String :=
  String.ofList (List.replicate (5 - l.label.length) ' ') ++ l.label

/-- The levels from the weightiest on. -/
def all : List Level :=
  [error, warn, info, debug, trace]

/-- The place of a level among all, from 1. -/
def rank (l : Level) : Nat :=
  all.idxOf l + 1

/-- The level of a setting. -/
def named? (s : String) : Option Level :=
  all.find? fun l => l.name == s

end Level

/-- The lightest level that is logged.  Without one nothing is. -/
abbrev Threshold := Option Level

namespace Threshold

/-- The place of a threshold, 0 for none. -/
def rank (t : Threshold) : Nat :=
  (t.map Level.rank).getD 0

/-- The threshold at a place; beyond the last place, the last. -/
def ofRank : Nat → Threshold
  | 0 => none
  | n + 1 => some (Level.all[n]?.getD .trace)

/-- An event of a level is logged. -/
def admits (t : Threshold) (l : Level) : Bool :=
  l.rank ≤ t.rank

/-- The threshold as a setting. -/
def name (t : Threshold) : String :=
  (t.map Level.name).getD "off"

/-- The threshold of a setting. -/
def named? (s : String) : Option Threshold :=
  if s = "off" then some none else (Level.named? s).map some

/-- The threshold of warnings, turned up and down. -/
def turned (up down : Nat) : Threshold :=
  ofRank (Level.warn.rank + up - down)

/-- The parts of the program that log. -/
def parts : List String :=
  ["rulebook", "rulebook_cli", "rulebook_common", "rulebook_model", "rulebook_registry",
    "rulebook_rules", "rulebook_validate"]

/-- The threshold spelled out: first for what the program uses, which is not let through below
warnings, then for each part of the program. -/
def directives (t : Threshold) : String :=
  let base := if t.admits .warn then Level.warn.name else t.name
  ",".intercalate (base :: parts.map fun part => part ++ "=" ++ t.name)

end Threshold

end Census.Log
