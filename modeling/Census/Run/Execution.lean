/-
Runs: the rules of a plan carried out on a submission.

* `Rule.carryOut`: a rule with its outcome on a submission;
* `Ledger.enter`, `Ledger.enterAll`: outcomes put into a ledger, with what it refuses;
* `Plan.outcomes`: every rule of a plan with its outcome, by one worker or by several;
* `Plan.ledger`, `Plan.refusals`: the ledger of these outcomes, and the entries it refused;
* `Registry.run`: the ledger of a run.
-/
import Census.Ledger
import Census.Run.Plan
import Census.Run.Workers

namespace Census

/-- A rule with its outcome on a submission. -/
def Rule.carryOut (s : Submission) (rule : Rule) : Rule × Outcome :=
  (rule, rule.outcome s)

namespace Ledger

/-- Records issues in order, up to the first that is refused.  The refusal comes with the
ledger. -/
def recordIssues (l : Ledger) (code : String) : List Issue → Ledger × Option LedgerError
  | [] => (l, none)
  | issue :: rest =>
    match l.recordIssue code issue with
    | .ok l => recordIssues l code rest
    | .error e => (l, some e)

/-- Puts a rule and its outcome into the ledger.  What the ledger refuses is left out; the refusal
comes with the ledger. -/
def enter (l : Ledger) (rule : Rule) (o : Outcome) : Ledger × Option LedgerError :=
  let l := l.register rule
  match o with
  | .completed issues =>
    match l.markCompleted rule.code with
    | .ok l => l.recordIssues rule.code issues
    | .error e => (l, some e)
  | .failed failure =>
    match l.recordFailure rule.code failure with
    | .ok l => (l, none)
    | .error e => (l, some e)

/-- Puts rules and their outcomes into the ledger, in order.  A refusal ends the entry of its own
rule only. -/
def enterAll (l : Ledger) : List (Rule × Outcome) → Ledger × List LedgerError
  | [] => (l, [])
  | (rule, o) :: rest =>
    let (l, refusal) := l.enter rule o
    let (l, refusals) := l.enterAll rest
    (l, refusal.toList ++ refusals)

end Ledger

namespace Plan

/-- Every rule with its outcome, in the order of the plan. -/
def outcomes (p : Plan) (workers : Nat) (s : Submission) : List (Rule × Outcome) :=
  if workers > 1 then inBatches workers (Rule.carryOut s) p.rules
  else p.rules.map (Rule.carryOut s)

/-- The ledger of the codes that no rule has. -/
def start (p : Plan) : Ledger :=
  p.unknown.keys.foldl Ledger.recordUnknown Ledger.empty

/-- The ledger of what became of the rules. -/
def ledger (p : Plan) (outcomes : List (Rule × Outcome)) : Ledger :=
  (p.start.enterAll outcomes).1

/-- The entries that the ledger refused. -/
def refusals (p : Plan) (outcomes : List (Rule × Outcome)) : List LedgerError :=
  (p.start.enterAll outcomes).2

end Plan

/-- How a run is carried out: the number of jobs, zero standing for as many as there are
processors. -/
structure RunOptions where
  jobs : Nat := 1
  processors : Nat := 1
  deriving DecidableEq, Repr

/-- The number of workers of a run. -/
def RunOptions.workers (o : RunOptions) (p : Plan) : Nat :=
  workerCount o.jobs o.processors p.rules.length

/-- Carries out the selected rules of a registry on a submission; all of them without a
selection. -/
def Registry.run (r : Registry) (options : RunOptions) (selection : Option (List String))
    (s : Submission) : Ledger :=
  let plan := Plan.of r selection
  plan.ledger (plan.outcomes (options.workers plan) s)

end Census
