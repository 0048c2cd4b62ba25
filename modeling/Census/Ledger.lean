/-
The ledger of a run: what became of each rule.

* `Ledger`: outcomes and rules by code, and the codes that no rule has;
* `markCompleted`, `recordIssue`, `recordFailure`: entries, which refuse to mix issues and failure;
* `register`, `recordUnknown`: entries that are never refused;
* `LedgerError`: why an entry is refused.
-/
import Census.Keyed
import Census.Outcome

namespace Census

/-- Why an entry is refused. -/
inductive LedgerError
  /-- The rule has failed, so nothing else is recorded for it. -/
  | alreadyFailed (code : String)
  /-- The rule has failed before. -/
  | failureRepeated (code : String)
  /-- The rule has issues, so that it cannot fail. -/
  | issuesRecorded (code : String)
  deriving DecidableEq, Repr

/-- The code of the rule whose entry is refused. -/
def LedgerError.code : LedgerError → String
  | alreadyFailed code | failureRepeated code | issuesRecorded code => code

/-- The text shown for a refused entry. -/
def LedgerError.text : LedgerError → String
  | alreadyFailed code => s!"Rule {code} already failed; issues cannot be recorded"
  | failureRepeated code => s!"Rule {code} is already marked as failed"
  | issuesRecorded code => s!"Rule {code} already recorded issues; it cannot also fail"

/-- What became of the rules of a run, by code, and the requested codes that no rule has. -/
structure Ledger where
  outcomes : Keyed Outcome
  rules : Keyed Rule
  unknown : TextSet

namespace Ledger

/-- The ledger without entries. -/
def empty : Ledger :=
  ⟨Keyed.empty, Keyed.empty, Keyed.empty⟩

instance : Inhabited Ledger :=
  ⟨empty⟩

/-- The outcome of a code. -/
def outcome? (l : Ledger) (code : String) : Option Outcome :=
  l.outcomes.get? code

/-- Sets the outcome of a code. -/
def setOutcome (l : Ledger) (code : String) (o : Outcome) : Ledger :=
  { l with outcomes := l.outcomes.insert code o }

/-- Remembers the rule that takes part under its code. -/
def register (l : Ledger) (rule : Rule) : Ledger :=
  { l with rules := l.rules.insert rule.code rule }

/-- Records a requested code that no rule has. -/
def recordUnknown (l : Ledger) (code : String) : Ledger :=
  { l with unknown := l.unknown.add code }

/-- Records that a rule came to its end. -/
def markCompleted (l : Ledger) (code : String) : Except LedgerError Ledger :=
  match l.outcome? code with
  | some (.failed _) => .error (.alreadyFailed code)
  | some (.completed _) => .ok l
  | none => .ok (l.setOutcome code (.completed []))

/-- Records an issue of a rule, which thereby came to its end. -/
def recordIssue (l : Ledger) (code : String) (issue : Issue) : Except LedgerError Ledger :=
  match l.outcome? code with
  | some (.failed _) => .error (.alreadyFailed code)
  | some (.completed issues) => .ok (l.setOutcome code (.completed (issues ++ [issue])))
  | none => .ok (l.setOutcome code (.completed [issue]))

/-- Records the failure of a rule that has neither failed nor issues. -/
def recordFailure (l : Ledger) (code : String) (failure : Failure) : Except LedgerError Ledger :=
  match l.outcome? code with
  | some (.failed _) => .error (.failureRepeated code)
  | some (.completed (_ :: _)) => .error (.issuesRecorded code)
  | some (.completed []) | none => .ok (l.setOutcome code (.failed failure))

/-- The number of rules with an outcome. -/
def executed (l : Ledger) : Nat :=
  l.outcomes.size

/-- The number of issues of all rules. -/
def issueCount (l : Ledger) : Nat :=
  (l.outcomes.values.map (·.issues.length)).foldr (· + ·) 0

/-- The number of failed rules. -/
def failureCount (l : Ledger) : Nat :=
  (l.outcomes.values.filter (·.failure?.isSome)).length

theorem outcome?_setOutcome (l : Ledger) (code : String) (o : Outcome) (code' : String) :
    (l.setOutcome code o).outcome? code' = if code' = code then some o else l.outcome? code' :=
  Keyed.get?_insert ..

end Ledger

end Census
