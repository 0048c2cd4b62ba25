/-
Outcomes of rules in a run.

* `Failure`: a rule that could not be carried out or broke down, with its detail;
* `Outcome`: the issues of a rule that came to its end, or its failure;
* `Rule.outcome`: the outcome of a rule on a submission.
-/
import Census.Rule

namespace Census

/-- Why a rule did not come to its end. -/
inductive Failure
  /-- The check could not be carried out. -/
  | fault (detail : String)
  /-- The check broke down. -/
  | crash (detail : String)
  deriving DecidableEq, Repr

namespace Failure

/-- What is known of the failure. -/
def detail : Failure → String
  | fault detail => detail
  | crash detail => detail

/-- The text shown for a failure. -/
def text : Failure → String
  | fault detail => detail
  | crash detail => "rule panicked: " ++ detail

end Failure

/-- What became of a rule.  A rule without issues has passed. -/
inductive Outcome
  | completed (issues : List Issue)
  | failed (failure : Failure)
  deriving DecidableEq, Repr

namespace Outcome

/-- The issues; a failed rule has none. -/
def issues : Outcome → List Issue
  | completed issues => issues
  | failed _ => []

/-- The failure, if there is one. -/
def failure? : Outcome → Option Failure
  | completed _ => none
  | failed failure => some failure

end Outcome

/-- The detail of a check that broke down without a message. -/
def silentCrash : String :=
  "non-string panic payload"

/-- Carries out a rule on a submission.  Of a rule that fails no issue is kept. -/
def Rule.outcome (r : Rule) (s : Submission) : Outcome :=
  match r.examine s with
  | (f, .finished) => .completed f.issues
  | (_, .refused fault) => .failed (.fault fault.text)
  | (_, .crashed message) => .failed (.crash (message.getD silentCrash))

end Census
