/-
Rules: what a rule says of itself, and the check that carries it out.

* `Severity`: what a finding of the rule means for the submission;
* `Check`: a function of the submission and a recorder, with the identity that tells it apart;
* `Rule`: code, table, message, affected fields, severity and check;
* `Rule.same`: equal descriptions with the same check;
* `Draft`, `Draft.rule`: a rule in the making and the rule it gives, or what is missing.
-/
import Census.Findings

namespace Census

/-- What a finding of a rule means. -/
inductive Severity
  /-- The submission has to be corrected. -/
  | error
  /-- The finding should be reviewed and may be explained. -/
  | warning
  /-- For information only. -/
  | info
  deriving DecidableEq, Repr

namespace Severity

/-- The severity as a heading. -/
def label : Severity → String
  | error => "Error"
  | warning => "Warning"
  | info => "Info"

/-- The severity as a value in a report. -/
def name : Severity → String
  | error => "error"
  | warning => "warning"
  | info => "info"

end Severity

/-! ### Checks -/

/-- How a check ended: it came to its end, it could not be carried out, or it broke down, with a
message if there was one. -/
inductive Ending
  | finished
  | refused (fault : Fault)
  | crashed (message : Option String)
  deriving DecidableEq, Repr

/-- A check reads the submission and records into the findings it is handed.  Two checks count as
the same when their identities agree, whatever they compute. -/
structure Check where
  identity : Nat
  body : Submission → Findings → Findings × Ending

/-! ### Rules -/

/-- A rule.  The edition tells which definition this is: a rule taken over from one registry into
another keeps its edition, one that is made anew has a new one. -/
structure Rule where
  code : String
  table : String
  message : String
  fields : List String
  severity : Severity
  check : Check
  edition : Nat

namespace Rule

/-- All but the checks agree. -/
def sameDescription (a b : Rule) : Bool :=
  a.code == b.code && a.table == b.table && a.message == b.message && a.fields == b.fields &&
    a.severity == b.severity

/-- The descriptions agree and the check is the same. -/
def same (a b : Rule) : Bool :=
  a.sameDescription b && a.check.identity == b.check.identity

/-- The empty recorder of a rule. -/
def findings (r : Rule) : Findings :=
  ⟨r.code, r.table, r.fields, []⟩

/-- Carries out the check on a submission with a fresh recorder. -/
def examine (r : Rule) (s : Submission) : Findings × Ending :=
  r.check.body s r.findings

end Rule

/-! ### Drafts -/

/-- Why a draft is no rule.  All but the first carry the trimmed code. -/
inductive DraftError
  | blankCode
  | blankTable (code : String)
  | noFields (code : String)
  | noCheck (code : String)
  deriving DecidableEq, Repr

/-- The text shown for a draft that is no rule. -/
def DraftError.text : DraftError → String
  | blankCode => "Rule code must not be empty"
  | blankTable code => s!"Rule {code} must name the table it reads"
  | noFields code => s!"Rule {code} must list at least one affected field"
  | noCheck code => s!"Rule {code} has no predicate"

/-- A rule in the making. -/
structure Draft where
  code : String
  table : String
  message : String
  fields : List String
  severity : Severity
  check : Option Check

namespace Draft

/-- A draft of a code and a table: no message, no field, no check, severity error. -/
def start (code table : String) : Draft :=
  ⟨code, table, "", [], .error, none⟩

/-- Sets the message, in place of one set before. -/
def withMessage (d : Draft) (message : String) : Draft :=
  { d with message }

/-- Adds an affected field. -/
def withField (d : Draft) (field : String) : Draft :=
  { d with fields := d.fields ++ [field] }

/-- Adds affected fields. -/
def withFields (d : Draft) (fields : List String) : Draft :=
  { d with fields := d.fields ++ fields }

/-- Sets the severity, in place of one set before. -/
def withSeverity (d : Draft) (severity : Severity) : Draft :=
  { d with severity }

/-- Sets the check, in place of one set before. -/
def withCheck (d : Draft) (check : Check) : Draft :=
  { d with check := some check }

/-- The fields of a rule: trimmed, those that are blank left out. -/
def trimmedFields (d : Draft) : List String :=
  (d.fields.map Text.trim).filter fun field => field ≠ ""

/-- The rule that a draft gives as one edition.  Code, table, fields and check are looked at in this
order. -/
def rule (d : Draft) (edition : Nat) : Except DraftError Rule :=
  let code := Text.trim d.code
  let table := Text.identifier d.table
  if code = "" then .error .blankCode
  else if table = "" then .error (.blankTable code)
  else if d.trimmedFields = [] then .error (.noFields code)
  else match d.check with
    | none => .error (.noCheck code)
    | some check => .ok ⟨code, table, d.message, d.trimmedFields, d.severity, check, edition⟩

end Draft

end Census
