/-
The recorder that a check writes its findings into.

* `Findings`: the rule the recorder belongs to and the issues recorded so far;
* `Findings.unknownField?`, `Findings.implicated`: how requested names choose among the fields the
  rule affects;
* `Findings.Report`, `Findings.record`: the three ways to report rows;
* `record_eq_error_iff`: a report is refused exactly when a requested name is no affected field.
-/
import Census.Fault
import Census.Issue

namespace Census

/-- What a check has recorded for one rule. -/
structure Findings where
  rule : String
  table : String
  fields : List String
  issues : List Issue
  deriving DecidableEq, Repr

namespace Findings

/-- A request for rows to be recorded: for all affected fields of the rule's own table, for some of
them, or for some of them in another table.  Requesting no field means all. -/
inductive Report
  | all (rows : List Nat)
  | some (fields : List String) (rows : List Nat)
  | elsewhere (table : String) (fields : List String) (rows : List Nat)
  deriving DecidableEq, Repr

/-- A requested name stands for a field when they agree after trimming, up to ASCII case. -/
def stands (requested field : String) : Bool :=
  Text.sameName field (Text.trim requested)

/-- The first requested name that stands for no affected field. -/
def unknownField? (f : Findings) (requested : List String) : Option String :=
  requested.find? fun name => !f.fields.any (stands name)

/-- The affected fields that are requested, in their own order; all when none is requested. -/
def implicated (f : Findings) (requested : List String) : List String :=
  if requested = [] then f.fields
  else f.fields.filter fun field => requested.any fun name => stands name field

/-- Appends the issue of some rows, unless there are none. -/
def push (f : Findings) (table : String) (fields : List String) (rows : List Nat) : Findings :=
  if rows = [] then f
  else { f with issues := f.issues ++ [Issue.of f.rule table fields rows] }

/-- Records rows for requested fields of a table. -/
def reportIn (f : Findings) (table : String) (requested : List String) (rows : List Nat) :
    Except Fault Findings :=
  match f.unknownField? requested with
  | .some name => .error (.unknownField f.rule name)
  | .none => .ok (f.push (Text.identifier table) (f.implicated requested) rows)

/-- Carries out a report, or refuses it without a trace. -/
def record (f : Findings) : Report → Except Fault Findings
  | .all rows => .ok (f.push f.table f.fields rows)
  | .some requested rows => f.reportIn f.table requested rows
  | .elsewhere table requested rows => f.reportIn table requested rows

/-- Nothing has been recorded. -/
def isEmpty (f : Findings) : Bool :=
  f.issues.isEmpty

/-- The names that a report requests. -/
def Report.requested : Report → List String
  | all _ => []
  | some requested _ => requested
  | elsewhere _ requested _ => requested

/-- A report is refused exactly when a requested name is no affected field, and the fault names the
first such name as it was given. -/
theorem record_eq_error_iff {f : Findings} {r : Report} {e : Fault} :
    f.record r = .error e ↔
      ∃ name, f.unknownField? r.requested = .some name ∧ e = .unknownField f.rule name := by
  have h : ∀ table requested rows, f.reportIn table requested rows = .error e ↔
      ∃ name, f.unknownField? requested = .some name ∧ e = .unknownField f.rule name := by
    intro table requested rows
    rw [reportIn]
    cases f.unknownField? requested with
    | none => simp
    | some name => simp [eq_comm]
  cases r with
  | all rows => simp [record, Report.requested, unknownField?]
  | some requested rows => exact h ..
  | elsewhere table requested rows => exact h ..

end Findings

end Census
