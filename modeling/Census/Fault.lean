/-
Why a check could not be carried out.

* `Fault`: a missing table or column, a field that the rule does not affect, or a text of the
  check's own;
* `Fault.text`: the text shown for it;
* `Submission.requireTable`, `Submission.requireColumn`: look-ups that fail with a fault.
-/
import Census.Submission

namespace Census

/-- Why a check could not be carried out.  Names are kept as they were asked for. -/
inductive Fault
  | missingTable (table : String)
  | missingColumn (table column : String)
  | unknownField (rule field : String)
  | message (text : String)
  deriving DecidableEq, Repr

/-- The text shown for a fault. -/
def Fault.text : Fault → String
  | missingTable table => s!"Table '{table}' is not present in the submission"
  | missingColumn table column => s!"Column '{column}' not found in table '{table}'"
  | unknownField rule field => s!"Field '{field}' is not an affected field of rule {rule}"
  | message text => text

/-- The trimmed texts of a column of a table that is known by some name. -/
def Table.requireColumn (t : Table) (table column : String) : Except Fault (List String) :=
  match t.keys? column with
  | some keys => .ok keys
  | none => .error (.missingColumn table column)

namespace Submission

/-- The table of an identifier. -/
def requireTable (s : Submission) (table : String) : Except Fault Table :=
  match s.table? table with
  | some t => .ok t
  | none => .error (.missingTable table)

/-- The trimmed texts of a column of the table of an identifier. -/
def requireColumn (s : Submission) (table column : String) : Except Fault (List String) :=
  match s.requireTable table with
  | .ok t => t.requireColumn table column
  | .error fault => .error fault

end Submission

end Census
