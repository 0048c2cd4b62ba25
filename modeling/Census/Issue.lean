/-
Issues: the rows of a table that break a rule.

* `Issue`: rule, table, fields and rows;
* `Issue.of`: the issue of a list of rows, later repetitions dropped.
-/
import Census.Distinct

namespace Census

/-- One violation of a rule: the table, the fields it implicates and the rows, counted from 0. -/
structure Issue where
  rule : String
  table : String
  fields : List String
  rows : List Nat
  deriving DecidableEq, Repr

namespace Issue

/-- The issue of a list of rows.  Of a repeated row the first occurrence keeps its place. -/
def of (rule table : String) (fields : List String) (rows : List Nat) : Issue :=
  ⟨rule, table, fields, distinct rows⟩

/-- The number of rows. -/
def rowCount (i : Issue) : Nat :=
  i.rows.length

end Issue

end Census
