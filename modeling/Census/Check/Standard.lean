/-
The standard checks.

* `Standard`: the seven kinds of check, each on columns of the rule's own table;
* `Standard.columns`: the columns that a finding implicates;
* `Standard.flagged`: the rows that a check flags, or the first item that is missing;
* `Standard.body`: what the check does with a recorder.

Cells are compared by their trimmed text.  Blank cells are left to the check for presence.
-/
import Census.Calendar.IsoDate
import Census.Rule
import Std.Data.HashSet

namespace Census

/-- A standard check.  All look at one column, the last one at two. -/
inductive Standard
  /-- Flags blank cells. -/
  | required (column : String)
  /-- Flags cells that are not in a list of values. -/
  | allowedValues (column : String) (allowed : List String)
  /-- Flags every occurrence of a value after its first. -/
  | unique (column : String)
  /-- Flags cells that are no date. -/
  | isoDate (column : String)
  /-- Flags cells that are no whole number from a least to a greatest one. -/
  | integerRange (column : String) (least greatest : Int)
  /-- Flags values that are not among those of another table's column. -/
  | references (column targetTable targetColumn : String)
  /-- Flags rows whose later date falls before the earlier one. -/
  | dateOrder (earlier later : String)
  deriving DecidableEq, Repr

namespace Standard

/-- The rows, ascending, whose key has a property. -/
def rowsWhere (p : String → Bool) (keys : List String) : List Nat :=
  (keys.zipIdx.filter fun k => p k.1).map (·.2)

/-- The rows, ascending, whose key is not blank and stood in an earlier row. -/
def repeatedRows (keys : List String) : List Nat :=
  let first := firstPlaces keys
  (keys.zipIdx.filter fun k => k.1 != "" && first[k.1]? != some k.2).map (·.2)

/-- The key is a whole number within the range. -/
def inRange (least greatest : Int) (key : String) : Bool :=
  match Number.signed64? key with
  | some n => least ≤ n && n ≤ greatest
  | none => false

/-- Both keys are dates and the second falls before the first. -/
def reversed (earlier later : String) : Bool :=
  match isoDay? earlier, isoDay? later with
  | some start, some stop => stop < start
  | _, _ => false

/-- The rows, ascending, whose key is not blank and is not among the targets. -/
def unmatchedRows (keys targets : List String) : List Nat :=
  let known := Std.HashSet.ofList (targets.filter (· ≠ ""))
  rowsWhere (fun key => key ≠ "" && !known.contains key) keys

/-- The columns that a finding of the check implicates. -/
def columns : Standard → List String
  | required c | allowedValues c _ | unique c | isoDate c | integerRange c _ _
  | references c _ _ => [c]
  | dateOrder earlier later => [earlier, later]

/-- The rows of a table that the check flags.  Of what the check needs, the first item that is
missing is the fault. -/
def flagged (s : Submission) (table : String) : Standard → Except Fault (List Nat)
  | required c => do
    let keys ← s.requireColumn table c
    return rowsWhere (· == "") keys
  | allowedValues c allowed => do
    let keys ← s.requireColumn table c
    return rowsWhere (fun key => key != "" && !allowed.contains key) keys
  | unique c => do
    let keys ← s.requireColumn table c
    return repeatedRows keys
  | isoDate c => do
    let keys ← s.requireColumn table c
    return rowsWhere (fun key => key != "" && !isIsoDate key) keys
  | integerRange c least greatest => do
    let keys ← s.requireColumn table c
    return rowsWhere (fun key => key != "" && !inRange least greatest key) keys
  | references c targetTable targetColumn => do
    let keys ← s.requireColumn table c
    let targets ← s.requireColumn targetTable targetColumn
    return unmatchedRows keys targets
  | dateOrder earlier later => do
    let starts ← s.requireColumn table earlier
    let stops ← s.requireColumn table later
    return ((starts.zip stops).zipIdx.filter fun p => reversed p.1.1 p.1.2).map (·.2)

/-- Reports the flagged rows for the columns of the check. -/
def body (check : Standard) (s : Submission) (f : Findings) : Findings × Ending :=
  match check.flagged s f.table with
  | .error fault => (f, .refused fault)
  | .ok rows =>
    match f.record (.some check.columns rows) with
    | .error fault => (f, .refused fault)
    | .ok f => (f, .finished)

end Standard

/-- The check of a standard kind under an identity. -/
def Check.standard (identity : Nat) (check : Standard) : Check :=
  ⟨identity, check.body⟩

end Census
