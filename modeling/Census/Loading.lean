/-
The tables of a directory of files.

* `LoadFault`: why the directory gives no submission;
* `csvNames`: the names that count, in order;
* `Loading.gather`: the tables of files in order, up to the first fault;
* `Loading.submission`: the submission of a directory without a fault;
* `csvNames_eq_of_perm`: the order in which a directory lists its files does not matter.
-/
import Census.Csv.Reader
import Census.Files.Path
import Census.Submission

namespace Census

/-- Why a directory gives no submission. -/
inductive LoadFault
  | noDirectory (directory : String)
  /-- A file has the identifier of an earlier one. -/
  | repeatedTable (id directory : String)
  /-- A file is no table of comma-separated values. -/
  | unreadable (path : String)
  deriving DecidableEq, Repr

/-- The text shown for a directory that gives no submission. -/
def LoadFault.text : LoadFault → String
  | noDirectory directory => s!"data directory not found: {directory}"
  | repeatedTable id directory => s!"more than one file maps to table '{id}' in {directory}"
  | unreadable path => s!"Failed to read CSV: {path}"

/-- The names of files of comma-separated values, ascending. -/
def csvNames (names : List String) : List String :=
  (names.filter Path.isCsv).mergeSort fun a b => a ≤ b

/-- The order in which a directory lists its files does not matter. -/
theorem csvNames_eq_of_perm {names names' : List String} (h : names.Perm names') :
    csvNames names = csvNames names' := by
  have ordered (l : List String) :
      (l.mergeSort fun a b => a ≤ b).Pairwise fun a b => decide (a ≤ b) = true :=
    List.pairwise_mergeSort (by simpa using fun _ _ _ => String.le_trans)
      (by simpa using String.le_total) l
  refine List.Perm.eq_of_pairwise (fun a b _ _ hab hba => ?_) (ordered _) (ordered _) ?_
  · exact String.le_antisymm (by simpa using hab) (by simpa using hba)
  · exact (List.mergeSort_perm _ _).trans
      ((h.filter _).trans (List.mergeSort_perm _ _).symm)

/-- The tables loaded from a directory by identifier, in the order of their files, and what ended
the loading early. -/
structure Loading where
  tables : List (String × Table)
  fault : Option LoadFault

namespace Loading

/-- Nothing could be loaded. -/
def failed (fault : LoadFault) : Loading :=
  ⟨[], some fault⟩

/-- One more table in front. -/
def cons (l : Loading) (id : String) (t : Table) : Loading :=
  { l with tables := (id, t) :: l.tables }

/-- The tables of files in order, where some identifiers are taken already.  `table` gives the table
of a file with an identifier.  A file with a blank identifier is passed over; one whose identifier
is taken is not read. -/
def gather {m : Type → Type} [Monad m] (directory : String)
    (table : String → String → m (Option Table)) (taken : List String) :
    List String → m Loading
  | [] => return ⟨[], none⟩
  | name :: rest =>
    match Path.tableId? name with
    | none => gather directory table taken rest
    | some id => do
      if taken.contains id then return failed (.repeatedTable id directory)
      else match ← table id name with
        | none => return failed (.unreadable (Path.join directory name))
        | some t => return (← gather directory table (id :: taken) rest).cons id t

/-- The submission of a directory without a fault. -/
def submission (l : Loading) : Except LoadFault Submission :=
  match l.fault with
  | none => .ok (Submission.ofList l.tables)
  | some fault => .error fault

end Loading

end Census
