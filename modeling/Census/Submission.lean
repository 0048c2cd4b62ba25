/-
The tables of one submission.

* `Submission`: tables by identifier, an identifier standing for all its spellings;
* `insert`, `table?`, `ids`, `size`, `rowCount`;
* `exchange`: the insertion that gives the table which it replaces;
* `table?_insert`: a look-up sees the last table put in under the same identifier.
-/
import Census.Keyed
import Census.Table

namespace Census

/-- Tables by identifier.  Identifiers are trimmed and in lower case, so that all spellings of one
name the same table. -/
structure Submission where
  tables : Keyed Table

namespace Submission

/-- The submission without tables. -/
def empty : Submission :=
  ⟨Keyed.empty⟩

instance : Inhabited Submission :=
  ⟨empty⟩

/-- The table of an identifier, in any spelling. -/
def table? (s : Submission) (id : String) : Option Table :=
  s.tables.get? (Text.identifier id)

/-- The submission with a table under an identifier, in place of one that was there. -/
def insert (s : Submission) (id : String) (t : Table) : Submission :=
  ⟨s.tables.insert (Text.identifier id) t⟩

/-- The table that is replaced by one put in under an identifier, and the submission with this
one. -/
def exchange (s : Submission) (id : String) (t : Table) : Option Table × Submission :=
  let (old, tables) := s.tables.exchange (Text.identifier id) t
  (old, ⟨tables⟩)

/-- The submission of a list of tables. -/
def ofList (ts : List (String × Table)) : Submission :=
  ts.foldl (fun s t => s.insert t.1 t.2) empty

/-- The identifiers, ascending. -/
def ids (s : Submission) : List String :=
  s.tables.keys

/-- The number of tables. -/
def size (s : Submission) : Nat :=
  s.tables.size

/-- The number of rows of all tables. -/
def rowCount (s : Submission) : Nat :=
  (s.tables.values.map Table.height).foldr (· + ·) 0

/-- A look-up sees the last table put in under the same identifier. -/
theorem table?_insert (s : Submission) (id : String) (t : Table) (id' : String) :
    (s.insert id t).table? id' =
      if Text.identifier id' = Text.identifier id then some t else s.table? id' :=
  Keyed.get?_insert ..

end Submission

end Census
