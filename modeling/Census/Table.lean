/-
Tables: named columns of equal height.

* `Column`, `Table`: the columns in order, all of the table's height;
* `Table.ofColumns?`: the table of columns that have one height;
* `Table.column?`: the first column whose name agrees with a text up to ASCII case;
* `Table.names`, `Table.columnNamed?`: the names of the columns up to ASCII case, and the column of
  exactly one name;
* `Table.keys?`: the trimmed texts of the column that has the spelling of a name among the columns,
  one for each row.
-/
import Census.Cell
import Census.NameSet

namespace Census

/-- A named column. -/
structure Column where
  name : String
  cells : List Cell
  deriving DecidableEq, Repr

/-- Columns of one height, in order. -/
structure Table where
  columns : List Column
  height : Nat
  aligned : ∀ c ∈ columns, c.cells.length = height

namespace Table

/-- The table with neither columns nor rows. -/
def empty : Table :=
  ⟨[], 0, by simp⟩

instance : Inhabited Table :=
  ⟨empty⟩

/-- The table of columns that have one height.  Without columns there are no rows. -/
def ofColumns? (cs : List Column) : Option Table :=
  let height := (cs.head?.map (·.cells.length)).getD 0
  if h : ∀ c ∈ cs, c.cells.length = height then some ⟨cs, height, h⟩ else none

/-- The table of rows under given names.  A row gives each column its cell of that place, or no
value when it is too short. -/
def ofRows (names : List String) (rows : List (Array Cell)) : Table where
  columns := names.zipIdx.map fun (name, i) => ⟨name, rows.map fun row => row[i]?.getD Cell.none⟩
  height := rows.length
  aligned := by
    intro c hc
    obtain ⟨_, -, rfl⟩ := List.mem_map.mp hc
    exact List.length_map _

/-- The first column whose name agrees with a text up to ASCII case. -/
def column? (t : Table) (name : String) : Option Column :=
  t.columns.find? fun c => Text.sameName c.name name

/-- The names of the columns, of which the first spelling counts. -/
def names (t : Table) : NameSet :=
  NameSet.ofList (t.columns.map Column.name)

/-- The column of exactly one name. -/
def columnNamed? (t : Table) (name : String) : Option Column :=
  t.columns.find? fun c => c.name == name

/-- The trimmed texts of a column, one for each row.  The column is the one that has the spelling
which the names of the columns have for the name. -/
def keys? (t : Table) (name : String) : Option (List String) := do
  let spelling ← t.names.get? name
  let c ← t.columnNamed? spelling
  return c.cells.map Cell.key

theorem length_of_keys? {t : Table} {name : String} {ks : List String}
    (h : t.keys? name = some ks) : ks.length = t.height := by
  obtain ⟨spelling, -, h⟩ := Option.bind_eq_some_iff.mp h
  obtain ⟨c, hc, h⟩ := Option.bind_eq_some_iff.mp h
  obtain rfl := Option.some.inj h
  rw [List.length_map]
  exact t.aligned c (List.mem_of_find?_eq_some hc)

end Table

end Census
