/-
Columns by their names.

* `NameSet.get?_ofList`: a set of names has the first spelling of the list;
* `Table.columnNamed?_of_column?`: this spelling is the name of the column that comes first, and of
  none in front of it;
* `Table.keys?_eq`: so the texts that are read are those of the first column that matches;
* `Table.FirstNamed`, `Table.requireColumn_first`: which names find a column, which column they
  find, and what makes no difference to it.
-/
import Mathlib
import Census.Fault
import Census.Proofs.Text.Fold

namespace Census

/-! ### Sets of names -/

namespace NameSet

/-- Of names that are put in one after another, the first spelling counts that the set has or is
given. -/
lemma get?_foldl_add (names : List String) (s : NameSet) (name : String) :
    (names.foldl add s).get? name =
      (s.get? name).or (names.find? fun n => Text.sameName n name) := by
  induction names generalizing s with
  | nil => rw [List.foldl_nil, List.find?_nil, Option.or_none]
  | cons n names ih =>
      rw [List.foldl_cons, ih, get?_add, Option.or_assoc, List.find?_cons]
      cases hsame : Text.sameName n name with
      | true => rw [if_pos (Text.sameName_iff_upper.mp hsame).symm, Option.some_or]
      | false =>
          have hne : ¬Text.upper name = Text.upper n := fun h => by
            rw [Text.sameName_iff_upper.mpr h.symm] at hsame
            cases hsame
          rw [if_neg hne, Option.none_or]

/-- A look-up in the set finds the first spelling of the list. -/
lemma get?_ofList (names : List String) (name : String) :
    (ofList names).get? name = names.find? fun n => Text.sameName n name := by
  rw [ofList, get?_foldl_add]
  rfl

end NameSet

/-! ### Columns -/

namespace Table

variable {t : Table} {name : String} {c : Column}

/-- The column is the first, in the order of the table, whose name is a given one up to ASCII
case. -/
def FirstNamed (t : Table) (name : String) (c : Column) : Prop :=
  Text.CaseVariant c.name name ∧ ∃ before after, t.columns = before ++ c :: after ∧
    ∀ d ∈ before, ¬Text.CaseVariant d.name name

lemma column?_eq_some_iff : t.column? name = some c ↔ t.FirstNamed name c := by
  rw [column?, List.find?_eq_some_iff_append, Text.sameName_iff_caseVariant, FirstNamed]
  simp only [Bool.not_eq_true', Text.sameName_eq_false_iff]

lemma column?_eq_none_iff :
    t.column? name = none ↔ ∀ c ∈ t.columns, ¬Text.CaseVariant c.name name := by
  rw [column?, List.find?_eq_none]
  simp only [Text.sameName_iff_caseVariant]

lemma isSome_column? (t : Table) (name : String) :
    (t.column? name).isSome = t.columns.any fun c => Text.sameName c.name name :=
  List.isSome_find?

lemma exists_column?_iff :
    (∃ c, t.column? name = some c) ↔ ∃ c ∈ t.columns, Text.CaseVariant c.name name := by
  rw [← Option.ne_none_iff_exists', ne_eq, column?_eq_none_iff]
  simp

/-- The names of the columns have the spelling of the first one that matches. -/
lemma get?_names (t : Table) (name : String) :
    t.names.get? name = (t.column? name).map Column.name := by
  rw [names, NameSet.get?_ofList, List.find?_map, column?]
  rfl

/-- No column in front of the first one that matches has its name, since it would match as well. -/
lemma columnNamed?_of_column? (h : t.column? name = some c) : t.columnNamed? c.name = some c := by
  obtain ⟨hc, before, after, hsplit, hbefore⟩ := List.find?_eq_some_iff_append.mp h
  refine List.find?_eq_some_iff_append.mpr ⟨beq_self_eq_true _, before, after, hsplit, ?_⟩
  intro d hd
  have hother := hbefore d hd
  cases hname : d.name == c.name with
  | false => rfl
  | true =>
      rw [eq_of_beq hname, hc] at hother
      cases hother

/-- The texts that are read are those of the first column that matches. -/
lemma keys?_eq (t : Table) (name : String) :
    t.keys? name = (t.column? name).map fun c => c.cells.map Cell.key := by
  rw [keys?, get?_names]
  cases h : t.column? name with
  | none => rfl
  | some c =>
      rw [Option.map_some, Option.bind_eq_bind, Option.bind_some, columnNamed?_of_column? h]
      rfl

/-- Names that differ in ASCII case only find the same column. -/
lemma column?_congr {name' : String} (h : Text.CaseVariant name' name) :
    t.column? name' = t.column? name := by
  have hlower := Text.lower_eq_lower_iff.mpr h
  rw [column?, column?]
  refine congrArg (t.columns.find? ·) (funext fun d => ?_)
  rw [Text.sameName, hlower, Text.sameName]

/-- Of tables that start with the same columns, one of which matches, the same column is found. -/
lemma column?_eq_of_prefix {t' : Table} {front : List Column} (h : front <+: t.columns)
    (h' : front <+: t'.columns) (hc : c ∈ front) (hname : Text.CaseVariant c.name name) :
    t'.column? name = t.column? name := by
  have hfront : ∀ u : Table, front <+: u.columns →
      u.column? name = front.find? fun d => Text.sameName d.name name := by
    rintro u ⟨rest, hrest⟩
    have hfound : (front.find? fun d => Text.sameName d.name name).isSome = true :=
      List.find?_isSome.mpr ⟨c, hc, Text.sameName_iff_caseVariant.mpr hname⟩
    rw [column?, ← hrest, List.find?_append, Option.or_of_isSome hfound]
  rw [hfront t' h', hfront t h]

lemma requireColumn_eq (t : Table) (table name : String) :
    t.requireColumn table name = match t.column? name with
      | some c => .ok (c.cells.map Cell.key)
      | none => .error (.missingColumn table name) := by
  rw [requireColumn, keys?_eq]
  cases t.column? name <;> rfl

/-- **Columns by name.**  A name finds a column exactly when it is the name of one up to ASCII case,
and is missing otherwise.  What is read is the first column that matches, with one text for each
row, the trimmed text of its value; the spelling that the names of the columns have for the name is
that column's, and leads to it.  Names that differ in ASCII case only find the same texts, and
columns behind one that matches make no difference. -/
theorem requireColumn_first (t : Table) (table name : String) :
    ((∃ keys, t.requireColumn table name = .ok keys) ↔
      ∃ c ∈ t.columns, Text.CaseVariant c.name name) ∧
    (t.requireColumn table name = .error (.missingColumn table name) ↔
      ∀ c ∈ t.columns, ¬Text.CaseVariant c.name name) ∧
    (∀ keys, t.requireColumn table name = .ok keys →
      ∃ c, t.FirstNamed name c ∧ keys = (c.cells.map fun cell => Text.trim cell.render) ∧
        keys.length = t.height ∧
        t.names.get? name = some c.name ∧ t.columnNamed? c.name = some c) ∧
    (∀ table' name' keys, Text.CaseVariant name' name →
      (t.requireColumn table' name' = .ok keys ↔ t.requireColumn table name = .ok keys)) ∧
    ∀ (t' : Table) (front : List Column), front <+: t.columns → front <+: t'.columns →
      (∃ c ∈ front, Text.CaseVariant c.name name) →
      t'.requireColumn table name = t.requireColumn table name := by
  refine ⟨?_, ?_, fun keys hkeys => ?_, fun table' name' keys hname => ?_,
    fun t' front hfront hfront' hmatch => ?_⟩
  · rw [← exists_column?_iff, requireColumn_eq]
    cases t.column? name <;> simp
  · rw [← column?_eq_none_iff, requireColumn_eq]
    cases t.column? name <;> simp
  · rw [requireColumn_eq] at hkeys
    cases hc : t.column? name with
    | none => rw [hc] at hkeys; cases hkeys
    | some c =>
        rw [hc] at hkeys
        obtain rfl := Except.ok.inj hkeys
        have hlength := t.aligned c (List.mem_of_find?_eq_some hc)
        refine ⟨c, column?_eq_some_iff.mp hc, rfl, ?_, ?_, columnNamed?_of_column? hc⟩
        · rw [List.length_map, hlength]
        · rw [get?_names, hc, Option.map_some]
  · rw [requireColumn_eq, requireColumn_eq, column?_congr hname]
    cases t.column? name <;> simp
  · obtain ⟨c, hc, hname⟩ := hmatch
    rw [requireColumn_eq, requireColumn_eq, column?_eq_of_prefix hfront hfront' hc hname]

-- of names that agree the first one counts, and only ASCII letters agree in another case
example :
    let t := ofRows ["Größe", "ID", "Id"] [#[.text "1", .text " a ", .text "b"], #[.text "2"]]
    t.keys? "iD" = some ["a", ""] ∧ t.keys? "GRÖSSE" = none := by
  decide +kernel

end Table

end Census
