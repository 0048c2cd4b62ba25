/-
The rows that standard checks flag, by the cells of their columns.

* `Submission.column?`, `Column.keys`, `Column.HasKind`: the column that a name finds, what checks
  compare of it, and columns of one kind;
* `Standard.Flags`: a check makes an issue of the rows with a property;
* `flags_of_column`: a check of one column flags the rows whose key violates it;
* `integerRange_flags`: which rows are out of a range of integers, in columns of integers and of
  text;
* `days_survive_text`: days are written and read again, and which rows of columns of days are
  flagged.
-/
import Census.Proofs.Cell
import Census.Proofs.Check.Standard
import Census.Proofs.Text.Utf8

namespace Census

open Number (DenotesInteger)

/-! ### Columns -/

/-- The column that a name finds in a table. -/
def Submission.column? (s : Submission) (table name : String) : Option Column :=
  (s.table? table).bind fun t => t.column? name

/-- The trimmed texts of the cells, one for each row. -/
def Column.keys (col : Column) : List String :=
  col.cells.map Cell.key

/-- Each cell of the column has a value of one kind, or none. -/
def Column.HasKind {α : Type} (kind : α → Cell) (col : Column) : Prop :=
  ∀ cell ∈ col.cells, cell = .none ∨ ∃ a, cell = kind a

section Columns

variable {s : Submission} {table name : String} {col : Column}

/-- The column that is found is the one whose keys are read. -/
lemma Submission.requireColumn_eq (h : s.column? table name = some col) :
    s.requireColumn table name = .ok col.keys := by
  obtain ⟨t, ht, hcol⟩ := Option.bind_eq_some_iff.mp h
  rw [requireColumn, requireTable, ht]
  show t.requireColumn table name = _
  rw [Table.requireColumn_eq, hcol]
  rfl

/-- In a column of one kind, what cells without a value do not have only values of the kind have. -/
lemma Column.HasKind.exists_cell_iff {α : Type} {kind : α → Cell} (h : col.HasKind kind)
    {p : Cell → Prop} (hnone : ¬p .none) {row : ℕ} :
    (∃ cell, col.cells[row]? = some cell ∧ p cell) ↔
      ∃ a, col.cells[row]? = some (kind a) ∧ p (kind a) := by
  constructor
  · rintro ⟨cell, hcell, hp⟩
    rcases h cell (List.mem_of_getElem? hcell) with rfl | ⟨a, rfl⟩
    · exact absurd hp hnone
    · exact ⟨a, hcell, hp⟩
  · rintro ⟨a, hcell, hp⟩
    exact ⟨_, hcell, hp⟩

end Columns

/-! ### Flagged rows -/

namespace Standard

variable {s : Submission} {table c c' : String} {col col' : Column} {check : Standard}
  {p q : ℕ → Prop}

/-- The check flags the rows of a table that have a property: it finds these, in ascending order,
and, where its columns are fields of the rule, makes an issue of them. -/
def Flags (check : Standard) (s : Submission) (table : String) (p : ℕ → Prop) : Prop :=
  ∃ rows, Enumerates rows p ∧ check.flagged s table = .ok rows ∧
    ∀ f : Findings, f.table = table → f.unknownField? check.columns = none →
      check.body s f = (f.push (Text.identifier table) (f.implicated check.columns) rows, .finished)

lemma Flags.congr (h : check.Flags s table p) (hpq : ∀ row, p row ↔ q row) :
    check.Flags s table q := by
  obtain ⟨rows, hrows, hflagged⟩ := h
  exact ⟨rows, hrows.congr hpq, hflagged⟩

lemma flags_of_flagged {rows : List ℕ} (hrows : Enumerates rows p)
    (h : check.flagged s table = .ok rows) : check.Flags s table p := by
  refine ⟨rows, hrows, h, ?_⟩
  rintro f rfl hknown
  simp only [body, h, Findings.record, Findings.reportIn, hknown]

/-- The places of the members of a list that pass a test. -/
lemma enumerates_places {α : Type} (as : List α) (test : α → Bool) :
    Enumerates ((as.zipIdx.filter fun k => test k.1).map (·.2))
      (fun row => ∃ a, as[row]? = some a ∧ test a = true) := by
  refine ⟨(rowsOf_filter_zipIdx as fun k => test k.1).1, fun row => ?_⟩
  simp only [List.mem_map, List.mem_filter, Prod.exists, List.mk_mem_zipIdx_iff_getElem?]
  constructor
  · rintro ⟨a, row, ⟨ha, htest⟩, rfl⟩
    exact ⟨a, ha, htest⟩
  · rintro ⟨a, ha, htest⟩
    exact ⟨a, row, ⟨ha, htest⟩, rfl⟩

/-- A check of one column flags the rows whose keys violate it. -/
lemma flags_of_column {violates : String → Bool}
    (hcheck : check.flagged s table = do
      let keys ← s.requireColumn table c
      return rowsWhere violates keys)
    (hcol : s.column? table c = some col) :
    check.Flags s table fun row =>
      ∃ cell, col.cells[row]? = some cell ∧ violates cell.key = true := by
  rw [Submission.requireColumn_eq hcol] at hcheck
  refine flags_of_flagged ((enumerates_places _ violates).congr fun row => ?_) hcheck
  simp only [Column.keys, List.getElem?_map, Option.map_eq_some_iff, exists_exists_and_eq_and]

/-! ### Ranges of integers -/

section Integers

variable {least greatest : ℤ}

/-- A key is in a range of signed 64-bit numbers when it denotes an integer of the range. -/
lemma inRange_eq_true_iff (hleast : Number.InSigned64 least)
    (hgreatest : Number.InSigned64 greatest) {key : String} :
    inRange least greatest key = true ↔
      ∃ k, DenotesInteger (Text.trim key).toList k ∧ least ≤ k ∧ k ≤ greatest := by
  have hread : inRange least greatest key = true ↔
      ∃ k, Number.signed64? key = some k ∧ least ≤ k ∧ k ≤ greatest := by
    rw [inRange]
    cases Number.signed64? key <;> simp
  rw [hread]
  constructor
  · rintro ⟨k, hk, hbounds⟩
    exact ⟨k, (Number.signed64?_eq_some_iff_denotes.mp hk).1, hbounds⟩
  · rintro ⟨k, hk, hlow, hhigh⟩
    have hin : Number.InSigned64 k := ⟨hleast.1.trans hlow, hhigh.trans hgreatest.2⟩
    exact ⟨k, Number.signed64?_eq_some_iff_denotes.mpr ⟨hk, hin⟩, hlow, hhigh⟩

/-- What the range check objects to: a key that is not blank and denotes no integer of the range. -/
lemma flags_integerRange (hcol : s.column? table c = some col) (hleast : Number.InSigned64 least)
    (hgreatest : Number.InSigned64 greatest) :
    (integerRange c least greatest).Flags s table fun row =>
      ∃ cell, col.cells[row]? = some cell ∧ (cell.key ≠ "" ∧
        ¬∃ k, DenotesInteger cell.key.toList k ∧ least ≤ k ∧ k ≤ greatest) := by
  refine (flags_of_column rfl hcol).congr fun row => ?_
  refine exists_congr fun cell => and_congr_right fun _ => ?_
  have htrim : Text.trim cell.key = cell.key := Text.trim_trim _
  rw [Bool.and_eq_true, bne_iff_ne, Bool.not_eq_true', ← Bool.not_eq_true,
    inRange_eq_true_iff hleast hgreatest, htrim]

/-- The text of an integer is its key, and denotes no other integer. -/
lemma denotesInteger_key_iff {k j : ℤ} :
    DenotesInteger (Cell.integer k).key.toList j ↔ j = k := by
  have hk := Number.denotesInteger_toString k
  have hkey : (Cell.integer k).key.toList = (toString k).toList := by
    rw [Cell.key, Text.toList_trim]
    exact Text.trimChars_eq_self hk.not_isBlank
  rw [hkey]
  constructor
  · intro hj
    rw [← Number.integer?_eq_some_iff] at hk hj
    exact Option.some.inj (hj.symm.trans hk)
  · rintro rfl
    exact hk

lemma key_integer_ne (k : ℤ) : (Cell.integer k).key ≠ "" :=
  mt (Cell.integer k).key_eq_empty_iff.mp id

/-- **Ranges of integers**: what is read of a text is the integer that it denotes, trimmed, when
that is in the signed 64-bit range.  In a column of integers the rows are flagged whose integer is
outside a range; in a column of text those whose text is not blank and denotes, trimmed, no integer
of the range. -/
theorem integerRange_flags :
    (∀ text k, Number.signed64? text = some k ↔
      DenotesInteger (Text.trim text).toList k ∧ Number.InSigned64 k) ∧
    ∀ {s : Submission} {table c : String} {col : Column} {least greatest : ℤ},
      s.column? table c = some col → Number.InSigned64 least → Number.InSigned64 greatest →
      (col.HasKind Cell.integer →
        (integerRange c least greatest).Flags s table fun row =>
          ∃ k, col.cells[row]? = some (.integer k) ∧ ¬(least ≤ k ∧ k ≤ greatest)) ∧
      (col.HasKind Cell.text →
        (integerRange c least greatest).Flags s table fun row =>
          ∃ text, col.cells[row]? = some (.text text) ∧ Text.trim text ≠ "" ∧
            ¬∃ k, DenotesInteger (Text.trim text).toList k ∧ least ≤ k ∧ k ≤ greatest) := by
  refine ⟨fun text k => Number.signed64?_eq_some_iff_denotes, fun hcol hleast hgreatest => ?_⟩
  have hflags := flags_integerRange hcol hleast hgreatest
  have hnone : Cell.none.key = "" := rfl
  refine ⟨fun hkind => ?_, fun hkind => ?_⟩
  · refine hflags.congr fun row => (hkind.exists_cell_iff fun h => h.1 hnone).trans ?_
    refine exists_congr fun k => and_congr_right fun _ => ?_
    simp only [denotesInteger_key_iff, exists_eq_left, and_iff_right (key_integer_ne k)]
  · exact hflags.congr fun row => hkind.exists_cell_iff fun h => h.1 hnone

/-- Integers at both ends of the signed range and beyond, and one cell without a value. -/
def quantities : Column :=
  ⟨"Quantity", [.integer (-9223372036854775808), .integer 9223372036854775808, .none, .integer 7,
    .integer 18446744073709551615]⟩

/-- Numbers with zeros, a sign and blanks, a blank text, and numbers that are none or too great. -/
def counts : Column :=
  ⟨"Count", [.text "007", .text " +7 ", .text "7x", .text " ", .text "9223372036854775808"]⟩

/-- A return with these columns. -/
def holdings : Submission :=
  Submission.empty.insert "holdings" ⟨[quantities, counts], 5, by decide⟩

/-- The whole signed range leaves its ends unflagged.  What is beyond it and what is no number is
flagged. -/
theorem integerRange_flags_holdings :
    holdings.column? "Holdings" "quantity" = some quantities ∧
    holdings.column? "Holdings" "count" = some counts ∧
    quantities.HasKind Cell.integer ∧ counts.HasKind Cell.text ∧
    Number.InSigned64 (-9223372036854775808) ∧ Number.InSigned64 9223372036854775807 ∧
    Enumerates [1, 4] (fun row => ∃ k, quantities.cells[row]? = some (.integer k) ∧
      ¬(-9223372036854775808 ≤ k ∧ k ≤ 9223372036854775807)) ∧
    Enumerates [2, 4] (fun row => ∃ text, counts.cells[row]? = some (.text text) ∧
      Text.trim text ≠ "" ∧ ¬∃ k, DenotesInteger (Text.trim text).toList k ∧
        -9223372036854775808 ≤ k ∧ k ≤ 9223372036854775807) := by
  have hquantities : holdings.column? "Holdings" "quantity" = some quantities := by decide +kernel
  have hcounts : holdings.column? "Holdings" "count" = some counts := by decide +kernel
  have hints : quantities.HasKind Cell.integer := by
    simp [Column.HasKind, quantities]
  have htexts : counts.HasKind Cell.text := by
    simp [Column.HasKind, counts]
  have hleast : Number.InSigned64 (-9223372036854775808) := by decide
  have hgreatest : Number.InSigned64 9223372036854775807 := by decide
  obtain ⟨-, hflags⟩ := integerRange_flags
  obtain ⟨rows, hrows, hflagged, -⟩ := (hflags hquantities hleast hgreatest).1 hints
  obtain ⟨rows', hrows', hflagged', -⟩ := (hflags hcounts hleast hgreatest).2 htexts
  obtain rfl : [1, 4] = rows := Except.ok.inj (Eq.trans (by decide +kernel) hflagged)
  obtain rfl : [2, 4] = rows' := Except.ok.inj (Eq.trans (by decide +kernel) hflagged')
  exact ⟨hquantities, hcounts, hints, htexts, hleast, hgreatest, hrows, hrows'⟩

end Integers

/-! ### Days -/

section Days

/-- The text of a day is its key. -/
lemma key_day (n : ℤ) : (Cell.day n).key = (Cell.day n).render :=
  Date.trim_text _

lemma render_day_ne (n : ℤ) : (Cell.day n).render ≠ "" := by
  rw [← key_day]
  exact mt (Cell.day n).key_eq_empty_iff.mp id

/-- What is read of the text of a day is this day, as long as its year takes no sign. -/
lemma isoDay?_day {m n : ℤ} :
    isoDay? (Cell.day n).render = some m ↔ (Date.ofDayNumber n).HasFullYear ∧ m = n := by
  obtain ⟨hexists, hnumber⟩ := Date.ofDayNumber_spec n
  rw [Cell.render]
  by_cases hyear : (Date.ofDayNumber n).HasFullYear
  · rw [Date.isoDay?_text hexists hyear, hnumber, Option.some.injEq, and_iff_right hyear, eq_comm]
  · rw [Date.isoDay?_text_eq_none hyear]
    exact iff_of_false nofun fun h => hyear h.1

lemma isIsoDate_day {n : ℤ} :
    isIsoDate (Cell.day n).render = true ↔ (Date.ofDayNumber n).HasFullYear := by
  simp only [isIsoDate, Option.isSome_iff_exists, isoDay?_day, exists_and_left, exists_eq,
    and_true]

/-- Days whose years take no sign have texts with bytes in their order. -/
lemma bytes_day_lt_iff {m n : ℤ} (hm : (Date.ofDayNumber m).HasFullYear)
    (hn : (Date.ofDayNumber n).HasFullYear) :
    (Cell.day m).render.toUTF8.data.toList < (Cell.day n).render.toUTF8.data.toList ↔ m < n := by
  obtain ⟨hexists, hnumber⟩ := Date.ofDayNumber_spec m
  obtain ⟨hexists', hnumber'⟩ := Date.ofDayNumber_spec n
  rw [← Text.lt_iff_toUTF8_lt, Cell.render, Cell.render,
    Date.text_lt_text_iff hexists hexists' hm hn, ← Date.dayNumber_lt_iff hexists hexists',
    hnumber, hnumber']

lemma reversed_eq_true_iff {earlier later : String} :
    reversed earlier later = true ↔
      ∃ start stop, isoDay? earlier = some start ∧ isoDay? later = some stop ∧ stop < start := by
  rw [reversed]
  cases isoDay? earlier <;> cases isoDay? later <;> simp

/-- The check of the order of two columns flags the rows whose keys are reversed. -/
lemma flags_dateOrder (hcol : s.column? table c = some col)
    (hcol' : s.column? table c' = some col') :
    (dateOrder c c').Flags s table fun row =>
      ∃ cell cell', col.cells[row]? = some cell ∧ col'.cells[row]? = some cell' ∧
        reversed cell.key cell'.key = true := by
  have hflagged : (dateOrder c c').flagged s table = .ok
      (((col.keys.zip col'.keys).zipIdx.filter fun p => reversed p.1.1 p.1.2).map (·.2)) := by
    rw [flagged, Submission.requireColumn_eq hcol, Submission.requireColumn_eq hcol']
    rfl
  have hplaces := enumerates_places (col.keys.zip col'.keys) fun p => reversed p.1 p.2
  refine flags_of_flagged (hplaces.congr fun row => ?_) hflagged
  simp only [Column.keys, Prod.exists, List.getElem?_zip_eq_some, List.getElem?_map,
    Option.map_eq_some_iff]
  constructor
  · rintro ⟨_, _, ⟨⟨cell, hcell, rfl⟩, ⟨cell', hcell', rfl⟩⟩, hreversed⟩
    exact ⟨cell, cell', hcell, hcell', hreversed⟩
  · rintro ⟨cell, cell', hcell, hcell', hreversed⟩
    exact ⟨_, _, ⟨⟨cell, hcell, rfl⟩, ⟨cell', hcell', rfl⟩⟩, hreversed⟩

/-- In a column of days those are flagged whose year takes a sign. -/
lemma flags_isoDate_days (hcol : s.column? table c = some col) (hkind : col.HasKind Cell.day) :
    (isoDate c).Flags s table fun row =>
      ∃ n, col.cells[row]? = some (.day n) ∧ ¬(Date.ofDayNumber n).HasFullYear := by
  refine (flags_of_column rfl hcol).congr fun row => (hkind.exists_cell_iff nofun).trans ?_
  refine exists_congr fun n => and_congr_right fun _ => ?_
  rw [key_day, Bool.and_eq_true, bne_iff_ne, and_iff_right (render_day_ne n), Bool.not_eq_true',
    ← Bool.not_eq_true, isIsoDate_day]

/-- A cell of such a column that is read as a day holds this day. -/
lemma eq_day_of_isoDay? {row : ℕ} {cell : Cell} {k : ℤ} (hkind : col.HasKind Cell.day)
    (hcell : col.cells[row]? = some cell) (hk : isoDay? cell.key = some k) :
    cell = .day k ∧ (Date.ofDayNumber k).HasFullYear := by
  rcases hkind cell (List.mem_of_getElem? hcell) with rfl | ⟨n, rfl⟩
  · cases hk
  · rw [key_day, isoDay?_day] at hk
    obtain ⟨hyear, rfl⟩ := hk
    exact ⟨rfl, hyear⟩

/-- In two columns of days those pairs are flagged, of years without a sign, whose second day falls
before the first. -/
lemma flags_dateOrder_days (hcol : s.column? table c = some col)
    (hcol' : s.column? table c' = some col') (hkind : col.HasKind Cell.day)
    (hkind' : col'.HasKind Cell.day) :
    (dateOrder c c').Flags s table fun row =>
      ∃ m n, col.cells[row]? = some (.day m) ∧ col'.cells[row]? = some (.day n) ∧
        (Date.ofDayNumber m).HasFullYear ∧ (Date.ofDayNumber n).HasFullYear ∧ n < m := by
  refine (flags_dateOrder hcol hcol').congr fun row => ?_
  constructor
  · rintro ⟨cell, cell', hcell, hcell', hreversed⟩
    obtain ⟨start, stop, hstart, hstop, hlt⟩ := reversed_eq_true_iff.mp hreversed
    obtain ⟨rfl, hyear⟩ := eq_day_of_isoDay? hkind hcell hstart
    obtain ⟨rfl, hyear'⟩ := eq_day_of_isoDay? hkind' hcell' hstop
    exact ⟨start, stop, hcell, hcell', hyear, hyear', hlt⟩
  · rintro ⟨m, n, hcell, hcell', hm, hn, hlt⟩
    refine ⟨_, _, hcell, hcell', reversed_eq_true_iff.mpr ⟨m, n, ?_, ?_, hlt⟩⟩
    · rw [key_day, isoDay?_day]
      exact ⟨hm, rfl⟩
    · rw [key_day, isoDay?_day]
      exact ⟨hn, rfl⟩

/-- **Days as text**: the text of a day whose year takes no sign is a date, and read again as this
day; these texts have bytes in the order of the days.  The text of any other day is no date.  In
columns of days the check for dates flags the days whose year takes a sign, and the check of the
order those pairs without one whose second day falls before the first. -/
theorem days_survive_text :
    (∀ n : ℤ, (Date.ofDayNumber n).Exists ∧
      (∀ d : Date, d.Exists → (d.dayNumber = n ↔ d = Date.ofDayNumber n)) ∧
      ((Date.ofDayNumber n).HasFullYear →
        isIsoDate (Cell.day n).render = true ∧ isoDay? (Cell.day n).render = some n) ∧
      (¬(Date.ofDayNumber n).HasFullYear → isIsoDate (Cell.day n).render = false)) ∧
    (∀ m n : ℤ, (Date.ofDayNumber m).HasFullYear → (Date.ofDayNumber n).HasFullYear →
      ((Cell.day m).render.toUTF8.data.toList < (Cell.day n).render.toUTF8.data.toList ↔
        m < n)) ∧
    ∀ {s : Submission} {table c : String} {col : Column}, s.column? table c = some col →
      col.HasKind Cell.day →
      ((isoDate c).Flags s table fun row =>
        ∃ n, col.cells[row]? = some (.day n) ∧ ¬(Date.ofDayNumber n).HasFullYear) ∧
      ∀ {c' : String} {col' : Column}, s.column? table c' = some col' → col'.HasKind Cell.day →
        (dateOrder c c').Flags s table fun row =>
          ∃ m n, col.cells[row]? = some (.day m) ∧ col'.cells[row]? = some (.day n) ∧
            (Date.ofDayNumber m).HasFullYear ∧ (Date.ofDayNumber n).HasFullYear ∧ n < m := by
  refine ⟨fun n => ?_, fun m n => bytes_day_lt_iff, fun hcol hkind => ?_⟩
  · have hother : ∀ d : Date, d.Exists → (d.dayNumber = n ↔ d = Date.ofDayNumber n) :=
      fun d hd => Date.dayNumber_eq_iff hd
    exact ⟨(Date.ofDayNumber_spec n).1, hother,
      fun hyear => ⟨isIsoDate_day.mpr hyear, isoDay?_day.mpr ⟨hyear, rfl⟩⟩,
      fun hyear => Bool.eq_false_iff.mpr fun h => hyear (isIsoDate_day.mp h)⟩
  · exact ⟨flags_isoDate_days hcol hkind,
      fun hcol' hkind' => flags_dateOrder_days hcol hcol' hkind hkind'⟩

/-- Days of years with a sign and without, and one cell without a value. -/
def opened : Column :=
  ⟨"Opened", [.day 19783, .day 2932897, .none, .day (-719528), .day 5]⟩

/-- Days before those of the other column, and the same day. -/
def closed : Column :=
  ⟨"Closed", [.day 19782, .day 0, .day 5, .day (-719529), .day 5]⟩

/-- A return with these columns. -/
def periods : Submission :=
  Submission.empty.insert "periods" ⟨[opened, closed], 5, by decide⟩

/-- The 29th of February 2024 is read again, the first day of the year 10000 is no date, and a pair
with a day before the year 0 is not compared. -/
theorem days_survive_text_periods :
    (isIsoDate (Cell.day 19782).render = true ∧ isoDay? (Cell.day 19782).render = some 19782) ∧
    isIsoDate (Cell.day 2932897).render = false ∧
    (Cell.day (-719528)).render.toUTF8.data.toList < (Cell.day 19782).render.toUTF8.data.toList ∧
    periods.column? "Periods" "opened" = some opened ∧
    periods.column? "Periods" "closed" = some closed ∧
    opened.HasKind Cell.day ∧ closed.HasKind Cell.day ∧
    Enumerates [1] (fun row => ∃ n, opened.cells[row]? = some (.day n) ∧
      ¬(Date.ofDayNumber n).HasFullYear) ∧
    Enumerates [0] (fun row => ∃ m n, opened.cells[row]? = some (.day m) ∧
      closed.cells[row]? = some (.day n) ∧ (Date.ofDayNumber m).HasFullYear ∧
      (Date.ofDayNumber n).HasFullYear ∧ n < m) := by
  obtain ⟨hday, hbytes, hflags⟩ := days_survive_text
  have hopened : periods.column? "Periods" "opened" = some opened := by decide +kernel
  have hclosed : periods.column? "Periods" "closed" = some closed := by decide +kernel
  have hkind : opened.HasKind Cell.day := by
    simp [Column.HasKind, opened]
  have hkind' : closed.HasKind Cell.day := by
    simp [Column.HasKind, closed]
  obtain ⟨⟨rows, hrows, hflagged, -⟩, horder⟩ := hflags hopened hkind
  obtain ⟨rows', hrows', hflagged', -⟩ := horder hclosed hkind'
  obtain rfl : [1] = rows := Except.ok.inj (Eq.trans (by decide +kernel) hflagged)
  obtain rfl : [0] = rows' := Except.ok.inj (Eq.trans (by decide +kernel) hflagged')
  exact ⟨(hday 19782).2.2.1 (by decide), (hday 2932897).2.2.2 (by decide),
    (hbytes (-719528) 19782 (by decide) (by decide)).mpr (by decide), hopened, hclosed, hkind,
    hkind', hrows, hrows'⟩

end Days

end Standard

end Census
