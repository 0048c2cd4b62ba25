/-
What is written as comma-separated values is read back.

* `rawField_fieldChars`: where a written field ends, quoted or not;
* `readAs`, `fieldValue?_fieldChars`: the cell that a written text is read as;
* `readRow?_rowChars`, `readRows?_rows`: the cells of one row, and all rows;
* `lastLine_rows`, `headerLine_plain`: the lines of a written text are its rows;
* `Headings`, `Headings.headerNames_eq`: names that are read as they were written;
* `read?_write`: rows under headings make up the table of these rows;
* `Table.Textual`, `Table.Shows`: tables of texts, and rows of texts as a table shows them;
* `Csv.exists_read?_write`: records that are listed, read back;
* `listings_read_back`: this for the listings of issues and of codes.

The empty text is written without quotes, so it comes back as no value.  Both are shown as the same
text, and a table is compared by what its cells are shown as.
-/
import Census.Csv.Reader
import Census.Proofs.Distinct
import Census.Proofs.Text.Utf8
import Census.Report.Listing

namespace Census

namespace Csv

variable {cs rest : List Char}

/-! ### Fields -/

lemma needsQuotes_eq_false_iff :
    needsQuotes cs = false ↔ ∀ c ∈ cs, c ≠ ',' ∧ c ≠ '"' ∧ c ≠ '\n' ∧ c ≠ '\r' := by
  simp only [needsQuotes, List.any_eq_false, Bool.or_eq_true, beq_iff_eq, not_or, and_assoc]

/-- A field without quotes has no delimiter in it. -/
lemma not_isDelimiter (h : needsQuotes cs = false) : ∀ c ∈ cs, (!isDelimiter c) = true := by
  intro c hc
  obtain ⟨hcomma, -, hlf, -⟩ := needsQuotes_eq_false_iff.mp h c hc
  simp [isDelimiter, hcomma, hlf]

lemma doubleQuotes_cons (c : Char) (cs : List Char) :
    doubleQuotes (c :: cs) = (if c = '"' then ['"', '"'] else [c]) ++ doubleQuotes cs :=
  List.flatMap_cons

/-- Between quotes, doubled quotes are passed over. -/
lemma splitQuoted_doubleQuotes (passed cs rest : List Char) :
    splitQuoted true passed (doubleQuotes cs ++ rest) =
      splitQuoted true ((doubleQuotes cs).reverse ++ passed) rest := by
  induction cs generalizing passed with
  | nil => rfl
  | cons c cs ih =>
      rw [doubleQuotes_cons, List.append_assoc, List.reverse_append, List.append_assoc]
      by_cases hc : c = '"'
      · subst hc
        simp only [if_pos, List.cons_append, List.nil_append, splitQuoted]
        exact ih _
      · simp only [if_neg hc, List.cons_append, List.nil_append, splitQuoted]
        exact ih _

/-- A written field ends where a delimiter follows it, or the text does. -/
lemma rawField_fieldChars (cs rest : List Char) (hrest : ∀ d ∈ rest.head?, isDelimiter d = true) :
    rawField (fieldChars cs ++ rest) = (fieldChars cs, rest) := by
  rw [fieldChars]
  split
  · -- the closing quote is the first one that leaves the text outside of quotes
    have hclose : ∀ passed, splitQuoted true passed ('"' :: rest) =
        (passed.reverse ++ ['"'], rest) := by
      intro passed
      cases rest with
      | nil => simp [splitQuoted, isDelimiter]
      | cons d rest =>
          have hd : isDelimiter d = true := hrest d rfl
          have hquote : d ≠ '"' := by
            rintro rfl
            exact absurd hd (by decide)
          simp [splitQuoted, hquote, hd, show isDelimiter '"' = false from rfl]
    have hopen : rawField ('"' :: (doubleQuotes cs ++ '"' :: rest)) =
        splitQuoted true ['"'] (doubleQuotes cs ++ '"' :: rest) := by
      simp [rawField, splitQuoted]
    simp only [List.cons_append, List.append_assoc, List.nil_append, hopen,
      splitQuoted_doubleQuotes, hclose]
    simp
  · next hneeds =>
    have hplain := Bool.eq_false_iff.mpr hneeds
    have hspan : (cs ++ rest).span (fun c => !isDelimiter c) = (cs, rest) := by
      rw [List.span_eq_takeWhile_dropWhile,
        List.takeWhile_append_of_pos (not_isDelimiter hplain),
        List.dropWhile_append_of_pos (not_isDelimiter hplain)]
      cases rest with
      | nil => simp
      | cons d rest => simp [hrest d rfl]
    rw [rawField.eq_2, hspan]
    intro tail htail
    cases cs with
    | nil =>
        have hd := hrest '"' (by rw [← List.nil_append rest, htail]; rfl)
        exact absurd hd (by decide)
    | cons c cs =>
        have hc := (needsQuotes_eq_false_iff.mp hplain c List.mem_cons_self).2.1
        exact hc (List.cons.inj htail).1

/-- Doubled quotes are read as single ones. -/
lemma undoubleQuotes_doubleQuotes (cs : List Char) : undoubleQuotes (doubleQuotes cs) = cs := by
  induction cs with
  | nil => rfl
  | cons c cs ih =>
      rw [doubleQuotes_cons]
      by_cases hc : c = '"'
      · subst hc
        simp only [if_pos, List.cons_append, List.nil_append, undoubleQuotes, ih]
      · rw [if_neg hc, List.singleton_append,
          undoubleQuotes.eq_4 _ _ (by simp [hc]) (by simp [hc]), ih]

/-- The cell that a written text is read as. -/
def readAs (text : String) : Cell :=
  if text = "" then .none else .text text

lemma readAs_eq_none_or (text : String) : readAs text = .none ∨ readAs text = .text text := by
  rw [readAs]
  split
  · exact Or.inl rfl
  · exact Or.inr rfl

/-- A cell is read that shows the text. -/
lemma render_readAs (text : String) : (readAs text).render = text := by
  rw [readAs]
  split
  · next h => exact h.symm
  · rfl

lemma readAs_of_ne_nil (h : cs ≠ []) : readAs (String.ofList cs) = .text (String.ofList cs) := by
  refine if_neg fun hempty => h ?_
  rwa [← String.toList_inj, String.toList_ofList] at hempty

/-- Between quotes any text is a text, the empty one too. -/
lemma fieldValue?_quoted (cs : List Char) :
    fieldValue? ('"' :: doubleQuotes cs ++ ['"']) = some (.text (String.ofList cs)) := by
  have hlast : ('"' :: doubleQuotes cs ++ ['"']).getLast? = some '"' := List.getLast?_concat
  have hkept : dropReturn ('"' :: doubleQuotes cs ++ ['"']) =
      '"' :: doubleQuotes cs ++ ['"'] := by
    rw [dropReturn, hlast, if_neg (by decide)]
  rw [fieldValue?, hkept]
  simp [undoubleQuotes_doubleQuotes]

/-- Without quotes a field is its text, or no value where it has none. -/
lemma fieldValue?_plain (h : needsQuotes cs = false) :
    fieldValue? cs = some (readAs (String.ofList cs)) := by
  have hplain := needsQuotes_eq_false_iff.mp h
  have hkept : dropReturn cs = cs := by
    rw [dropReturn, if_neg]
    intro hlast
    exact (hplain _ (List.mem_of_getLast? hlast)).2.2.2 rfl
  rw [fieldValue?, hkept]
  cases cs with
  | nil => rfl
  | cons c cs =>
      have hquote := (hplain c List.mem_cons_self).2.1
      rw [readAs_of_ne_nil (List.cons_ne_nil c cs)]
      split
      · next heq => exact absurd heq (List.cons_ne_nil c cs)
      · next heq => exact absurd (List.cons.inj heq).1 hquote
      · rfl

/-- A written field holds what was written. -/
lemma fieldValue?_fieldChars (cs : List Char) :
    fieldValue? (fieldChars cs) = some (readAs (String.ofList cs)) := by
  rw [fieldChars]
  split
  · next hneeds =>
    have hne : cs ≠ [] := by
      rintro rfl
      cases hneeds
    rw [fieldValue?_quoted, readAs_of_ne_nil hne]
  · next hneeds => exact fieldValue?_plain (Bool.eq_false_iff.mpr hneeds)

/-- Quotes, line ends, commas and blanks survive, at the ends of a field and inside it. -/
example : fieldValue? (fieldChars " \"a,\r\n\"\" b\r".toList) =
    some (.text " \"a,\r\n\"\" b\r") := by
  decide

/-- Two quotes are the empty text, nothing at all is no value. -/
example : fieldValue? "\"\"".toList = some (.text "") ∧ fieldValue? [] = some .none := by
  decide

/-! ### Rows -/

/-- A written row is read with its fields, and reading goes on behind it. -/
lemma readRow?_rowChars {fields : List (List Char)} (hne : fields ≠ []) (rest : List Char) :
    readRow? (fields.length - 1) (rowChars fields ++ rest) =
      some (fields.map fun field => readAs (String.ofList field), rest) := by
  induction fields with
  | nil => exact absurd rfl hne
  | cons field fields ih =>
      cases fields with
      | nil =>
          rw [readRow?.eq_def]
          simp only [rowChars, List.append_assoc, List.singleton_append,
            rawField_fieldChars field ('\n' :: rest) (by simp [isDelimiter]),
            fieldValue?_fieldChars]
          rfl
      | cons next fields =>
          have htail := ih (List.cons_ne_nil _ _)
          rw [readRow?.eq_def]
          simp only [rowChars, List.append_assoc, List.cons_append,
            rawField_fieldChars field (',' :: (rowChars (next :: fields) ++ rest))
              (by simp [isDelimiter]), fieldValue?_fieldChars]
          show (readRow? fields.length (rowChars (next :: fields) ++ rest) >>= fun r =>
            some (readAs (String.ofList field) :: r.1, r.2)) = _
          rw [show fields.length = (next :: fields).length - 1 from rfl, htail]
          rfl

lemma rowChars_ne_nil (fields : List (List Char)) : rowChars fields ≠ [] := by
  match fields with
  | [] => simp [rowChars]
  | [field] => simp [rowChars]
  | field :: next :: fields => simp [rowChars]

/-- Rows with as many fields as there are names are all read. -/
lemma readRows?_rows {more fuel : ℕ} {rows : List (List (List Char))}
    (hlen : ∀ row ∈ rows, row.length = more + 1) (hfuel : rows.length ≤ fuel)
    (done : List (Array Cell)) :
    readRows? more fuel done (rows.flatMap rowChars) = some (done.reverse ++
      rows.map fun row => (row.map fun field => readAs (String.ofList field)).toArray) := by
  induction rows generalizing fuel done with
  | nil => cases fuel <;> simp [readRows?]
  | cons row rows ih =>
      obtain ⟨hrow, hrows⟩ := List.forall_mem_cons.mp hlen
      obtain ⟨fuel, rfl⟩ : ∃ n, fuel = n + 1 := ⟨fuel - 1, by simp at hfuel; omega⟩
      have hread : readRow? more ((row :: rows).flatMap rowChars) =
          some (row.map fun field => readAs (String.ofList field), rows.flatMap rowChars) := by
        have hne : row ≠ [] := by
          rintro rfl
          simp at hrow
        rw [List.flatMap_cons, ← readRow?_rowChars hne, hrow, Nat.add_sub_cancel]
      rw [readRows?.eq_3 _ _ _ _ (by simp [rowChars_ne_nil]), hread]
      show readRows? more fuel _ (rows.flatMap rowChars) = _
      rw [ih hrows (by simpa using hfuel)]
      simp

/-! ### Lines -/

/-- The last character of written rows ends a line. -/
lemma getLast?_rows (front : List Char) (rows : List (List (List Char))) :
    (front ++ '\n' :: rows.flatMap rowChars).getLast? = some '\n' := by
  have hrow : ∀ row, ∃ fields, rowChars row = fields ++ ['\n'] := by
    intro row
    induction row with
    | nil => exact ⟨[], rfl⟩
    | cons field fields ih =>
        obtain ⟨tail, htail⟩ := ih
        cases fields with
        | nil => exact ⟨fieldChars field, rfl⟩
        | cons next fields => exact ⟨fieldChars field ++ ',' :: tail, by simp [rowChars, htail]⟩
  induction rows generalizing front with
  | nil => exact List.getLast?_concat
  | cons row rows ih =>
      obtain ⟨fields, hfields⟩ := hrow row
      have hnext := ih (front ++ '\n' :: fields)
      simpa [hfields] using hnext

/-- Between doubled quotes no line ends. -/
lemma lastLine_doubleQuotes (count : ℕ) (last cs rest : List Char) :
    lastLine true count last (doubleQuotes cs ++ rest) = lastLine true count last rest := by
  induction cs with
  | nil => rfl
  | cons c cs ih =>
      rw [doubleQuotes_cons, List.append_assoc]
      by_cases hc : c = '"'
      · simpa [hc, lastLine] using ih
      · simpa [hc, lastLine] using ih

/-- No line ends within a written field. -/
lemma lastLine_fieldChars (count : ℕ) (last cs rest : List Char) :
    lastLine false count last (fieldChars cs ++ rest) = lastLine false count last rest := by
  rw [fieldChars]
  split
  · simp [lastLine, lastLine_doubleQuotes]
  · next hneeds =>
    have hplain := needsQuotes_eq_false_iff.mp (Bool.eq_false_iff.mpr hneeds)
    clear hneeds
    induction cs with
    | nil => rfl
    | cons c cs ih =>
        obtain ⟨⟨-, hquote, hlf, -⟩, hcs⟩ := List.forall_mem_cons.mp hplain
        simpa [lastLine, hquote, hlf] using ih hcs

/-- A written row is one line. -/
lemma lastLine_rowChars (count : ℕ) (last : List Char) (fields : List (List Char))
    (rest : List Char) :
    lastLine false count last (rowChars fields ++ rest) = lastLine false (count + 1) rest rest := by
  induction fields with
  | nil => simp [rowChars, lastLine]
  | cons field fields ih =>
      cases fields with
      | nil =>
          simp only [rowChars, List.append_assoc, lastLine_fieldChars]
          simp [lastLine]
      | cons next fields =>
          simp only [rowChars, List.append_assoc, lastLine_fieldChars]
          simpa [lastLine] using ih

/-- The lines of written rows are the rows, and nothing follows the last of them. -/
lemma lastLine_rows (count : ℕ) (rows : List (List (List Char))) :
    lastLine false count (rows.flatMap rowChars) (rows.flatMap rowChars) =
      (count + rows.length, []) := by
  induction rows generalizing count with
  | nil => rfl
  | cons row rows ih =>
      rw [List.flatMap_cons, lastLine_rowChars, ih, List.length_cons]
      congr 1
      omega

/-- A row takes at least one character. -/
lemma length_le_length_rows (rows : List (List (List Char))) :
    rows.length ≤ (rows.flatMap rowChars).length := by
  induction rows with
  | nil => rfl
  | cons row rows ih =>
      have hpos := List.length_pos_iff.mpr (rowChars_ne_nil row)
      rw [List.flatMap_cons, List.length_append, List.length_cons]
      omega

/-- Written rows are as many as the lines that they make up. -/
lemma readLines?_rows {more : ℕ} {rows : List (List (List Char))}
    (hlen : ∀ row ∈ rows, row.length = more + 1) :
    readLines? more rows.length (rows.flatMap rowChars) =
      some (rows.map fun row => (row.map fun field => readAs (String.ofList field)).toArray) := by
  rw [readLines?, readRows?_rows hlen (length_le_length_rows rows)]
  simp

/-- The table of written rows. -/
lemma readBody?_rows {names : List String} {rows : List (List String)} (hne : names ≠ [])
    (hlen : ∀ row ∈ rows, row.length = names.length) :
    readBody? names (rows.flatMap fun row => rowChars (row.map String.toList)) =
      some (Table.ofRows names (rows.map fun row => (row.map readAs).toArray)) := by
  have hpos := List.length_pos_iff.mpr hne
  have hbody : (rows.flatMap fun row => rowChars (row.map String.toList)) =
      (rows.map (List.map String.toList)).flatMap rowChars := (List.flatMap_map ..).symm
  have hchars : ∀ row ∈ rows.map (List.map String.toList), row.length = names.length - 1 + 1 := by
    intro row hrow
    obtain ⟨texts, htexts, rfl⟩ := List.mem_map.mp hrow
    rw [List.length_map, hlen texts htexts]
    omega
  have hread : ((rows.map (List.map String.toList)).map fun row =>
      (row.map fun field => readAs (String.ofList field)).toArray) =
        rows.map fun row => (row.map readAs).toArray := by
    rw [List.map_map]
    refine List.map_congr_left fun row _ => ?_
    simp [Function.comp_def]
  have hnone : readLines? (names.length - 1) 0 [] = some [] := rfl
  have hlines : readLines? (names.length - 1) rows.length
      ((rows.map (List.map String.toList)).flatMap rowChars) =
        some (rows.map fun row => (row.map readAs).toArray) := by
    rw [← hread, ← readLines?_rows hchars, List.length_map]
  have hlast := lastLine_rows 0 (rows.map (List.map String.toList))
  rw [List.length_map, Nat.zero_add] at hlast
  rw [readBody?, hbody, hlast]
  generalize (rows.map (List.map String.toList)).flatMap rowChars = body at hlines
  simp [hlines, hnone]

/-! ### Headings -/

/-- Names that stand in the first line as they are: several of them, all different, none in quotes,
the first of which starts with a letter that compressed data do not start with. -/
structure Headings (names : List String) : Prop where
  several : 1 < names.length
  nodup : names.Nodup
  plain : ∀ name ∈ names, needsQuotes name.toList = false
  front : ∃ c cs more, names = String.ofList (c :: cs) :: more ∧ c.isAlpha = true ∧ c ≠ 'x'

/-- A line of plain names, with commas between them. -/
lemma rowChars_plain {names : List (List Char)} (hne : names ≠ [])
    (h : ∀ name ∈ names, needsQuotes name = false) :
    rowChars names = [','].intercalate names ++ ['\n'] := by
  induction names with
  | nil => exact absurd rfl hne
  | cons name names ih =>
      obtain ⟨hname, hnames⟩ := List.forall_mem_cons.mp h
      have hfield : fieldChars name = name := by
        rw [fieldChars, hname]
        rfl
      cases names with
      | nil => simp [rowChars, hfield]
      | cons next names =>
          rw [rowChars, hfield, ih (List.cons_ne_nil _ _) hnames, List.intercalate_cons_cons]
          · simp
          · simp

/-- A line of names starts as the first of them does. -/
lemma exists_intercalate_cons (c : Char) (cs : List Char) (names : List (List Char)) :
    ∃ tail, [','].intercalate ((c :: cs) :: names) = c :: tail := by
  cases names with
  | nil => exact ⟨cs, List.intercalate_singleton⟩
  | cons next names => exact ⟨_, List.intercalate_cons_cons⟩

/-- The first line ends at its first line feed where it has no quote. -/
lemma headerLine_plain {line : List Char} (h : ∀ c ∈ line, c ≠ '"' ∧ c ≠ '\n')
    (passed rest : List Char) :
    headerLine false passed (line ++ '\n' :: rest) = (passed.reverse ++ line, rest) := by
  induction line generalizing passed with
  | nil => simp [headerLine]
  | cons c line ih =>
      obtain ⟨⟨hquote, hlf⟩, hline⟩ := List.forall_mem_cons.mp h
      simp [headerLine, hquote, hlf, ih hline]

/-- The characters of a line of plain names. -/
lemma of_mem_intercalate {names : List (List Char)} (h : ∀ name ∈ names, needsQuotes name = false)
    {c : Char} (hc : c ∈ [','].intercalate names) : c ≠ '"' ∧ c ≠ '\n' ∧ c ≠ '\r' := by
  induction names with
  | nil => simp at hc
  | cons name names ih =>
      obtain ⟨hname, hnames⟩ := List.forall_mem_cons.mp h
      have hchar : c ∈ name → c ≠ '"' ∧ c ≠ '\n' ∧ c ≠ '\r' := fun hmem =>
        (needsQuotes_eq_false_iff.mp hname c hmem).2
      cases names with
      | nil => exact hchar (by simpa using hc)
      | cons next names =>
          rw [List.intercalate_cons_cons, List.mem_append, List.mem_append,
            List.mem_singleton] at hc
          rcases hc with (hmem | rfl) | hmem
          · exact hchar hmem
          · decide
          · exact ih hnames hmem

/-- The name in a field without quotes is the field. -/
lemma headerName_plain (h : needsQuotes cs = false) : headerName cs = String.ofList cs := by
  rw [headerName.eq_2]
  rintro c tail rfl
  exact (needsQuotes_eq_false_iff.mp h '"' List.mem_cons_self).2.1 rfl

/-- Plain names are read off their line. -/
lemma headerFields_intercalate {fuel : ℕ} {names : List (List Char)} (hne : names ≠ [])
    (h : ∀ name ∈ names, needsQuotes name = false) (hfuel : names.length ≤ fuel + 1) :
    headerFields fuel ([','].intercalate names) = names.map String.ofList := by
  induction names generalizing fuel with
  | nil => exact absurd rfl hne
  | cons name names ih =>
      obtain ⟨hname, hnames⟩ := List.forall_mem_cons.mp h
      have hfield : fieldChars name = name := by
        rw [fieldChars, hname]
        rfl
      cases names with
      | nil =>
          have hraw := rawField_fieldChars name [] (by simp)
          rw [hfield, List.append_nil] at hraw
          rw [List.intercalate_singleton]
          cases fuel <;> simp [headerFields, hraw, headerName_plain hname]
      | cons next names =>
          obtain ⟨fuel, rfl⟩ : ∃ n, fuel = n + 1 := ⟨fuel - 1, by simp at hfuel; omega⟩
          have hraw := rawField_fieldChars name (',' :: [','].intercalate (next :: names))
            (by simp [isDelimiter])
          rw [hfield] at hraw
          have htail : headerFields fuel ([','].intercalate (next :: names)) = _ :=
            ih (List.cons_ne_nil _ _) hnames (by simpa using hfuel)
          rw [List.intercalate_cons_cons, List.append_assoc, List.singleton_append, headerFields,
            hraw]
          simp only [headerName_plain hname, htail, List.map_cons]

/-- Names that are all different are left as they are. -/
lemma numberRepetitions_of_nodup {earlier names : List String} (h : names.Nodup)
    (hnew : ∀ name ∈ names, name ∉ earlier) : numberRepetitions earlier names = names := by
  induction names generalizing earlier with
  | nil => rfl
  | cons name names ih =>
      obtain ⟨hname, hnames⟩ := List.nodup_cons.mp h
      obtain ⟨hfirst, hrest⟩ := List.forall_mem_cons.mp hnew
      have hcount : earlier.count name = 0 := List.count_eq_zero.mpr hfirst
      simp only [numberRepetitions, hcount, if_pos]
      rw [ih hnames]
      intro other hother hmem
      rcases List.mem_cons.mp hmem with rfl | hmem
      · exact hname hother
      · exact hrest other hother hmem

/-- As many names are read off a line as fit into it. -/
lemma length_le_length_intercalate (names : List (List Char)) :
    names.length ≤ ([','].intercalate names).length + 1 := by
  induction names with
  | nil => simp
  | cons name names ih =>
      cases names with
      | nil => simp
      | cons next names =>
          rw [List.intercalate_cons_cons, List.length_append, List.length_append, List.length_cons]
          simp only [List.length_singleton]
          omega

namespace Headings

variable {names : List String}

lemma ne_nil (h : Headings names) : names ≠ [] := by
  rintro rfl
  exact absurd h.several (by simp)

lemma needsQuotes_chars (h : Headings names) :
    ∀ name ∈ names.map String.toList, needsQuotes name = false := by
  intro name hname
  obtain ⟨text, htext, rfl⟩ := List.mem_map.mp hname
  exact h.plain text htext

/-- Headings are read as they were written. -/
lemma headerNames_eq (h : Headings names) :
    headerNames ([','].intercalate (names.map String.toList)) = names := by
  have hplain := h.needsQuotes_chars
  have hne : names.map String.toList ≠ [] := fun hnil => h.ne_nil (List.map_eq_nil_iff.mp hnil)
  have hkept : dropReturn ([','].intercalate (names.map String.toList)) =
      [','].intercalate (names.map String.toList) := by
    rw [dropReturn, if_neg]
    intro hlast
    exact (of_mem_intercalate hplain (List.mem_of_getLast? hlast)).2.2 rfl
  rw [headerNames, hkept, ite_self,
    headerFields_intercalate hne hplain (length_le_length_intercalate _), List.map_map]
  simp only [Function.comp_def, String.ofList_toList, List.map_id']
  rw [numberRepetitions_of_nodup h.nodup (by simp), distinct_of_nodup h.nodup]

end Headings

/-! ### Files -/

/-- The bytes that are listed from a place on follow those listed before. -/
lemma toList_loop_bytes (bs : ByteArray) (i : ℕ) (done : List UInt8) :
    ByteArray.toList.loop bs i done = done.reverse ++ bs.data.toList.drop i := by
  fun_induction ByteArray.toList.loop bs i done with
  | case1 i done hi ih =>
      have hlt : i < bs.data.toList.length := by
        rwa [Array.length_toList, ByteArray.size_data]
      have hget : bs.get! i = bs.data.toList[i] := by
        rw [Array.getElem_toList]
        exact getElem!_pos bs.data i hi
      rw [ih, hget, List.drop_eq_getElem_cons hlt, List.reverse_cons, List.append_assoc]
      rfl
  | case2 i done hi =>
      have hsize : bs.data.toList.length ≤ i := by
        rw [Array.length_toList, ByteArray.size_data]
        omega
      rw [List.drop_eq_nil_of_le hsize, List.append_nil]

/-- The bytes of an array, in order. -/
lemma toList_bytes (bs : ByteArray) : bs.toList = bs.data.toList :=
  toList_loop_bytes bs 0 []

/-- A text that starts with a letter other than x is no compressed data. -/
lemma not_isCompressed {c : Char} (h : c.isAlpha = true) (hx : c ≠ 'x') (cs : List Char) :
    isCompressed (String.ofList (c :: cs)).toUTF8.toList = false := by
  have hrange : 65 ≤ c.toNat ∧ c.toNat ≤ 122 := by
    unfold Char.isAlpha Char.isUpper Char.isLower at h
    simp only [Bool.or_eq_true, Bool.and_eq_true, decide_eq_true_eq] at h
    rcases h with ⟨h1, h2⟩ | ⟨h1, h2⟩
    · exact ⟨h1, le_trans h2 (by decide)⟩
    · exact ⟨le_trans (by decide) h1, h2⟩
  have hbyte : String.utf8EncodeChar c = [UInt8.ofNat c.toNat] := by
    rw [String.utf8EncodeChar]
    exact if_pos (by have := hrange.2; simp only [Char.toNat] at this; omega)
  have hother : ∀ n : UInt8, n = 0x1F ∨ n = 0x78 ∨ n = 0x28 → UInt8.ofNat c.toNat ≠ n := by
    intro n hn heq
    have hval : n.toNat = c.toNat := by
      rw [← heq, UInt8.toNat_ofNat', Nat.mod_eq_of_lt (by omega)]
    rcases hn with rfl | rfl | rfl
    · have hnum : 31 = c.toNat := hval
      omega
    · exact hx (Char.ext (UInt32.toNat_inj.mp hval.symm))
    · have hnum : 40 = c.toNat := hval
      omega
  rw [toList_bytes, Text.toList_toUTF8, List.flatMap_cons, hbyte, List.singleton_append]
  unfold isCompressed
  split
  · next heq => exact absurd (List.cons.inj heq).1 (hother _ (Or.inl rfl))
  · next heq => exact absurd (List.cons.inj heq).1 (hother _ (Or.inr (Or.inl rfl)))
  · next heq => exact absurd (List.cons.inj heq).1 (hother _ (Or.inr (Or.inr rfl)))
  · rfl

lemma fromUTF8?_toUTF8 (s : String) : String.fromUTF8? s.toUTF8 = some s :=
  dif_pos s.isValidUTF8

/-- **Round trip**: rows of texts that are written under headings are read back as the table of the
cells that these texts are read as. -/
theorem read?_write {names : List String} {rows : List (List String)} (h : Headings names)
    (hlen : ∀ row ∈ rows, row.length = names.length) :
    read? (write (names :: rows)).toUTF8 =
      some (Table.ofRows names (rows.map fun row => (row.map readAs).toArray)) := by
  set line := [','].intercalate (names.map String.toList) with hline
  set body := rows.flatMap fun row => rowChars (row.map String.toList) with hbody
  have htext : write (names :: rows) = String.ofList (line ++ '\n' :: body) := by
    have hne : names.map String.toList ≠ [] := fun hnil => h.ne_nil (List.map_eq_nil_iff.mp hnil)
    rw [write, List.flatMap_cons, rowChars_plain hne h.needsQuotes_chars, List.append_assoc]
    rfl
  obtain ⟨c, tail, hchars, halpha, hx⟩ : ∃ c tail, line ++ '\n' :: body = c :: tail ∧
      c.isAlpha = true ∧ c ≠ 'x' := by
    obtain ⟨c, cs, more, rfl, halpha, hx⟩ := h.front
    obtain ⟨tail, htail⟩ := exists_intercalate_cons c cs (more.map String.toList)
    refine ⟨c, tail ++ '\n' :: body, ?_, halpha, hx⟩
    rw [hline, List.map_cons, String.toList_ofList, htail]
    rfl
  have hfirst : headerLine false [] (line ++ '\n' :: body) = (line, body) :=
    headerLine_plain (fun d hd => (of_mem_intercalate h.needsQuotes_chars hd).imp_right And.left) ..
  have hmark : dropMark (c :: tail) = c :: tail := by
    rw [dropMark.eq_2]
    rintro _ hc
    rw [(List.cons.inj hc).1] at halpha
    exact absurd halpha (by decide)
  have hfront : (c :: tail).dropWhile isLineEnd = c :: tail := by
    rw [List.dropWhile_cons, if_neg]
    intro hend
    simp only [isLineEnd, Bool.or_eq_true, beq_iff_eq] at hend
    rcases hend with rfl | rfl <;> exact absurd halpha (by decide)
  have hclosed : closeLine (c :: tail) = c :: tail := by
    rw [closeLine, if_pos]
    rw [← hchars, hbody, ← List.flatMap_map]
    exact getLast?_rows line _
  rw [read?, htext, hchars, not_isCompressed halpha hx, fromUTF8?_toUTF8]
  simp only [Bool.false_eq_true, if_false, String.toList_ofList, hmark, readText?, hfront, hclosed,
    List.cons_ne_nil]
  rw [← hchars, hfirst]
  simp only [hline, h.headerNames_eq, if_pos h.several]
  rw [← hline, hfirst]
  exact readBody?_rows h.ne_nil hlen

end Csv

/-! ### Listings -/

/-- Every cell is a text, unless it has no value. -/
def Table.Textual (t : Table) : Prop :=
  ∀ c ∈ t.columns, ∀ cell ∈ c.cells, cell = .none ∨ cell = .text cell.render

/-- A cell that shows something in a table of texts is this text. -/
lemma Table.Textual.eq_text {t : Table} (h : t.Textual) {c : Column} (hc : c ∈ t.columns) {i : ℕ}
    {text : String} (hcell : c.cells[i]?.map Cell.render = some text) (hne : text ≠ "") :
    c.cells[i]? = some (.text text) := by
  obtain ⟨cell, hget, rfl⟩ := Option.map_eq_some_iff.mp hcell
  rcases h c hc cell (List.mem_of_getElem? hget) with rfl | htext
  · exact absurd rfl hne
  · rw [hget]
    exact congrArg some htext

/-- The table has some headings over rows of texts. -/
structure Table.Shows (t : Table) (headings : List String) (rows : List (List String)) : Prop where
  /-- The names of the columns are the headings, in order. -/
  names : t.columns.map Column.name = headings
  /-- There are as many rows as texts were given for. -/
  height : t.height = rows.length
  /-- Across the columns, the cells of a row are shown as its texts. -/
  cells : ∀ (i : ℕ) (row : List String), rows[i]? = some row →
    t.columns.map (fun c => c.cells[i]?.map Cell.render) = row.map some
  /-- There are no values but texts. -/
  textual : t.Textual

/-- The table that rows with as many texts as there are names are read as shows these rows. -/
lemma Table.shows_ofRows {names : List String} {rows : List (List String)}
    (hlen : ∀ row ∈ rows, row.length = names.length) :
    (Table.ofRows names (rows.map fun row => (row.map Csv.readAs).toArray)).Shows names rows where
  names := by
    rw [ofRows, List.map_map]
    exact List.zipIdx_map_fst 0 names
  height := List.length_map _
  cells := by
    intro i row hrow
    have hwidth := hlen row (List.mem_of_getElem? hrow)
    refine List.ext_getElem (by simp [ofRows, hwidth]) fun j hj hj' => ?_
    have hj : j < row.length := by simpa using hj'
    simp [ofRows, hrow, hj, Csv.render_readAs]
  textual := by
    intro c hc cell hcell
    obtain ⟨⟨_, j⟩, -, rfl⟩ := List.mem_map.mp hc
    obtain ⟨_, hrow, rfl⟩ := List.mem_map.mp hcell
    obtain ⟨texts, -, rfl⟩ := List.mem_map.mp hrow
    simp only [List.getElem?_toArray, List.getElem?_map]
    cases texts[j]? with
    | none => exact Or.inl rfl
    | some text => simpa [Csv.render_readAs] using Csv.readAs_eq_none_or text

/-- Records that are listed under headings are read back as a table that shows their texts. -/
lemma Csv.exists_read?_write {α : Type} {names : List String} (h : Headings names)
    (columns : α → List String) (hlen : ∀ r, (columns r).length = names.length)
    (records : List α) :
    ∃ t, read? (write (names :: records.map columns)).toUTF8 = some t ∧
      t.Shows names (records.map columns) := by
  have hrows : ∀ row ∈ records.map columns, row.length = names.length :=
    List.forall_mem_map.mpr fun r _ => hlen r
  exact ⟨_, read?_write h hrows, Table.shows_ofRows hrows⟩

lemma IssueRecord.headings_plain : Csv.Headings headings where
  several := by decide
  nodup := by decide
  plain := by decide
  front := ⟨'r', "ule_code".toList, ["table", "fields", "row"], by decide, by decide, by decide⟩

lemma SummaryRecord.headings_plain : Csv.Headings headings where
  several := by decide
  nodup := by decide
  plain := by decide
  front := ⟨'r', "ule_code".toList, ["status", "severity", "message", "affected_rows", "detail"],
    by decide, by decide, by decide⟩

lemma exists_read?_issuesCsv (issues : List IssueRecord) :
    ∃ t, Csv.read? (issuesCsv issues).toUTF8 = some t ∧
      t.Shows IssueRecord.headings (issues.map IssueRecord.columns) :=
  Csv.exists_read?_write IssueRecord.headings_plain IssueRecord.columns (fun _ => rfl) issues

lemma exists_read?_summaryCsv (summary : List SummaryRecord) :
    ∃ t, Csv.read? (summaryCsv summary).toUTF8 = some t ∧
      t.Shows SummaryRecord.headings (summary.map SummaryRecord.columns) :=
  Csv.exists_read?_write SummaryRecord.headings_plain SummaryRecord.columns (fun _ => rfl) summary

/-- **Listings read back**: whatever texts the records have, reading the bytes of a listing gives a
table with the headings and one row for each record, in order, whose cells are shown as the texts of
the record; what a record does not have is shown as the empty text. -/
theorem listings_read_back (issues : List IssueRecord) (summary : List SummaryRecord) :
    (∃ t, Csv.read? (issuesCsv issues).toUTF8 = some t ∧
      t.Shows ["rule_code", "table", "fields", "row"]
        (issues.map fun r => [r.rule, r.table, ";".intercalate r.fields, toString r.row])) ∧
    ∃ t, Csv.read? (summaryCsv summary).toUTF8 = some t ∧
      t.Shows ["rule_code", "status", "severity", "message", "affected_rows", "detail"]
        (summary.map fun r => [r.rule, r.status.name, (r.severity.map Severity.name).getD "",
          r.message, toString r.affectedRows, r.detail.getD ""]) := by
  constructor
  · exact exists_read?_issuesCsv issues
  · exact exists_read?_summaryCsv summary

end Census
