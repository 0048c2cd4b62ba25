/-
The rows that repeat a value of their column.

* `Standard.mem_repeatedRows_iff`: a row repeats a text when this is not blank and stands in an
  earlier row;
* `length_repeatedRows`: as many rows repeat a text as there are texts beyond the different ones;
* `mem_repeatedRows_of_prefix`: rows that are appended repeat or not, earlier ones stay what they
  are;
* `unique_flags`: what the check for unique values flags.
-/
import Census.Proofs.Check.Flags

namespace Census

namespace Standard

variable {s : Submission} {table c : String} {col : Column} {keys keys' : List String} {row : ℕ}

/-! ### Repeated texts -/

/-- A row repeats a text when its text is not blank and does not stand there first. -/
lemma repeatedRows_eq (keys : List String) :
    repeatedRows keys =
      (keys.zipIdx.filter fun k => k.1 != "" && !(keys.idxOf k.1 == k.2)).map (·.2) := by
  refine congrArg _ (List.filter_congr fun k hk => congrArg _ ?_)
  have hmem : keys.contains k.1 = true :=
    List.contains_iff_mem.mpr (List.fst_mem_of_mem_zipIdx hk)
  rw [getElem?_firstPlaces, if_pos hmem]
  rfl

lemma mem_repeatedRows_iff : row ∈ repeatedRows keys ↔
    ∃ key, keys[row]? = some key ∧ key ≠ "" ∧ ∃ earlier < row, keys[earlier]? = some key := by
  simp only [repeatedRows_eq, List.mem_map, List.mem_filter, Prod.exists,
    List.mk_mem_zipIdx_iff_getElem?, Bool.and_eq_true, bne_iff_ne, Bool.not_eq_true',
    beq_eq_false_iff_ne]
  constructor
  · rintro ⟨key, row, ⟨hkey, hne, hfirst⟩, rfl⟩
    exact ⟨key, hkey, hne, (idxOf_ne_iff hkey).mp hfirst⟩
  · rintro ⟨key, hkey, hne, hearlier⟩
    exact ⟨key, row, ⟨hkey, hne, (idxOf_ne_iff hkey).mpr hearlier⟩, rfl⟩

lemma enumerates_repeatedRows (keys : List String) :
    Enumerates (repeatedRows keys) fun row =>
      ∃ key, keys[row]? = some key ∧ key ≠ "" ∧ ∃ earlier < row, keys[earlier]? = some key :=
  ⟨(rowsOf_filter_zipIdx keys _).1, fun _ => mem_repeatedRows_iff⟩

/-- Of the rows with one text that is not blank exactly the first repeats none. -/
lemma existsUnique_not_repeated {key : String} (hkey : key ∈ keys) (hne : key ≠ "") :
    ∃! row, keys[row]? = some key ∧ row ∉ repeatedRows keys := by
  have hrepeats : ∀ row, keys[row]? = some key →
      (row ∈ repeatedRows keys ↔ keys.idxOf key ≠ row) := by
    intro row hrow
    rw [mem_repeatedRows_iff, idxOf_ne_iff hrow, hrow]
    simp [hne]
  have hfirst : keys[keys.idxOf key]? = some key := List.getElem?_idxOf hkey
  refine ⟨keys.idxOf key, ⟨hfirst, fun hmem => (hrepeats _ hfirst).mp hmem rfl⟩, ?_⟩
  rintro row ⟨hrow, hnot⟩
  by_contra hother
  exact hnot ((hrepeats row hrow).mpr (Ne.symm hother))

/-- The rows with texts that are not blank are those that repeat one and one for each of them. -/
lemma length_repeatedRows (keys : List String) :
    (repeatedRows keys).length + (keys.filter (· != "")).toFinset.card =
      (keys.filter (· != "")).length := by
  set filled := keys.zipIdx.filter fun k => k.1 != "" with hfilled
  have hkeys : keys.filter (· != "") = filled.map (·.1) := by
    have hall : keys.zipIdx.map (·.1) = keys := List.zipIdx_map_fst 0 keys
    conv_lhs => rw [← hall, List.filter_map]
    rfl
  have hrepeated : (repeatedRows keys).length =
      (filled.filter fun k => !(keys.idxOf k.1 == k.2)).length := by
    rw [repeatedRows_eq, List.length_map, hfilled, List.filter_filter]
    refine congrArg _ (List.filter_congr fun k _ => ?_)
    exact Bool.and_comm _ _
  have hfirst : (keys.filter (· != "")).toFinset.card =
      (filled.filter fun k => keys.idxOf k.1 == k.2).length := by
    rw [← length_filter_distinct, distinct_eq, List.filter_map, List.length_map, hfilled,
      List.filter_filter, List.filter_filter]
    refine congrArg _ (List.filter_congr fun k _ => ?_)
    exact Bool.and_comm _ _
  rw [hrepeated, hfirst, hkeys, List.length_map, Nat.add_comm]
  exact (List.length_eq_length_filter_add _).symm

/-- As many rows repeat a text in whatever order they stand. -/
lemma length_repeatedRows_of_perm (h : keys'.Perm keys) :
    (repeatedRows keys').length = (repeatedRows keys).length := by
  have hkeys := length_repeatedRows keys
  have hkeys' := length_repeatedRows keys'
  have hfilled : (keys'.filter (· != "")).Perm (keys.filter (· != "")) := h.filter _
  rw [List.toFinset_eq_of_perm _ _ hfilled, hfilled.length_eq] at hkeys'
  omega

/-- Rows that are appended change nothing of the earlier ones. -/
lemma mem_repeatedRows_of_prefix (h : keys <+: keys') (hrow : row < keys.length) :
    row ∈ repeatedRows keys' ↔ row ∈ repeatedRows keys := by
  have hsame : ∀ i ≤ row, keys'[i]? = keys[i]? := by
    intro i hi
    have hlt : i < keys.length := hi.trans_lt hrow
    rw [List.prefix_iff_getElem?.mp h i hlt, List.getElem?_eq_getElem hlt]
  rw [mem_repeatedRows_iff, mem_repeatedRows_iff, hsame row le_rfl]
  refine exists_congr fun key => and_congr_right fun _ => and_congr_right fun _ => ?_
  exact exists_congr fun earlier => and_congr_right fun hlt => by rw [hsame earlier hlt.le]

/-! ### The check for unique values -/

lemma flagged_unique (hcol : s.column? table c = some col) :
    (unique c).flagged s table = .ok (repeatedRows col.keys) := by
  rw [flagged, Submission.requireColumn_eq hcol]
  rfl

/-- **Unique values**: the check flags the rows whose trimmed text is not blank and stands in an
earlier row.  So of every such text exactly one row is left; the flagged rows are as many as the
rows with texts beyond the different texts, and no other number in whatever order the rows stand;
and rows that are appended change nothing of the earlier ones. -/
theorem unique_flags (hcol : s.column? table c = some col) :
    ((unique c).Flags s table fun row =>
      ∃ key, col.keys[row]? = some key ∧ key ≠ "" ∧
        ∃ earlier < row, col.keys[earlier]? = some key) ∧
    ∃ rows, (unique c).flagged s table = .ok rows ∧
      (∀ key ∈ col.keys, key ≠ "" → ∃! row, col.keys[row]? = some key ∧ row ∉ rows) ∧
      rows.length + (col.keys.filter (· != "")).toFinset.card =
        (col.keys.filter (· != "")).length ∧
      ∀ {s' : Submission} {table' c' : String} {col' : Column}, s'.column? table' c' = some col' →
        ∃ rows', (unique c').flagged s' table' = .ok rows' ∧
          (col'.keys.Perm col.keys → rows'.length = rows.length) ∧
          (col.keys <+: col'.keys → ∀ row < col.keys.length, (row ∈ rows' ↔ row ∈ rows)) := by
  refine ⟨flags_of_flagged (enumerates_repeatedRows col.keys) (flagged_unique hcol),
    repeatedRows col.keys, flagged_unique hcol, fun key => existsUnique_not_repeated,
    length_repeatedRows col.keys, fun hcol' => ⟨_, flagged_unique hcol', ?_, ?_⟩⟩
  · exact length_repeatedRows_of_perm
  · exact fun hprefix row => mem_repeatedRows_of_prefix hprefix

/-- Texts that differ in blanks only or in case, blank cells, and a number with the text of
another cell. -/
def badges : Column :=
  ⟨"Badge", [.text " 7", .text "a", .none, .integer 7, .text "A", .text " ", .text "a ", .text "7"]⟩

/-- The rows of `badges` in another order. -/
def badgesSorted : Column :=
  ⟨"badge", [.integer 7, .text "7", .text " 7", .text "a", .text "a ", .text "A", .none, .text " "]⟩

/-- The rows of `badges` and two more. -/
def badgesLater : Column :=
  ⟨"BADGE", badges.cells ++ [.text "A", .none]⟩

/-- A return with these columns, each in a table of its own. -/
def staff : Submission :=
  ((Submission.empty.insert "staff" ⟨[badges], 8, by decide⟩).insert "sorted"
    ⟨[badgesSorted], 8, by decide⟩).insert "later" ⟨[badgesLater], 10, by decide⟩

/-- Three rows repeat one of three texts, in either order, and one more among the rows that are
appended. -/
theorem unique_flags_staff :
    staff.column? "Staff" "badge" = some badges ∧
    Enumerates [3, 6, 7] (fun row => ∃ key, badges.keys[row]? = some key ∧ key ≠ "" ∧
      ∃ earlier < row, badges.keys[earlier]? = some key) ∧
    ("7" ∈ badges.keys ∧ "7" ≠ "" ∧ ∃! row, badges.keys[row]? = some "7" ∧ row ∉ [3, 6, 7]) ∧
    [3, 6, 7].length + (badges.keys.filter (· != "")).toFinset.card =
      (badges.keys.filter (· != "")).length ∧
    (badgesSorted.keys.Perm badges.keys ∧
      ∃ rows, (unique "Badge").flagged staff "sorted" = .ok rows ∧ rows.length = 3) ∧
    (badges.keys <+: badgesLater.keys ∧ 4 < badges.keys.length ∧
      ∃ rows, (unique "badge").flagged staff "later" = .ok rows ∧ 8 ∈ rows ∧
        (4 ∈ rows ↔ 4 ∈ [3, 6, 7])) := by
  have hbadges : staff.column? "Staff" "badge" = some badges := by decide +kernel
  have hsorted : staff.column? "sorted" "Badge" = some badgesSorted := by decide +kernel
  have hlater : staff.column? "later" "badge" = some badgesLater := by decide +kernel
  have hperm : badgesSorted.keys.Perm badges.keys := by decide +kernel
  have hprefix : badges.keys <+: badgesLater.keys := by decide +kernel
  obtain ⟨⟨rows, hrows, hok, -⟩, rows', hok', honce, hcount, hothers⟩ := unique_flags hbadges
  obtain rfl : rows = rows' := Except.ok.inj (hok.symm.trans hok')
  have hrepeated : repeatedRows badges.keys = [3, 6, 7] := by
    rw [repeatedRows_eq]
    decide +kernel
  have hrepeatedLater : repeatedRows badgesLater.keys = [3, 6, 7, 8] := by
    rw [repeatedRows_eq]
    decide +kernel
  obtain rfl : [3, 6, 7] = rows :=
    hrepeated.symm.trans (Except.ok.inj ((flagged_unique hbadges).symm.trans hok))
  obtain ⟨sorted, hsortedRows, hlength, -⟩ := hothers hsorted
  obtain ⟨later, hlaterRows, -, hearlier⟩ := hothers hlater
  obtain rfl : [3, 6, 7, 8] = later :=
    hrepeatedLater.symm.trans (Except.ok.inj ((flagged_unique hlater).symm.trans hlaterRows))
  exact ⟨hbadges, hrows, ⟨by decide +kernel, by decide, honce "7" (by decide +kernel) (by decide)⟩,
    hcount, ⟨hperm, sorted, hsortedRows, hlength hperm⟩, hprefix, by decide, _, hlaterRows,
    by decide, hearlier hprefix 4 (by decide)⟩

end Standard

end Census
