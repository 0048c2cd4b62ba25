/-
What is loaded from a directory: the tables of all its files, or the first of their faults.

* `Loading.gather_gives`: tables are gathered by reading only;
* `Loading.Sound`, `gather_of_sound`, `gather_of_clash`, `gather_of_unread`: names without a fault,
  and the name that ends the gathering;
* `Loading.FirstFault`, `Listed.fault_iff`: the fault of the lowest name that has one;
* `FileTree.TableFile`, `Submission.Holds`: the files that count, and their tables;
* `Host.LoadsAll`, `load_all`: loading gives them all, or the first fault;
* `load_misses_remote`: a file is passed over when the path to it is too long.
-/
import Census.Proofs.Csv.RoundTrip
import Census.Proofs.Files.Walk
import Census.Proofs.Host
import Census.Proofs.Submission

namespace Census

open FileTree (Location goal)

/-! ### Names in order -/

lemma lt_of_ne_of_le {a b : String} (hne : a ≠ b) (hle : a ≤ b) : a < b :=
  String.not_le.mp fun hge => hne (String.le_antisymm hle hge)

lemma mem_csvNames_iff {names : List String} {name : String} :
    name ∈ csvNames names ↔ name ∈ names ∧ Path.isCsv name = true := by
  rw [csvNames, List.mem_mergeSort, List.mem_filter]

/-- Different names are in ascending order. -/
lemma pairwise_csvNames {names : List String} (h : names.Nodup) :
    (csvNames names).Pairwise (· < ·) := by
  have hle : (csvNames names).Pairwise fun a b => decide (a ≤ b) = true :=
    List.pairwise_mergeSort (by simpa using fun _ _ _ => String.le_trans)
      (by simpa using String.le_total) _
  have hne : (csvNames names).Nodup := (List.mergeSort_perm _ _).nodup_iff.mpr (h.filter _)
  exact hle.imp₂ (fun a b hab hne => lt_of_ne_of_le hne (of_decide_eq_true hab)) hne

namespace Loading

variable {σ : Type} {files : σ → FileTree} {dir : String} {taken names : List String}

/-! ### Tables gathered in order -/

/-- Tables are gathered as they are given one by one. -/
lemma gather_gives {P : FileTree → Prop} {table : String → String → StateM σ (Option Table)}
    {value : String → String → Option Table}
    (h : ∀ name ∈ names, ∀ id, Host.Gives files P (table id name) (value id name)) :
    Host.Gives files P (gather dir table taken names)
      (gather (m := Id) dir value taken names) := by
  induction names generalizing taken with
  | nil => exact Host.gives_pure _
  | cons name names ih =>
      obtain ⟨hname, hrest⟩ := List.forall_mem_cons.mp h
      simp only [gather]
      cases Path.tableId? name with
      | none => exact ih hrest
      | some id =>
          cases htaken : taken.contains id with
          | true =>
              simp only [htaken, if_true]
              exact Host.gives_pure _
          | false =>
              simp only [htaken, Bool.false_eq_true, if_false]
              refine (hname id).bind ?_
              cases value id name with
              | none => exact Host.gives_pure _
              | some t => exact (ih hrest).bind (Host.gives_pure _)

/-- What a table leaves as it is, many tables do. -/
lemma gather_preserves {P : FileTree → Prop} {table : String → String → StateM σ (Option Table)}
    (h : ∀ id name, Host.Preserves files P (table id name)) :
    Host.Preserves files P (gather dir table taken names) := by
  induction names generalizing taken with
  | nil => exact Host.preserves_pure _
  | cons name names ih =>
      simp only [gather]
      cases Path.tableId? name with
      | none => exact ih
      | some id =>
          cases htaken : taken.contains id with
          | true =>
              simp only [htaken, if_true]
              exact Host.preserves_pure _
          | false =>
              simp only [htaken, Bool.false_eq_true, if_false]
              refine (h id name).bind fun o => ?_
              cases o with
              | none => exact Host.preserves_pure _
              | some t => exact ih.bind fun _ => Host.preserves_pure _

/-! ### Tables gathered without a fault -/

section Pure

variable {table : String → String → Option Table} {name id : String}

/-- Every name with an identifier gives a table, and no identifier comes twice or is taken. -/
structure Sound (table : String → String → Option Table) (taken names : List String) : Prop where
  readable : ∀ name ∈ names, ∀ id, Path.tableId? name = some id →
    id ∉ taken ∧ ∃ t, table id name = some t
  nodup : (names.filterMap Path.tableId?).Nodup

lemma sound_nil : Sound table taken [] :=
  ⟨by simp, List.nodup_nil⟩

lemma sound_cons_of_none (hid : Path.tableId? name = none) :
    Sound table taken (name :: names) ↔ Sound table taken names := by
  constructor
  · rintro ⟨hreadable, hnodup⟩
    rw [List.filterMap_cons_none hid] at hnodup
    exact ⟨fun n hn => hreadable n (List.mem_cons_of_mem _ hn), hnodup⟩
  · rintro ⟨hreadable, hnodup⟩
    refine ⟨List.forall_mem_cons.mpr ⟨fun id hsome => ?_, hreadable⟩, ?_⟩
    · rw [hid] at hsome
      cases hsome
    · rwa [List.filterMap_cons_none hid]

lemma sound_cons_of_some (hid : Path.tableId? name = some id) :
    Sound table taken (name :: names) ↔
      id ∉ taken ∧ (∃ t, table id name = some t) ∧ Sound table (id :: taken) names := by
  constructor
  · rintro ⟨hreadable, hnodup⟩
    rw [List.filterMap_cons_some hid] at hnodup
    obtain ⟨hnew, hnodup⟩ := List.nodup_cons.mp hnodup
    obtain ⟨hfirst, hrest⟩ := List.forall_mem_cons.mp hreadable
    obtain ⟨htaken, hread⟩ := hfirst id hid
    refine ⟨htaken, hread, fun n hn other hother => ?_, hnodup⟩
    obtain ⟨hfree, hread'⟩ := hrest n hn other hother
    refine ⟨fun hmem => ?_, hread'⟩
    rcases List.mem_cons.mp hmem with rfl | hmem
    · exact hnew (List.mem_filterMap.mpr ⟨n, hn, hother⟩)
    · exact hfree hmem
  · rintro ⟨htaken, hread, hreadable, hnodup⟩
    refine ⟨List.forall_mem_cons.mpr ⟨fun other hother => ?_, fun n hn other hother => ?_⟩, ?_⟩
    · obtain rfl := Option.some.inj (hid.symm.trans hother)
      exact ⟨htaken, hread⟩
    · obtain ⟨hfree, hread'⟩ := hreadable n hn other hother
      exact ⟨fun hmem => hfree (List.mem_cons_of_mem _ hmem), hread'⟩
    · rw [List.filterMap_cons_some hid]
      refine List.nodup_cons.mpr ⟨fun hmem => ?_, hnodup⟩
      obtain ⟨n, hn, hother⟩ := List.mem_filterMap.mp hmem
      exact (hreadable n hn id hother).1 List.mem_cons_self

lemma gather_cons_of_none (hid : Path.tableId? name = none) :
    gather (m := Id) dir table taken (name :: names) =
      gather (m := Id) dir table taken names := by
  rw [gather, hid]

lemma gather_cons_of_taken (hid : Path.tableId? name = some id) (htaken : id ∈ taken) :
    gather (m := Id) dir table taken (name :: names) = failed (.repeatedTable id dir) := by
  have hcontains : taken.contains id = true := by simpa using htaken
  rw [gather, hid]
  simp only [hcontains, if_true]
  rfl

lemma gather_cons_of_unread (hid : Path.tableId? name = some id) (htaken : id ∉ taken)
    (hread : table id name = none) :
    gather (m := Id) dir table taken (name :: names) =
      failed (.unreadable (Path.join dir name)) := by
  have hcontains : taken.contains id = false := by simpa using htaken
  rw [gather, hid]
  simp only [hcontains, Bool.false_eq_true, if_false, hread]
  rfl

lemma gather_cons_of_read (hid : Path.tableId? name = some id) (htaken : id ∉ taken) {t : Table}
    (hread : table id name = some t) :
    gather (m := Id) dir table taken (name :: names) =
      (gather (m := Id) dir table (id :: taken) names).cons id t := by
  have hcontains : taken.contains id = false := by simpa using htaken
  rw [gather, hid]
  simp only [hcontains, Bool.false_eq_true, if_false, hread]
  rfl

/-- The table of a name with its identifier. -/
def withId? (table : String → String → Option Table) (name : String) : Option (String × Table) :=
  (Path.tableId? name).bind fun id => (table id name).map fun t => (id, t)

/-- Names without a fault give all their tables. -/
lemma gather_of_sound (h : Sound table taken names) :
    gather (m := Id) dir table taken names = ⟨names.filterMap (withId? table), none⟩ := by
  induction names generalizing taken with
  | nil => rfl
  | cons name names ih =>
      cases hid : Path.tableId? name with
      | none =>
          have hentry : withId? table name = none := by rw [withId?, hid]; rfl
          rw [gather_cons_of_none hid, List.filterMap_cons_none hentry]
          exact ih ((sound_cons_of_none hid).mp h)
      | some id =>
          obtain ⟨htaken, ⟨t, ht⟩, hrest⟩ := (sound_cons_of_some hid).mp h
          have hentry : withId? table name = some (id, t) := by simp [withId?, hid, ht]
          rw [gather_cons_of_read hid htaken ht, ih hrest, List.filterMap_cons_some hentry]
          rfl

/-- A name whose identifier comes earlier ends the gathering, when nothing has before. -/
lemma gather_of_clash {before after : List String} (hbefore : Sound table taken before)
    (hid : Path.tableId? name = some id)
    (hclash : id ∈ taken ∨ id ∈ before.filterMap Path.tableId?) :
    (gather (m := Id) dir table taken (before ++ name :: after)).fault =
      some (.repeatedTable id dir) := by
  induction before generalizing taken with
  | nil =>
      rw [List.nil_append, gather_cons_of_taken hid (by simpa using hclash)]
      rfl
  | cons first before ih =>
      cases hfirst : Path.tableId? first with
      | none =>
          rw [List.filterMap_cons_none hfirst] at hclash
          rw [List.cons_append, gather_cons_of_none hfirst]
          exact ih ((sound_cons_of_none hfirst).mp hbefore) hclash
      | some other =>
          obtain ⟨htaken, ⟨t, ht⟩, hrest⟩ := (sound_cons_of_some hfirst).mp hbefore
          rw [List.filterMap_cons_some hfirst, List.mem_cons] at hclash
          rw [List.cons_append, gather_cons_of_read hfirst htaken ht]
          refine ih hrest ?_
          rw [List.mem_cons, or_assoc, or_left_comm]
          exact hclash

/-- A name whose table cannot be read ends the gathering, when nothing has before. -/
lemma gather_of_unread {before after : List String} (hbefore : Sound table taken before)
    (hid : Path.tableId? name = some id) (htaken : id ∉ taken)
    (hnew : id ∉ before.filterMap Path.tableId?) (hread : table id name = none) :
    (gather (m := Id) dir table taken (before ++ name :: after)).fault =
      some (.unreadable (Path.join dir name)) := by
  induction before generalizing taken with
  | nil =>
      rw [List.nil_append, gather_cons_of_unread hid htaken hread]
      rfl
  | cons first before ih =>
      cases hfirst : Path.tableId? first with
      | none =>
          rw [List.filterMap_cons_none hfirst] at hnew
          rw [List.cons_append, gather_cons_of_none hfirst]
          exact ih ((sound_cons_of_none hfirst).mp hbefore) htaken hnew
      | some other =>
          obtain ⟨hfree, ⟨t, ht⟩, hrest⟩ := (sound_cons_of_some hfirst).mp hbefore
          rw [List.filterMap_cons_some hfirst, List.mem_cons, not_or] at hnew
          rw [List.cons_append, gather_cons_of_read hfirst hfree ht]
          exact ih hrest (fun hmem => (List.mem_cons.mp hmem).elim hnew.1 htaken) hnew.2

/-- Where there is a fault, there is a first one. -/
lemma sound_or_exists_fault (table : String → String → Option Table) (taken names : List String) :
    Sound table taken names ∨ ∃ before name after id, names = before ++ name :: after ∧
      Sound table taken before ∧ Path.tableId? name = some id ∧
      ((id ∈ taken ∨ id ∈ before.filterMap Path.tableId?) ∨ table id name = none) := by
  induction names generalizing taken with
  | nil => exact Or.inl sound_nil
  | cons first names ih =>
      cases hfirst : Path.tableId? first with
      | none =>
          rw [sound_cons_of_none hfirst]
          refine (ih taken).imp_right ?_
          rintro ⟨before, name, after, id, rfl, hbefore, hid, hfault⟩
          refine ⟨first :: before, name, after, id, rfl, (sound_cons_of_none hfirst).mpr hbefore,
            hid, ?_⟩
          rwa [List.filterMap_cons_none hfirst]
      | some other =>
          by_cases htaken : other ∈ taken
          · exact Or.inr ⟨[], first, names, other, rfl, sound_nil, hfirst, Or.inl (Or.inl htaken)⟩
          cases hread : table other first with
          | none => exact Or.inr ⟨[], first, names, other, rfl, sound_nil, hfirst, Or.inr hread⟩
          | some t =>
              have hsound : ∀ {ns : List String},
                  Sound table (other :: taken) ns → Sound table taken (first :: ns) :=
                fun h => (sound_cons_of_some hfirst).mpr ⟨htaken, ⟨t, hread⟩, h⟩
              refine (ih (other :: taken)).imp hsound ?_
              rintro ⟨before, name, after, id, rfl, hbefore, hid, hfault⟩
              refine ⟨first :: before, name, after, id, rfl, hsound hbefore, hid, ?_⟩
              rw [List.filterMap_cons_some hfirst, List.mem_cons]
              rw [List.mem_cons] at hfault
              exact hfault.imp_left fun h => or_left_comm.mp (or_assoc.mp h)

end Pure

/-! ### The lowest name with a fault -/

/-- A name counts with an identifier and bytes, but a lower name has the identifier already, or the
bytes are no table. -/
def Offends (counts : String → String → ByteArray → Prop) (name : String) : Prop :=
  ∃ id content, counts name id content ∧
    ((∃ other bytes, other < name ∧ counts other id bytes) ∨ Csv.read? content = none)

/-- The fault of the lowest name that has one: a clash with a lower name is one whatever the file
holds. -/
inductive FirstFault (counts : String → String → ByteArray → Prop) (dir : String) :
    LoadFault → Prop
  | repeatedTable {name other id : String} {content bytes : ByteArray}
      (this : counts name id content) (lower : other < name) (clash : counts other id bytes)
      (first : ∀ before < name, ¬Offends counts before) :
      FirstFault counts dir (.repeatedTable id dir)
  | unreadable {name id : String} {content : ByteArray} (this : counts name id content)
      (new : ∀ other bytes, other < name → ¬counts other id bytes)
      (unread : Csv.read? content = none) (first : ∀ before < name, ¬Offends counts before) :
      FirstFault counts dir (.unreadable (Path.join dir name))

section Counts

variable {counts : String → String → ByteArray → Prop} {content : String → Option ByteArray}
  {before after : List String} {name : String}

/-- The table in the bytes of a name. -/
def readTable (content : String → Option ByteArray) (_id name : String) : Option Table :=
  (content name).bind Csv.read?

/-- The names ascend, all have bytes, and those with an identifier count. -/
structure Listed (counts : String → String → ByteArray → Prop)
    (content : String → Option ByteArray) (names : List String) : Prop where
  ascending : names.Pairwise (· < ·)
  read : ∀ name ∈ names, ∃ bytes, content name = some bytes
  counts_iff : ∀ name id bytes, counts name id bytes ↔
    name ∈ names ∧ Path.tableId? name = some id ∧ content name = some bytes

namespace Listed

lemma mem_before (h : Listed counts content (before ++ after)) {a b : String} (ha : a ∈ before)
    (hb : b ∈ before ++ after) (hlt : b < a) : b ∈ before := by
  refine (List.mem_append.mp hb).resolve_right fun hafter => ?_
  exact String.lt_asymm hlt ((List.pairwise_append.mp h.ascending).2.2 a ha b hafter)

/-- Names in front are without a fault exactly when none of them offends. -/
lemma sound_iff (h : Listed counts content (before ++ after)) :
    Sound (readTable content) [] before ↔ ∀ name ∈ before, ¬Offends counts name := by
  constructor
  · rintro ⟨hreadable, hnodup⟩ name hname ⟨id, bytes, hthis, hfault⟩
    obtain ⟨-, hid, hbytes⟩ := (h.counts_iff _ _ _).mp hthis
    rcases hfault with ⟨other, obytes, hlt, hother⟩ | hunread
    · obtain ⟨hmem, hoid, -⟩ := (h.counts_iff _ _ _).mp hother
      have hsymm : Std.Symm fun a b => ∀ x, Path.tableId? a = some x →
          ∀ y, Path.tableId? b = some y → x ≠ y :=
        ⟨fun a b hab x hx y hy => (hab y hy x hx).symm⟩
      have hne := (List.pairwise_filterMap.mp hnodup).forall
      exact hne (h.mem_before hname hmem hlt) hname (String.ne_of_lt hlt) id hoid id hid rfl
    · obtain ⟨-, t, ht⟩ := hreadable name hname id hid
      rw [readTable, hbytes, Option.bind_some, hunread] at ht
      cases ht
  · intro hno
    refine ⟨fun name hname id hid => ⟨List.not_mem_nil, ?_⟩, ?_⟩
    · have hmem := List.mem_append_left after hname
      obtain ⟨bytes, hbytes⟩ := h.read name hmem
      have hthis := (h.counts_iff name id bytes).mpr ⟨hmem, hid, hbytes⟩
      rw [readTable, hbytes, Option.bind_some]
      exact Option.ne_none_iff_exists'.mp fun hunread =>
        hno name hname ⟨id, bytes, hthis, Or.inr hunread⟩
    · refine List.pairwise_filterMap.mpr
        ((List.pairwise_append.mp h.ascending).1.imp_of_mem ?_)
      rintro a b ha hb hlt x hx y hy rfl
      obtain ⟨abytes, habytes⟩ := h.read a (List.mem_append_left after ha)
      obtain ⟨bbytes, hbbytes⟩ := h.read b (List.mem_append_left after hb)
      have hlower := (h.counts_iff a x abytes).mpr ⟨List.mem_append_left after ha, hx, habytes⟩
      have hthis := (h.counts_iff b x bbytes).mpr ⟨List.mem_append_left after hb, hy, hbbytes⟩
      exact hno b hb ⟨x, bbytes, hthis, Or.inl ⟨a, abytes, hlt, hlower⟩⟩

/-- The lower names that count are those in front with an identifier. -/
lemma lower_iff (h : Listed counts content (before ++ name :: after)) {other id : String} :
    (∃ bytes, other < name ∧ counts other id bytes) ↔
      other ∈ before ∧ Path.tableId? other = some id := by
  obtain ⟨-, hafter, hlower⟩ := List.pairwise_append.mp h.ascending
  constructor
  · rintro ⟨bytes, hlt, hother⟩
    obtain ⟨hmem, hid, -⟩ := (h.counts_iff _ _ _).mp hother
    refine ⟨(List.mem_append.mp hmem).resolve_right fun hin => ?_, hid⟩
    rcases List.mem_cons.mp hin with rfl | hin
    · exact String.lt_irrefl _ hlt
    · exact String.lt_asymm hlt ((List.pairwise_cons.mp hafter).1 other hin)
  · rintro ⟨hin, hid⟩
    obtain ⟨bytes, hbytes⟩ := h.read other (List.mem_append_left _ hin)
    exact ⟨bytes, hlower other hin name List.mem_cons_self,
      (h.counts_iff _ _ _).mpr ⟨List.mem_append_left _ hin, hid, hbytes⟩⟩

/-- Gathering ends with the fault of the lowest name that has one. -/
lemma fault_of_firstFault (h : Listed counts content names) {fault : LoadFault}
    (hfault : FirstFault counts dir fault) :
    (gather (m := Id) dir (readTable content) [] names).fault = some fault := by
  cases hfault with
  | @repeatedTable name other id bytes obytes hthis hlt hother hfirst =>
      obtain ⟨hmem, hid, -⟩ := (h.counts_iff _ _ _).mp hthis
      obtain ⟨before, after, rfl⟩ := List.append_of_mem hmem
      obtain ⟨hin, hoid⟩ := h.lower_iff.mp ⟨obytes, hlt, hother⟩
      refine gather_of_clash (h.sound_iff.mpr fun n hn => hfirst n ?_) hid
        (Or.inr (List.mem_filterMap.mpr ⟨other, hin, hoid⟩))
      exact (List.pairwise_append.mp h.ascending).2.2 n hn name List.mem_cons_self
  | @unreadable name id bytes hthis hnew hunread hfirst =>
      obtain ⟨hmem, hid, hbytes⟩ := (h.counts_iff _ _ _).mp hthis
      obtain ⟨before, after, rfl⟩ := List.append_of_mem hmem
      refine gather_of_unread (h.sound_iff.mpr fun n hn => hfirst n ?_) hid List.not_mem_nil
        (fun hmem => ?_) ?_
      · exact (List.pairwise_append.mp h.ascending).2.2 n hn name List.mem_cons_self
      · obtain ⟨other, hin, hoid⟩ := List.mem_filterMap.mp hmem
        obtain ⟨obytes, hlt, hother⟩ := h.lower_iff.mpr ⟨hin, hoid⟩
        exact hnew other obytes hlt hother
      · rw [readTable, hbytes, Option.bind_some, hunread]

/-- Where some name has a fault, a lowest one has. -/
lemma sound_or_firstFault (h : Listed counts content names) (dir : String) :
    Sound (readTable content) [] names ∨ ∃ fault, FirstFault counts dir fault := by
  refine (sound_or_exists_fault (readTable content) [] names).imp_right ?_
  rintro ⟨before, name, after, id, rfl, hsound, hid, hfault⟩
  have hmem : name ∈ before ++ name :: after := List.mem_append_right _ List.mem_cons_self
  obtain ⟨bytes, hbytes⟩ := h.read name hmem
  have hthis := (h.counts_iff name id bytes).mpr ⟨hmem, hid, hbytes⟩
  have hfirst : ∀ lower < name, ¬Offends counts lower := by
    rintro lower hlt ⟨oid, obytes, hlower, hoffends⟩
    have hin := (h.lower_iff.mp ⟨obytes, hlt, hlower⟩).1
    exact h.sound_iff.mp hsound lower hin ⟨oid, obytes, hlower, hoffends⟩
  by_cases hclash : id ∈ before.filterMap Path.tableId?
  · obtain ⟨other, hin, hoid⟩ := List.mem_filterMap.mp hclash
    obtain ⟨obytes, hlt, hother⟩ := h.lower_iff.mpr ⟨hin, hoid⟩
    exact ⟨_, .repeatedTable hthis hlt hother hfirst⟩
  · have hunread : readTable content id name = none :=
      hfault.resolve_left (not_or.mpr ⟨List.not_mem_nil, hclash⟩)
    rw [readTable, hbytes, Option.bind_some] at hunread
    refine ⟨_, .unreadable hthis (fun other obytes hlt hother => hclash ?_) hunread hfirst⟩
    obtain ⟨hin, hoid⟩ := h.lower_iff.mp ⟨obytes, hlt, hother⟩
    exact List.mem_filterMap.mpr ⟨other, hin, hoid⟩

/-- The fault that ends the gathering is that of the lowest name that has one. -/
lemma fault_iff (h : Listed counts content names) {fault : LoadFault} :
    (gather (m := Id) dir (readTable content) [] names).fault = some fault ↔
      FirstFault counts dir fault := by
  refine ⟨fun hfault => ?_, h.fault_of_firstFault⟩
  rcases h.sound_or_firstFault dir with hsound | ⟨first, hfirst⟩
  · rw [gather_of_sound hsound] at hfault
    cases hfault
  · obtain rfl := Option.some.inj ((h.fault_of_firstFault hfirst).symm.trans hfault)
    exact hfirst

/-- Gathering ends without a fault when no name offends. -/
lemma sound_iff_forall (h : Listed counts content names) :
    Sound (readTable content) [] names ↔ ∀ name, ¬Offends counts name := by
  have happend : Listed counts content (names ++ []) := by rwa [List.append_nil]
  rw [happend.sound_iff]
  refine ⟨fun hno name hoffends => hno name ?_ hoffends, fun hno name _ => hno name⟩
  obtain ⟨id, bytes, hthis, -⟩ := hoffends
  exact ((h.counts_iff _ _ _).mp hthis).1

end Listed

end Counts

/-- What is gathered depends on the tables of the names only. -/
lemma gather_congr {table table' : String → String → Option Table}
    (hsame : ∀ name ∈ names, ∀ id, table id name = table' id name) :
    gather (m := Id) dir table taken names = gather (m := Id) dir table' taken names := by
  induction names generalizing taken with
  | nil => rfl
  | cons name names ih =>
      obtain ⟨hname, hrest⟩ := List.forall_mem_cons.mp hsame
      rw [gather, gather]
      cases Path.tableId? name with
      | none => exact ih hrest
      | some id => simp only [hname, ih hrest]

/-- What ends the gathering at a name whose identifier comes earlier has not read its file. -/
lemma gather_congr_of_clash {m : Type → Type} [Monad m]
    {table table' : String → String → m (Option Table)} {before after : List String}
    {name id : String} (hid : Path.tableId? name = some id)
    (hclash : id ∈ taken ∨ id ∈ before.filterMap Path.tableId?)
    (hsame : ∀ other ∈ before, ∀ id, table id other = table' id other) :
    gather dir table taken (before ++ name :: after) =
      gather dir table' taken (before ++ name :: after) := by
  induction before generalizing taken with
  | nil =>
      have hcontains : taken.contains id = true := by simpa using hclash
      rw [List.nil_append, gather, gather, hid]
      simp only [hcontains, if_true]
  | cons first before ih =>
      obtain ⟨hsame, hrest⟩ := List.forall_mem_cons.mp hsame
      rw [List.cons_append, gather, gather]
      cases hfirst : Path.tableId? first with
      | none =>
          rw [List.filterMap_cons_none hfirst] at hclash
          exact ih hclash hrest
      | some other =>
          rw [List.filterMap_cons_some hfirst, List.mem_cons] at hclash
          have htaken : id ∈ other :: taken ∨ id ∈ before.filterMap Path.tableId? := by
            rw [List.mem_cons, or_assoc, or_left_comm]
            exact hclash
          simp only [hsame, ih htaken hrest]

end Loading

/-! ### Directories -/

/-- The directory of a path has a file of some name that holds comma-separated values, with bytes
that make up the table with an identifier.  Where the path continued by the name is too long, the
file cannot be reached. -/
structure FileTree.TableFile (t : FileTree) (here : Location) (dir name id : String)
    (content : ByteArray) : Prop where
  file : t.item? (goal here dir ++ [name]) = some (.file content)
  reached : (Path.join dir name).utf8ByteSize ≤ Path.maxLength
  csv : Path.isCsv name = true
  id : Path.tableId? name = some id

/-- A submission has the tables of the files that count, each of one file, and no others. -/
structure Submission.Holds (d : Submission) (counts : String → String → ByteArray → Prop) :
    Prop where
  ids : ∀ id, id ∈ d.ids ↔ ∃ name content, counts name id content
  once : ∀ id ∈ d.ids, ∃! name, ∃ content, counts name id content
  table : ∀ {name id content}, counts name id content →
    ∃ t, Csv.read? content = some t ∧ d.table? id = some t

lemma Path.identifier_of_tableId? {name id : String} (h : tableId? name = some id) :
    Text.identifier id = id := by
  rw [tableId?] at h
  split at h
  · cases h
  · obtain rfl := Option.some.inj h
    exact Text.identifier_identifier _

/-- The submission of tables that were gathered without a fault. -/
lemma Loading.Listed.holds {counts : String → String → ByteArray → Prop}
    {content : String → Option ByteArray} {names : List String} (h : Listed counts content names)
    (hsound : Sound (readTable content) [] names) :
    (Submission.ofList (names.filterMap (withId? (readTable content)))).Holds counts := by
  set entries := names.filterMap (withId? (readTable content))
  have hmem : ∀ {id : String} {t : Table}, (id, t) ∈ entries ↔
      ∃ name bytes, counts name id bytes ∧ Csv.read? bytes = some t := by
    intro id t
    rw [List.mem_filterMap]
    constructor
    · rintro ⟨name, hname, hentry⟩
      obtain ⟨other, hid, hread⟩ := Option.bind_eq_some_iff.mp hentry
      obtain ⟨t', ht, heq⟩ := Option.map_eq_some_iff.mp hread
      obtain ⟨rfl, rfl⟩ := Prod.mk.inj heq
      obtain ⟨bytes, hbytes, hcsv⟩ := Option.bind_eq_some_iff.mp ht
      exact ⟨name, bytes, (h.counts_iff _ _ _).mpr ⟨hname, hid, hbytes⟩, hcsv⟩
    · rintro ⟨name, bytes, hthis, hcsv⟩
      obtain ⟨hname, hid, hbytes⟩ := (h.counts_iff _ _ _).mp hthis
      exact ⟨name, hname, by simp [withId?, hid, readTable, hbytes, hcsv]⟩
  have hnormal : ∀ e ∈ entries, Text.identifier e.1 = e.1 := by
    intro e he
    obtain ⟨name, bytes, hthis, -⟩ := hmem.mp he
    exact Path.identifier_of_tableId? ((h.counts_iff _ _ _).mp hthis).2.1
  have hne : entries.Pairwise fun a b => a.1 ≠ b.1 := by
    refine List.pairwise_filterMap.mpr ((List.pairwise_filterMap.mp hsound.nodup).imp ?_)
    intro a b hab x hx y hy
    obtain ⟨i, hi, hix⟩ := Option.bind_eq_some_iff.mp hx
    obtain ⟨j, hj, hjy⟩ := Option.bind_eq_some_iff.mp hy
    obtain ⟨_, -, rfl⟩ := Option.map_eq_some_iff.mp hix
    obtain ⟨_, -, rfl⟩ := Option.map_eq_some_iff.mp hjy
    exact hab i hi j hj
  have hget : ∀ {name id : String} {bytes : ByteArray}, counts name id bytes →
      ∃ t, Csv.read? bytes = some t ∧ (Submission.ofList entries).tables.get? id = some t := by
    intro name id bytes hthis
    obtain ⟨hname, hid, hbytes⟩ := (h.counts_iff _ _ _).mp hthis
    obtain ⟨-, t, ht⟩ := hsound.readable name hname id hid
    rw [readTable, hbytes, Option.bind_some] at ht
    refine ⟨t, ht, ?_⟩
    rw [Submission.get?_ofList hnormal hne]
    exact Keyed.lookup_of_mem hne (hmem.mpr ⟨name, bytes, hthis, ht⟩)
  have hids : ∀ id, id ∈ (Submission.ofList entries).ids ↔ ∃ name bytes, counts name id bytes := by
    intro id
    rw [Submission.ids, Keyed.mem_keys_iff]
    constructor
    · rintro ⟨t, ht⟩
      rw [Submission.get?_ofList hnormal hne] at ht
      obtain ⟨name, bytes, hthis, -⟩ := hmem.mp (Keyed.mem_of_lookup ht)
      exact ⟨name, bytes, hthis⟩
    · rintro ⟨name, bytes, hthis⟩
      obtain ⟨t, -, ht⟩ := hget hthis
      exact ⟨t, ht⟩
  refine ⟨hids, fun id hid => ?_, fun {name id bytes} hthis => ?_⟩
  · obtain ⟨name, bytes, hthis⟩ := (hids id).mp hid
    refine ⟨name, ⟨bytes, hthis⟩, ?_⟩
    rintro other ⟨obytes, hother⟩
    -- of two names with the identifier, the higher one offends
    have hno := h.sound_iff_forall.mp hsound
    by_contra hne
    rcases String.le_total other name with hle | hle
    · have hlt := lt_of_ne_of_le hne hle
      exact hno name ⟨id, bytes, hthis, Or.inl ⟨other, obytes, hlt, hother⟩⟩
    · have hlt := lt_of_ne_of_le (Ne.symm hne) hle
      exact hno other ⟨id, obytes, hother, Or.inl ⟨name, bytes, hlt, hthis⟩⟩
  · obtain ⟨t, hcsv, ht⟩ := hget hthis
    refine ⟨t, hcsv, ?_⟩
    rw [Submission.table?, Path.identifier_of_tableId? ((h.counts_iff _ _ _).mp hthis).2.1, ht]

/-- The names of files of comma-separated values in a directory are those of its table files. -/
lemma FileTree.listed {t : FileTree} {here : Location} {dir : String} (hwf : t.WellFormed)
    (h : t.isDirectory here dir = true) :
    Loading.Listed (t.TableFile here dir) (fun name => t.read? here (Path.join dir name))
      (csvNames (t.fileNames here dir)) where
  ascending := pairwise_csvNames (nodup_fileNames hwf h)
  read := by
    intro name hname
    exact ((mem_fileNames_iff hwf h).mp (mem_csvNames_iff.mp hname).1).2
  counts_iff := by
    intro name id bytes
    obtain ⟨-, haccepted, hpass⟩ := isDirectory_iff.mp h
    rw [mem_csvNames_iff, mem_fileNames_iff hwf h]
    constructor
    · rintro ⟨hfile, hreached, hcsv, hid⟩
      have hname : Path.IsName name := hwf.isName hfile
      have hread := (read?_join hpass haccepted hname).mpr ⟨hreached, hfile⟩
      exact ⟨⟨⟨hname, bytes, hread⟩, hcsv⟩, hid, hread⟩
    · rintro ⟨⟨⟨hname, -⟩, hcsv⟩, hid, hread⟩
      obtain ⟨hreached, hfile⟩ := (read?_join hpass haccepted hname).mp hread
      exact ⟨hfile, hreached, hcsv, hid⟩

/-! ### Loading -/

/-- The tables of a directory of a tree, in order. -/
def FileTree.loading (t : FileTree) (here : Location) (dir : String) : Loading :=
  if t.isDirectory here dir then
    Loading.gather (m := Id) dir (Loading.readTable fun name => t.read? here (Path.join dir name))
      [] (csvNames (t.fileNames here dir))
  else Loading.failed (.noDirectory dir)

/-- A directory that is loaded without a fault is there. -/
lemma FileTree.isDirectory_of_loading {t : FileTree} {here : Location} {dir : String}
    {d : Submission} (h : (t.loading here dir).submission = .ok d) :
    t.isDirectory here dir = true := by
  rw [loading] at h
  split at h
  · next hdir => exact hdir
  · cases h

/-- The directory of a path holds the same files in both trees, as far as they are listed. -/
structure FileTree.SameFiles (here : Location) (dir : String) (t t' : FileTree) : Prop where
  isDirectory : t'.isDirectory here dir = t.isDirectory here dir
  fileNames : t.isDirectory here dir = true →
    (t'.fileNames here dir).Perm (t.fileNames here dir)
  read : t.isDirectory here dir = true → ∀ name ∈ t.fileNames here dir,
    t'.read? here (Path.join dir name) = t.read? here (Path.join dir name)

namespace FileTree

variable {t t' : FileTree} {here : Location} {dir : String}

lemma SameFiles.refl : SameFiles here dir t t :=
  ⟨rfl, fun _ => List.Perm.refl _, fun _ _ _ => rfl⟩

/-- The same is loaded from the same files. -/
lemma SameFiles.loading_eq (h : SameFiles here dir t t') :
    t'.loading here dir = t.loading here dir := by
  rw [loading, loading, h.isDirectory]
  split
  · next hdir =>
    rw [csvNames_eq_of_perm (h.fileNames hdir)]
    refine Loading.gather_congr fun name hname id => ?_
    rw [Loading.readTable, Loading.readTable, h.read hdir name (mem_csvNames_iff.mp hname).1]
  · rfl

/-- A tree with more directories has the same files in a directory where none differ. -/
lemma sameFiles_of_isDirectory (hwf : t.WellFormed) (hwf' : t'.WellFormed)
    (hdir : t.isDirectory here dir = true)
    (hmono : ∀ l, t.item? l = some .directory → t'.item? l = some .directory)
    (hfile : ∀ name content, t'.item? (goal here dir ++ [name]) = some (.file content) ↔
      t.item? (goal here dir ++ [name]) = some (.file content)) : SameFiles here dir t t' := by
  obtain ⟨hempty, haccepted, hpass⟩ := isDirectory_iff.mp hdir
  have hpass' := hpass.mono hmono
  have hdir' : t'.isDirectory here dir = true := isDirectory_iff.mpr ⟨hempty, haccepted, hpass'⟩
  have hread : ∀ name, Path.IsName name →
      t'.read? here (Path.join dir name) = t.read? here (Path.join dir name) := by
    intro name hname
    refine Option.ext fun content => ?_
    rw [read?_join hpass haccepted hname, read?_join hpass' haccepted hname, hfile]
  refine ⟨hdir'.trans hdir.symm, fun _ => ?_, fun _ name hname => ?_⟩
  · refine (List.perm_ext_iff_of_nodup (nodup_fileNames hwf' hdir')
      (nodup_fileNames hwf hdir)).mpr fun name => ?_
    rw [mem_fileNames_iff hwf hdir, mem_fileNames_iff hwf' hdir']
    exact and_congr_right fun hname => by rw [hread name hname]
  · exact hread name ((mem_fileNames_iff hwf hdir).mp hname).1

end FileTree

namespace Host

variable {σ : Type} {h : Host (StateM σ)} {files : σ → FileTree} {here : Location}

/-- What is loaded is what a tree has, as long as the files in the directory are those of the tree,
whatever is logged. -/
lemma ActsOn.load_gives {P : FileTree → Prop} {t : FileTree} {dir : String}
    (hh : h.ActsOn files here) (hlog : ∀ e, Preserves files P (h.log e))
    (hP : ∀ t', P t' → FileTree.SameFiles here dir t t') :
    Gives files P (h.load dir) (t.loading here dir) := by
  have htable : t.isDirectory here dir = true → ∀ name ∈ csvNames (t.fileNames here dir), ∀ id,
      Gives files P (h.loadTable id (Path.join dir name))
        (Loading.readTable (fun name => t.read? here (Path.join dir name)) id name) := by
    intro hdir name hname id
    refine ((hh.read _).gives fun t' ht' => (hP t' ht').read hdir name
      (mem_csvNames_iff.mp hname).1).bind ?_
    rw [Loading.readTable]
    cases (t.read? here (Path.join dir name)).bind Csv.read? with
    | none => exact gives_pure _
    | some table => exact (hlog _).gives_bind fun _ => gives_pure _
  refine ((hh.isDirectory dir).gives fun t' ht' => (hP t' ht').isDirectory).bind ?_
  rw [FileTree.loading]
  split
  · next hdir =>
    intro s hs
    obtain ⟨hperm, hkept⟩ := hh.fileNames dir s
    have hnames := csvNames_eq_of_perm (hperm.trans ((hP _ hs).fileNames hdir))
    rw [bind_apply, hnames]
    exact Loading.gather_gives (htable hdir) _ (hkept.symm ▸ hs)
  · exact gives_pure _

/-- Loading changes the files by what is logged only. -/
lemma ActsOn.load_preserves {P : FileTree → Prop} (hh : h.ActsOn files here)
    (hlog : ∀ e, Preserves files P (h.log e)) (dir : String) :
    Preserves files P (h.load dir) := by
  have htable : ∀ id name, Preserves files P (h.loadTable id (Path.join dir name)) := by
    refine fun id name => (hh.read _).preserves.bind fun bytes => ?_
    cases bytes.bind Csv.read? with
    | none => exact preserves_pure _
    | some table => exact (hlog _).bind fun _ => preserves_pure _
  refine (hh.isDirectory dir).preserves.bind fun yes => ?_
  cases yes with
  | false => exact preserves_pure _
  | true =>
      have hnames : Preserves files P (h.fileNames dir) := by
        intro s hs
        rw [(hh.fileNames dir s).2]
        exact hs
      exact hnames.bind fun names => Loading.gather_preserves htable

/-- What is loaded is read off the files, as long as the log is kept out of them. -/
lemma ActsOn.load (hh : h.ActsOn files here) (hlog : ∀ e, Keeps files (h.log e)) (dir : String) :
    Reads files (h.load dir) fun t => t.loading here dir := by
  intro s
  refine hh.load_gives (P := (· = files s)) (fun e => (hlog e).preserves) ?_ s rfl
  rintro t rfl
  exact .refl

/-- Loading a directory gives the tables of all its files, or the fault of the lowest file name that
has one.  The order in which the directory is listed makes no difference. -/
structure LoadsAll (h : Host (StateM σ)) (files : σ → FileTree) (here : Location) (dir : String)
    (s : σ) : Prop where
  /-- What is loaded has the tables of all files that count. -/
  holds : ∀ d, (h.load dir s).1.submission = .ok d → d.Holds ((files s).TableFile here dir)
  /-- Loading fails when two files have one identifier, or one has no table. -/
  fails_iff : (∃ fault, (h.load dir s).1.submission = .error fault) ↔
    (∃ a b id bytes bytes', a ≠ b ∧ (files s).TableFile here dir a id bytes ∧
      (files s).TableFile here dir b id bytes') ∨
    ∃ name id bytes, (files s).TableFile here dir name id bytes ∧ Csv.read? bytes = none
  /-- The fault is that of the lowest file name that has one. -/
  fault_iff : ∀ fault, (h.load dir s).1.submission = .error fault ↔
    Loading.FirstFault ((files s).TableFile here dir) dir fault
  /-- Where a lower file has the identifier, a file is not read. -/
  unread : ∀ {name other id bytes bytes'}, (files s).TableFile here dir name id bytes →
    other < name → (files s).TableFile here dir other id bytes' →
    ∀ r : StateM σ (Option ByteArray),
      ({ h with read := fun path => if path = Path.join dir name then r else h.read path } :
        Host (StateM σ)).load dir s = h.load dir s
  /-- No file is changed. -/
  kept : files (h.load dir s).2 = files s
  /-- Other surroundings with these files, which may list them in another order, give the same. -/
  unordered : ∀ (τ : Type) (h' : Host (StateM τ)) (files' : τ → FileTree) (s' : τ),
    h'.ActsOn files' here → (∀ e, Keeps files' (h'.log e)) → files' s' = files s →
      (h'.load dir s').1 = (h.load dir s).1

/-- What a directory is read off depends on the files that come in front of a clash only. -/
lemma load_unread (hh : h.ActsOn files here) {dir : String} {s : σ} (hwf : (files s).WellFormed)
    (hdir : (files s).isDirectory here dir = true) {name other id : String}
    {bytes bytes' : ByteArray} (hthis : (files s).TableFile here dir name id bytes)
    (hlt : other < name) (hother : (files s).TableFile here dir other id bytes')
    (r : StateM σ (Option ByteArray)) :
    ({ h with read := fun path => if path = Path.join dir name then r else h.read path } :
      Host (StateM σ)).load dir s = h.load dir s := by
  set h' : Host (StateM σ) :=
    { h with read := fun path => if path = Path.join dir name then r else h.read path } with hh'
  obtain ⟨hyes, hkept⟩ := hh.isDirectory dir s
  set s₁ := (h.isDirectory dir s).2 with hs₁
  obtain ⟨hperm, -⟩ := hh.fileNames dir s₁
  have hload : ∀ g : Host (StateM σ), g.isDirectory = h.isDirectory → g.fileNames = h.fileNames →
      g.load dir s = Loading.gather dir (fun id name => g.loadTable id (Path.join dir name)) []
        (csvNames (h.fileNames dir s₁).1) (h.fileNames dir s₁).2 := by
    intro g hisDirectory hfileNames
    have hstep : g.load dir s = (if (g.isDirectory dir s).1 then do
        let names ← g.fileNames dir
        Loading.gather dir (fun id name => g.loadTable id (Path.join dir name)) [] (csvNames names)
      else return Loading.failed (.noDirectory dir) : StateM σ Loading) (g.isDirectory dir s).2 :=
      rfl
    rw [hstep, hisDirectory, hfileNames, show (h.isDirectory dir s).1 = true from hyes.trans hdir]
    rfl
  have hlisted := FileTree.listed hwf hdir
  have hnames : ∀ n ∈ csvNames ((files s).fileNames here dir), Path.IsName n := fun n hn =>
    ((FileTree.mem_fileNames_iff hwf hdir).mp (mem_csvNames_iff.mp hn).1).1
  obtain ⟨hmem, hid, -⟩ := (hlisted.counts_iff _ _ _).mp hthis
  obtain ⟨before, after, hsplit⟩ := List.append_of_mem hmem
  rw [hsplit] at hlisted hnames
  obtain ⟨hin, hoid⟩ := hlisted.lower_iff.mp ⟨bytes', hlt, hother⟩
  rw [hkept] at hperm
  rw [hload h' rfl rfl, hload h rfl rfl, csvNames_eq_of_perm hperm, hsplit]
  rw [Loading.gather_congr_of_clash hid (Or.inr (List.mem_filterMap.mpr ⟨other, hin, hoid⟩))]
  intro lower hlower i
  have hbefore : lower < name :=
    (List.pairwise_append.mp hlisted.ascending).2.2 lower hlower name List.mem_cons_self
  have hread : h'.read (Path.join dir lower) = h.read (Path.join dir lower) := by
    refine if_neg fun heq => String.ne_of_lt hbefore ?_
    exact Path.join_injective (hnames lower (List.mem_append_left _ hlower))
      (hnames name (List.mem_append_right _ List.mem_cons_self)) heq
  rw [loadTable, loadTable, hread]

/-- **Loading a directory**: whatever the directory holds and in whatever order it is listed, the
tables loaded are those of its files of comma-separated values, each under the identifier of its
name; or else the lowest file name that clashes with a lower one or has no table is reported.  A
file counts as long as the path to it is not too long. -/
theorem load_all (hh : h.ActsOn files here) (hlog : ∀ e, Keeps files (h.log e)) {dir : String}
    {s : σ} (hwf : (files s).WellFormed) (hdir : (files s).isDirectory here dir = true) :
    h.LoadsAll files here dir s := by
  obtain ⟨hvalue, hkept⟩ := hh.load hlog dir s
  have hlisted := FileTree.listed hwf hdir
  have hgather : (h.load dir s).1 = _ := hvalue.trans (if_pos hdir)
  have hfault : ∀ fault, (h.load dir s).1.submission = .error fault ↔
      Loading.FirstFault ((files s).TableFile here dir) dir fault := by
    intro fault
    rw [← hlisted.fault_iff, ← hgather, Loading.submission]
    cases (h.load dir s).1.fault with
    | none => simp
    | some f => simp
  have hcases : (∀ name, ¬Loading.Offends ((files s).TableFile here dir) name) ∧
      (∀ d, (h.load dir s).1.submission = .ok d → d.Holds ((files s).TableFile here dir)) ∨
      ∃ fault, (h.load dir s).1.submission = .error fault := by
    rcases hlisted.sound_or_firstFault dir with hsound | ⟨fault, hfirst⟩
    · refine Or.inl ⟨hlisted.sound_iff_forall.mp hsound, fun d hd => ?_⟩
      rw [hgather, Loading.gather_of_sound hsound] at hd
      obtain rfl := Except.ok.inj hd
      exact hlisted.holds hsound
    · exact Or.inr ⟨fault, (hfault fault).mpr hfirst⟩
  refine ⟨fun d hd => ?_, ⟨?_, fun hbad => ?_⟩, hfault, fun {_ _ _ _ _} hthis hlt hother r => ?_,
    hkept, ?_⟩
  · rcases hcases with ⟨-, hholds⟩ | ⟨fault, herror⟩
    · exact hholds d hd
    · rw [hd] at herror
      cases herror
  · rintro ⟨fault, herror⟩
    cases (hfault fault).mp herror with
    | repeatedTable hthis hlt hother hfirst =>
        exact Or.inl ⟨_, _, _, _, _, (String.ne_of_lt hlt).symm, hthis, hother⟩
    | unreadable hthis hnew hunread hfirst => exact Or.inr ⟨_, _, _, hthis, hunread⟩
  · refine hcases.resolve_left fun hgood => ?_
    rcases hbad with ⟨a, b, id, bytes, bytes', hne, ha, hb⟩ | ⟨name, id, bytes, hthis, hunread⟩
    · -- the higher of the two names offends
      rcases String.le_total a b with hle | hle
      · have hlt := lt_of_ne_of_le hne hle
        exact hgood.1 b ⟨id, bytes', hb, Or.inl ⟨a, bytes, hlt, ha⟩⟩
      · have hlt := lt_of_ne_of_le (Ne.symm hne) hle
        exact hgood.1 a ⟨id, bytes, ha, Or.inl ⟨b, bytes', hlt, hb⟩⟩
    · exact hgood.1 name ⟨id, bytes, hthis, Or.inr hunread⟩
  · exact load_unread hh hwf hdir hthis hlt hother r
  · intro τ h' files' s' hh' hlog' hsame
    rw [(hh'.load hlog' dir s').1, hvalue, hsame]

end Host

/-! ### A directory with tables -/

/-- A directory with two files of comma-separated values, another file and a directory. -/
def FileTree.returns : FileTree :=
  .directory [("data", .directory
    [("Schools.csv", .file "school_id,name\ns1,North\n".toUTF8),
      ("learners.CSV", .file "learner_id,school_id\nl1,s1\nl2,s1\n".toUTF8),
      ("notes.txt", .file "late\n".toUTF8), ("output", .directory [])])]

lemma FileTree.returns_wellFormed : returns.WellFormed := by
  refine .directory (by decide) (by decide) (List.forall_mem_singleton.mpr ?_)
  refine .directory (by decide) (by decide) ?_
  simp only [List.forall_mem_cons]
  exact ⟨.file _, .file _, .file _, .default, List.forall_mem_nil _⟩

theorem Host.load_all_returns :
    FileTree.returns.WellFormed ∧ FileTree.returns.isDirectory [] "data" = true ∧
      (onTree "" []).LoadsAll id [] "data" FileTree.returns :=
  have hdir : FileTree.returns.isDirectory [] "data" = true := by decide
  ⟨FileTree.returns_wellFormed, hdir,
    load_all (actsOn_onTree "" []) (fun _ _ => rfl) FileTree.returns_wellFormed hdir⟩

/-! ### Files that cannot be reached -/

section Remote

variable {name : String} {content : ByteArray} {count : ℕ}

/-- A directory with one file. -/
def FileTree.remote (name : String) (content : ByteArray) : FileTree :=
  .directory [("d", .directory [(name, .file content)])]

lemma FileTree.remote_wellFormed (hname : Path.IsName name) (content : ByteArray) :
    (remote name content).WellFormed := by
  have hd : Path.IsName "d" := by decide
  refine .directory (List.pairwise_singleton ..) (List.forall_mem_singleton.mpr hd)
    (List.forall_mem_singleton.mpr ?_)
  refine .directory (List.pairwise_singleton ..) ?_ ?_
  · exact List.forall_mem_singleton.mpr hname
  · exact List.forall_mem_singleton.mpr (.file _)

lemma FileTree.goal_slashed (count : ℕ) : goal [] (Path.slashed "d" count) = ["d"] := by
  have hstart : startOf [] (Path.slashed "d" count) = [] := by
    rw [startOf]
    split <;> rfl
  rw [goal, Path.steps_slashed (by decide), hstart]
  rfl

lemma FileTree.item?_remote : (remote name content).item? ["d", name] = some (.file content) := by
  simp [remote, item]

/-- A path with slashes at the end leads to the directory as long as it is accepted. -/
lemma FileTree.remote_isDirectory (hcount : 1 + count ≤ Path.maxLength) :
    (remote name content).isDirectory [] (Path.slashed "d" count) = true := by
  have hchars := Path.toList_slashed "d" count
  have hstart : startOf [] (Path.slashed "d" count) = [] := by
    rw [startOf]
    split <;> rfl
  refine isDirectory_iff.mpr ⟨fun hempty => ?_, ⟨fun hzero => ?_, ?_⟩, ?_⟩
  · rw [hempty] at hchars
    cases hchars
  · rw [hchars, List.mem_append] at hzero
    rcases hzero with hzero | hzero
    · exact absurd hzero (by decide)
    · exact absurd (List.eq_of_mem_replicate hzero) (by decide)
  · rw [Path.utf8ByteSize_slashed]
    exact hcount
  · rw [Path.steps_slashed (by decide), hstart]
    exact ⟨rfl, by decide, rfl⟩

/-- The file in the directory is not listed when the path to it is too long. -/
lemma FileTree.remote_fileNames (hname : Path.IsName name) (hcount : 1 + count ≤ Path.maxLength)
    (hlong : Path.maxLength < 1 + count + name.utf8ByteSize) :
    (remote name content).fileNames [] (Path.slashed "d" count) = [] := by
  have hdir : (remote name content).isDirectory [] (Path.slashed "d" count) = true :=
    remote_isDirectory hcount
  obtain ⟨-, haccepted, hpass⟩ := isDirectory_iff.mp hdir
  have hwf := remote_wellFormed hname content
  refine List.eq_nil_iff_forall_not_mem.mpr fun other hother => ?_
  obtain ⟨hvalid, bytes, hread⟩ := (mem_fileNames_iff hwf hdir).mp hother
  obtain ⟨hreached, hitem⟩ := (read?_join hpass haccepted hvalid).mp hread
  obtain rfl : other = name := by
    rw [goal_slashed] at hitem
    by_contra hne
    simp [remote, List.lookup_cons, beq_eq_false_iff_ne.mpr hne] at hitem
  have hsize := Path.add_le_utf8ByteSize_join (Path.slashed "d" count) other hvalid
  have hd : "d".utf8ByteSize = 1 := rfl
  rw [Path.utf8ByteSize_slashed, hd] at hsize
  omega

/-- A file is not loaded, and nothing fails, where the path to it is too long although the path to
the directory is not. -/
theorem Host.load_misses_remote :
    ∃ bytes table d,
      (FileTree.remote "t.csv" bytes).item? (goal [] (Path.slashed "d" 4094) ++ ["t.csv"]) =
        some (.file bytes) ∧
      Path.isCsv "t.csv" = true ∧ Path.tableId? "t.csv" = some "t" ∧ Csv.read? bytes = some table ∧
      ((onTree "" []).load (Path.slashed "d" 4094) (FileTree.remote "t.csv" bytes)).1.submission =
        .ok d ∧
      "t" ∉ d.ids := by
  have hheadings : Csv.Headings ["a", "b"] :=
    ⟨by decide, by decide, by decide, 'a', [], ["b"], rfl, by decide, by decide⟩
  have hrows : ∀ row ∈ [["1", "2"]], row.length = ["a", "b"].length := by decide
  have hread := Csv.read?_write hheadings hrows
  generalize (Csv.write (["a", "b"] :: [["1", "2"]])).toUTF8 = bytes at hread
  have hname : Path.IsName "t.csv" := by decide
  have hlong : Path.maxLength < 1 + 4094 + "t.csv".utf8ByteSize := by decide
  have hload := ((actsOn_onTree "" []).load (fun _ _ => rfl) (Path.slashed "d" 4094)
    (FileTree.remote "t.csv" bytes)).1
  refine ⟨bytes, _, Submission.ofList [], ?_, by decide, by decide, hread, ?_, List.not_mem_nil⟩
  · rw [FileTree.goal_slashed]
    exact FileTree.item?_remote
  · rw [hload]
    show ((FileTree.remote "t.csv" bytes).loading [] (Path.slashed "d" 4094)).submission = _
    rw [FileTree.loading, if_pos (FileTree.remote_isDirectory (by decide)),
      FileTree.remote_fileNames hname (by decide) hlong, csvNames, List.filter_nil,
      List.mergeSort_nil]
    rfl

end Remote

end Census
