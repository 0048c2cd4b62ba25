/-
Submissions made by calls.

* `Submission.exchange_eq`: an exchange gives the table that was found before, and inserts;
* `Submission.Call`, `Submission.after`: calls that put in tables, one after another;
* `Submission.last?`, `Submission.forms`: the table that is put in last under a normal form, and the
  normal forms of all identifiers that calls use;
* `get?_after`: the tables after calls are those put in last;
* `toFinset_ids_after`, `rowCount_eq_sum`: the identifiers, and the rows counted by identifier;
* `enact_comm`: calls with different identifiers may be made in either order;
* `Submission.submission_history`: what holds after any calls.
-/
import Mathlib
import Census.Proofs.Submission

namespace Census.Submission

/-! ### Calls -/

/-- A call that puts a table in under an identifier: one gives the table which is replaced, the other
one the submission. -/
inductive Call
  | insert (id : String) (table : Table)
  | withTable (id : String) (table : Table)

namespace Call

/-- The identifier in the spelling of the call. -/
def id : Call → String
  | insert id _ | withTable id _ => id

/-- The table that is put in. -/
def table : Call → Table
  | insert _ table | withTable _ table => table

/-- The normal form of the identifier. -/
def form (call : Call) : String :=
  Text.identifier call.id

end Call

/-- The submission after a call. -/
def enact (s : Submission) : Call → Submission
  | .insert id table => (s.exchange id table).2
  | .withTable id table => s.insert id table

/-- The submission that calls make one after another. -/
def after (calls : List Call) : Submission :=
  calls.foldl enact empty

/-- The table that calls put in last under identifiers of a normal form. -/
def last? (form : String) (calls : List Call) : Option Table :=
  ((calls.filter fun call => call.form = form).getLast?).map Call.table

/-- The normal forms of the identifiers of calls. -/
def forms (calls : List Call) : Finset String :=
  (calls.map Call.form).toFinset

variable {calls : List Call} {form : String}

/-- An exchange gives the table that is found before, and inserts. -/
lemma exchange_eq (s : Submission) (id : String) (t : Table) :
    s.exchange id t = (s.table? id, s.insert id t) := by
  rw [exchange, Keyed.exchange_eq]
  rfl

/-- Both kinds of calls put in their table under the normal form of their identifier. -/
lemma tables_enact (s : Submission) (call : Call) :
    (s.enact call).tables = s.tables.insert call.form call.table := by
  cases call with
  | insert id t =>
      rw [enact, exchange_eq]
      rfl
  | withTable id t => rfl

lemma table?_enact (s : Submission) (call : Call) (id : String) :
    (s.enact call).table? id =
      if Text.identifier id = call.form then some call.table else s.table? id := by
  rw [table?, tables_enact, Keyed.get?_insert]
  rfl

lemma after_concat (calls : List Call) (call : Call) :
    after (calls ++ [call]) = (after calls).enact call :=
  List.foldl_concat ..

/-- A later call takes the place of an earlier one. -/
lemma last?_concat (calls : List Call) (call : Call) (form : String) :
    last? form (calls ++ [call]) = if form = call.form then some call.table else last? form calls := by
  rw [last?, List.filter_append]
  by_cases h : form = call.form
  · have hlast : [call].filter (fun c : Call => c.form = form) = [call] := by simp [h]
    rw [if_pos h, hlast, List.getLast?_concat, Option.map_some]
  · have hnone : [call].filter (fun c : Call => c.form = form) = [] := by simp [Ne.symm h]
    rw [if_neg h, hnone, List.append_nil, last?]

lemma exists_last?_iff : (∃ t, last? form calls = some t) ↔ form ∈ forms calls := by
  rw [← Option.ne_none_iff_exists', last?, ne_eq, Option.map_eq_none_iff,
    List.getLast?_eq_none_iff, List.filter_eq_nil_iff]
  simp [forms]

/-! ### What calls make -/

/-- **Tables after calls**: under every normal form the table that is put in last. -/
lemma get?_after (calls : List Call) (form : String) :
    (after calls).tables.get? form = last? form calls := by
  induction calls using List.reverseRecOn with
  | nil => rfl
  | append_singleton calls call ih =>
      rw [after_concat, tables_enact, Keyed.get?_insert, last?_concat, ih]

/-- The identifiers after calls are the normal forms that the calls use. -/
lemma mem_ids_after : form ∈ (after calls).ids ↔ form ∈ forms calls := by
  rw [ids, Keyed.mem_keys_iff, get?_after, exists_last?_iff]

lemma toFinset_ids_after (calls : List Call) : (after calls).ids.toFinset = forms calls := by
  ext form
  rw [List.mem_toFinset, mem_ids_after]

lemma nodup_ids (s : Submission) : s.ids.Nodup :=
  s.tables.nodup_keys

/-- There are as many tables as identifiers. -/
lemma size_eq_card (s : Submission) : s.size = s.ids.toFinset.card := by
  rw [List.toFinset_card_of_nodup s.nodup_ids, ids, Keyed.keys, List.length_map]
  rfl

/-- The rows of all tables are those found under the identifiers. -/
lemma rowCount_eq_sum (s : Submission) :
    s.rowCount = ∑ form ∈ s.ids.toFinset, (s.tables.get? form).elim 0 Table.height := by
  have hheights : s.tables.values.map Table.height =
      s.ids.map fun form => (s.tables.get? form).elim 0 Table.height := by
    rw [ids, Keyed.keys, Keyed.values, List.map_map, List.map_map]
    refine List.map_congr_left fun e he => ?_
    have hfound : s.tables.get? e.1 = some e.2 := Keyed.mem_entries_iff.mp he
    rw [Function.comp_apply, Function.comp_apply, hfound, Option.elim_some]
  rw [List.sum_toFinset _ s.nodup_ids, ← hheights]
  rfl

/-- Calls with identifiers of different normal form may be made in either order. -/
lemma enact_comm (s : Submission) {a b : Call} (h : a.form ≠ b.form) :
    (s.enact a).enact b = (s.enact b).enact a := by
  have htables : ((s.enact a).enact b).tables = ((s.enact b).enact a).tables := by
    simp only [tables_enact]
    exact Keyed.insert_comm h ..
  exact congrArg Submission.mk htables

/-- **Submissions of calls.**  After any calls a look-up gives the table that was put in last under an
identifier which agrees once both are trimmed and in lower case, and an exchange gives what a look-up
gave just before.  The identifiers ascend, are in normal form, and are those of the calls; the tables
are as many, and the rows are those of the tables put in last.  Of two calls with identifiers of
different normal form the order makes no difference, neither to the submission nor to the tables
that they replace. -/
theorem submission_history (calls : List Call) :
    let s := after calls
    (∀ id, s.table? id = last? (Text.lower (Text.trim id)) calls) ∧
    (∀ id t, s.exchange id t = (s.table? id, after (calls ++ [.insert id t]))) ∧
    s.ids.Pairwise (· < ·) ∧
    (∀ id ∈ s.ids, Text.lower (Text.trim id) = id) ∧
    s.ids.toFinset = forms calls ∧
    s.size = (forms calls).card ∧
    s.rowCount = ∑ form ∈ forms calls, (last? form calls).elim 0 Table.height ∧
    ∀ a b : Call, a.form ≠ b.form →
      (∀ later, after (calls ++ a :: b :: later) = after (calls ++ b :: a :: later)) ∧
      ((s.enact a).exchange b.id b.table).1 = (s.exchange b.id b.table).1 := by
  intro s
  have hids : s.ids.toFinset = forms calls := toFinset_ids_after calls
  refine ⟨fun id => get?_after calls _, fun id t => ?_, s.tables.pairwise_keys, fun id hid => ?_,
    hids, ?_, ?_, fun a b hforms => ⟨fun later => ?_, ?_⟩⟩
  · rw [after_concat, enact, exchange_eq]
  · obtain ⟨call, -, rfl⟩ := List.mem_map.mp (List.mem_toFinset.mp (mem_ids_after.mp hid))
    exact Text.identifier_identifier call.id
  · rw [← hids, size_eq_card]
  · rw [rowCount_eq_sum, hids]
    exact Finset.sum_congr rfl fun form _ => congrArg (Option.elim · 0 Table.height)
      (get?_after calls form)
  · rw [after, after, List.foldl_append, List.foldl_append, List.foldl_cons, List.foldl_cons,
      List.foldl_cons, List.foldl_cons, enact_comm _ hforms]
  · have hother : Text.identifier b.id ≠ a.form := hforms.symm
    rw [exchange_eq, exchange_eq, table?_enact, if_neg hother]

end Census.Submission
