/-
The changes between two registries as an amendment.

* `Rule.same_iff`, `Keyed.eqBy_iff`, `Registry.same_iff`: when rules and registries count as the
  same;
* `mem_added_iff`, `mem_removed_iff`, `mem_modified_iff`: what changed, by look-ups;
* `pairwise_added`, `pairwise_removed`, `pairwise_modified`: the lists of changes ascend;
* `isEmpty_changesTo_iff`, `changesTo_swap`: no changes, and changes the other way round;
* `Registry.amendmentTo`: the amendment that the changes make;
* `changes_complete`: it leads from the older registry to the newer one;
* `amend_changes`: the changes that an amendment makes are those that it says.
-/
import Census.Changes
import Census.Proofs.Amendment
import Census.Proofs.Distinct

namespace Census

/-! ### The same rules and registries -/

namespace Rule

/-- Rules are the same when all that they say of themselves agrees and the check is the same. -/
lemma same_iff {a b : Rule} :
    a.same b = true ↔ a.code = b.code ∧ a.table = b.table ∧ a.message = b.message ∧
      a.fields = b.fields ∧ a.severity = b.severity ∧ a.check.identity = b.check.identity := by
  simp only [same, sameDescription, Bool.and_eq_true, beq_iff_eq, and_assoc]

lemma same_refl (a : Rule) : a.same a = true :=
  same_iff.mpr ⟨rfl, rfl, rfl, rfl, rfl, rfl⟩

lemma same_comm (a b : Rule) : a.same b = b.same a := by
  rw [Bool.eq_iff_iff, same_iff, same_iff]
  constructor <;> rintro ⟨h1, h2, h3, h4, h5, h6⟩ <;>
    exact ⟨h1.symm, h2.symm, h3.symm, h4.symm, h5.symm, h6.symm⟩

end Rule

namespace Keyed

variable {α : Type}

/-- Maps agree when they have the same keys and these have values that count as equal. -/
lemma eqBy_iff {same : α → α → Bool} {m n : Keyed α} :
    m.eqBy same n = true ↔ m.keys = n.keys ∧
      ∀ k a b, m.get? k = some a → n.get? k = some b → same a b = true := by
  have key : ∀ es fs : List (String × α), es.Pairwise (fun a b => a.1 < b.1) →
      es.map (·.1) = fs.map (·.1) →
      (((es.map (·.2)).zip (fs.map (·.2))).all (fun p => same p.1 p.2) = true ↔
        ∀ k a b, (k, a) ∈ es → (k, b) ∈ fs → same a b = true) := by
    intro es
    induction es with
    | nil => intro fs _ _; simp
    | cons e es ih =>
        intro fs hes hkeys
        cases fs with
        | nil => exact absurd hkeys (by simp)
        | cons f fs =>
            obtain ⟨he, hes'⟩ := List.pairwise_cons.mp hes
            obtain ⟨k, a⟩ := e
            obtain ⟨k', b⟩ := f
            obtain ⟨rfl, hkeys'⟩ : k = k' ∧ es.map (·.1) = fs.map (·.1) := by
              simpa using hkeys
            -- no other entry has the first key
            have hfresh : k ∉ es.map (·.1) := by
              intro hk
              obtain ⟨e, hmem, hcode⟩ := List.mem_map.mp hk
              have hlt : k < e.1 := he e hmem
              exact String.lt_irrefl k (hcode ▸ hlt)
            rw [List.map_cons, List.map_cons, List.zip_cons_cons, List.all_cons,
              Bool.and_eq_true, ih fs hes' hkeys']
            constructor
            · rintro ⟨hfirst, hrest⟩ j x y hx hy
              rcases List.mem_cons.mp hx with hx | hx
              · cases hx
                rcases List.mem_cons.mp hy with hy | hy
                · cases hy
                  exact hfirst
                · exact absurd (List.mem_map_of_mem (f := (·.1)) hy) (hkeys' ▸ hfresh)
              · rcases List.mem_cons.mp hy with hy | hy
                · cases hy
                  exact absurd (List.mem_map_of_mem (f := (·.1)) hx) hfresh
                · exact hrest j x y hx hy
            · intro hall
              exact ⟨hall k a b List.mem_cons_self List.mem_cons_self, fun j x y hx hy =>
                hall j x y (List.mem_cons_of_mem _ hx) (List.mem_cons_of_mem _ hy)⟩
  rw [eqBy, Bool.and_eq_true, beq_iff_eq]
  refine and_congr_right fun hkeys => ?_
  refine (key m.entries n.entries m.ascending hkeys).trans ?_
  simp only [mem_entries_iff]

end Keyed

namespace Registry

variable {a b older newer : Registry}

/-- Registries are the same when they have the same codes, and the same rules under them. -/
lemma same_iff :
    a.same b = true ↔ a.codes = b.codes ∧
      ∀ code x y, a.rule? code = some x → b.rule? code = some y → x.same y = true :=
  Keyed.eqBy_iff

/-! ### What changed -/

/-- A code has a rule exactly when it is among the codes. -/
lemma rule?_eq_none_iff {code : String} : a.rule? code = none ↔ code ∉ a.codes :=
  Keyed.get?_eq_none_iff

lemma not_contains_iff {code : String} : (!a.contains code) = true ↔ code ∉ a.codes := by
  rw [Bool.not_eq_true', Bool.eq_false_iff, ne_eq, contains, Keyed.contains_iff]
  rfl

/-- The codes of the rules of a registry are its codes. -/
lemma map_code_toList (h : ByCode a.rules) : a.toList.map Rule.code = a.codes :=
  h.map_code_values

/-- Added are the codes that only the newer registry has. -/
lemma mem_added_iff (hn : ByCode newer.rules) {code : String} :
    code ∈ (older.changesTo newer).added ↔ code ∈ newer.codes ∧ code ∉ older.codes := by
  have hadded : (older.changesTo newer).added =
      (newer.toList.map Rule.code).filter fun code => !older.contains code := rfl
  rw [hadded, map_code_toList hn, List.mem_filter, not_contains_iff]

/-- Removed are the codes that only the older registry has. -/
lemma mem_removed_iff {code : String} :
    code ∈ (older.changesTo newer).removed ↔ code ∈ older.codes ∧ code ∉ newer.codes := by
  have hremoved : (older.changesTo newer).removed =
      older.codes.filter fun code => !newer.contains code := rfl
  rw [hremoved, List.mem_filter, not_contains_iff]

/-- Modified are the codes whose rules are not the same. -/
lemma mem_modified_iff (hn : ByCode newer.rules) {code : String} :
    code ∈ (older.changesTo newer).modified ↔
      ∃ x y, older.rule? code = some x ∧ newer.rule? code = some y ∧ x.same y = false := by
  have hmodified : (older.changesTo newer).modified =
      (newer.toList.filter older.modifies).map Rule.code := rfl
  rw [hmodified, List.mem_map]
  constructor
  · rintro ⟨y, hy, rfl⟩
    obtain ⟨hmem, hmod⟩ := List.mem_filter.mp hy
    obtain ⟨e, he, rfl⟩ := List.mem_map.mp hmem
    have hget : newer.rule? e.1 = some e.2 := Keyed.mem_entries_iff.mp he
    have hcode : e.2.code = e.1 := (hn _ _ hget).1
    rw [modifies] at hmod
    split at hmod
    · next x hx => exact ⟨x, e.2, hx, hcode ▸ hget, by simpa using hmod⟩
    · exact absurd hmod (by simp)
  · rintro ⟨x, y, hx, hy, hdiff⟩
    have hcode : y.code = code := (hn _ _ hy).1
    refine ⟨y, List.mem_filter.mpr ⟨?_, ?_⟩, hcode⟩
    · exact List.mem_map.mpr ⟨(code, y), Keyed.mem_entries_iff.mpr hy, rfl⟩
    · rw [modifies, hcode, hx]
      simp [hdiff]

/-- A code that has rules in both registries is modified unless they are the same. -/
lemma same_of_not_mem_modified (hn : ByCode newer.rules) {code : String} {x y : Rule}
    (hx : older.rule? code = some x) (hy : newer.rule? code = some y)
    (h : code ∉ (older.changesTo newer).modified) : x.same y = true := by
  by_contra hdiff
  exact h ((mem_modified_iff hn).mpr ⟨x, y, hx, hy, Bool.eq_false_iff.mpr hdiff⟩)

lemma pairwise_added (hn : ByCode newer.rules) :
    (older.changesTo newer).added.Pairwise (· < ·) := by
  have hcodes : (newer.toList.map Rule.code).Pairwise (· < ·) :=
    map_code_toList hn ▸ newer.rules.pairwise_keys
  exact hcodes.sublist List.filter_sublist

lemma pairwise_removed : (older.changesTo newer).removed.Pairwise (· < ·) :=
  older.rules.pairwise_keys.sublist List.filter_sublist

lemma pairwise_modified (hn : ByCode newer.rules) :
    (older.changesTo newer).modified.Pairwise (· < ·) := by
  have hcodes : (newer.toList.map Rule.code).Pairwise (· < ·) :=
    map_code_toList hn ▸ newer.rules.pairwise_keys
  exact hcodes.sublist (List.filter_sublist.map _)

/-! ### No changes, and changes the other way round -/

/-- **No changes**: there are none exactly when the registries are the same. -/
theorem isEmpty_changesTo_iff (hn : ByCode newer.rules) :
    (older.changesTo newer).isEmpty = true ↔ older.same newer = true := by
  simp only [Changes.isEmpty, Bool.and_eq_true, List.isEmpty_iff, and_assoc]
  simp only [List.eq_nil_iff_forall_not_mem]
  rw [same_iff]
  constructor
  · rintro ⟨hadded, hremoved, hmodified⟩
    refine ⟨?_, fun code x y hx hy => same_of_not_mem_modified hn hx hy (hmodified code)⟩
    refine Keyed.eq_of_mem_iff_keys older.rules.pairwise_keys newer.rules.pairwise_keys
      fun code => ⟨fun h => ?_, fun h => ?_⟩
    · by_contra hnot
      exact hremoved code (mem_removed_iff.mpr ⟨h, hnot⟩)
    · by_contra hnot
      exact hadded code ((mem_added_iff hn).mpr ⟨h, hnot⟩)
  · rintro ⟨hcodes, hsame⟩
    refine ⟨fun code h => ?_, fun code h => ?_, fun code h => ?_⟩
    · obtain ⟨hnew, hold⟩ := (mem_added_iff hn).mp h
      exact hold (hcodes ▸ hnew)
    · obtain ⟨hold, hnew⟩ := mem_removed_iff.mp h
      exact hnew (hcodes ▸ hold)
    · obtain ⟨x, y, hx, hy, hdiff⟩ := (mem_modified_iff hn).mp h
      rw [hsame code x y hx hy] at hdiff
      cases hdiff

/-- **Changes the other way round**: what was added is removed, what was removed is added, and the
same codes are modified. -/
theorem changesTo_swap (ho : ByCode older.rules) (hn : ByCode newer.rules) :
    newer.changesTo older =
      ⟨(older.changesTo newer).removed, (older.changesTo newer).added,
        (older.changesTo newer).modified⟩ := by
  have hadded : (newer.changesTo older).added = (older.changesTo newer).removed :=
    Keyed.eq_of_mem_iff_keys (pairwise_added ho) pairwise_removed fun code => by
      rw [mem_added_iff ho, mem_removed_iff]
  have hremoved : (newer.changesTo older).removed = (older.changesTo newer).added :=
    Keyed.eq_of_mem_iff_keys pairwise_removed (pairwise_added hn) fun code => by
      rw [mem_added_iff hn, mem_removed_iff]
  have hmodified : (newer.changesTo older).modified = (older.changesTo newer).modified := by
    refine Keyed.eq_of_mem_iff_keys (pairwise_modified ho) (pairwise_modified hn) fun code => ?_
    rw [mem_modified_iff ho, mem_modified_iff hn]
    constructor
    · rintro ⟨x, y, hx, hy, hdiff⟩
      exact ⟨y, x, hy, hx, by rw [Rule.same_comm, hdiff]⟩
    · rintro ⟨x, y, hx, hy, hdiff⟩
      exact ⟨y, x, hy, hx, by rw [Rule.same_comm, hdiff]⟩
  rw [← hadded, ← hremoved, ← hmodified]

/-! ### The amendment of changes -/

/-- The amendment from an older registry to a newer one: it deletes what was removed, and puts in
what was added or modified as the newer registry has it. -/
def amendmentTo (older newer : Registry) : Amendment :=
  let changes := older.changesTo newer
  ((changes.added ++ changes.modified).filterMap newer.rule?).foldl Amendment.upsert
    (Amendment.empty.deleteAll changes.removed)

/-- The amendment deletes what was removed. -/
lemma deleted_amendmentTo (ho : ByCode older.rules) :
    (older.amendmentTo newer).deleted.keys = (older.changesTo newer).removed := by
  refine Keyed.eq_of_mem_iff_keys (Keyed.pairwise_keys _) pairwise_removed fun code => ?_
  rw [amendmentTo, Amendment.deleted_foldl_upsert]
  refine Amendment.mem_keys_deleteAll_empty fun code hcode => ?_
  -- the codes of a registry are trimmed already
  obtain ⟨rule, hrule⟩ := Keyed.mem_keys_iff.mp (mem_removed_iff.mp hcode).1
  obtain ⟨rfl, hdrafted⟩ := ho _ _ hrule
  exact hdrafted.trim_code

/-- The amendment puts in what was added or modified. -/
lemma upserted_amendmentTo (hn : ByCode newer.rules) (code : String) :
    (older.amendmentTo newer).upserted.get? code =
      if code ∈ (older.changesTo newer).added ∨ code ∈ (older.changesTo newer).modified
      then newer.rule? code else none := by
  have hempty : (Amendment.empty.deleteAll (older.changesTo newer).removed).upserted.get? code =
      none := by
    rw [Amendment.upserted_deleteAll]
    rfl
  rw [amendmentTo, Amendment.get?_upserted_takeOver hn, hempty, Option.or_none]
  simp only [List.mem_append]

/-- The amendment is made of rules of the newer registry. -/
lemma byCode_amendmentTo (hn : ByCode newer.rules) :
    ByCode (older.amendmentTo newer).upserted := by
  intro code rule hget
  rw [upserted_amendmentTo hn] at hget
  split at hget
  · exact hn code rule hget
  · cases hget

/-- What the amendment makes of the older registry has the rules of the newer one where something
changed, and those of the older one elsewhere. -/
lemma rule?_amended_amendmentTo (ho : ByCode older.rules) (hn : ByCode newer.rules)
    (code : String) :
    (older.amended (older.amendmentTo newer)).rule? code =
      if code ∈ (older.changesTo newer).added ∨ code ∈ (older.changesTo newer).modified
      then newer.rule? code
      else if code ∈ (older.changesTo newer).removed then none else older.rule? code := by
  rw [rule?_amended (byCode_amendmentTo hn), deleted_amendmentTo ho, Amendment.upserts,
    Keyed.contains, upserted_amendmentTo hn]
  by_cases hchanged : code ∈ (older.changesTo newer).added ∨
      code ∈ (older.changesTo newer).modified
  · have hcode : ∃ rule, newer.rule? code = some rule := by
      rcases hchanged with hadded | hmodified
      · exact Keyed.mem_keys_iff.mp ((mem_added_iff hn).mp hadded).1
      · obtain ⟨-, y, -, hy, -⟩ := (mem_modified_iff hn).mp hmodified
        exact ⟨y, hy⟩
    obtain ⟨rule, hrule⟩ := hcode
    simp [hchanged, hrule]
  · simp [hchanged]

/-- What the amendment makes of the older registry is the newer one. -/
lemma same_amended_amendmentTo (ho : ByCode older.rules) (hn : ByCode newer.rules) :
    (older.amended (older.amendmentTo newer)).same newer = true := by
  have hlook := rule?_amended_amendmentTo ho hn
  refine same_iff.mpr ⟨?_, fun code x y hx hy => ?_⟩
  · refine Keyed.eq_of_mem_iff_keys (Keyed.pairwise_keys _) newer.rules.pairwise_keys
      fun code => not_iff_not.mp ?_
    rw [← rule?_eq_none_iff]
    show _ ↔ code ∉ newer.codes
    rw [← rule?_eq_none_iff, hlook]
    split
    · exact Iff.rfl
    · next hsame =>
      have hadded : code ∉ (older.changesTo newer).added := fun h => hsame (Or.inl h)
      rw [mem_added_iff hn, not_and_not_right] at hadded
      split
      · next hremoved =>
        exact iff_of_true rfl (rule?_eq_none_iff.mpr (mem_removed_iff.mp hremoved).2)
      · next hkept =>
        rw [mem_removed_iff, not_and_not_right] at hkept
        rw [rule?_eq_none_iff, rule?_eq_none_iff]
        exact not_congr ⟨hkept, hadded⟩
  · rw [hlook] at hx
    split at hx
    · rw [hy] at hx
      cases hx
      exact Rule.same_refl x
    · next hsame =>
      split at hx
      · cases hx
      · exact same_of_not_mem_modified hn hx hy fun h => hsame (Or.inr h)

/-- **Changes are complete.**  The amendment of the changes from one registry to another deletes
what was removed and puts in what was added or modified; the strict policy does not refuse it, and
it makes of the older registry the newer one, down to the identity of each check.  There are no
changes exactly when the registries are the same.  The three lists ascend and have no code in
common.  From the newer registry back to the older one what was added is removed, what was removed
is added, and the same codes are modified. -/
theorem changes_complete (ho : older.Built) (hn : newer.Built) :
    let changes := older.changesTo newer
    let a := older.amendmentTo newer
    (a.deleted.keys = changes.removed ∧
      ∀ code, a.upserted.get? code =
        if code ∈ changes.added ∨ code ∈ changes.modified then newer.rule? code else none) ∧
    (∃ r, older.amend .strict a = .ok r ∧ r.same newer = true) ∧
    (changes.isEmpty = true ↔ older.same newer = true) ∧
    (changes.added.Pairwise (· < ·) ∧ changes.removed.Pairwise (· < ·) ∧
      changes.modified.Pairwise (· < ·)) ∧
    (changes.added.Disjoint changes.removed ∧ changes.added.Disjoint changes.modified ∧
      changes.removed.Disjoint changes.modified) ∧
    newer.changesTo older = ⟨changes.removed, changes.added, changes.modified⟩ := by
  intro changes a
  have hold := ho.byCode
  have hnew := hn.byCode
  have hdeleted : a.deleted.keys = changes.removed := deleted_amendmentTo hold
  have hok : older.amend .strict a = .ok (older.amended a) := by
    refine amend_eq_ok_iff.mpr ⟨rfl, Or.inr fun code hcode => ?_⟩
    rw [hdeleted] at hcode
    exact (mem_removed_iff.mp hcode).1
  refine ⟨⟨hdeleted, upserted_amendmentTo hnew⟩, ⟨_, hok, same_amended_amendmentTo hold hnew⟩,
    isEmpty_changesTo_iff hnew,
    ⟨pairwise_added hnew, pairwise_removed, pairwise_modified hnew⟩, ⟨?_, ?_, ?_⟩,
    changesTo_swap hold hnew⟩
  · intro code hadded hremoved
    exact ((mem_added_iff hnew).mp hadded).2 (mem_removed_iff.mp hremoved).1
  · intro code hadded hmodified
    obtain ⟨x, -, hx, -, -⟩ := (mem_modified_iff hnew).mp hmodified
    exact ((mem_added_iff hnew).mp hadded).2 (Keyed.mem_keys_iff.mpr ⟨x, hx⟩)
  · intro code hremoved hmodified
    obtain ⟨-, y, -, hy, -⟩ := (mem_modified_iff hnew).mp hmodified
    exact (mem_removed_iff.mp hremoved).2 (Keyed.mem_keys_iff.mpr ⟨y, hy⟩)

/-- The same rule with a check of another identity. -/
def rechecked : Rule :=
  { recordsFirst "A" .finished with check := ⟨1, (recordsFirst "A" .finished).check.body⟩ }

lemma rechecked_drafted : rechecked.Drafted := by
  refine ⟨⟨"A", "learners", "", ["id"], .error, some rechecked.check⟩, 0, ?_⟩
  have htrim : Text.trim "A" = "A" := by decide
  simp only [Draft.rule, htrim]
  rfl

/-- A registry that differs in a rule added, in one removed and in one that says the same of itself
but has another check. -/
def recheckedRegistry : Registry :=
  (Registry.empty.put rechecked).put (recordsFirst "C" .finished)

lemma recheckedRegistry_built : recheckedRegistry.Built :=
  (Built.empty.put rechecked_drafted).put (recordsFirst_drafted (by decide) (by decide) _)

/-- A rule added, one removed, and one whose check alone has changed. -/
theorem changes_complete_rechecked :
    let changes := mixedRegistry.changesTo recheckedRegistry
    mixedRegistry.Built ∧ recheckedRegistry.Built ∧
    changes = ⟨["C"], ["B"], ["A"]⟩ ∧
    (∃ r, mixedRegistry.amend .strict (mixedRegistry.amendmentTo recheckedRegistry) = .ok r ∧
      r.same recheckedRegistry = true) ∧
    changes.isEmpty = false ∧
    recheckedRegistry.changesTo mixedRegistry = ⟨["B"], ["C"], ["A"]⟩ := by
  intro changes
  have hchanges : changes = ⟨["C"], ["B"], ["A"]⟩ := by decide
  obtain ⟨-, hamend, -, -, -, hswap⟩ :=
    changes_complete mixedRegistry_built recheckedRegistry_built
  refine ⟨mixedRegistry_built, recheckedRegistry_built, hchanges, hamend, ?_, ?_⟩
  · rw [hchanges]
    rfl
  · rw [hswap]
    show Changes.mk changes.removed changes.added changes.modified = _
    rw [hchanges]

/-! ### The changes of an amendment -/

variable {base r : Registry} {a : Amendment} {policy : Policy}

/-- What an amendment makes of a registry has its rules under their own codes. -/
lemma Built.byCode_amended (hb : base.Built) (ha : a.Built) : ByCode (base.amended a).rules := by
  have hamend : base.amend .lenient a = .ok (base.amended a) :=
    amend_eq_ok_iff.mpr ⟨rfl, Or.inl rfl⟩
  exact (Built.amend hb ha hamend).byCode

/-- Rules differ in what they say of themselves or in the check. -/
lemma same_eq_false_iff {old new : Rule} :
    old.same new = false ↔
      old.sameDescription new = false ∨ old.check.identity ≠ new.check.identity := by
  rw [Rule.same, Bool.and_eq_false_iff, beq_eq_false_iff_ne]

/-- Of the codes in both registries those are modified under which a rule is put in that is not the
same as the one in the base. -/
lemma mem_modified_amended_iff (hb : base.Built) (ha : a.Built) {code : String} :
    code ∈ (base.changesTo (base.amended a)).modified ↔
      ∃ old new, base.rule? code = some old ∧ a.upserted.get? code = some new ∧
        old.same new = false := by
  rw [mem_modified_iff (hb.byCode_amended ha), rule?_amended ha.byCode]
  by_cases hput : a.upserts code = true
  · simp only [if_pos hput]
  · have hnone : a.upserted.get? code = none := by
      simpa [Amendment.upserts, Keyed.contains] using hput
    rw [if_neg hput, hnone]
    constructor
    · rintro ⟨old, new, hold, hnew, hdiff⟩
      -- what is not put in is the rule of the base, if there is any
      split at hnew
      · cases hnew
      · rw [hold] at hnew
        cases hnew
        rw [Rule.same_refl] at hdiff
        cases hdiff
    · rintro ⟨old, new, -, hnew, -⟩
      cases hnew

/-- **The changes of an amendment.**  From a base to what an amendment makes of it, added are the
codes put in that the base does not have, removed the codes deleted that the base has and that are
not put in, and modified the codes of the base for which a rule is put in that differs from the
base's in what it says of itself or in its check.  Each list ascends. -/
theorem amend_changes (hb : base.Built) (ha : a.Built) (h : base.amend policy a = .ok r) :
    Enumerates (base.changesTo r).added
      (fun code => code ∈ a.upserted.keys ∧ code ∉ base.codes) ∧
    Enumerates (base.changesTo r).removed
      (fun code => code ∈ a.deleted.keys ∧ code ∈ base.codes ∧ code ∉ a.upserted.keys) ∧
    Enumerates (base.changesTo r).modified
      (fun code => ∃ old new, base.rule? code = some old ∧ a.upserted.get? code = some new ∧
        (old.sameDescription new = false ∨ old.check.identity ≠ new.check.identity)) := by
  obtain ⟨rfl, -⟩ := amend_eq_ok_iff.mp h
  have hr := hb.byCode_amended ha
  refine ⟨⟨pairwise_added hr, fun code => ?_⟩, ⟨pairwise_removed, fun code => ?_⟩,
    ⟨pairwise_modified hr, fun code => ?_⟩⟩
  · rw [mem_added_iff hr, mem_codes_amended ha.byCode]
    tauto
  · rw [mem_removed_iff, mem_codes_amended ha.byCode]
    tauto
  · rw [mem_modified_amended_iff hb ha]
    simp only [same_eq_false_iff]

/-- The small registry with one rule more. -/
def threefoldRegistry : Registry :=
  mixedRegistry.put (recordsFirst "C" .finished)

lemma threefoldRegistry_built : threefoldRegistry.Built :=
  mixedRegistry_built.put (recordsFirst_drafted (by decide) (by decide) _)

/-- Replaces a rule that it deletes as well, deletes one rule and a code that is absent, puts in a
rule as it is, and one of a new code. -/
def retouching : Amendment :=
  (((Amendment.empty.deleteAll ["A", "C", "E"]).upsert rechecked).upsert
    (recordsFirst "B" (.crashed none))).upsert (recordsFirst "D" .finished)

lemma retouching_built : retouching.Built :=
  (((((Amendment.Built.empty.delete "A").delete "C").delete "E").upsert rechecked_drafted).upsert
    (recordsFirst_drafted (by decide) (by decide) _)).upsert
    (recordsFirst_drafted (by decide) (by decide) _)

/-- Added is the new code, removed the one that is deleted only, modified the one whose rule is
replaced; the rule that is put in as it is does not show. -/
theorem amend_changes_retouching :
    threefoldRegistry.Built ∧ retouching.Built ∧
    threefoldRegistry.amend .lenient retouching = .ok (threefoldRegistry.amended retouching) ∧
    Enumerates ["D"] (fun code => code ∈ retouching.upserted.keys ∧
      code ∉ threefoldRegistry.codes) ∧
    Enumerates ["C"] (fun code => code ∈ retouching.deleted.keys ∧
      code ∈ threefoldRegistry.codes ∧ code ∉ retouching.upserted.keys) ∧
    Enumerates ["A"] (fun code => ∃ old new, threefoldRegistry.rule? code = some old ∧
      retouching.upserted.get? code = some new ∧
      (old.sameDescription new = false ∨ old.check.identity ≠ new.check.identity)) := by
  have hok : threefoldRegistry.amend .lenient retouching =
      .ok (threefoldRegistry.amended retouching) := amend_eq_ok_iff.mpr ⟨rfl, Or.inl rfl⟩
  have hchanges : threefoldRegistry.changesTo (threefoldRegistry.amended retouching) =
      ⟨["D"], ["C"], ["A"]⟩ := by decide
  have h := amend_changes threefoldRegistry_built retouching_built hok
  rw [hchanges] at h
  exact ⟨threefoldRegistry_built, retouching_built, hok, h⟩

end Registry

end Census
