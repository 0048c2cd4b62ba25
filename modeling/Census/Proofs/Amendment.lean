/-
What an amendment makes of a registry.

* `mem_keys_deleteAll`, `get?_upserted_takeOver`: what an amendment deletes and puts in that is made
  by deleting codes and by taking over rules of a registry;
* `Registry.rule?_amended`: a rule put in counts before a deletion, and this before the base;
* `Registry.amend_eq_ok_iff`, `Registry.amend_eq_error_iff`: which amendments are refused, and for
  which code;
* `Registry.codes_amended_perm`: the codes of the base that stay, and those that are new;
* `Registry.amended_amended`: an amendment made twice is made once;
* `Registry.Amends`, `Registry.amend_law`: all of this, for amendments that can be made.
-/
import Census.Proofs.Registry

namespace Census

/-! ### Amendments in the making -/

namespace Amendment

/-- Deleted are the trimmed codes of the list, and what was deleted before. -/
lemma mem_keys_deleteAll {a : Amendment} {codes : List String} {code : String} :
    code ∈ (a.deleteAll codes).deleted.keys ↔
      (∃ text ∈ codes, code = Text.trim text) ∨ code ∈ a.deleted.keys := by
  induction codes generalizing a with
  | nil => simp [deleteAll]
  | cons text codes ih =>
      have hstep : a.deleteAll (text :: codes) = (a.delete text).deleteAll codes := rfl
      have hfirst : code ∈ (a.delete text).deleted.keys ↔
          code = Text.trim text ∨ code ∈ a.deleted.keys := by
        rw [delete, ← Keyed.contains_iff, TextSet.contains_add, Bool.or_eq_true, beq_iff_eq,
          Keyed.contains_iff]
      rw [hstep, ih, hfirst]
      simp only [List.mem_cons, exists_eq_or_imp]
      rw [or_assoc, or_left_comm]

/-- Codes that need no trimming are deleted as they are. -/
lemma mem_keys_deleteAll_empty {codes : List String} (h : ∀ code ∈ codes, Text.trim code = code)
    {code : String} : code ∈ (empty.deleteAll codes).deleted.keys ↔ code ∈ codes := by
  rw [mem_keys_deleteAll]
  constructor
  · rintro (⟨text, htext, rfl⟩ | hempty)
    · rw [h text htext]
      exact htext
    · cases hempty
  · intro hcode
    exact Or.inl ⟨code, hcode, (h code hcode).symm⟩

lemma upserted_deleteAll (a : Amendment) (codes : List String) :
    (a.deleteAll codes).upserted = a.upserted := by
  induction codes generalizing a with
  | nil => rfl
  | cons text codes ih => exact ih (a.delete text)

lemma deleted_foldl_upsert (a : Amendment) (rules : List Rule) :
    (rules.foldl upsert a).deleted = a.deleted := by
  induction rules generalizing a with
  | nil => rfl
  | cons rule rules ih => exact ih (a.upsert rule)

/-- The rules that an amendment puts in make up a registry. -/
lemma upserted_foldl_upsert (a : Amendment) (rules : List Rule) :
    (rules.foldl upsert a).upserted = (rules.foldl Registry.put ⟨a.upserted⟩).rules := by
  induction rules generalizing a with
  | nil => rfl
  | cons rule rules ih => exact ih (a.upsert rule)

/-- Where the rules of some codes are taken over from a registry, these are put in. -/
lemma get?_upserted_takeOver {r : Registry} (h : ByCode r.rules) (a : Amendment)
    (codes : List String) (code : String) :
    ((codes.filterMap r.rule?).foldl upsert a).upserted.get? code =
      if code ∈ codes then (r.rule? code).or (a.upserted.get? code)
      else a.upserted.get? code := by
  induction codes generalizing a with
  | nil => rfl
  | cons c codes ih =>
      cases hc : r.rule? c with
      | none =>
          rw [List.filterMap_cons_none hc, ih]
          by_cases heq : code = c
          · simp [heq, hc]
          · simp [heq]
      | some rule =>
          have hcode : rule.code = c := (h c rule hc).1
          have hput : (a.upsert rule).upserted.get? code =
              if code = c then some rule else a.upserted.get? code := by
            rw [upsert, Keyed.get?_insert, hcode]
          rw [List.filterMap_cons_some hc, List.foldl_cons, ih, hput]
          by_cases heq : code = c
          · subst heq
            simp [hc]
          · simp [heq]

end Amendment

/-! ### Amended registries -/

namespace Registry

variable {base r : Registry} {a : Amendment} {policy : Policy}

lemma rules_foldl_put (rules : List Rule) (base : Registry) :
    (rules.foldl put base).rules =
      (rules.map fun rule => (rule.code, rule)).foldl (fun m e => m.insert e.1 e.2) base.rules := by
  induction rules generalizing base with
  | nil => rfl
  | cons rule rules ih => exact ih (base.put rule)

/-- Rules put in one after another, each under its own code, cover those of the base. -/
lemma rule?_foldl_put {m : Keyed Rule} (h : ByCode m) (base : Registry) (code : String) :
    (m.values.foldl put base).rule? code = (m.get? code).or (base.rule? code) := by
  have hentries : m.values.map (fun rule => (rule.code, rule)) = m.entries := by
    rw [Keyed.values, List.map_map]
    conv_rhs => rw [← List.map_id m.entries]
    refine List.map_congr_left fun e he => ?_
    exact Prod.ext (h e.1 e.2 (Keyed.mem_entries_iff.mp he)).1 rfl
  have hdistinct : m.entries.Pairwise fun e e' => e.1 ≠ e'.1 :=
    m.ascending.imp fun hlt => String.ne_of_lt hlt
  rw [rule?, rules_foldl_put, hentries, Keyed.get?_foldl_insert hdistinct]
  rfl

/-- **Amended registries**: a code has the rule that the amendment puts in; otherwise none if the
amendment deletes it, and that of the base if not. -/
theorem rule?_amended (h : ByCode a.upserted) (base : Registry) (code : String) :
    (base.amended a).rule? code =
      if a.upserts code then a.upserted.get? code
      else if code ∈ a.deleted.keys then none else base.rule? code := by
  have hamended : base.amended a = (a.upserted.values.foldl put base).without
      (a.deleted.keys.filter fun code => !a.upserts code) := rfl
  rw [hamended, rule?, rules_without, Keyed.get?_restrict]
  show (if _ then (a.upserted.values.foldl put base).rule? code else none) = _
  rw [rule?_foldl_put h]
  by_cases hput : a.upserts code = true
  · obtain ⟨rule, hrule⟩ := Option.isSome_iff_exists.mp hput
    simp [hput, hrule]
  · have hnone : a.upserted.get? code = none := by
      simpa [Amendment.upserts, Keyed.contains] using hput
    by_cases hdel : code ∈ a.deleted.keys
    · simp [hput, hdel]
    · simp [hput, hdel, hnone]

/-- An amendment is refused under the strict policy when it deletes a code that the base does not
have, and never otherwise. -/
lemma amend_eq_ok_iff :
    base.amend policy a = .ok r ↔
      r = base.amended a ∧ (policy = .lenient ∨ ∀ code ∈ a.deleted.keys, code ∈ base.codes) := by
  have habsent : base.absentDeletions a = [] ↔ ∀ code ∈ a.deleted.keys, code ∈ base.codes := by
    rw [absentDeletions, List.filter_eq_nil_iff]
    refine forall₂_congr fun code _ => ?_
    rw [Bool.not_eq_true', Bool.not_eq_false, contains, Keyed.contains_iff]
    rfl
  rw [← habsent, eq_comm (a := r)]
  cases hcodes : base.absentDeletions a with
  | nil => cases policy <;> simp [amend, hcodes]
  | cons code codes => cases policy <;> simp [amend, hcodes]

lemma mem_absentDeletions {code : String} :
    code ∈ base.absentDeletions a ↔ code ∈ a.deleted.keys ∧ code ∉ base.codes := by
  rw [absentDeletions, List.mem_filter, Bool.not_eq_true', Bool.eq_false_iff, ne_eq, contains,
    Keyed.contains_iff]
  rfl

/-- The strict policy refuses an amendment for the least of the deleted codes that the base does not
have, be it put in again or not. -/
lemma amend_eq_error_iff {e : RegistryError} :
    base.amend policy a = .error e ↔ policy = .strict ∧ ∃ code, e = .absentDeletion code ∧
      code ∈ a.deleted.keys ∧ code ∉ base.codes ∧
      ∀ other ∈ a.deleted.keys, other ∉ base.codes → code ≤ other := by
  have hascend : (base.absentDeletions a).Pairwise (· < ·) := a.deleted.pairwise_keys.filter _
  cases hcodes : base.absentDeletions a with
  | nil =>
      have hnone : ∀ code, ¬(code ∈ a.deleted.keys ∧ code ∉ base.codes) := by
        intro code hcode
        have hmem := mem_absentDeletions.mpr hcode
        rw [hcodes] at hmem
        cases hmem
      constructor
      · intro h
        cases policy <;> simp [amend, hcodes] at h
      · rintro ⟨-, code, -, hdel, habsent, -⟩
        exact (hnone code ⟨hdel, habsent⟩).elim
  | cons first rest =>
      have hfirst : first ∈ a.deleted.keys ∧ first ∉ base.codes :=
        mem_absentDeletions.mp (hcodes ▸ List.mem_cons_self)
      have hleast : ∀ other ∈ a.deleted.keys, other ∉ base.codes → first ≤ other := by
        intro other hdel habsent
        have hmem := mem_absentDeletions.mpr ⟨hdel, habsent⟩
        rw [hcodes] at hmem hascend
        rcases List.mem_cons.mp hmem with rfl | hrest
        · exact String.le_refl _
        · exact String.not_lt.mp
            (String.lt_asymm ((List.pairwise_cons.mp hascend).1 other hrest))
      constructor
      · intro h
        cases policy with
        | lenient => simp [amend] at h
        | strict =>
            simp only [amend, hcodes, Except.error.injEq] at h
            exact ⟨rfl, first, h.symm, hfirst.1, hfirst.2, hleast⟩
      · rintro ⟨rfl, code, rfl, hdel, habsent, hcode⟩
        have heq : code = first := String.le_antisymm (hcode first hfirst.1 hfirst.2)
          (hleast code hdel habsent)
        simp only [amend, hcodes, heq]

/-! ### Codes of amended registries -/

lemma mem_codes_amended (h : ByCode a.upserted) {code : String} :
    code ∈ (base.amended a).codes ↔
      code ∈ a.upserted.keys ∨ code ∈ base.codes ∧ code ∉ a.deleted.keys := by
  have hput : a.upserts code = true ↔ code ∈ a.upserted.keys := Keyed.contains_iff
  have hlaw : (base.amended a).rules.get? code = _ := rule?_amended h base code
  rw [codes, Keyed.mem_keys_iff, hlaw, if_congr hput rfl rfl]
  by_cases hu : code ∈ a.upserted.keys
  · rw [if_pos hu, ← Keyed.mem_keys_iff]
    exact ⟨Or.inl, fun _ => hu⟩
  · rw [if_neg hu, or_iff_right hu]
    by_cases hd : code ∈ a.deleted.keys
    · simp [hd]
    · rw [if_neg hd, rule?, ← Keyed.mem_keys_iff]
      exact ⟨fun hbase => ⟨hbase, hd⟩, And.left⟩

/-- The codes of an amended registry: those of the base that are not deleted or are put in again,
and those put in that the base does not have. -/
lemma codes_amended_perm (h : ByCode a.upserted) (base : Registry) :
    (base.amended a).codes.Perm
      ((base.codes.filter fun code => ¬(code ∈ a.deleted.keys ∧ code ∉ a.upserted.keys)) ++
        a.upserted.keys.filter fun code => code ∉ base.codes) := by
  have hdisjoint : List.Disjoint
      (base.codes.filter fun code => ¬(code ∈ a.deleted.keys ∧ code ∉ a.upserted.keys))
      (a.upserted.keys.filter fun code => code ∉ base.codes) := by
    intro code hold hnew
    exact (of_decide_eq_true (List.mem_filter.mp hnew).2) (List.mem_filter.mp hold).1
  have hnodup := List.nodup_append'.mpr
    ⟨base.rules.nodup_keys.filter _, a.upserted.nodup_keys.filter _, hdisjoint⟩
  refine (List.perm_ext_iff_of_nodup (Keyed.nodup_keys _) hnodup).mpr fun code => ?_
  refine (mem_codes_amended h).trans ?_
  rw [List.mem_append, List.mem_filter, List.mem_filter, decide_eq_true_iff, decide_eq_true_iff]
  show _ ↔ code ∈ base.codes ∧ _ ∨ _
  tauto

/-- An amendment made twice is made once. -/
lemma amended_amended (h : ByCode a.upserted) (base : Registry) :
    (base.amended a).amended a = base.amended a := by
  have hrules : ((base.amended a).amended a).rules = (base.amended a).rules := by
    apply Keyed.ext_get?
    intro code
    have hagain := rule?_amended h (base.amended a) code
    have honce := rule?_amended h base code
    rw [rule?] at hagain honce
    rw [hagain, rule?, honce]
    split_ifs <;> rfl
  exact congrArg Registry.mk hrules

lemma amended_empty (base : Registry) : base.amended .empty = base := rfl

/-! ### The law of amendments -/

/-- What a registry is that an amendment has made of a base. -/
structure Amends (base : Registry) (a : Amendment) (r : Registry) : Prop where
  /-- A code has the rule that is put in, otherwise none if it is deleted, and that of the base if
  not. -/
  rules : ∀ code, r.rule? code =
    if code ∈ a.upserted.keys then a.upserted.get? code
    else if code ∈ a.deleted.keys then none
    else base.rule? code
  /-- The codes of the base that stay are counted, and those put in that the base does not have. -/
  size : r.size =
    (base.codes.filter fun code => ¬(code ∈ a.deleted.keys ∧ code ∉ a.upserted.keys)).length +
      (a.upserted.keys.filter fun code => code ∉ base.codes).length
  /-- Made once more, where absent codes are passed over, the amendment changes nothing. -/
  again : r.amend .lenient a = .ok r

lemma amends_amended (h : ByCode a.upserted) (base : Registry) :
    base.Amends a (base.amended a) where
  rules := by
    intro code
    rw [rule?_amended h]
    exact if_congr Keyed.contains_iff rfl rfl
  size := by
    have hsize : (base.amended a).size = (base.amended a).codes.length :=
      (List.length_map _).symm
    rw [hsize, (codes_amended_perm h base).length_eq, List.length_append]
  again := amend_eq_ok_iff.mpr ⟨(amended_amended h base).symm, Or.inl rfl⟩

/-- **The law of amendments.**  An amendment that can be made is accepted exactly when absent codes
are passed over or every deleted code is in the base.  It is refused for the least deleted code that
the base does not have.  An accepted one gives what is put in, and of the base what is not deleted;
and the amendment that changes nothing gives the base. -/
theorem amend_law {a : Amendment} (h : a.Built) (policy : Policy) (base : Registry) :
    ((∃ r, base.amend policy a = .ok r) ↔
      policy = .lenient ∨ ∀ code ∈ a.deleted.keys, code ∈ base.codes) ∧
    (∀ e, base.amend policy a = .error e → ∃ code, e = .absentDeletion code ∧
      code ∈ a.deleted.keys ∧ code ∉ base.codes ∧
      ∀ other ∈ a.deleted.keys, other ∉ base.codes → code ≤ other) ∧
    (∀ r, base.amend policy a = .ok r → base.Amends a r) ∧
    base.amend policy .empty = .ok base := by
  refine ⟨⟨?_, fun hpolicy => ⟨_, amend_eq_ok_iff.mpr ⟨rfl, hpolicy⟩⟩⟩,
    fun e he => (amend_eq_error_iff.mp he).2, ?_, ?_⟩
  · rintro ⟨r, hr⟩
    exact (amend_eq_ok_iff.mp hr).2
  · intro r hr
    obtain ⟨rfl, -⟩ := amend_eq_ok_iff.mp hr
    exact amends_amended h.byCode base
  · exact amend_eq_ok_iff.mpr ⟨(amended_empty base).symm, Or.inr fun code hcode => by cases hcode⟩

/-- Replaces a rule and deletes one, and deletes two codes that are absent from the small registry;
a rule of the lesser of these is put in. -/
def shuffling : Amendment :=
  ((Amendment.empty.deleteAll ["D", "C", "B", "A"]).upsert
    (recordsFirst "A" (.crashed none))).upsert (recordsFirst "C" .finished)

lemma shuffling_built : shuffling.Built :=
  ((((((Amendment.Built.empty.delete "D").delete "C").delete "B").delete "A").upsert
    (recordsFirst_drafted (by decide) (by decide) _)).upsert
    (recordsFirst_drafted (by decide) (by decide) _))

/-- The strict policy names the absent code that is put in; the lenient one gives two rules. -/
theorem amend_law_shuffling :
    shuffling.Built ∧
    mixedRegistry.amend .strict shuffling = .error (.absentDeletion "C") ∧
    ∃ r, mixedRegistry.amend .lenient shuffling = .ok r ∧ r.size = 2 ∧ r.rule? "B" = none ∧
      r.rule? "A" = some (recordsFirst "A" (.crashed none)) ∧
      r.amend .lenient shuffling = .ok r := by
  obtain ⟨haccepted, hrefused, -, -⟩ := amend_law shuffling_built .strict mixedRegistry
  obtain ⟨hlenient, -, hamends, -⟩ := amend_law shuffling_built .lenient mixedRegistry
  obtain ⟨r, hr⟩ := hlenient.mpr (Or.inl rfl)
  have h := hamends r hr
  refine ⟨shuffling_built, ?_, r, hr, ?_, ?_, ?_, h.again⟩
  · cases hstrict : mixedRegistry.amend .strict shuffling with
    | ok r' =>
        have hin := (haccepted.mp ⟨r', hstrict⟩).resolve_left (by decide) "C" (by decide)
        exact absurd hin (by decide)
    | error e =>
        obtain ⟨code, rfl, hdel, habsent, hleast⟩ := hrefused e hstrict
        have hle : code ≤ "C" := hleast "C" (by decide) (by decide)
        have hcases : code = "A" ∨ code = "B" ∨ code = "C" ∨ code = "D" := by
          simpa using (show code ∈ ["A", "B", "C", "D"] from hdel)
        rcases hcases with rfl | rfl | rfl | rfl
        · exact absurd (by decide) habsent
        · exact absurd (by decide) habsent
        · rfl
        · exact absurd hle (by decide)
  · rw [h.size]
    decide
  · rw [h.rules]
    rfl
  · rw [h.rules]
    rfl

end Registry

end Census
