/-
Registries that can be made.

* `Rule.Drafted`: a rule that some draft gives, whose code is trimmed and not blank;
* `Amendment.Built`, `Registry.Built`: what the operations make of such rules;
* `ByCode`: every rule of a map stands under its own code, kept by insertion, erasure and amendment;
* `Registry.Built.byCode`: every registry that can be made keeps its rules by code;
* `rule?_foldl_put_of_mem`, `addAll_eq`: rules with different codes put in or added;
* `Registry.without`: a registry less some codes, with `rules_without`;
* `mixedRegistry`: a rule that comes to its end, and one that breaks down.
-/
import Census.Amendment
import Census.Proofs.Keyed

namespace Census

/-! ### Rules of drafts -/

/-- The rule is what some draft gives, as some edition. -/
def Rule.Drafted (rule : Rule) : Prop :=
  ∃ (d : Draft) (edition : ℕ), d.rule edition = .ok rule

namespace Rule.Drafted

variable {rule : Rule}

/-- The code, the table and the fields of a rule are those of its draft, trimmed, and there is
something left of each. -/
lemma exists_draft (h : rule.Drafted) :
    ∃ d : Draft, rule.code = Text.trim d.code ∧ rule.code ≠ "" ∧
      rule.table = Text.identifier d.table ∧ rule.table ≠ "" ∧
      rule.fields = d.trimmedFields ∧ rule.fields ≠ [] := by
  obtain ⟨d, edition, hd⟩ := h
  simp only [Draft.rule] at hd
  split at hd
  · exact absurd hd (by simp)
  · next hcode =>
    split at hd
    · exact absurd hd (by simp)
    · next htable =>
      split at hd
      · exact absurd hd (by simp)
      · next hfields =>
        split at hd
        · exact absurd hd (by simp)
        · cases hd
          exact ⟨d, rfl, hcode, rfl, htable, rfl, hfields⟩

/-- The code of a rule is that of its draft, trimmed, and there is something left of it. -/
lemma code_eq (h : rule.Drafted) : ∃ text, rule.code = Text.trim text ∧ rule.code ≠ "" := by
  obtain ⟨d, hcode, hne, -⟩ := h.exists_draft
  exact ⟨d.code, hcode, hne⟩

lemma fields_ne_nil (h : rule.Drafted) : rule.fields ≠ [] := by
  obtain ⟨-, -, -, -, -, -, hne⟩ := h.exists_draft
  exact hne

/-- No field of a rule has an empty name. -/
lemma field_ne_empty (h : rule.Drafted) {name : String} (hname : name ∈ rule.fields) :
    name ≠ "" := by
  obtain ⟨_, -, -, -, -, hfields, -⟩ := h.exists_draft
  rw [hfields, Draft.trimmedFields] at hname
  exact of_decide_eq_true (List.mem_filter.mp hname).2

lemma code_ne_empty (h : rule.Drafted) : rule.code ≠ "" :=
  let ⟨_, _, hne⟩ := h.code_eq
  hne

lemma trim_code (h : rule.Drafted) : Text.trim rule.code = rule.code := by
  obtain ⟨text, htext, -⟩ := h.code_eq
  rw [htext, Text.trim_trim]

end Rule.Drafted

/-! ### What the operations make -/

/-- An amendment made by deletions and of drafted rules. -/
inductive Amendment.Built : Amendment → Prop
  | empty : Built .empty
  | delete {a : Amendment} (code : String) : Built a → Built (a.delete code)
  | upsert {a : Amendment} {rule : Rule} : Built a → rule.Drafted → Built (a.upsert rule)

/-- A registry made from nothing or from a list of drafted rules, by adding, putting in and erasing
rules, and by amendments. -/
inductive Registry.Built : Registry → Prop
  | empty : Built .empty
  | add {r r' : Registry} {rule : Rule} :
      Built r → rule.Drafted → r.add rule = .ok r' → Built r'
  | put {r : Registry} {rule : Rule} : Built r → rule.Drafted → Built (r.put rule)
  | erase {r : Registry} (code : String) : Built r → Built (r.erase code)
  | ofList {rules : List Rule} {r : Registry} :
      (∀ rule ∈ rules, rule.Drafted) → Registry.ofList rules = .ok r → Built r
  | amend {base r : Registry} {a : Amendment} {policy : Policy} :
      Built base → a.Built → base.amend policy a = .ok r → Built r

/-! ### Rules by code -/

/-- Every rule of the map is drafted and stands under its own code. -/
def ByCode (m : Keyed Rule) : Prop :=
  ∀ code rule, m.get? code = some rule → rule.code = code ∧ rule.Drafted

namespace ByCode

variable {m : Keyed Rule}

lemma empty : ByCode Keyed.empty := fun _ _ h => absurd h (by simp)

lemma insert (h : ByCode m) {rule : Rule} (hr : rule.Drafted) :
    ByCode (m.insert rule.code rule) := by
  intro code rule' hget
  rw [Keyed.get?_insert] at hget
  split at hget
  · next hcode =>
    cases hget
    exact ⟨hcode.symm, hr⟩
  · exact h code rule' hget

lemma restrict (h : ByCode m) (p : String → Bool) : ByCode (m.restrict p) := by
  intro code rule hget
  rw [Keyed.get?_restrict] at hget
  split at hget
  · exact h code rule hget
  · exact absurd hget (by simp)

lemma erase (h : ByCode m) (code : String) : ByCode (m.erase code) :=
  h.restrict (· != code)

/-- The codes of the rules are the keys. -/
lemma map_code_values (h : ByCode m) : m.values.map Rule.code = m.keys := by
  rw [Keyed.values, Keyed.keys, List.map_map]
  exact List.map_congr_left fun e he => (h e.1 e.2 (Keyed.mem_entries_iff.mp he)).1

/-- The rules of some keys are those whose codes are among them. -/
lemma values_restrict (h : ByCode m) (p : String → Bool) :
    (m.restrict p).values = m.values.filter fun rule => p rule.code := by
  rw [Keyed.values, Keyed.values, Keyed.entries_restrict, List.filter_map]
  refine congrArg _ (List.filter_congr fun e he => ?_)
  rw [Function.comp_apply, (h e.1 e.2 (Keyed.mem_entries_iff.mp he)).1]

end ByCode

namespace Registry

variable {r r' : Registry}

lemma byCode_foldl_put {rules : List Rule} (hd : ∀ rule ∈ rules, rule.Drafted)
    (h : ByCode r.rules) : ByCode (rules.foldl put r).rules := by
  induction rules generalizing r with
  | nil => exact h
  | cons rule rules ih =>
      exact ih (fun rule' h' => hd rule' (List.mem_cons_of_mem _ h'))
        (h.insert (hd rule List.mem_cons_self))

lemma byCode_foldl_erase {codes : List String} (h : ByCode r.rules) :
    ByCode (codes.foldl erase r).rules := by
  induction codes generalizing r with
  | nil => exact h
  | cons code codes ih => exact ih (h.erase code)

/-- A rule that is added is put in. -/
lemma eq_put_of_add? {rule : Rule} (h : r.add? rule = some r') : r' = r.put rule := by
  rw [add?] at h
  split at h
  · exact absurd h (by simp)
  · exact (Option.some.inj h).symm

lemma byCode_addAll {rules : List Rule} (hd : ∀ rule ∈ rules, rule.Drafted)
    (h : ByCode r.rules) (hr : r.addAll rules = .ok r') : ByCode r'.rules := by
  induction rules generalizing r with
  | nil => cases hr; exact h
  | cons rule rules ih =>
      rw [addAll] at hr
      split at hr
      · next r'' hadd =>
        refine ih (fun rule' h' => hd rule' (List.mem_cons_of_mem _ h')) ?_ hr
        rw [eq_put_of_add? hadd]
        exact h.insert (hd rule List.mem_cons_self)
      · exact absurd hr (by simp)

/-- An amendment that is not refused gives the amended registry. -/
lemma eq_amended_of_amend {a : Amendment} {policy : Policy} (h : r.amend policy a = .ok r') :
    r' = r.amended a := by
  unfold amend at h
  split at h
  · exact absurd h (by simp)
  · exact (Except.ok.inj h).symm

end Registry

lemma Amendment.Built.byCode {a : Amendment} (h : a.Built) : ByCode a.upserted := by
  induction h with
  | empty => exact .empty
  | delete code _ ih => exact ih
  | upsert _ hr ih => exact ih.insert hr

/-- **Rules by code**: whatever was done to make a registry, each of its rules is drafted and stands
under its own code. -/
theorem Registry.Built.byCode {r : Registry} (h : r.Built) : ByCode r.rules := by
  induction h with
  | empty => exact .empty
  | @add r r' rule _ hr hadd ih =>
      rw [Registry.add] at hadd
      split at hadd
      · next r'' h' =>
        cases hadd
        rw [eq_put_of_add? h']
        exact ih.insert hr
      · exact absurd hadd (by simp)
  | put _ hr ih => exact ih.insert hr
  | erase code _ ih => exact ih.erase code
  | ofList hd hr => exact byCode_addAll hd .empty hr
  | @amend base r a policy _ ha hr ih =>
      rw [eq_amended_of_amend hr]
      refine byCode_foldl_erase (byCode_foldl_put (fun rule hrule => ?_) ih)
      obtain ⟨e, he, rfl⟩ := List.mem_map.mp hrule
      exact (ha.byCode e.1 e.2 (Keyed.mem_entries_iff.mp he)).2

/-! ### Rules put in one after another -/

namespace Registry

variable {r : Registry} {rules : List Rule}

/-- Rules put in whose codes are others leave a code as it is. -/
lemma rule?_foldl_put_of_forall_ne {code : String} (h : ∀ rule ∈ rules, rule.code ≠ code)
    (r : Registry) : (rules.foldl put r).rule? code = r.rule? code := by
  induction rules generalizing r with
  | nil => rfl
  | cons rule rules ih =>
      obtain ⟨hrule, hrules⟩ := List.forall_mem_cons.mp h
      rw [List.foldl_cons, ih hrules, rule?_put, if_neg hrule.symm]

/-- Of rules with different codes each is found after all have been put in. -/
lemma rule?_foldl_put_of_mem (h : rules.Pairwise fun a b => a.code ≠ b.code) {rule : Rule}
    (hrule : rule ∈ rules) (r : Registry) :
    (rules.foldl put r).rule? rule.code = some rule := by
  induction rules generalizing r with
  | nil => cases hrule
  | cons rule' rules ih =>
      obtain ⟨hne, hrest⟩ := List.pairwise_cons.mp h
      rcases List.mem_cons.mp hrule with rfl | hmem
      · rw [List.foldl_cons, rule?_foldl_put_of_forall_ne fun b hb => (hne b hb).symm,
          rule?_put, if_pos rfl]
      · exact ih hrest hmem (r.put rule')

/-- Rules whose codes are new and different are added by putting them in. -/
lemma addAll_eq (h : rules.Pairwise fun a b => a.code ≠ b.code)
    (hnew : ∀ rule ∈ rules, r.rule? rule.code = none) :
    r.addAll rules = .ok (rules.foldl put r) := by
  induction rules generalizing r with
  | nil => rfl
  | cons rule rules ih =>
      obtain ⟨hne, hrest⟩ := List.pairwise_cons.mp h
      obtain ⟨hfree, hnew⟩ := List.forall_mem_cons.mp hnew
      have hadd : r.add? rule = some (r.put rule) := by
        rw [add?, contains, Keyed.contains]
        show (if (r.rule? rule.code).isSome = true then _ else _) = _
        rw [hfree]
        rfl
      have hnext : ∀ b ∈ rules, (r.put rule).rule? b.code = none := by
        intro b hb
        rw [rule?_put, if_neg (hne b hb).symm]
        exact hnew b hb
      simp only [addAll, hadd]
      exact ih hrest hnext

end Registry

/-! ### Codes left out -/

namespace Registry

/-- The registry less the rules of some codes. -/
def without (r : Registry) (codes : List String) : Registry :=
  codes.foldl erase r

lemma Built.without {r : Registry} (h : r.Built) (codes : List String) :
    (r.without codes).Built := by
  induction codes generalizing r with
  | nil => exact h
  | cons code codes ih => exact ih (h.erase code)

lemma rules_without (r : Registry) (codes : List String) :
    (r.without codes).rules = r.rules.restrict fun c => !codes.contains c := by
  induction codes generalizing r with
  | nil =>
      apply Keyed.ext_entries
      simp [without, Keyed.entries_restrict]
  | cons code codes ih =>
      have hstep : (r.without (code :: codes)).rules = ((r.erase code).without codes).rules := rfl
      rw [hstep, ih]
      refine (Keyed.restrict_restrict (· != code) _ r.rules).trans ?_
      simp only [List.contains_cons, Bool.not_or, bne]

end Registry

/-! ### A small registry -/

/-- A rule whose check records the first row and then ends in some way. -/
def recordsFirst (code : String) (ending : Ending) : Rule :=
  ⟨code, "learners", "", ["id"], .error, ⟨0, fun _ f => (f.push f.table f.fields [0], ending)⟩, 0⟩

/-- The rule as it stands comes from a draft with the same texts, when these are trimmed. -/
lemma recordsFirst_drafted {code : String} (hc : Text.trim code = code) (hne : code ≠ "")
    (ending : Ending) : (recordsFirst code ending).Drafted := by
  refine ⟨⟨code, "learners", "", ["id"], .error, some (recordsFirst code ending).check⟩, 0, ?_⟩
  simp only [Draft.rule, hc, if_neg hne]
  rfl

/-- A rule that comes to its end, and one that breaks down. -/
def mixedRegistry : Registry :=
  (Registry.empty.put (recordsFirst "A" .finished)).put (recordsFirst "B" (.crashed none))

lemma mixedRegistry_built : mixedRegistry.Built :=
  (Registry.Built.empty.put (recordsFirst_drafted (by decide) (by decide) _)).put
    (recordsFirst_drafted (by decide) (by decide) _)

end Census
