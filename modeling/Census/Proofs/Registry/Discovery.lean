/-
Registries of lists of rules.

* `FirstRepeated`: the first rule of a list whose code occurs in front of it, with
  `exists_firstRepeated_iff`;
* `ofList_of_nodup`, `ofList_of_firstRepeated`: what a list with different codes gives, and one
  with a repetition;
* `rule?_foldl_put_empty_iff`, `toList_perm`: the registry has the rules of the list and no others;
* `ofList_iff`: which lists are accepted, what they give, and which code is reported.
-/
import Census.Proofs.Registry

namespace Census

/-- The rule of a draft has its code, trimmed. -/
lemma Draft.code_of_rule {d : Draft} {edition : ℕ} {rule : Rule} (h : d.rule edition = .ok rule) :
    rule.code = Text.trim d.code := by
  simp only [Draft.rule] at h
  split at h
  · cases h
  · split at h
    · cases h
    · split at h
      · cases h
      · split at h
        · cases h
        · cases h
          rfl

/-- Rules that drafts give have the codes of these, trimmed. -/
lemma map_code_of_drafts {drafts : List Draft} {rules : List Rule}
    (h : List.Forall₂ (fun d rule => ∃ edition, d.rule edition = .ok rule) drafts rules) :
    rules.map Rule.code = drafts.map fun d => Text.trim d.code := by
  induction h with
  | nil => rfl
  | cons hrule _ ih =>
      obtain ⟨edition, hrule⟩ := hrule
      rw [List.map_cons, List.map_cons, ih, Draft.code_of_rule hrule]

namespace Registry

variable {r : Registry} {rules : List Rule} {rule : Rule}

/-! ### Repetitions -/

/-- The first rule of the list whose code occurs in front of it. -/
def FirstRepeated (rules : List Rule) (rule : Rule) : Prop :=
  ∃ front behind, rules = front ++ rule :: behind ∧ (front.map Rule.code).Nodup ∧
    rule.code ∈ front.map Rule.code

/-- Where codes are repeated there is a first rule that repeats one. -/
lemma exists_firstRepeated_iff :
    (∃ rule, FirstRepeated rules rule) ↔ ¬(rules.map Rule.code).Nodup := by
  constructor
  · rintro ⟨rule, front, behind, rfl, -, hmem⟩ hnodup
    rw [List.map_append, List.map_cons] at hnodup
    exact List.disjoint_of_nodup_append hnodup hmem List.mem_cons_self
  · intro h
    induction rules using List.reverseRecOn with
    | nil => exact absurd List.nodup_nil h
    | append_singleton rules rule ih =>
        by_cases hfront : (rules.map Rule.code).Nodup
        · have hmem : rule.code ∈ rules.map Rule.code := by
            by_contra hnew
            refine h ?_
            rw [List.map_append]
            exact hfront.append (List.nodup_singleton _) (by simpa using hnew)
          exact ⟨rule, rules, [], rfl, hfront, hmem⟩
        · obtain ⟨first, front, behind, rfl, hnodup, hmem⟩ := ih hfront
          exact ⟨first, front, behind ++ [rule], by simp, hnodup, hmem⟩

/-! ### Rules added in order -/

lemma addAll_append (r : Registry) (front behind : List Rule) :
    r.addAll (front ++ behind) = r.addAll front >>= (addAll · behind) := by
  induction front generalizing r with
  | nil => rfl
  | cons rule front ih =>
      rw [List.cons_append, addAll, addAll]
      cases r.add? rule with
      | none => rfl
      | some r' => exact ih r'

/-- Rules with different codes are all put in. -/
lemma ofList_of_nodup (h : (rules.map Rule.code).Nodup) :
    ofList rules = .ok (rules.foldl put empty) :=
  addAll_eq (List.pairwise_map.mp h) fun _ _ => rfl

/-- After rules with different codes were put in, a code has the rule of the list with this code. -/
lemma rule?_foldl_put_empty_iff (h : (rules.map Rule.code).Nodup) {code : String} :
    (rules.foldl put empty).rule? code = some rule ↔ rule ∈ rules ∧ rule.code = code := by
  have hfound : ∀ rule ∈ rules, (rules.foldl put empty).rule? rule.code = some rule :=
    fun rule hrule => rule?_foldl_put_of_mem (List.pairwise_map.mp h) hrule empty
  constructor
  · intro hrule
    obtain ⟨other, hother, rfl⟩ : ∃ other ∈ rules, other.code = code := by
      by_contra hnone
      rw [rule?_foldl_put_of_forall_ne fun other hother hcode => hnone ⟨other, hother, hcode⟩]
        at hrule
      cases hrule
    rw [hfound other hother] at hrule
    cases hrule
    exact ⟨hother, rfl⟩
  · rintro ⟨hmem, rfl⟩
    exact hfound rule hmem

/-- The first rule that repeats a code is refused, whatever stands behind it. -/
lemma ofList_of_firstRepeated (h : FirstRepeated rules rule) :
    ofList rules = .error (.codeRepeated rule.code) := by
  obtain ⟨front, behind, rfl, hnodup, hmem⟩ := h
  obtain ⟨other, hother, hcode⟩ := List.mem_map.mp hmem
  have hthere : (front.foldl put empty).rule? rule.code = some other :=
    (rule?_foldl_put_empty_iff hnodup).mpr ⟨hother, hcode⟩
  have hrefused : (front.foldl put empty).add? rule = none := by
    have hcontains : (front.foldl put empty).contains rule.code = true :=
      Option.isSome_iff_exists.mpr ⟨other, hthere⟩
    rw [add?, if_pos hcontains]
  have hfront : addAll empty front = .ok (front.foldl put empty) := ofList_of_nodup hnodup
  rw [ofList, addAll_append, hfront]
  show addAll (front.foldl put empty) (rule :: behind) = _
  rw [addAll, hrefused]

/-! ### What a registry lists -/

/-- The codes of the rules are the keys, where every rule stands under its own code. -/
lemma map_code_toList_of_own (hown : ∀ code rule, r.rule? code = some rule → rule.code = code) :
    r.toList.map Rule.code = r.codes := by
  rw [toList, codes, Keyed.values, Keyed.keys, List.map_map]
  exact List.map_congr_left fun e he => hown e.1 e.2 (Keyed.mem_entries_iff.mp he)

/-- A registry lists just the rules of the list that it was made of. -/
lemma toList_perm (h : (rules.map Rule.code).Nodup) :
    (rules.foldl put empty).toList.Perm rules := by
  have hown : ∀ code rule, (rules.foldl put empty).rule? code = some rule → rule.code = code :=
    fun _ _ hrule => ((rule?_foldl_put_empty_iff h).mp hrule).2
  have hnodup : (rules.foldl put empty).toList.Nodup := by
    refine List.Nodup.of_map Rule.code ?_
    rw [map_code_toList_of_own hown]
    exact Keyed.nodup_keys _
  refine (List.perm_ext_iff_of_nodup hnodup (List.Nodup.of_map Rule.code h)).mpr fun rule => ?_
  constructor
  · intro hrule
    obtain ⟨e, he, rfl⟩ := List.mem_map.mp hrule
    exact ((rule?_foldl_put_empty_iff h).mp (Keyed.mem_entries_iff.mp he)).1
  · intro hrule
    have hentry := Keyed.mem_entries_iff.mpr ((rule?_foldl_put_empty_iff h).mpr ⟨hrule, rfl⟩)
    exact List.mem_map.mpr ⟨_, hentry, rfl⟩

/-- The order in which rules with different codes are put in makes no difference. -/
lemma foldl_put_empty_of_perm {rules' : List Rule} (h : (rules.map Rule.code).Nodup)
    (hperm : rules'.Perm rules) : rules'.foldl put empty = rules.foldl put empty := by
  have h' : (rules'.map Rule.code).Nodup := (hperm.map Rule.code).nodup_iff.mpr h
  have hrules : (rules'.foldl put empty).rules = (rules.foldl put empty).rules := by
    refine Keyed.ext_get? fun code => Option.ext fun rule => ?_
    show (rules'.foldl put empty).rule? code = some rule ↔
      (rules.foldl put empty).rule? code = some rule
    rw [rule?_foldl_put_empty_iff h', rule?_foldl_put_empty_iff h, hperm.mem_iff]
  rw [← Registry.mk.injEq] at hrules
  exact hrules

/-! ### Lists that are accepted -/

/-- **Registries of lists.**  A list of rules gives a registry exactly when the codes are different,
which for rules of drafts are the codes of the drafts, trimmed.  The registry lists just these
rules, by ascending code and each under its own, and any other order of the list gives the same.
Otherwise the code that is reported is that of the first rule whose code occurs in front of it. -/
theorem ofList_iff (rules : List Rule) :
    ((∃ r, ofList rules = .ok r) ↔ (rules.map Rule.code).Nodup) ∧
    (∀ drafts,
      List.Forall₂ (fun (d : Draft) rule => ∃ edition, d.rule edition = .ok rule) drafts rules →
        ((∃ r, ofList rules = .ok r) ↔ (drafts.map fun d => Text.trim d.code).Nodup)) ∧
    (∀ r, ofList rules = .ok r →
      r.toList.Perm rules ∧ r.codes.Pairwise (· < ·) ∧ r.toList.map Rule.code = r.codes ∧
      (∀ code rule, r.rule? code = some rule ↔ rule ∈ rules ∧ rule.code = code) ∧
      ∀ rules', rules'.Perm rules → ofList rules' = .ok r) ∧
    ∀ e, ofList rules = .error e ↔
      ∃ rule, FirstRepeated rules rule ∧ e = .codeRepeated rule.code := by
  have hrepeated : ¬(rules.map Rule.code).Nodup →
      ∃ rule, FirstRepeated rules rule ∧ ofList rules = .error (.codeRepeated rule.code) := by
    intro h
    obtain ⟨rule, hfirst⟩ := exists_firstRepeated_iff.mpr h
    exact ⟨rule, hfirst, ofList_of_firstRepeated hfirst⟩
  have hok : ∀ r, ofList rules = .ok r → (rules.map Rule.code).Nodup := by
    intro r hr
    by_contra h
    obtain ⟨rule, -, herror⟩ := hrepeated h
    rw [hr] at herror
    cases herror
  have hiff : (∃ r, ofList rules = .ok r) ↔ (rules.map Rule.code).Nodup :=
    ⟨fun ⟨r, hr⟩ => hok r hr, fun h => ⟨_, ofList_of_nodup h⟩⟩
  refine ⟨hiff, fun drafts hdrafts => map_code_of_drafts hdrafts ▸ hiff, fun r hr => ?_,
    fun e => ⟨fun he => ?_, ?_⟩⟩
  · have h := hok r hr
    rw [ofList_of_nodup h] at hr
    cases hr
    have hmem : ∀ code rule, (rules.foldl put empty).rule? code = some rule ↔
        rule ∈ rules ∧ rule.code = code := fun _ _ => rule?_foldl_put_empty_iff h
    refine ⟨toList_perm h, Keyed.pairwise_keys _,
      map_code_toList_of_own fun code rule hrule => ((hmem code rule).mp hrule).2, hmem,
      fun rules' hperm => ?_⟩
    rw [ofList_of_nodup ((hperm.map Rule.code).nodup_iff.mpr h), foldl_put_empty_of_perm h hperm]
  · have h : ¬(rules.map Rule.code).Nodup := by
      intro h
      rw [ofList_of_nodup h] at he
      cases he
    obtain ⟨rule, hfirst, herror⟩ := hrepeated h
    rw [he] at herror
    exact ⟨rule, hfirst, Except.error.inj herror⟩
  · rintro ⟨rule, hfirst, rfl⟩
    exact ofList_of_firstRepeated hfirst

end Registry

end Census
