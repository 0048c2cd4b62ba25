/-
The ledger of a run in closed form.

* `Plan.selects`: the codes that a selection stands for;
* `rules_of`, `mem_unknown_of`: the rules of a plan are the selected ones of the registry, and its
  unknown codes are the requests that name no rule;
* `Ledger.enter_fresh`, `Ledger.enterAll_fresh`: outcomes of codes that have none yet are entered
  without a refusal;
* `Registry.run_eq`: the outcomes of a run are those of the selected rules, by code.
-/
import Census.Run.Execution
import Census.Proofs.Registry
import Census.Proofs.Run.Interleaving

namespace Census

/-! ### Plans -/

namespace Plan

/-- A selection stands for the code: there is none, or one of its texts is the code once it is
trimmed. -/
def selects (selection : Option (List String)) (code : String) : Bool :=
  match selection with
  | none => true
  | some texts => texts.any fun text => Text.trim text == code

lemma selects_some {texts : List String} {code : String} :
    selects (some texts) code = true ↔ ∃ text ∈ texts, Text.trim text = code := by
  simp [selects]

variable {r : Registry}

/-- A text names a rule when its trimmed form is a code of the registry. -/
lemma names_iff (h : ByCode r.rules) {text : String} :
    names r text = true ↔ Text.trim text ∈ r.codes := by
  rw [names, Bool.and_eq_true, bne_iff_ne, Registry.contains, Keyed.contains_iff]
  refine ⟨fun hn => hn.2, fun hm => ⟨fun hblank => ?_, hm⟩⟩
  obtain ⟨rule, hrule⟩ := Keyed.mem_keys_iff.mp hm
  obtain ⟨hcode, hd⟩ := h _ _ hrule
  exact hd.code_ne_empty (hcode.trans hblank)

/-- What stands for a code when the text is not blank. -/
lemma requested_of_ne {text : String} (h : Text.trim text ≠ "") :
    requested text = Text.trim text := if_neg h

lemma requested_of_blank {text : String} (h : Text.trim text = "") : requested text = text :=
  if_pos h

/-- Without a selection all rules are selected. -/
lemma restrict_selects_none (r : Registry) : r.rules.restrict (selects none) = r.rules :=
  Keyed.ext_entries (List.filter_eq_self.mpr fun _ _ => rfl)

/-- The rules of a plan are the selected ones of the registry, by ascending code. -/
theorem rules_of (h : ByCode r.rules) (selection : Option (List String)) :
    (Plan.of r selection).rules = (r.rules.restrict (selects selection)).values := by
  cases selection with
  | none =>
      rw [restrict_selects_none]
      rfl
  | some texts =>
      rw [of, List.partition_eq_filter_filter]
      have hcodes : (TextSet.ofList ((texts.filter (names r)).map requested)).keys =
          r.rules.keys.filter (selects (some texts)) := by
        refine Keyed.eq_of_mem_iff_keys (Keyed.pairwise_keys _)
          (r.rules.pairwise_keys.sublist List.filter_sublist) fun code => ?_
        rw [TextSet.mem_keys_ofList, List.mem_map, List.mem_filter, selects_some]
        constructor
        · rintro ⟨text, htext, rfl⟩
          obtain ⟨hmem, hname⟩ := List.mem_filter.mp htext
          have hcode := (names_iff h).mp hname
          rw [names, Bool.and_eq_true, bne_iff_ne] at hname
          rw [requested_of_ne hname.1]
          exact ⟨hcode, text, hmem, rfl⟩
        · rintro ⟨hcode, text, hmem, rfl⟩
          have hname := (names_iff h).mpr hcode
          refine ⟨text, List.mem_filter.mpr ⟨hmem, hname⟩, requested_of_ne ?_⟩
          rw [names, Bool.and_eq_true, bne_iff_ne] at hname
          exact hname.1
      show List.filterMap r.rules.get? _ = _
      rw [hcodes, Keyed.filterMap_get?_keys]

/-- The unknown codes of a plan are the trimmed texts of the selection that are no code, and its
blank texts as they are. -/
theorem mem_unknown_of (h : ByCode r.rules) {selection : Option (List String)} {code : String} :
    code ∈ (Plan.of r selection).unknown.keys ↔ ∃ texts, selection = some texts ∧
      ∃ text ∈ texts, Text.trim text ≠ "" ∧ code = Text.trim text ∧ code ∉ r.codes ∨
        Text.trim text = "" ∧ code = text := by
  cases selection with
  | none => simp [of, Keyed.keys, Keyed.empty]
  | some texts =>
      rw [of, List.partition_eq_filter_filter]
      show code ∈ (TextSet.ofList _).keys ↔ _
      rw [TextSet.mem_keys_ofList, List.mem_map]
      constructor
      · rintro ⟨text, htext, rfl⟩
        obtain ⟨hmem, hname⟩ := List.mem_filter.mp htext
        refine ⟨texts, rfl, text, hmem, ?_⟩
        by_cases hblank : Text.trim text = ""
        · exact Or.inr ⟨hblank, requested_of_blank hblank⟩
        · rw [requested_of_ne hblank]
          refine Or.inl ⟨hblank, rfl, fun hcode => ?_⟩
          rw [Function.comp_apply, (names_iff h).mpr hcode] at hname
          exact absurd hname (by simp)
      · rintro ⟨_, ⟨⟩, text, hmem, ⟨hne, rfl, hcode⟩ | ⟨hblank, rfl⟩⟩
        · refine ⟨text, List.mem_filter.mpr ⟨hmem, ?_⟩, requested_of_ne hne⟩
          rw [Function.comp_apply, Bool.not_eq_true', Bool.eq_false_iff]
          exact fun hname => hcode ((names_iff h).mp hname)
        · refine ⟨code, List.mem_filter.mpr ⟨hmem, ?_⟩, requested_of_blank hblank⟩
          simp [names, hblank]

/-- No code of the registry is unknown. -/
lemma not_mem_unknown_of (h : ByCode r.rules) {code : String} (hcode : code ∈ r.codes)
    (selection : Option (List String)) : code ∉ (Plan.of r selection).unknown.keys := by
  intro hmem
  obtain ⟨texts, -, text, -, ⟨-, -, hnot⟩ | ⟨hblank, rfl⟩⟩ := (mem_unknown_of h).mp hmem
  · exact hnot hcode
  · obtain ⟨rule, hrule⟩ := Keyed.mem_keys_iff.mp hcode
    obtain ⟨rfl, hd⟩ := h _ _ hrule
    exact hd.code_ne_empty (hd.trim_code.symm.trans hblank)

/-- Selections of the same texts select the same codes. -/
lemma selects_congr {texts texts' : List String} (h : ∀ text, text ∈ texts ↔ text ∈ texts') :
    selects (some texts) = selects (some texts') := by
  funext code
  rw [Bool.eq_iff_iff, selects_some, selects_some]
  simp only [h]

/-- Selections of the same texts leave the same codes unknown. -/
lemma unknown_congr (hr : ByCode r.rules) {texts texts' : List String}
    (h : ∀ text, text ∈ texts ↔ text ∈ texts') :
    (Plan.of r (some texts)).unknown = (Plan.of r (some texts')).unknown := by
  refine TextSet.ext fun code => ?_
  rw [mem_unknown_of hr, mem_unknown_of hr]
  simp [h]

end Plan

/-! ### Entries for codes without an outcome -/

namespace Ledger

variable {l : Ledger}

/-- Issues that follow others of the same rule are appended to them. -/
lemma recordIssues_completed {code : String} {before : List Issue}
    (h : l.outcome? code = some (.completed before)) (issues : List Issue) :
    l.recordIssues code issues = (l.setOutcome code (.completed (before ++ issues)), none) := by
  induction issues generalizing l before with
  | nil =>
      have hself : l.setOutcome code (.completed before) = l := by
        rw [setOutcome, Keyed.insert_self h]
      rw [recordIssues, List.append_nil, hself]
  | cons issue issues ih =>
      have hstep : l.recordIssue code issue =
          .ok (l.setOutcome code (.completed (before ++ [issue]))) := by
        rw [recordIssue, h]
      have hnext : (l.setOutcome code (.completed (before ++ [issue]))).outcome? code =
          some (.completed (before ++ [issue])) := by
        rw [outcome?_setOutcome, if_pos rfl]
      rw [recordIssues, hstep]
      show recordIssues _ code issues = _
      rw [ih hnext, List.append_assoc, List.singleton_append, setOutcome, setOutcome, setOutcome,
        Keyed.insert_insert]

/-- The outcome of a rule whose code has none yet is entered without a refusal. -/
lemma enter_fresh {rule : Rule} (h : l.outcome? rule.code = none) (o : Outcome) :
    l.enter rule o =
      (⟨l.outcomes.insert rule.code o, l.rules.insert rule.code rule, l.unknown⟩, none) := by
  have hreg : (l.register rule).outcome? rule.code = none := h
  cases o with
  | completed issues =>
      have hmark : (l.register rule).markCompleted rule.code =
          .ok ((l.register rule).setOutcome rule.code (.completed [])) := by
        rw [markCompleted, hreg]
      have hnext : ((l.register rule).setOutcome rule.code (.completed [])).outcome? rule.code =
          some (.completed []) := by
        rw [outcome?_setOutcome, if_pos rfl]
      rw [enter, hmark]
      show recordIssues _ rule.code issues = _
      rw [recordIssues_completed hnext, List.nil_append, setOutcome, setOutcome,
        Keyed.insert_insert]
      rfl
  | failed failure =>
      have hfail : (l.register rule).recordFailure rule.code failure =
          .ok ((l.register rule).setOutcome rule.code (.failed failure)) := by
        rw [recordFailure, hreg]
      rw [enter, hfail]
      rfl

/-- Rules with different codes, none of which has an outcome yet, are entered without a refusal. -/
lemma enterAll_fresh {xs : List (Rule × Outcome)}
    (hne : xs.Pairwise fun x y => x.1.code ≠ y.1.code)
    (hnone : ∀ x ∈ xs, l.outcome? x.1.code = none) :
    l.enterAll xs =
      (⟨(xs.map fun x => (x.1.code, x.2)).foldl (fun m e => m.insert e.1 e.2) l.outcomes,
        (xs.map fun x => (x.1.code, x.1)).foldl (fun m e => m.insert e.1 e.2) l.rules,
        l.unknown⟩, []) := by
  induction xs generalizing l with
  | nil => rfl
  | cons x xs ih =>
      obtain ⟨rule, o⟩ := x
      obtain ⟨hx, hxs⟩ := List.pairwise_cons.mp hne
      have hrest : ∀ y ∈ xs, (Ledger.mk (l.outcomes.insert rule.code o)
          (l.rules.insert rule.code rule) l.unknown).outcome? y.1.code = none := by
        intro y hy
        show Keyed.get? (Keyed.insert _ _ _) _ = none
        rw [Keyed.get?_insert, if_neg fun heq => hx y hy heq.symm]
        exact hnone y (List.mem_cons_of_mem _ hy)
      have hfirst := enter_fresh (hnone (rule, o) List.mem_cons_self) o
      simp only [enterAll, hfirst, ih hxs hrest]
      rfl

lemma unknown_foldl_recordUnknown (codes : List String) (l : Ledger) :
    codes.foldl recordUnknown l = { l with unknown := codes.foldl TextSet.add l.unknown } := by
  induction codes generalizing l with
  | nil => rfl
  | cons code codes ih => rw [List.foldl_cons, ih]; rfl

end Ledger

/-- Before any rule is entered the ledger has the unknown codes of the plan. -/
lemma Plan.start_eq (p : Plan) : p.start = ⟨.empty, .empty, p.unknown⟩ := by
  rw [start, Ledger.unknown_foldl_recordUnknown]
  show Ledger.mk .empty .empty (TextSet.ofList p.unknown.keys) = _
  rw [TextSet.ofList_keys]

/-! ### The ledger of a run -/

variable {r : Registry} {o : RunOptions} {selection : Option (List String)} {s : Submission}

/-- A plan of a registry is entered without a refusal, and the ledger has the outcomes of its rules
by code. -/
lemma enterAll_plan (h : ByCode r.rules) (selection : Option (List String)) (s : Submission) :
    (Plan.of r selection).start.enterAll
        ((Plan.of r selection).rules.map (Rule.carryOut s)) =
      (⟨(r.rules.restrict (Plan.selects selection)).map (Rule.outcome · s),
        r.rules.restrict (Plan.selects selection), (Plan.of r selection).unknown⟩, []) := by
  have hby := h.restrict (Plan.selects selection)
  generalize hm : r.rules.restrict (Plan.selects selection) = m at hby
  have hcode : ∀ e ∈ m.entries, e.2.code = e.1 := fun e he =>
    (hby e.1 e.2 (Keyed.mem_entries_iff.mp he)).1
  have hout : (m.values.map (Rule.carryOut s)).map (fun x => (x.1.code, x.2)) =
      (m.map (Rule.outcome · s)).entries := by
    rw [Keyed.values, List.map_map, List.map_map]
    exact List.map_congr_left fun e he => Prod.ext (hcode e he) rfl
  have hrule : (m.values.map (Rule.carryOut s)).map (fun x => (x.1.code, x.1)) = m.entries := by
    rw [Keyed.values, List.map_map, List.map_map]
    conv_rhs => rw [← List.map_id m.entries]
    exact List.map_congr_left fun e he => Prod.ext (hcode e he) rfl
  have hne : (m.values.map (Rule.carryOut s)).Pairwise fun x y => x.1.code ≠ y.1.code := by
    have hnodup := m.nodup_keys
    rw [← hby.map_code_values, List.Nodup, List.pairwise_map] at hnodup
    exact List.pairwise_map.mpr hnodup
  rw [Plan.rules_of h, Plan.start_eq, hm, Ledger.enterAll_fresh hne fun _ _ => rfl, hout, hrule]
  show (Ledger.mk (Keyed.ofList _) (Keyed.ofList _) _, _) = _
  rw [Keyed.ofList_entries, Keyed.ofList_entries]

/-- **The ledger of a run**: the outcomes of the selected rules, these rules, and the unknown
codes. -/
theorem Registry.run_eq (h : ByCode r.rules) (o : RunOptions) (selection : Option (List String))
    (s : Submission) :
    r.run o selection s =
      ⟨(r.rules.restrict (Plan.selects selection)).map (Rule.outcome · s),
        r.rules.restrict (Plan.selects selection), (Plan.of r selection).unknown⟩ := by
  rw [run, Plan.outcomes_eq_map, Plan.ledger, enterAll_plan h]

/-- No entry of a run is refused. -/
theorem Registry.refusals_run (h : ByCode r.rules) (o : RunOptions)
    (selection : Option (List String)) (s : Submission) :
    (Plan.of r selection).refusals
      ((Plan.of r selection).outcomes (o.workers (Plan.of r selection)) s) = [] := by
  rw [Plan.outcomes_eq_map, Plan.refusals, enterAll_plan h]

/-- A selected rule has the outcome of its check. -/
lemma outcome?_run (h : ByCode r.rules) {code : String} {rule : Rule}
    (hr : r.rule? code = some rule) (hs : Plan.selects selection code = true) :
    (r.run o selection s).outcome? code = some (rule.outcome s) := by
  rw [Registry.run_eq h, Ledger.outcome?, Keyed.get?_map, Keyed.get?_restrict, if_pos hs]
  exact congrArg _ hr

/-- The codes of the outcomes are the selected ones. -/
lemma keys_outcomes_run (h : ByCode r.rules) :
    (r.run o selection s).outcomes.keys = r.codes.filter (Plan.selects selection) := by
  rw [Registry.run_eq h, Keyed.keys_map, Keyed.keys_restrict]
  rfl

/-- Without a selection no code is unknown. -/
lemma unknown_run_none (h : ByCode r.rules) : (r.run o none s).unknown = Keyed.empty := by
  rw [Registry.run_eq h]
  rfl

end Census
