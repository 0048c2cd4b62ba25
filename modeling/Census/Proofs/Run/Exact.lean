/-
What the ledger of a run is, exactly.

* `Ledger.Exact`: codes, outcomes, rules and unknown codes that a run has to have;
* `ledger_exact`: the ledger of every run is exact;
* `Plan.rules_eq_filter`, `Plan.nodup_codes`: a plan has each selected rule once and no other;
* `run_congr`: of a selection only the set of its texts counts;
* `run_exact`: all of this for registries that can be made, each rule carried out once and nothing
  refused.
-/
import Census.Proofs.Report
import Census.Proofs.Run.Ledger

namespace Census

/-! ### Exact ledgers -/

/-- What the ledger of a run is, for a registry, a selection and a submission. -/
structure Ledger.Exact (l : Ledger) (r : Registry) (selection : Option (List String))
    (s : Submission) : Prop where
  /-- The codes with an outcome are the selected ones of the registry. -/
  codes : l.outcomes.keys = r.codes.filter (Plan.selects selection)
  /-- A check that came to its end leaves the issues it recorded, in their order. -/
  finished : ∀ code rule f, r.rule? code = some rule → Plan.selects selection code = true →
    rule.examine s = (f, .finished) → l.outcome? code = some (.completed f.issues)
  /-- A check that could not be carried out leaves the text of the fault. -/
  refused : ∀ code rule f fault, r.rule? code = some rule → Plan.selects selection code = true →
    rule.examine s = (f, .refused fault) → l.outcome? code = some (.failed (.fault fault.text))
  /-- A check that broke down leaves its message, or a fixed one if there was none. -/
  crashed : ∀ code rule f message, r.rule? code = some rule → Plan.selects selection code = true →
    rule.examine s = (f, .crashed message) →
      l.outcome? code = some (.failed (.crash (message.getD silentCrash)))
  /-- No issue of a failed rule is reported. -/
  silent : ∀ code failure, l.outcome? code = some (.failed failure) →
    ∀ rec ∈ (Report.compile l).issues, rec.rule ≠ code
  /-- The unknown codes are the trimmed texts of the selection that are no code, and its blank texts
  as they are. -/
  unknown : ∀ code, code ∈ l.unknown.keys ↔ ∃ texts, selection = some texts ∧
    ∃ text ∈ texts, (Text.trim text ≠ "" ∧ code = Text.trim text ∧ code ∉ r.codes) ∨
      (Text.trim text = "" ∧ code = text)
  /-- An unknown code has no outcome. -/
  disjoint : ∀ code ∈ l.unknown.keys, code ∉ l.outcomes.keys
  /-- The rules are those of the outcomes, as the registry has them. -/
  registered : l.rules.keys = l.outcomes.keys ∧
    ∀ code ∈ l.outcomes.keys, ∃ rule, r.rule? code = some rule ∧ l.rules.get? code = some rule

variable {r : Registry} {selection : Option (List String)} {o : RunOptions} {s : Submission}

/-- **Exact ledgers**: the ledger of every run is exact. -/
theorem ledger_exact (h : ByCode r.rules) : (r.run o selection s).Exact r selection s where
  codes := keys_outcomes_run h
  finished := by
    intro code rule f hr hs hend
    rw [outcome?_run h hr hs, Rule.outcome, hend]
  refused := by
    intro code rule f fault hr hs hend
    rw [outcome?_run h hr hs, Rule.outcome, hend]
  crashed := by
    intro code rule f message hr hs hend
    rw [outcome?_run h hr hs, Rule.outcome, hend]
  silent := by
    rintro code failure hfail rec hrec rfl
    obtain ⟨issues, hout⟩ := Ledger.completed_of_mem_issues hrec
    rw [hfail] at hout
    exact absurd hout (by simp)
  unknown := by
    intro code
    rw [Registry.run_eq h]
    exact Plan.mem_unknown_of h
  disjoint := by
    intro code hunknown hout
    rw [keys_outcomes_run h] at hout
    rw [Registry.run_eq h] at hunknown
    exact Plan.not_mem_unknown_of h (List.mem_filter.mp hout).1 selection hunknown
  registered := by
    rw [keys_outcomes_run h, Registry.run_eq h]
    refine ⟨Keyed.keys_restrict .., fun code hcode => ?_⟩
    obtain ⟨hmem, hsel⟩ := List.mem_filter.mp hcode
    obtain ⟨rule, hrule⟩ := Keyed.mem_keys_iff.mp hmem
    exact ⟨rule, hrule, (Keyed.get?_restrict ..).trans ((if_pos hsel).trans hrule)⟩

/-! ### Each selected rule once -/

/-- The rules of a plan are those of the registry whose codes are selected. -/
lemma Plan.rules_eq_filter (h : ByCode r.rules) (selection : Option (List String)) :
    (Plan.of r selection).rules = r.toList.filter fun rule => Plan.selects selection rule.code :=
  (Plan.rules_of h selection).trans (h.values_restrict _)

/-- No two rules of a plan have one code. -/
lemma Plan.nodup_codes (h : ByCode r.rules) (selection : Option (List String)) :
    ((Plan.of r selection).rules.map Rule.code).Nodup := by
  rw [Plan.rules_of h, (h.restrict _).map_code_values]
  exact Keyed.nodup_keys _

/-! ### Selections of the same texts -/

/-- Of a selection only the set of its texts counts. -/
lemma run_congr (h : ByCode r.rules) {texts texts' : List String}
    (ht : ∀ text, text ∈ texts ↔ text ∈ texts') (o o' : RunOptions) :
    r.run o (some texts) s = r.run o' (some texts') s := by
  rw [Registry.run_eq h, Registry.run_eq h, Plan.selects_congr ht, Plan.unknown_congr h ht]

/-- **Exactness of a run** of a registry that can be made.  Its ledger is exact.  However the
workers are interleaved, in the end they have taken up each selected rule once and no other, and
entering what they give is never refused and makes the ledger of the run.  Another order of the
selected texts, or their repetition, changes nothing. -/
theorem run_exact (h : r.Built) (o : RunOptions) (selection : Option (List String))
    (s : Submission) :
    let plan := Plan.of r selection
    let start : Pool Rule (Rule × Outcome) := .ofBatches (plan.shares (o.workers plan))
    (r.run o selection s).Exact r selection s ∧
    (∃ moves pool, Pool.Run (Rule.carryOut s) start moves pool ∧ pool.Finished) ∧
    (∀ moves pool, Pool.Run (Rule.carryOut s) start moves pool → pool.Finished →
      (moves.flatMap Move.taken).Perm
        (r.toList.filter fun rule => Plan.selects selection rule.code) ∧
      ((moves.flatMap Move.taken).map Rule.code).Nodup ∧
      plan.refusals pool.collected = [] ∧
      plan.ledger pool.collected = r.run o selection s) ∧
    ∀ (texts texts' : List String) (o' : RunOptions), selection = some texts →
      (∀ text, text ∈ texts ↔ text ∈ texts') →
        r.run o' (some texts') s = r.run o selection s := by
  intro plan start
  have hcode := h.byCode
  refine ⟨ledger_exact hcode, Pool.exists_finishing_run _ start, fun moves pool hrun hfin => ?_, ?_⟩
  · have hperm := hrun.taken_perm hfin
    rw [plan.flatten_shares] at hperm
    have hcollected : pool.collected = plan.outcomes (o.workers plan) s :=
      collected_eq_outcomes hrun hfin
    refine ⟨?_, ?_, ?_, ?_⟩
    · rw [← Plan.rules_eq_filter hcode]
      exact hperm
    · exact (hperm.map Rule.code).nodup_iff.mpr (Plan.nodup_codes hcode selection)
    · rw [hcollected]
      exact Registry.refusals_run hcode o selection s
    · rw [hcollected]
      rfl
  · rintro texts texts' o' rfl htexts
    exact run_congr hcode (fun text => (htexts text).symm) o' o

/-- Both rules are asked for, one of them twice and with blanks, and two texts name no rule. -/
theorem run_exact_mixed :
    let l := mixedRegistry.run { jobs := 2 } (some [" A ", "B", " ", "A", "C "]) .empty
    mixedRegistry.Built ∧
    l.outcomes.keys = ["A", "B"] ∧
    " " ∈ l.unknown.keys ∧
    "C" ∈ l.unknown.keys ∧
    l.outcome? "A" = some (.completed [Issue.of "A" "learners" ["id"] [0]]) ∧
    l.outcome? "B" = some (.failed (.crash silentCrash)) ∧
    l = mixedRegistry.run { jobs := 0 } (some ["C ", "A", " A ", "B", " "]) .empty := by
  intro l
  obtain ⟨hexact, -, -, hcongr⟩ := run_exact mixedRegistry_built { jobs := 2 }
    (some [" A ", "B", " ", "A", "C "]) .empty
  refine ⟨mixedRegistry_built, ?_, ?_, ?_, ?_, ?_, ?_⟩
  · rw [hexact.codes]
    decide
  · exact (hexact.unknown " ").mpr ⟨_, rfl, " ", by decide, Or.inr (by decide)⟩
  · exact (hexact.unknown "C").mpr ⟨_, rfl, "C ", by decide, Or.inl (by decide)⟩
  · exact hexact.finished "A" _ _ rfl (by decide) rfl
  · exact hexact.crashed "B" _ _ none rfl (by decide) rfl
  · refine (hcongr _ _ { jobs := 0 } rfl fun text => ?_).symm
    simp only [List.mem_cons, List.not_mem_nil]
    tauto

end Census
