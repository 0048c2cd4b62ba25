/-
Runs by several workers.

* `batchSize_pos`, `mem_batches`, `length_batches_le`: no batch is of size zero, none is empty or
  too long, and there are no more batches than workers;
* `Plan.shares`: how the rules of a plan are shared out;
* `collected_eq_outcomes`: what the workers have given in the end, however they were interleaved;
* `run_interleaved`: every interleaving comes to its end with the ledger of a run with one job.
-/
import Census.Report
import Census.Run.Execution
import Census.Proofs.Run.Pool

namespace Census

variable {α : Type}

/-! ### Batches -/

/-- Where there is something to do, a batch has room for it. -/
lemma batchSize_pos {count tasks : ℕ} (hc : 0 < count) (ht : 0 < tasks) :
    0 < batchSize count tasks :=
  Nat.div_pos (by omega) hc

/-- As many batches as workers have room for all tasks. -/
lemma le_count_mul_batchSize {count : ℕ} (hc : 0 < count) (tasks : ℕ) :
    tasks ≤ count * batchSize count tasks := by
  have hlt := Nat.lt_mul_div_succ (tasks + count - 1) hc
  rw [Nat.mul_add, Nat.mul_one] at hlt
  rw [batchSize]
  omega

lemma mem_batches {size : ℕ} (hs : 0 < size) {as b : List α} (hb : b ∈ batches size as) :
    b ≠ [] ∧ b.length ≤ size := by
  fun_induction batches size as with
  | case1 => exact absurd hb (by simp)
  | case2 a as ih =>
      rcases List.mem_cons.mp hb with rfl | hb
      · refine ⟨by simp, ?_⟩
        rw [List.length_cons, List.length_take]
        omega
      · exact ih hb

/-- All batches but the last one are full. -/
lemma length_batches_mul_lt {size : ℕ} (hs : 0 < size) (as : List α) :
    (batches size as).length * size < as.length + size := by
  fun_induction batches size as with
  | case1 => simpa using hs
  | case2 a as ih =>
      rw [List.length_drop] at ih
      rw [List.length_cons, Nat.succ_mul, List.length_cons]
      by_cases hlong : size - 1 ≤ as.length
      · omega
      · have hzero : as.length - (size - 1) = 0 := by omega
        rw [hzero, Nat.zero_add] at ih
        have hnone : (batches size (as.drop (size - 1))).length = 0 := by
          by_contra hne
          have hle := Nat.le_mul_of_pos_left size (Nat.pos_of_ne_zero hne)
          omega
        rw [hnone]
        omega

/-- There are no more batches than workers. -/
lemma length_batches_le {count : ℕ} (hc : 0 < count) (as : List α) :
    (batches (batchSize count as.length) as).length ≤ count := by
  cases as with
  | nil => simp [batches]
  | cons a as =>
      have hs := batchSize_pos hc (show 0 < (a :: as).length by simp)
      have hroom := le_count_mul_batchSize hc (a :: as).length
      have hfull := length_batches_mul_lt hs (a :: as)
      refine Nat.lt_succ_iff.mp
        (Nat.lt_of_mul_lt_mul_right (a := batchSize count (a :: as).length) ?_)
      rw [Nat.succ_mul]
      omega

/-! ### The rules of a plan, shared out -/

namespace Plan

/-- How the rules of a plan are shared out: all to one worker, or a batch to each of several. -/
def shares (p : Plan) (workers : ℕ) : List (List Rule) :=
  if workers > 1 then batches (batchSize workers p.rules.length) p.rules else [p.rules]

lemma flatten_shares (p : Plan) (workers : ℕ) : (p.shares workers).flatten = p.rules := by
  rw [shares]
  split
  · exact flatten_batches ..
  · simp

lemma length_shares_le (p : Plan) {workers : ℕ} (hw : 0 < workers) :
    (p.shares workers).length ≤ workers := by
  rw [shares]
  split
  · exact length_batches_le hw p.rules
  · exact hw

/-- However many the workers are, the outcomes are those of one. -/
lemma outcomes_eq_map (p : Plan) (workers : ℕ) (s : Submission) :
    p.outcomes workers s = p.rules.map (Rule.carryOut s) := by
  rw [outcomes]
  split
  · exact inBatches_eq_map ..
  · rfl

end Plan

/-- What has been collected when workers have finished, however they were interleaved. -/
lemma collected_eq_outcomes {p : Plan} {workers : ℕ} {s : Submission}
    {moves : List (Move Rule)} {pool : Pool Rule (Rule × Outcome)}
    (h : Pool.Run (Rule.carryOut s) (.ofBatches (p.shares workers)) moves pool)
    (hf : pool.Finished) : pool.collected = p.outcomes workers s := by
  rw [h.collected_eq hf, p.flatten_shares, p.outcomes_eq_map]

lemma RunOptions.workers_pos (o : RunOptions) (p : Plan) : 0 < o.workers p :=
  Nat.lt_of_lt_of_le Nat.zero_lt_one (Nat.le_max_left ..)

/-- There are several workers only for several rules. -/
lemma RunOptions.two_le_rules {o : RunOptions} {p : Plan} (h : 1 < o.workers p) :
    1 < p.rules.length := by
  rw [workers, workerCount] at h
  omega

/-- The ledger of a run does not depend on how it is carried out. -/
lemma Registry.run_options (r : Registry) (o o' : RunOptions) (selection : Option (List String))
    (s : Submission) : r.run o selection s = r.run o' selection s := by
  rw [run, run, Plan.outcomes_eq_map, Plan.outcomes_eq_map]

/-- **Any interleaving is as good as one worker.**  Let the rules of a plan be shared out among the
workers of a run.  No batch has size zero, there are no more batches than workers, and one after
the other they are the rules of the plan.  Whatever moves the workers have made, in whatever order,
they can be brought to an end, no more than two moves a rule and two a batch are ever made, and in
the end the ledger and the report are those of a run with one job. -/
theorem run_interleaved (r : Registry) (selection : Option (List String)) (o : RunOptions)
    (s : Submission) :
    let plan := Plan.of r selection
    let workers := o.workers plan
    let shares := plan.shares workers
    (1 < workers → 0 < batchSize workers plan.rules.length ∧
      ∀ batch ∈ shares, batch ≠ [] ∧ batch.length ≤ batchSize workers plan.rules.length) ∧
    shares.length ≤ workers ∧
    shares.flatten = plan.rules ∧
    (∀ (moves : List (Move Rule)) (pool : Pool Rule (Rule × Outcome)),
      Pool.Run (Rule.carryOut s) (.ofBatches shares) moves pool →
        (∃ moves' last, Pool.Run (Rule.carryOut s) pool moves' last ∧ last.Finished) ∧
        moves.length ≤ 2 * plan.rules.length + 2 * shares.length ∧
        (pool.Finished →
          plan.ledger pool.collected = r.run { jobs := 1 } selection s ∧
          Report.compile (plan.ledger pool.collected) =
            Report.compile (r.run { jobs := 1 } selection s))) ∧
    r.run o selection s = r.run { jobs := 1 } selection s := by
  intro plan workers shares
  have hflat : shares.flatten = plan.rules := plan.flatten_shares workers
  have hrun := r.run_options o { jobs := 1 } selection s
  refine ⟨fun hw => ?_, plan.length_shares_le (o.workers_pos plan), hflat, ?_, hrun⟩
  · have htasks := RunOptions.two_le_rules hw
    have hpos := batchSize_pos (o.workers_pos plan) (show 0 < plan.rules.length by omega)
    have hshares : shares = batches (batchSize workers plan.rules.length) plan.rules := if_pos hw
    exact ⟨hpos, fun batch hb => mem_batches hpos (hshares ▸ hb)⟩
  · intro moves pool h
    refine ⟨Pool.exists_finishing_run (Rule.carryOut s) pool, ?_, fun hf => ?_⟩
    · have hleft := h.remaining_eq
      rw [Pool.remaining_ofBatches, hflat] at hleft
      omega
    · have hledger : plan.ledger pool.collected = r.run { jobs := 1 } selection s := by
        rw [collected_eq_outcomes h hf]
        exact hrun
      exact ⟨hledger, congrArg Report.compile hledger⟩

end Census
