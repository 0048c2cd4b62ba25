/-
Interleavings of workers that share out a list of tasks.

* `Worker`, `Pool`: workers in the middle of their batches, batches without a worker yet, and what
  has been collected from the workers that are done;
* `Move`, `Pool.Step`, `Pool.Run`: one move of the pool, and moves one after another in any order;
* `Pool.yield`: all that a pool is going to collect, which no move changes (`Run.yield_eq`);
* `Pool.untaken`: the tasks that nobody has taken up, of which a run takes each once
  (`Run.untaken_perm`);
* `Pool.remaining`: the number of moves still to come, one less after every move
  (`Run.remaining_eq`);
* `Run.collected_eq`: a finished run has collected what one worker would have given alone;
* `exists_finishing_run`: whatever the moves so far, the run can be brought to its end.

Workers take up and finish their tasks in any order; their results are collected batch by batch,
each once its worker is done.
-/
import Mathlib.Tactic
import Census.Run.Workers

namespace Census

variable {α β : Type}

/-! ### Workers -/

/-- A worker: the tasks it has not taken up, the one it is at, and the results of the others. -/
structure Worker (α β : Type) where
  waiting : List α
  current : Option α
  results : List β

namespace Worker

/-- The results that a worker is going to have, where `f` gives the result of a task. -/
def yield (f : α → β) (w : Worker α β) : List β :=
  w.results ++ (w.current.toList ++ w.waiting).map f

/-- The moves of a worker still to come: two for each task that waits, one for the task it is at,
and the collection of its results. -/
def remaining (w : Worker α β) : ℕ :=
  2 * w.waiting.length + w.current.toList.length + 1

end Worker

/-! ### Pools and their moves -/

/-- Batches without a worker yet, workers whose results have not been collected, in the order of
their batches, and the results collected. -/
structure Pool (α β : Type) where
  batches : List (List α)
  workers : List (Worker α β)
  collected : List β

/-- What happens next: a worker is hired for the next batch, takes up a task, or finishes it, or
the results of the first worker are collected. -/
inductive Move (α : Type)
  | hire
  | take (task : α)
  | finish (task : α)
  | collect

/-- The tasks that a move takes up. -/
def Move.taken : Move α → List α
  | take task => [task]
  | hire | finish _ | collect => []

namespace Pool

/-- The pool before its first move. -/
def ofBatches (bs : List (List α)) : Pool α β :=
  ⟨bs, [], []⟩

/-- There is nothing left to do. -/
def Finished (p : Pool α β) : Prop :=
  p.batches = [] ∧ p.workers = []

/-- One move.  Any worker may be the next to move, while results are collected from the first one
only, when it is done and all batches have workers. -/
inductive Step (f : α → β) : Pool α β → Move α → Pool α β → Prop
  | hire (batch : List α) (bs : List (List α)) (ws : List (Worker α β)) (rs : List β) :
      Step f ⟨batch :: bs, ws, rs⟩ .hire ⟨bs, ws ++ [⟨batch, none, []⟩], rs⟩
  | take (task : α) (rest : List α) (done : List β) (bs : List (List α))
      (ws ws' : List (Worker α β)) (rs : List β) :
      Step f ⟨bs, ws ++ ⟨task :: rest, none, done⟩ :: ws', rs⟩ (.take task)
        ⟨bs, ws ++ ⟨rest, some task, done⟩ :: ws', rs⟩
  | finish (task : α) (rest : List α) (done : List β) (bs : List (List α))
      (ws ws' : List (Worker α β)) (rs : List β) :
      Step f ⟨bs, ws ++ ⟨rest, some task, done⟩ :: ws', rs⟩ (.finish task)
        ⟨bs, ws ++ ⟨rest, none, done ++ [f task]⟩ :: ws', rs⟩
  | collect (done : List β) (ws : List (Worker α β)) (rs : List β) :
      Step f ⟨[], ⟨[], none, done⟩ :: ws, rs⟩ .collect ⟨[], ws, rs ++ done⟩

/-- Moves one after another. -/
inductive Run (f : α → β) : Pool α β → List (Move α) → Pool α β → Prop
  | nil (p : Pool α β) : Run f p [] p
  | cons {p q r : Pool α β} {m : Move α} {ms : List (Move α)} :
      Step f p m q → Run f q ms r → Run f p (m :: ms) r

variable {f : α → β} {p q : Pool α β} {m : Move α} {ms : List (Move α)}

/-! ### What a pool is going to collect -/

/-- All that is going to be collected: the invariant of the moves. -/
def yield (f : α → β) (p : Pool α β) : List β :=
  p.collected ++ p.workers.flatMap (Worker.yield f) ++ p.batches.flatten.map f

lemma yield_ofBatches (f : α → β) (bs : List (List α)) :
    (ofBatches bs : Pool α β).yield f = bs.flatten.map f := by
  simp [yield, ofBatches]

lemma Step.yield_eq (h : Step f p m q) : q.yield f = p.yield f := by
  cases h with
  | hire batch bs ws rs => simp [yield, Worker.yield]
  | take task rest done bs ws ws' rs => simp [yield, Worker.yield]
  | finish task rest done bs ws ws' rs => simp [yield, Worker.yield]
  | collect done ws rs => simp [yield, Worker.yield]

lemma Run.yield_eq (h : Run f p ms q) : q.yield f = p.yield f := by
  induction h with
  | nil => rfl
  | cons hs _ ih => rw [ih, hs.yield_eq]

lemma Finished.yield_eq (h : p.Finished) : p.yield f = p.collected := by
  rw [yield, h.1, h.2]
  simp

/-- **Interleaving**: whatever the order of the moves, a finished run has collected the results of
all tasks in their own order. -/
theorem Run.collected_eq {bs : List (List α)} (h : Run f (ofBatches bs) ms q)
    (hq : q.Finished) : q.collected = bs.flatten.map f := by
  rw [← yield_ofBatches (β := β), ← h.yield_eq, hq.yield_eq]

/-! ### The tasks that nobody has taken up -/

/-- The tasks not taken up: those that wait for their worker, and those of batches without one. -/
def untaken (p : Pool α β) : List α :=
  p.workers.flatMap Worker.waiting ++ p.batches.flatten

lemma Step.untaken_perm (h : Step f p m q) : p.untaken.Perm (m.taken ++ q.untaken) := by
  cases h with
  | hire batch bs ws rs => simp [untaken, Move.taken]
  | take task rest done bs ws ws' rs =>
      simp only [untaken, Move.taken, List.flatMap_append, List.flatMap_cons, List.cons_append,
        List.nil_append, List.append_assoc]
      exact List.perm_middle
  | finish task rest done bs ws ws' rs => simp [untaken, Move.taken]
  | collect done ws rs => simp [untaken, Move.taken]

/-- A run takes up tasks that were not taken up before, each once. -/
lemma Run.untaken_perm (h : Run f p ms q) :
    p.untaken.Perm (ms.flatMap Move.taken ++ q.untaken) := by
  induction h with
  | nil => simp
  | @cons p q r m ms hs _ ih =>
      rw [List.flatMap_cons, List.append_assoc]
      exact hs.untaken_perm.trans (ih.append_left m.taken)

/-- **Each task once**: the tasks that a finished run has taken up are those of all batches. -/
theorem Run.taken_perm {bs : List (List α)} (h : Run f (ofBatches bs) ms q)
    (hq : q.Finished) : (ms.flatMap Move.taken).Perm bs.flatten := by
  have hperm := h.untaken_perm
  have hnil : q.untaken = [] := by
    rw [untaken, hq.1, hq.2]
    rfl
  rw [hnil, List.append_nil] at hperm
  simpa [untaken, ofBatches] using hperm.symm

/-! ### The number of moves -/

/-- The moves still to come.  A batch without a worker needs one more for the hiring. -/
def remaining (p : Pool α β) : ℕ :=
  (p.batches.map fun b => 2 * b.length + 2).sum + (p.workers.map Worker.remaining).sum

lemma Step.remaining_eq (h : Step f p m q) : p.remaining = q.remaining + 1 := by
  cases h with
  | hire batch bs ws rs =>
      simp only [remaining, Worker.remaining, List.map_cons, List.sum_cons, List.map_append,
        List.sum_append, List.map_nil, List.sum_nil, Option.toList_none, List.length_nil]
      omega
  | take task rest done bs ws ws' rs =>
      simp only [remaining, Worker.remaining, List.map_cons, List.sum_cons, List.map_append,
        List.sum_append, List.length_cons, Option.toList_none, Option.toList_some, List.length_nil]
      omega
  | finish task rest done bs ws ws' rs =>
      simp only [remaining, Worker.remaining, List.map_cons, List.sum_cons, List.map_append,
        List.sum_append, List.length_cons, Option.toList_none, Option.toList_some, List.length_nil]
      omega
  | collect done ws rs =>
      simp only [remaining, Worker.remaining, List.map_cons, List.sum_cons, List.map_nil,
        List.sum_nil, Option.toList_none, List.length_nil]
      omega

/-- Every move leaves one move less to come. -/
lemma Run.remaining_eq (h : Run f p ms q) : p.remaining = q.remaining + ms.length := by
  induction h with
  | nil => rfl
  | cons hs _ ih =>
      rw [hs.remaining_eq, ih, List.length_cons]
      omega

lemma remaining_ofBatches (bs : List (List α)) :
    (ofBatches bs : Pool α β).remaining = 2 * bs.flatten.length + 2 * bs.length := by
  simp only [remaining, ofBatches, List.map_nil, List.sum_nil, Nat.add_zero]
  induction bs with
  | nil => rfl
  | cons b bs ih =>
      simp only [List.map_cons, List.sum_cons, List.flatten_cons, List.length_append,
        List.length_cons, ih]
      omega

/-! ### A pool that is not finished can move -/

/-- Nobody waits for anybody else: while there is something left to do, some move is possible. -/
lemma exists_step (f : α → β) {p : Pool α β} (hp : ¬p.Finished) : ∃ m q, Step f p m q := by
  obtain ⟨bs, ws, rs⟩ := p
  cases bs with
  | cons batch bs => exact ⟨_, _, .hire batch bs ws rs⟩
  | nil =>
      cases ws with
      | nil => exact absurd ⟨rfl, rfl⟩ hp
      | cons w ws =>
          obtain ⟨waiting, current, done⟩ := w
          -- the first worker finishes its task, takes up the next one, or is done
          cases current with
          | some task => exact ⟨_, _, .finish task waiting done [] [] ws rs⟩
          | none =>
              cases waiting with
              | cons task rest => exact ⟨_, _, .take task rest done [] [] ws rs⟩
              | nil => exact ⟨_, _, .collect done ws rs⟩

/-- Whatever the state, the run can be brought to its end. -/
theorem exists_finishing_run (f : α → β) (p : Pool α β) :
    ∃ ms q, Run f p ms q ∧ q.Finished := by
  induction hn : p.remaining generalizing p with
  | zero =>
      by_cases hp : p.Finished
      · exact ⟨[], p, .nil p, hp⟩
      · obtain ⟨m, q, hs⟩ := exists_step f hp
        have hstep := hs.remaining_eq
        omega
  | succ n ih =>
      by_cases hp : p.Finished
      · exact ⟨[], p, .nil p, hp⟩
      · obtain ⟨m, q, hs⟩ := exists_step f hp
        have hstep := hs.remaining_eq
        obtain ⟨ms, r, hr, hfin⟩ := ih q (by omega)
        exact ⟨m :: ms, r, .cons hs hr, hfin⟩

end Pool

end Census
