/-
Sharing work among workers.

* `workerCount`: how many workers take part, for a number of jobs and of rules;
* `batches`: a list cut into pieces of one length, the last one as it comes;
* `inBatches`: a function applied to a list by workers, each to one piece;
* `flatten_batches`, `inBatches_eq_map`: nothing is lost, repeated or moved.
-/

namespace Census

/-- The number of workers for `jobs` jobs: at most one for each of the `tasks`, at least one.  Zero
jobs means one for each of the processors. -/
def workerCount (jobs processors tasks : Nat) : Nat :=
  max 1 (min (if jobs = 0 then max 1 processors else jobs) tasks)

variable {α β : Type}

/-- A list cut into pieces of `size`; in pieces of one where `size` is 0. -/
def batches (size : Nat) (as : List α) : List (List α) :=
  match as with
  | [] => []
  | a :: as => (a :: as.take (size - 1)) :: batches size (as.drop (size - 1))
termination_by as.length
decreasing_by simp only [List.length_drop, List.length_cons]; omega

/-- The pieces make up the list. -/
theorem flatten_batches (size : Nat) (as : List α) : (batches size as).flatten = as := by
  fun_induction batches size as with
  | case1 => rfl
  | case2 a as ih => rw [List.flatten_cons, ih]; simp

/-- The least size of a piece with which `count` pieces are enough. -/
def batchSize (count tasks : Nat) : Nat :=
  (tasks + count - 1) / count

/-- Applies a function to a list by workers, each to one piece, and joins what they give, in
order. -/
def inBatches (count : Nat) (f : α → β) (as : List α) : List β :=
  let tasks := (batches (batchSize count as.length) as).map fun batch =>
    Task.spawn fun _ => batch.map f
  tasks.flatMap Task.get

/-- The workers give what one would have given alone. -/
theorem inBatches_eq_map (count : Nat) (f : α → β) (as : List α) :
    inBatches count f as = as.map f := by
  have h : ∀ bs : List (List α),
      (bs.map fun b => Task.spawn fun _ => b.map f).flatMap Task.get = bs.flatten.map f := by
    intro bs
    induction bs with
    | nil => rfl
    | cons b bs ih =>
      rw [List.map_cons, List.flatMap_cons, ih, List.flatten_cons, List.map_append]
      rfl
  rw [inBatches, h, flatten_batches]

end Census
