/-
Submissions made of a list of tables.

* `Submission.get?_ofList`: tables under different normal forms are all kept.
-/
import Mathlib
import Census.Submission
import Census.Proofs.Keyed
import Census.Proofs.Text.Fold

namespace Census

namespace Submission

variable {ts : List (String × Table)}

/-- Tables under identifiers in normal form are put in as they are. -/
lemma tables_foldl_insert (hnormal : ∀ p ∈ ts, Text.identifier p.1 = p.1) (s : Submission) :
    (ts.foldl (fun s p => s.insert p.1 p.2) s).tables =
      ts.foldl (fun m p => m.insert p.1 p.2) s.tables := by
  induction ts generalizing s with
  | nil => rfl
  | cons p ts ih =>
      obtain ⟨hp, hts⟩ := List.forall_mem_cons.mp hnormal
      rw [List.foldl_cons, List.foldl_cons, ih hts, insert, hp]

/-- Of tables under different identifiers in normal form, each is found under its own. -/
lemma get?_ofList (hnormal : ∀ p ∈ ts, Text.identifier p.1 = p.1)
    (hne : ts.Pairwise fun p q => p.1 ≠ q.1) (id : String) :
    (ofList ts).tables.get? id = ts.lookup id := by
  rw [ofList, tables_foldl_insert hnormal, Keyed.get?_foldl_insert hne, empty, Keyed.get?_empty,
    Option.or_none]

end Submission

end Census
