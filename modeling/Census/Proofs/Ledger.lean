/-
Histories of a ledger.

* `Entry`: what is entered, with `Entry.code?`, the code whose outcome an entry is about;
* `post`, `enact`: an entry made or refused, and the same in place, with `enact_eq`;
* `markCompleted_eq_error_iff`, `recordIssue_eq_error_iff`, `recordFailure_eq_error_iff`: which
  entries are refused;
* `Entry.turn`, `outcome?_post`: what an accepted entry makes of the outcome of its code;
* `after`, `accepted`: entries one after another, and those of them that were not refused;
* `outcome?_after_failed`, `outcome?_after_issues`: failures stay, and issues are only appended to;
* `Entry.settled`, `outcome?_after`: the outcome that the accepted entries determine;
* `ledger_history`: what holds after any entries.
-/
import Census.Ledger
import Census.Proofs.Keyed

namespace Census

namespace Ledger

/-! ### Entries -/

/-- An entry: a rule that takes part, the end, an issue or the failure of the rule of a code, or a
code that no rule has. -/
inductive Entry
  | rule (rule : Rule)
  | completion (code : String)
  | issue (code : String) (issue : Issue)
  | failure (code : String) (failure : Failure)
  | unknown (code : String)

namespace Entry

/-- The code whose outcome an entry is about. -/
def code? : Entry → Option String
  | completion code | issue code _ | failure code _ => some code
  | rule _ | unknown _ => none

/-- The issue that an entry records. -/
def issue? : Entry → Option Issue
  | issue _ i => some i
  | rule _ | completion _ | failure _ _ | unknown _ => none

/-- The failure that an entry records. -/
def failure? : Entry → Option Failure
  | failure _ f => some f
  | rule _ | completion _ | issue _ _ | unknown _ => none

/-- What an entry makes of an outcome that it is about, when it is not refused. -/
def turn (o : Option Outcome) : Entry → Option Outcome
  | completion _ => some (o.getD (.completed []))
  | issue _ i => some (.completed ((o.map Outcome.issues).getD [] ++ [i]))
  | failure _ f => some (.failed f)
  | rule _ | unknown _ => o

end Entry

/-- Makes an entry, unless it is refused. -/
def post (l : Ledger) : Entry → Except LedgerError Ledger
  | .rule rule => .ok (l.register rule)
  | .completion code => l.markCompleted code
  | .issue code i => l.recordIssue code i
  | .failure code f => l.recordFailure code f
  | .unknown code => .ok (l.recordUnknown code)

/-- The ledger in which a code has an outcome, one without issues where there was none. -/
def opened (l : Ledger) (code : String) : Ledger :=
  match l.outcome? code with
  | some _ => l
  | none => l.setOutcome code (.completed [])

/-- Makes an entry in place: the ledger as it then stands, and the refusal if there was one.  An
issue opens the outcome of its code before it is known whether the entry is refused. -/
def enact (l : Ledger) : Entry → Ledger × Option LedgerError
  | .rule rule => (l.register rule, none)
  | .completion code =>
    match l.outcome? code with
    | some (.failed _) => (l, some (.alreadyFailed code))
    | some (.completed _) => (l, none)
    | none => (l.setOutcome code (.completed []), none)
  | .issue code i =>
    let l := l.opened code
    match l.outcome? code with
    | some (.completed issues) => (l.setOutcome code (.completed (issues ++ [i])), none)
    | _ => (l, some (.alreadyFailed code))
  | .failure code f =>
    match l.outcome? code with
    | some (.failed _) => (l, some (.failureRepeated code))
    | some (.completed (_ :: _)) => (l, some (.issuesRecorded code))
    | some (.completed []) | none => (l.setOutcome code (.failed f), none)
  | .unknown code => (l.recordUnknown code, none)

variable {l l' : Ledger} {e : Entry} {code : String} {err : LedgerError}

/-! ### Refusals -/

/-- An issue opens an outcome only where it is then recorded. -/
lemma enact_issue (l : Ledger) (code : String) (i : Issue) :
    l.enact (.issue code i) =
      match l.recordIssue code i with
      | .ok l' => (l', none)
      | .error err => (l, some err) := by
  rw [enact, recordIssue, opened]
  cases h : l.outcome? code with
  | none =>
      have hopen : (l.setOutcome code (.completed [])).outcome? code = some (.completed []) := by
        rw [outcome?_setOutcome, if_pos rfl]
      have htwice : (l.setOutcome code (.completed [])).setOutcome code (.completed [i]) =
          l.setOutcome code (.completed [i]) := by
        rw [setOutcome, setOutcome, setOutcome, Keyed.insert_insert]
      simp only [hopen, List.nil_append, htwice]
  | some o =>
      cases o with
      | completed issues => simp only [h]
      | failed f => simp only [h]

/-- **Entries in place**: an entry that is refused leaves the ledger as it was. -/
theorem enact_eq (l : Ledger) (e : Entry) :
    l.enact e =
      match l.post e with
      | .ok l' => (l', none)
      | .error err => (l, some err) := by
  cases e with
  | rule rule => rfl
  | unknown code => rfl
  | issue code i => exact enact_issue l code i
  | completion code =>
      rw [enact, post, markCompleted]
      cases l.outcome? code with
      | none => rfl
      | some o => cases o <;> rfl
  | failure code f =>
      rw [enact, post, recordFailure]
      cases l.outcome? code with
      | none => rfl
      | some o =>
          cases o with
          | failed g => rfl
          | completed issues => cases issues <;> rfl

/-- The end of a rule is refused exactly when the rule has failed. -/
lemma markCompleted_eq_error_iff :
    l.markCompleted code = .error err ↔
      err = .alreadyFailed code ∧ ∃ f, l.outcome? code = some (.failed f) := by
  rw [markCompleted]
  cases l.outcome? code with
  | none => simp
  | some o => cases o <;> simp [eq_comm]

/-- An issue of a rule is refused exactly when the rule has failed. -/
lemma recordIssue_eq_error_iff {i : Issue} :
    l.recordIssue code i = .error err ↔
      err = .alreadyFailed code ∧ ∃ f, l.outcome? code = some (.failed f) := by
  rw [recordIssue]
  cases l.outcome? code with
  | none => simp
  | some o => cases o <;> simp [eq_comm]

/-- The failure of a rule is refused exactly when the rule has failed or has issues. -/
lemma recordFailure_eq_error_iff {f : Failure} :
    l.recordFailure code f = .error err ↔
      (err = .failureRepeated code ∧ ∃ g, l.outcome? code = some (.failed g)) ∨
      (err = .issuesRecorded code ∧
        ∃ i issues, l.outcome? code = some (.completed (i :: issues))) := by
  rw [recordFailure]
  cases l.outcome? code with
  | none => simp
  | some o =>
      cases o with
      | failed g => simp [eq_comm]
      | completed issues => cases issues <;> simp [eq_comm]

/-- Nothing is accepted for a rule that has failed. -/
lemma ne_failed_of_post (h : l.post e = .ok l') (hcode : e.code? = some code) (f : Failure) :
    l.outcome? code ≠ some (.failed f) := by
  intro hf
  have hrefused : ∃ err, l.post e = .error err := by
    cases e with
    | rule _ => cases hcode
    | unknown _ => cases hcode
    | completion _ => cases hcode; exact ⟨_, markCompleted_eq_error_iff.mpr ⟨rfl, f, hf⟩⟩
    | issue _ _ => cases hcode; exact ⟨_, recordIssue_eq_error_iff.mpr ⟨rfl, f, hf⟩⟩
    | failure _ _ =>
        cases hcode
        exact ⟨_, recordFailure_eq_error_iff.mpr (Or.inl ⟨rfl, f, hf⟩)⟩
  obtain ⟨err, herr⟩ := hrefused
  rw [herr] at h
  cases h

/-- No failure is accepted for a rule that has issues. -/
lemma failure?_of_post {i : Issue} {issues : List Issue} (h : l.post e = .ok l')
    (hcode : e.code? = some code) (hi : l.outcome? code = some (.completed (i :: issues))) :
    e.failure? = none := by
  cases e with
  | failure _ f =>
      cases hcode
      have herr : l.recordFailure code f = .error (.issuesRecorded code) :=
        recordFailure_eq_error_iff.mpr (Or.inr ⟨rfl, i, issues, hi⟩)
      rw [post, herr] at h
      cases h
  | _ => rfl

/-! ### One entry -/

/-- **One entry** that is accepted changes the outcome of its own code only. -/
theorem outcome?_post (h : l.post e = .ok l') (code : String) :
    l'.outcome? code =
      if e.code? = some code then e.turn (l.outcome? code) else l.outcome? code := by
  -- an entry that sets an outcome is seen at its own code
  have hset : ∀ own o, e.code? = some own → e.turn (l.outcome? own) = some o →
      l' = l.setOutcome own o →
      l'.outcome? code =
        if e.code? = some code then e.turn (l.outcome? code) else l.outcome? code := by
    rintro own o hown hturn rfl
    rw [outcome?_setOutcome, hown]
    by_cases hcode : code = own
    · rw [if_pos hcode, if_pos (congrArg some hcode.symm), hcode, hturn]
    · rw [if_neg hcode, if_neg fun h' => hcode (Option.some.inj h').symm]
  cases e with
  | rule rule => cases h; rfl
  | unknown code => cases h; rfl
  | completion own =>
      rw [post, markCompleted] at h
      cases ho : l.outcome? own with
      | none =>
          rw [ho] at h
          exact hset own _ rfl (by rw [ho]; rfl) (Except.ok.inj h).symm
      | some o =>
          rw [ho] at h
          cases o with
          | failed f => cases h
          | completed issues =>
              -- nothing is written, which is as good as writing what is there
              refine hset own (.completed issues) rfl (by rw [ho]; rfl) ?_
              rw [setOutcome, Keyed.insert_self ho]
              exact (Except.ok.inj h).symm
  | issue own i =>
      rw [post, recordIssue] at h
      cases ho : l.outcome? own with
      | none =>
          rw [ho] at h
          exact hset own _ rfl (by rw [ho]; rfl) (Except.ok.inj h).symm
      | some o =>
          rw [ho] at h
          cases o with
          | failed f => cases h
          | completed issues => exact hset own _ rfl (by rw [ho]; rfl) (Except.ok.inj h).symm
  | failure own f =>
      rw [post, recordFailure] at h
      split at h
      · cases h
      · cases h
      · exact hset own _ rfl rfl (Except.ok.inj h).symm
      · exact hset own _ rfl rfl (Except.ok.inj h).symm

/-- The ledger after an entry, be it accepted or refused. -/
def ask (l : Ledger) (e : Entry) : Ledger :=
  (l.enact e).1

/-- The entry is accepted. -/
def accepts (l : Ledger) (e : Entry) : Bool :=
  (l.enact e).2.isNone

/-- An entry is accepted and makes the ledger, or is refused and leaves it. -/
lemma ask_cases (l : Ledger) (e : Entry) :
    (l.post e = .ok (l.ask e) ∧ l.accepts e = true) ∨
      (∃ err, l.post e = .error err) ∧ l.ask e = l ∧ l.accepts e = false := by
  rw [ask, accepts, enact_eq]
  cases h : l.post e with
  | ok l' => exact Or.inl ⟨rfl, rfl⟩
  | error err => exact Or.inr ⟨⟨err, rfl⟩, rfl, rfl⟩

/-- A failure is not touched by any entry. -/
lemma outcome?_ask_failed {f : Failure} (h : l.outcome? code = some (.failed f)) (e : Entry) :
    (l.ask e).outcome? code = some (.failed f) := by
  rcases ask_cases l e with ⟨hok, -⟩ | ⟨-, hask, -⟩
  · have hother : e.code? ≠ some code := fun hcode => ne_failed_of_post hok hcode f h
    rw [outcome?_post hok, if_neg hother, h]
  · rw [hask, h]

/-- Issues are at most followed by one more. -/
lemma outcome?_ask_issues {i : Issue} {issues : List Issue}
    (h : l.outcome? code = some (.completed (i :: issues))) (e : Entry) :
    ∃ more, (l.ask e).outcome? code = some (.completed (i :: issues ++ more)) := by
  have hsame : l.outcome? code = some (.completed (i :: issues ++ [])) := by
    rw [h, List.append_nil]
  rcases ask_cases l e with ⟨hok, -⟩ | ⟨-, hask, -⟩
  · rw [outcome?_post hok]
    by_cases hcode : e.code? = some code
    · have hfailure := failure?_of_post hok hcode h
      rw [if_pos hcode]
      cases e with
      | rule _ => cases hcode
      | unknown _ => cases hcode
      | failure _ _ => cases hfailure
      | completion _ => exact ⟨[], by rw [hsame]; rfl⟩
      | issue _ j => exact ⟨[j], by rw [h]; rfl⟩
    · exact ⟨[], by rw [if_neg hcode, hsame]⟩
  · exact ⟨[], by rw [hask, hsame]⟩

/-! ### Entries one after another -/

/-- The ledger after entries one after another, the first of them in an empty one. -/
def after (entries : List Entry) : Ledger :=
  entries.foldl ask empty

/-- Those of some entries, made one after another, that are accepted. -/
def acceptedFrom (l : Ledger) : List Entry → List Entry
  | [] => []
  | e :: es => (if l.accepts e then [e] else []) ++ (l.ask e).acceptedFrom es

/-- The entries that are accepted, the first of them made in an empty ledger. -/
def accepted (entries : List Entry) : List Entry :=
  empty.acceptedFrom entries

lemma after_append (entries later : List Entry) :
    after (entries ++ later) = later.foldl ask (after entries) :=
  List.foldl_append

lemma after_concat (entries : List Entry) (e : Entry) :
    after (entries ++ [e]) = (after entries).ask e :=
  after_append entries [e]

lemma accepted_concat (entries : List Entry) (e : Entry) :
    accepted (entries ++ [e]) =
      accepted entries ++ if (after entries).accepts e then [e] else [] := by
  have key : ∀ (es : List Entry) (l : Ledger), l.acceptedFrom (es ++ [e]) =
      l.acceptedFrom es ++ if (es.foldl ask l).accepts e then [e] else [] := by
    intro es
    induction es with
    | nil => intro l; exact List.append_nil _
    | cons e' es ih =>
        intro l
        rw [List.cons_append, acceptedFrom, ih, acceptedFrom, List.append_assoc]
        rfl
  exact key entries empty

variable {entries : List Entry}

/-- **Failures stay**: whatever is entered later, a rule that has failed keeps its failure. -/
theorem outcome?_after_failed {f : Failure}
    (h : (after entries).outcome? code = some (.failed f)) (later : List Entry) :
    (after (entries ++ later)).outcome? code = some (.failed f) := by
  induction later using List.reverseRecOn with
  | nil => rw [List.append_nil, h]
  | append_singleton later e ih =>
      rw [← List.append_assoc, after_concat]
      exact outcome?_ask_failed ih e

/-- **Issues are only appended to**: a rule that has issues does not fail later. -/
theorem outcome?_after_issues {i : Issue} {issues : List Issue}
    (h : (after entries).outcome? code = some (.completed (i :: issues))) (later : List Entry) :
    ∃ more, (after (entries ++ later)).outcome? code = some (.completed (i :: issues ++ more)) := by
  induction later using List.reverseRecOn with
  | nil => exact ⟨[], by rw [List.append_nil, List.append_nil, h]⟩
  | append_singleton later e ih =>
      obtain ⟨more, hmore⟩ := ih
      obtain ⟨last, hlast⟩ := outcome?_ask_issues hmore e
      exact ⟨more ++ last, by rw [← List.append_assoc, after_concat, hlast]; simp⟩

/-! ### The outcome that entries determine -/

namespace Entry

/-- The entries about the outcome of a code. -/
def about (code : String) (es : List Entry) : List Entry :=
  es.filter fun e => e.code? == some code

/-- What entries about one code come to: the first failure if there is one, and otherwise all issues
in order, or no outcome at all where there is no entry. -/
def verdict (own : List Entry) : Option Outcome :=
  match own.findSome? failure? with
  | some f => some (.failed f)
  | none => if own.isEmpty then none else some (.completed (own.filterMap issue?))

/-- The outcome that entries determine for a code. -/
def settled (es : List Entry) (code : String) : Option Outcome :=
  verdict (about code es)

/-- Where entries have not come to a failure, one more turns what they have come to. -/
lemma verdict_concat {own : List Entry} {e : Entry} (hcode : e.code? = some code)
    (hopen : ∀ f, verdict own ≠ some (.failed f)) :
    verdict (own ++ [e]) = e.turn (verdict own) := by
  have hnone : own.findSome? failure? = none := by
    cases h : own.findSome? failure? with
    | none => rfl
    | some f => exact absurd (by rw [verdict, h]) (hopen f)
  have hbefore : verdict own =
      if own.isEmpty then none else some (.completed (own.filterMap issue?)) := by
    rw [verdict, hnone]
  have hissues : ((verdict own).map Outcome.issues).getD [] = own.filterMap issue? := by
    rw [hbefore]
    cases own <;> rfl
  have hlast : (own ++ [e]).findSome? failure? = e.failure? := by
    rw [List.findSome?_append, hnone]
    simp
  have hend : (own ++ [e]).filterMap issue? = own.filterMap issue? ++ e.issue?.toList := by
    rw [List.filterMap_append]
    cases e <;> rfl
  rw [verdict, hlast, hend]
  cases e with
  | rule _ => cases hcode
  | unknown _ => cases hcode
  | failure _ f => rfl
  | issue _ i =>
      rw [turn, hissues]
      simp [failure?, issue?]
  | completion _ =>
      rw [turn, hbefore]
      cases own <;> simp [failure?, issue?]

end Entry

/-- **Outcomes**: the outcome of a code is the one that its own accepted entries determine. -/
theorem outcome?_after (entries : List Entry) (code : String) :
    (after entries).outcome? code = Entry.settled (accepted entries) code := by
  induction entries using List.reverseRecOn with
  | nil => rfl
  | append_singleton entries e ih =>
      rw [after_concat, accepted_concat]
      rcases ask_cases (after entries) e with ⟨hok, hacc⟩ | ⟨-, hask, hacc⟩
      · rw [hacc, if_pos rfl, outcome?_post hok, Entry.settled, Entry.about, List.filter_append]
        by_cases hcode : e.code? = some code
        · have hown : [e].filter (fun e => e.code? == some code) = [e] := by
            simp [hcode]
          have hopen : ∀ f, Entry.settled (accepted entries) code ≠ some (.failed f) :=
            fun f => ih ▸ ne_failed_of_post hok hcode f
          rw [if_pos hcode, hown, ih]
          exact (Entry.verdict_concat hcode hopen).symm
        · have hown : [e].filter (fun e => e.code? == some code) = [] := by
            simp [hcode]
          rw [if_neg hcode, hown, List.append_nil, ih]
          rfl
      · rw [hacc, hask, ih]
        simp

/-! ### Histories -/

/-- **Histories of a ledger.**  After any entries the next one is accepted, and then changes the
outcome of its own code at most, or it is refused, and then leaves the ledger as it was; so it does
when it is made in place.  A rule that has failed keeps its failure whatever is entered later.  The
issues of a rule that has some are only appended to, so that it never fails.  The outcome of a code
is the one that its own accepted entries determine: none without entries, the first failure, and
otherwise all issues in order.  The end and the issues of a rule are refused exactly when it has
failed, its failure exactly when it has failed or has issues.  So a rule that came to its end
without issues may still fail. -/
theorem ledger_history (entries : List Entry) :
    let l := after entries
    (∀ e, (∃ l', l.post e = .ok l' ∧ l.enact e = (l', none) ∧ after (entries ++ [e]) = l' ∧
        ∀ code, e.code? ≠ some code → l'.outcome? code = l.outcome? code) ∨
      ∃ err, l.post e = .error err ∧ l.enact e = (l, some err) ∧ after (entries ++ [e]) = l) ∧
    (∀ code f later, l.outcome? code = some (.failed f) →
      (after (entries ++ later)).outcome? code = some (.failed f)) ∧
    (∀ code i issues later, l.outcome? code = some (.completed (i :: issues)) →
      ∃ more, (after (entries ++ later)).outcome? code =
        some (.completed (i :: issues ++ more))) ∧
    (∀ code, l.outcome? code = Entry.settled (accepted entries) code) ∧
    (∀ code err, l.markCompleted code = .error err ↔
      err = .alreadyFailed code ∧ ∃ f, l.outcome? code = some (.failed f)) ∧
    (∀ code i err, l.recordIssue code i = .error err ↔
      err = .alreadyFailed code ∧ ∃ f, l.outcome? code = some (.failed f)) ∧
    (∀ code f err, l.recordFailure code f = .error err ↔
      (err = .failureRepeated code ∧ ∃ g, l.outcome? code = some (.failed g)) ∨
      (err = .issuesRecorded code ∧
        ∃ i issues, l.outcome? code = some (.completed (i :: issues)))) ∧
    ∀ code f, l.outcome? code = some (.completed []) →
      ∃ l', l.recordFailure code f = .ok l' ∧ l'.outcome? code = some (.failed f) := by
  intro l
  refine ⟨fun e => ?_, fun code f later h => outcome?_after_failed h later,
    fun code i issues later h => outcome?_after_issues h later, outcome?_after entries,
    fun code err => markCompleted_eq_error_iff, fun code i err => recordIssue_eq_error_iff,
    fun code f err => recordFailure_eq_error_iff, fun code f h => ?_⟩
  · have hplace := enact_eq l e
    rw [after_concat, ask]
    cases hpost : l.post e with
    | ok l' =>
        rw [hpost] at hplace
        refine Or.inl ⟨l', rfl, hplace, congrArg Prod.fst hplace, fun code hcode => ?_⟩
        rw [outcome?_post hpost, if_neg hcode]
    | error err =>
        rw [hpost] at hplace
        exact Or.inr ⟨err, rfl, hplace, congrArg Prod.fst hplace⟩
  · have hfails : l.recordFailure code f = .ok (l.setOutcome code (.failed f)) := by
      rw [recordFailure, h]
    exact ⟨_, hfails, by rw [outcome?_setOutcome, if_pos rfl]⟩

end Ledger

end Census
