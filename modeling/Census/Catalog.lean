/-
The built-in rules for school census returns.

Two tables are checked, `schools` and `learners`.  Codes in the 1000s read the first, codes in the
2000s the second.

* `Entry`: a rule with a standard check;
* `baseEntries`: the rules of the base cycle;
* `Revision`, `revisions`: what each later cycle changes;
* `publications`: every built-in cycle, published in order.

A catalog is numbered: its rules have consecutive editions and check identities from a first number
on, so that two catalogs with different numbers have no check in common.
-/
import Census.Check.Standard
import Census.Publications

namespace Census.Catalog

/-- A rule with a standard check. -/
structure Entry where
  code : String
  table : String
  severity : Severity
  message : String
  fields : List String
  check : Standard
  deriving DecidableEq, Repr

/-- The rule of an entry under a number. -/
def Entry.rule (e : Entry) (number : Nat) : Except RegistryError Rule :=
  let draft := (((Draft.start e.code e.table).withMessage e.message).withFields e.fields
    |>.withSeverity e.severity).withCheck (Check.standard number e.check)
  match draft.rule number with
  | .ok rule => .ok rule
  | .error fault => .error (.draft fault)

/-- The rules of entries under consecutive numbers. -/
def rules (first : Nat) (entries : List Entry) : Except RegistryError (List Rule) :=
  (entries.zipIdx first).mapM fun (e, number) => e.rule number

/-! ### The base cycle -/

def schools : String := "schools"

def learners : String := "learners"

def baseCycle : String := "2023"

/-- The phase of a school is one of those recognised. -/
def schoolPhase (phases : List String) : Entry :=
  ⟨"1020", schools, .error, "School phase is not a recognised phase", ["phase"],
    .allowedValues "phase" phases⟩

/-- The rules of the base cycle. -/
def baseEntries : List Entry :=
  [⟨"1010", schools, .error, "School identifier must be present", ["school_id"],
      .required "school_id"⟩,
    schoolPhase ["PRIMARY", "SECONDARY", "ALL_THROUGH", "SPECIAL"],
    ⟨"1030", schools, .error, "School identifier must be unique", ["school_id"],
      .unique "school_id"⟩,
    ⟨"2010", learners, .error, "Learner identifier must be present", ["learner_id"],
      .required "learner_id"⟩,
    ⟨"2020", learners, .error, "Learner identifier must be unique", ["learner_id"],
      .unique "learner_id"⟩,
    ⟨"2030", learners, .error, "Date of birth must be a valid YYYY-MM-DD date",
      ["date_of_birth"], .isoDate "date_of_birth"⟩,
    ⟨"2040", learners, .warning, "Gender must be M or F", ["gender"],
      .allowedValues "gender" ["M", "F"]⟩,
    ⟨"2050", learners, .error, "Learner school is not listed in the schools table",
      ["school_id"], .references "school_id" schools "school_id"⟩]

/-! ### Later cycles -/

/-- What a cycle changes in the rules of the one before it. -/
structure Revision where
  cycle : String
  prior : String
  deleted : List String
  entries : List Entry
  deriving DecidableEq, Repr

/-- The 2024 cycle: gender gains a value under a new code, middle schools become a phase and
enrolment dates are collected. -/
def revision2024 : Revision where
  cycle := "2024"
  prior := baseCycle
  deleted := ["2040"]
  entries :=
    [⟨"2041", learners, .warning, "Gender must be M, F or X", ["gender"],
        .allowedValues "gender" ["M", "F", "X"]⟩,
      schoolPhase ["PRIMARY", "MIDDLE", "SECONDARY", "ALL_THROUGH", "SPECIAL"],
      ⟨"2060", learners, .warning, "Enrolment date must be a valid YYYY-MM-DD date",
        ["enrolment_date"], .isoDate "enrolment_date"⟩]

/-- The 2025 cycle: the code of the enrolment date check is reused for the order of the two dates,
and year groups are range checked. -/
def revision2025 : Revision where
  cycle := "2025"
  prior := "2024"
  deleted := ["2060"]
  entries :=
    [⟨"2060", learners, .error, "Enrolment date must not precede date of birth",
        ["date_of_birth", "enrolment_date"], .dateOrder "date_of_birth" "enrolment_date"⟩,
      ⟨"2070", learners, .error, "Year group must be a whole number between 0 and 14",
        ["year_group"], .integerRange "year_group" 0 14⟩]

/-- The cycles after the base, in order. -/
def revisions : List Revision :=
  [revision2024, revision2025]

/-- The amendment of a revision, its rules numbered from a first number on. -/
def Revision.amendment (r : Revision) (first : Nat) : Except RegistryError Amendment := do
  let rules ← rules first r.entries
  return rules.foldl Amendment.upsert (Amendment.empty.deleteAll r.deleted)

/-! ### Publication -/

/-- The registry of the base cycle. -/
def baseRegistry (first : Nat) : Except RegistryError Registry := do
  Registry.ofList (← rules first baseEntries)

/-- Publishes revisions in order. -/
def publishAll (p : Publications) (first : Nat) : List Revision →
    Except RegistryError Publications
  | [] => .ok p
  | r :: rest => do
    let p ← p.publish r.cycle r.prior (← r.amendment first)
    publishAll p (first + r.entries.length) rest

/-- Every built-in cycle, published in order. -/
def publications (first : Nat) : Except RegistryError Publications := do
  let p ← (Publications.start .strict).publishBase baseCycle (← baseRegistry first)
  publishAll p (first + baseEntries.length) revisions

/-- How many numbers a catalog takes. -/
def size : Nat :=
  baseEntries.length + (revisions.map (·.entries.length)).foldr (· + ·) 0

end Census.Catalog
