/-
What is logged of the rulesets, of loading, and of a run.

* `Catalog.journal`: the publication of the built-in rulesets;
* `tableLoaded`: a table loaded;
* `Plan.journal`: the rules of a run, one by one, and the totals;
* `validationCompleted`, `commandFailed`: the end of a validation and of a command.
-/
import Census.Catalog
import Census.Log.Event
import Census.Run.Execution

namespace Census

open Log (Event Field Span)

/-- A field with a number. -/
def numberField (name : String) (n : Nat) : Field :=
  (name, .number n)

/-- A field with a text. -/
def textField (name text : String) : Field :=
  (name, .text text)

/-! ### Publication -/

namespace Catalog

/-- What is logged of the base cycle. -/
def baseJournal (r : Ruleset) : List Event :=
  [⟨.debug, "discovered rule definitions", [numberField "rules" r.registry.size], []⟩,
    ⟨.info, "published base ruleset",
      [textField "cycle" r.cycle.id, numberField "rules" r.registry.size], []⟩]

/-- What is logged of a cycle that an amendment of another one gives. -/
def amendedJournal (r base : Ruleset) (a : Amendment) : List Event :=
  let span : Span :=
    ⟨"publish_ruleset", [textField "cycle" r.cycle.id, textField "prior" base.cycle.id]⟩
  let upserted := numberField "upserted" a.upserted.size
  let deleted := numberField "deleted" a.deleted.size
  [⟨.debug, "composed registry",
      [numberField "base" base.registry.size, upserted, deleted,
        numberField "result" r.registry.size], [span]⟩,
    ⟨.info, "published ruleset",
      [numberField "rules" r.registry.size, upserted, deleted], [span]⟩]

/-- What is logged of a revision, given the publications that have it. -/
def revisionJournal (p : Publications) (r : Revision) : Except RegistryError (List Event) := do
  return amendedJournal (← p.ruleset r.cycle) (← p.ruleset r.prior) (← r.amendment 0)

/-- What is logged of the built-in rulesets, given the publications that have them. -/
def journal (p : Publications) : Except RegistryError (List Event) := do
  let base := baseJournal (← p.ruleset baseCycle)
  let amended ← revisions.mapM (revisionJournal p)
  return base ++ amended.flatten ++
    [⟨.debug, "built-in rulesets published", [numberField "cycles" p.size], []⟩]

end Catalog

/-! ### Loading -/

/-- What is logged of a table with its identifier when it is loaded. -/
def tableLoaded (id : String) (t : Table) : Event :=
  ⟨.debug, "loaded table",
    [textField "table" id, numberField "rows" t.height,
      numberField "columns" t.columns.length], []⟩

/-! ### Runs -/

/-- The field with the time that something took, given in microseconds. -/
def elapsedField (microseconds : Nat) : Field :=
  numberField "elapsed_ms" (microseconds / 1000)

/-- What is logged of the outcome of a rule, `microseconds` into the run. -/
def Rule.outcomeEvent (r : Rule) (o : Outcome) (microseconds : Nat) : Event :=
  let code : Field := ("code", .quoted r.code)
  let failed := fun kind detail : String =>
    ⟨.warn, "rule failed", [code, textField "kind" kind, textField "detail" detail], []⟩
  match o with
  | .completed issues =>
    ⟨.debug, "rule completed",
      [code, numberField "issues" issues.length, numberField "elapsed_us" microseconds], []⟩
  | .failed (.fault detail) => failed "Error" detail
  | .failed (.crash detail) => failed "Panic" detail

/-- What is logged of an entry that the ledger refused. -/
def LedgerError.event (e : LedgerError) : Event :=
  ⟨.warn, "could not record rule outcome", [textField "code" e.code, textField "error" e.text], []⟩

/-- What is logged of a run by a number of workers, given the outcomes and the time it took. -/
def Plan.journal (p : Plan) (workers : Nat) (outcomes : List (Rule × Outcome))
    (microseconds : Nat) : List Event :=
  let span : Span :=
    ⟨"validation_run", [numberField "rules" p.rules.length, numberField "unknown" p.unknown.size,
      numberField "workers" workers]⟩
  let unknown := p.unknown.keys.map fun code =>
    ⟨.warn, "selected rule code is not in the registry", [textField "code" code], []⟩
  let rules := outcomes.map fun (r, o) => r.outcomeEvent o microseconds
  let refused := (p.refusals outcomes).map LedgerError.event
  let l := p.ledger outcomes
  let total : Event :=
    ⟨.info, "validation run finished",
      [numberField "executed" l.executed, numberField "issues" l.issueCount,
        numberField "failures" l.failureCount, elapsedField microseconds], []⟩
  (unknown ++ rules ++ refused ++ [total]).map (Event.within span)

/-- What is logged at the end of a validation. -/
def validationCompleted (data : Submission) (issues microseconds : Nat) : Event :=
  ⟨.info, "validation complete",
    [numberField "tables" data.size, numberField "rows" data.rowCount,
      numberField "issues" issues, elapsedField microseconds], []⟩

/-- What is logged of a command that failed. -/
def commandFailed (reason : String) : Event :=
  ⟨.error, "command failed", [textField "error" reason], []⟩

end Census
