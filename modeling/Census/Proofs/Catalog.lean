/-
The rules in force in each built-in cycle, and when they fail.

* `Entry.Plain`, `Entry.made`: an entry whose texts need no trimming, and the rule that it gives;
* `Lists`: a registry whose rules are those of some entries;
* `lists_put`, `lists_amended`: the registries of entries, and what a revision makes of them;
* `Revision.inForce`, `Revision.Fits`, `Keeps`: the entries in force cycle by cycle, and the
  publications that keep them;
* `keeps_publishAll`: revisions that fit are published one after another;
* `cycles`, `keeps_publications`: the built-in cycles are published with the entries then in force;
* `cycles_fail_only_on_missing`: when their rules fail, and which rows these flag.
-/
import Census.Catalog
import Census.Proofs.Amendment
import Census.Proofs.Publications
import Census.Proofs.Check.Standard
import Census.Proofs.Run.Ledger

namespace Census.Catalog

/-! ### Entries -/

namespace Entry

variable {e : Entry}

/-- The rule of an entry as it stands. -/
def made (e : Entry) (number : ℕ) : Rule :=
  ⟨e.code, e.table, e.message, e.fields, e.severity, .standard number e.check, number⟩

/-- A rule keeps the texts of the entry as they are, and the check looks at fields of the rule. -/
structure Plain (e : Entry) : Prop where
  code : Text.trim e.code = e.code ∧ e.code ≠ ""
  table : Text.identifier e.table = e.table ∧ e.table ≠ ""
  fields : e.fields ≠ [] ∧ ∀ field ∈ e.fields, Text.trim field = field ∧ field ≠ ""
  columns : ∀ c ∈ e.check.columns, c ∈ e.fields

instance : Decidable e.Plain :=
  decidable_of_iff
    ((Text.trim e.code = e.code ∧ e.code ≠ "") ∧
      (Text.identifier e.table = e.table ∧ e.table ≠ "") ∧
      (e.fields ≠ [] ∧ ∀ field ∈ e.fields, Text.trim field = field ∧ field ≠ "") ∧
      ∀ c ∈ e.check.columns, c ∈ e.fields)
    ⟨fun h => ⟨h.1, h.2.1, h.2.2.1, h.2.2.2⟩, fun h => ⟨h.code, h.table, h.fields, h.columns⟩⟩

namespace Plain

lemma rule_draft (h : e.Plain) (number : ℕ) :
    (Draft.mk e.code e.table e.message e.fields e.severity
      (some (.standard number e.check))).rule number = .ok (e.made number) := by
  have htrim : e.fields.map Text.trim = e.fields := by
    conv_rhs => rw [← List.map_id e.fields]
    exact List.map_congr_left fun field hfield => (h.fields.2 field hfield).1
  have hfields : (Draft.mk e.code e.table e.message e.fields e.severity
      (some (.standard number e.check))).trimmedFields = e.fields := by
    rw [Draft.trimmedFields, htrim, List.filter_eq_self]
    exact fun field hfield => decide_eq_true (h.fields.2 field hfield).2
  rw [Draft.rule]
  simp only [hfields, h.code.1, h.table.1, if_neg h.code.2, if_neg h.table.2, if_neg h.fields.1]
  rfl

lemma rule_eq (h : e.Plain) (number : ℕ) : e.rule number = .ok (e.made number) := by
  simp only [rule, Draft.start, Draft.withMessage, Draft.withFields, Draft.withSeverity,
    Draft.withCheck, List.nil_append, h.rule_draft]

lemma drafted (h : e.Plain) (number : ℕ) : (e.made number).Drafted :=
  ⟨_, number, h.rule_draft number⟩

lemma carriedOutBy (h : e.Plain) (number : ℕ) : (e.made number).CarriedOutBy e.check where
  body := rfl
  fields := fun c hc => ⟨h.columns c hc, (h.fields.2 c (h.columns c hc)).1⟩
  table := h.table.1

end Plain

end Entry

/-- The rules of entries under consecutive numbers, as they stand. -/
def madeFrom (first : ℕ) (es : List Entry) : List Rule :=
  (es.zipIdx first).map fun e => e.1.made e.2

lemma rules_eq {es : List Entry} (h : ∀ e ∈ es, e.Plain) (first : ℕ) :
    rules first es = .ok (madeFrom first es) := by
  induction es generalizing first with
  | nil => rfl
  | cons e es ih =>
      obtain ⟨he, hes⟩ := List.forall_mem_cons.mp h
      have hrest : (es.zipIdx (first + 1)).mapM (fun e => e.1.rule e.2) =
          .ok (madeFrom (first + 1) es) := ih hes (first + 1)
      show ((e, first) :: es.zipIdx (first + 1)).mapM (fun e => e.1.rule e.2) = _
      rw [List.mapM_cons, he.rule_eq, hrest]
      rfl

/-! ### Registries of entries -/

/-- The rules of the registry are those of the entries, under some numbers. -/
structure Lists (r : Registry) (es : List Entry) : Prop where
  plain : ∀ e ∈ es, e.Plain
  made : ∀ e ∈ es, ∃ number, r.rule? e.code = some (e.made number)
  listed : ∀ code ∈ r.codes, ∃ e ∈ es, e.code = code

namespace Lists

variable {r : Registry} {es : List Entry}

/-- A rule of the registry is that of the entry of its code. -/
lemma eq_made (h : Lists r es) {code : String} {rule : Rule} (hr : r.rule? code = some rule) :
    ∃ e ∈ es, e.code = code ∧ ∃ number, rule = e.made number := by
  obtain ⟨e, he, rfl⟩ := h.listed code (Keyed.mem_keys_iff.mpr ⟨rule, hr⟩)
  obtain ⟨number, hmade⟩ := h.made e he
  exact ⟨e, he, rfl, number, Option.some.inj (hr.symm.trans hmade)⟩

lemma byCode (h : Lists r es) : ByCode r.rules := by
  intro code rule hr
  obtain ⟨e, he, rfl, number, rfl⟩ := h.eq_made hr
  exact ⟨rfl, (h.plain e he).drafted number⟩

/-- The codes are those of the entries. -/
lemma mem_codes_iff (h : Lists r es) {code : String} :
    code ∈ r.codes ↔ ∃ e ∈ es, e.code = code := by
  refine ⟨h.listed code, ?_⟩
  rintro ⟨e, he, rfl⟩
  obtain ⟨number, hmade⟩ := h.made e he
  exact Keyed.mem_keys_iff.mpr ⟨_, hmade⟩

end Lists

variable {es : List Entry}

lemma pairwise_madeFrom (h : es.Pairwise fun a b => a.code ≠ b.code) (first : ℕ) :
    (madeFrom first es).Pairwise fun a b => a.code ≠ b.code := by
  have hcodes : ((es.zipIdx first).map (·.1)).Pairwise fun a b => a.code ≠ b.code := by
    rw [List.zipIdx_map_fst]
    exact h
  have hpairs := List.pairwise_map.mp hcodes
  exact List.pairwise_map.mpr hpairs

/-- The rules of entries with different codes make up a registry that lists the entries. -/
lemma lists_put (hplain : ∀ e ∈ es, e.Plain) (h : es.Pairwise fun a b => a.code ≠ b.code)
    (first : ℕ) : Lists ((madeFrom first es).foldl Registry.put .empty) es where
  plain := hplain
  made := by
    intro e he
    obtain ⟨number, hnumber⟩ : ∃ number, (e, number) ∈ es.zipIdx first := by
      have hmem : e ∈ (es.zipIdx first).map (·.1) := by
        rw [List.zipIdx_map_fst]
        exact he
      obtain ⟨⟨_, number⟩, hnumber, rfl⟩ := List.mem_map.mp hmem
      exact ⟨number, hnumber⟩
    have hmade : e.made number ∈ madeFrom first es := List.mem_map.mpr ⟨_, hnumber, rfl⟩
    exact ⟨number, Registry.rule?_foldl_put_of_mem (pairwise_madeFrom h first) hmade _⟩
  listed := by
    intro code hcode
    by_contra hnone
    have hother : ∀ rule ∈ madeFrom first es, rule.code ≠ code := by
      rintro _ hrule rfl
      obtain ⟨⟨e, number⟩, he, rfl⟩ := List.mem_map.mp hrule
      exact hnone ⟨e, List.fst_mem_of_mem_zipIdx he, rfl⟩
    obtain ⟨rule, hrule⟩ := Keyed.mem_keys_iff.mp hcode
    have hfound := Registry.rule?_foldl_put_of_forall_ne hother .empty
    exact absurd (hfound.symm.trans hrule) (by simp [Registry.rule?, Registry.empty])

/-! ### Revisions -/

namespace Revision

/-- The entries in force after a revision: those before that it neither deletes nor replaces, and
its own. -/
def revise (r : Revision) (es : List Entry) : List Entry :=
  es.filter (fun e => e.code ∉ r.deleted ∧ ∀ e' ∈ r.entries, e'.code ≠ e.code) ++ r.entries

/-- The entries in force before a revision. -/
def before (r : Revision) (known : Keyed (List Entry)) : List Entry :=
  (known.get? r.prior).getD []

/-- The entries in force by cycle, with the cycle of a revision. -/
def inForce (known : Keyed (List Entry)) (r : Revision) : Keyed (List Entry) :=
  known.insert r.cycle (r.revise (r.before known))

/-- A revision for a new cycle on top of a known one that deletes codes in force there. -/
structure Fits (r : Revision) (known : Keyed (List Entry)) : Prop where
  cycle : Cycle.malformed r.cycle = false ∧ Text.trim r.cycle = r.cycle
  fresh : known.get? r.cycle = none
  prior : Cycle.malformed r.prior = false ∧ Text.trim r.prior = r.prior
  base : (known.get? r.prior).isSome = true
  deleted : ∀ code ∈ r.deleted, Text.trim code = code ∧ ∃ e ∈ r.before known, e.code = code
  plain : ∀ e ∈ r.entries, e.Plain
  distinct : r.entries.Pairwise fun a b => a.code ≠ b.code

end Revision

variable {r : Registry} {a : Amendment} {revision : Revision}

/-- What a revision makes of a registry lists the entries in force after it. -/
lemma lists_amended (h : Lists r es) (hput : Lists ⟨a.upserted⟩ revision.entries)
    (hdel : ∀ code, code ∈ a.deleted.keys ↔ code ∈ revision.deleted) :
    Lists (r.amended a) (revision.revise es) := by
  have hupserts : ∀ code, a.upserts code = true ↔ ∃ e ∈ revision.entries, e.code = code := by
    intro code
    rw [← hput.mem_codes_iff, Amendment.upserts, Keyed.contains_iff]
    rfl
  have hrule := fun code => Registry.rule?_amended hput.byCode r code
  refine ⟨fun e he => ?_, fun e he => ?_, fun code hcode => ?_⟩
  · rcases List.mem_append.mp he with hold | hnew
    · exact h.plain e (List.mem_filter.mp hold).1
    · exact hput.plain e hnew
  · rcases List.mem_append.mp he with hold | hnew
    · obtain ⟨hmem, hkept⟩ := List.mem_filter.mp hold
      obtain ⟨hstays, hother⟩ := of_decide_eq_true hkept
      have hnot : ¬a.upserts e.code = true := by
        intro hu
        obtain ⟨e', he', heq⟩ := (hupserts e.code).mp hu
        exact hother e' he' heq
      -- an entry that is kept has its rule from the base
      rw [hrule, if_neg hnot, if_neg fun hd => hstays ((hdel e.code).mp hd)]
      exact h.made e hmem
    · rw [hrule, if_pos ((hupserts e.code).mpr ⟨e, hnew, rfl⟩)]
      exact hput.made e hnew
  · obtain ⟨rule, hfound⟩ := Keyed.mem_keys_iff.mp hcode
    by_cases hu : a.upserts code = true
    · obtain ⟨e, he, hecode⟩ := (hupserts code).mp hu
      exact ⟨e, List.mem_append_right _ he, hecode⟩
    · have hbase := hrule code
      rw [if_neg hu] at hbase
      split at hbase
      · exact absurd (hbase.symm.trans hfound) (by simp)
      · next hstays =>
        have hcodes := Keyed.mem_keys_iff.mpr ⟨rule, hbase.symm.trans hfound⟩
        obtain ⟨e, he, rfl⟩ := h.listed code hcodes
        refine ⟨e, List.mem_append_left _ (List.mem_filter.mpr ⟨he, decide_eq_true ⟨?_, ?_⟩⟩), rfl⟩
        · exact fun hd => hstays ((hdel e.code).mpr hd)
        · exact fun e' he' heq => hu ((hupserts e.code).mpr ⟨e', he', heq⟩)

/-- The amendment of a revision that fits puts in the rules of its entries and deletes its codes. -/
lemma Revision.Fits.exists_amendment {known : Keyed (List Entry)} (h : revision.Fits known)
    (first : ℕ) : ∃ a, revision.amendment first = .ok a ∧ Lists ⟨a.upserted⟩ revision.entries ∧
      ∀ code, code ∈ a.deleted.keys ↔ code ∈ revision.deleted := by
  refine ⟨(madeFrom first revision.entries).foldl Amendment.upsert
    (Amendment.empty.deleteAll revision.deleted), ?_, ?_, fun code => ?_⟩
  · rw [amendment, rules_eq h.plain]
    rfl
  · rw [Amendment.upserted_foldl_upsert, Amendment.upserted_deleteAll]
    exact lists_put h.plain h.distinct first
  · rw [Amendment.deleted_foldl_upsert]
    exact Amendment.mem_keys_deleteAll_empty fun code hcode => (h.deleted code hcode).1

/-! ### Publications of the catalog -/

/-- Each published cycle has a registry of the entries in force. -/
def Keeps (p : Publications) (known : Keyed (List Entry)) : Prop :=
  ∀ id, Option.Rel (fun ruleset es => Lists ruleset.registry es)
    (p.rulesets.get? id) (known.get? id)

namespace Keeps

variable {p : Publications} {known : Keyed (List Entry)}

/-- A ruleset that is added is kept with its entries. -/
lemma add (h : Keeps p known) {ruleset : Ruleset} (hr : Lists ruleset.registry es) :
    Keeps (p.add ruleset) (known.insert ruleset.cycle.id es) := by
  intro id
  rw [Publications.get?_add, Keyed.get?_insert]
  split
  · exact .some hr
  · exact h id

/-- A cycle is neither published nor known, or it is both. -/
lemma none_or_some (h : Keeps p known) (id : String) :
    p.rulesets.get? id = none ∧ known.get? id = none ∨
      ∃ ruleset es, p.rulesets.get? id = some ruleset ∧ known.get? id = some es ∧
        Lists ruleset.registry es := by
  have hrel := h id
  generalize p.rulesets.get? id = ruleset? at hrel
  generalize known.get? id = es? at hrel
  cases hrel with
  | none => exact Or.inl ⟨rfl, rfl⟩
  | some hlists => exact Or.inr ⟨_, _, rfl, rfl, hlists⟩

lemma get?_eq_none (h : Keeps p known) {id : String} (hid : known.get? id = none) :
    p.rulesets.get? id = none := by
  rcases h.none_or_some id with ⟨hnone, -⟩ | ⟨ruleset, es, -, hes, -⟩
  · exact hnone
  · rw [hid] at hes
    cases hes

lemma exists_ruleset (h : Keeps p known) {id : String} (hid : known.get? id = some es) :
    ∃ ruleset, p.rulesets.get? id = some ruleset ∧ Lists ruleset.registry es := by
  rcases h.none_or_some id with ⟨-, hnone⟩ | ⟨ruleset, es', hruleset, hes, hlists⟩
  · rw [hid] at hnone
    cases hnone
  · rw [hid] at hes
    cases hes
    exact ⟨ruleset, hruleset, hlists⟩

lemma exists_entries (h : Keeps p known) {id : String} {ruleset : Ruleset}
    (hid : p.rulesets.get? id = some ruleset) :
    ∃ es, known.get? id = some es ∧ Lists ruleset.registry es := by
  rcases h.none_or_some id with ⟨hnone, -⟩ | ⟨ruleset', es, hruleset, hes, hlists⟩
  · rw [hid] at hnone
    cases hnone
  · rw [hid] at hruleset
    cases hruleset
    exact ⟨es, hes, hlists⟩

/-- The cycles with entries in force are those that are published. -/
lemma keys_eq (h : Keeps p known) : p.rulesets.keys = known.keys := by
  refine Keyed.eq_of_mem_iff_keys (Keyed.pairwise_keys _) (Keyed.pairwise_keys _) fun id => ?_
  rw [Keyed.mem_keys_iff, Keyed.mem_keys_iff]
  constructor
  · rintro ⟨ruleset, hid⟩
    obtain ⟨es, hes, -⟩ := h.exists_entries hid
    exact ⟨es, hes⟩
  · rintro ⟨es, hid⟩
    obtain ⟨ruleset, hruleset, -⟩ := h.exists_ruleset hid
    exact ⟨ruleset, hruleset⟩

lemma exists_resolve (h : Keeps p known) {cycle : String} (hcycle : cycle ∈ known.keys)
    (hformed : Cycle.malformed cycle = false) (htrim : Text.trim cycle = cycle) :
    ∃ r, p.resolve cycle = .ok r := by
  obtain ⟨es, hes⟩ := Keyed.mem_keys_iff.mp hcycle
  obtain ⟨ruleset, hruleset, -⟩ := h.exists_ruleset hes
  refine ⟨_, Publications.resolve_eq_ok_iff.mpr ⟨hformed, ruleset, ?_, rfl⟩⟩
  rw [htrim]
  exact hruleset

/-- **One revision**: a revision that fits is published, and its cycle is kept with the entries then
in force. -/
theorem publish (h : Keeps p known) (hfits : revision.Fits known) (first : ℕ) :
    ∃ a p', revision.amendment first = .ok a ∧
      p.publish revision.cycle revision.prior a = .ok p' ∧ Keeps p' (revision.inForce known) := by
  obtain ⟨es, hes⟩ := Option.isSome_iff_exists.mp hfits.base
  obtain ⟨base, hbase, hlists⟩ := h.exists_ruleset hes
  obtain ⟨a, ha, hput, hdel⟩ := hfits.exists_amendment first
  have hbefore : revision.before known = es := by
    rw [Revision.before, hes]
    rfl
  have hthere : ∀ code ∈ a.deleted.keys, code ∈ base.registry.codes := by
    intro code hcode
    have hold := (hfits.deleted code ((hdel code).mp hcode)).2
    rw [hbefore] at hold
    exact hlists.mem_codes_iff.mpr hold
  have hamend : base.registry.amend p.policy a = .ok (base.registry.amended a) :=
    Registry.amend_eq_ok_iff.mpr ⟨rfl, Or.inr hthere⟩
  have hfree : ¬p.rulesets.contains revision.cycle = true :=
    Publications.not_contains.mpr (h.get?_eq_none hfits.fresh)
  refine ⟨a, p.add ⟨⟨revision.cycle⟩, some ⟨revision.prior⟩, base.registry.amended a⟩, ha, ?_, ?_⟩
  · rw [Publications.publish_eq, hfits.cycle.1, hfits.prior.1, hfits.cycle.2, hfits.prior.2, hbase]
    simp only [hamend, if_neg hfree]
    rfl
  · rw [Revision.inForce, hbefore]
    exact h.add (lists_amended hlists hput hdel)

end Keeps

/-- Revisions fit one after another. -/
def FitInTurn (known : Keyed (List Entry)) : List Revision → Prop
  | [] => True
  | revision :: rest => revision.Fits known ∧ FitInTurn (revision.inForce known) rest

/-- **All revisions**: revisions that fit one after another are published in order, and each cycle is
kept with the entries then in force. -/
theorem keeps_publishAll {p : Publications} {known : Keyed (List Entry)}
    {revisions : List Revision} (h : Keeps p known) (hfit : FitInTurn known revisions) (first : ℕ) :
    ∃ p', publishAll p first revisions = .ok p' ∧
      Keeps p' (revisions.foldl Revision.inForce known) := by
  induction revisions generalizing p known first with
  | nil => exact ⟨p, rfl, h⟩
  | cons revision rest ih =>
      obtain ⟨hfirst, hrest⟩ := hfit
      obtain ⟨a, p', ha, hp', hkeeps⟩ := h.publish hfirst first
      obtain ⟨p'', hp'', hkeeps'⟩ := ih hkeeps hrest (first + revision.entries.length)
      refine ⟨p'', ?_, hkeeps'⟩
      simp only [publishAll, ha, hp', bind, Except.bind, hp'']

/-- The entries in force in the base cycle. -/
def baseInForce : Keyed (List Entry) :=
  Keyed.empty.insert baseCycle baseEntries

/-- The entries in force in every built-in cycle. -/
def cycles : Keyed (List Entry) :=
  revisions.foldl Revision.inForce baseInForce

lemma cycles_wellFormed :
    ∀ cycle ∈ cycles.keys, Cycle.malformed cycle = false ∧ Text.trim cycle = cycle := by
  decide

lemma fitInTurn_revisions : FitInTurn baseInForce revisions := by
  refine ⟨?_, ?_, trivial⟩ <;> constructor <;> decide

lemma keeps_base (first : ℕ) :
    ∃ registry, baseRegistry first = .ok registry ∧
      (Publications.start .strict).publishBase baseCycle registry =
        .ok ((Publications.start .strict).add ⟨⟨baseCycle⟩, none, registry⟩) ∧
      Keeps ((Publications.start .strict).add ⟨⟨baseCycle⟩, none, registry⟩) baseInForce := by
  have hplain : ∀ e ∈ baseEntries, e.Plain := by decide
  have hdistinct : baseEntries.Pairwise fun a b => a.code ≠ b.code := by decide
  have hstart : Keeps (Publications.start .strict) .empty := fun _ => .none
  refine ⟨(madeFrom first baseEntries).foldl Registry.put .empty, ?_, rfl,
    hstart.add (lists_put hplain hdistinct first)⟩
  rw [baseRegistry, rules_eq hplain]
  exact Registry.addAll_eq (pairwise_madeFrom hdistinct first) fun _ _ => rfl

/-- The built-in cycles are published, each with the entries then in force. -/
theorem keeps_publications (first : ℕ) :
    ∃ p, publications first = .ok p ∧ Keeps p cycles := by
  obtain ⟨registry, hregistry, hbase, hkeeps⟩ := keeps_base first
  obtain ⟨p, hp, hkeeps⟩ :=
    keeps_publishAll hkeeps fitInTurn_revisions (first + baseEntries.length)
  refine ⟨p, ?_, hkeeps⟩
  simp only [publications, hregistry, bind, Except.bind, hbase, hp]

/-- The codes in force in each cycle. -/
example : (cycles.map fun es => es.map Entry.code).entries =
    [("2023", ["1010", "1020", "1030", "2010", "2020", "2030", "2040", "2050"]),
      ("2024", ["1010", "1030", "2010", "2020", "2030", "2050", "2041", "1020", "2060"]),
      ("2025",
        ["1010", "1030", "2010", "2020", "2030", "2050", "2041", "1020", "2060", "2070"])] := by
  decide

/-! ### Runs -/

/-- **Built-in cycles fail only on missing data**: all of them are published, and each has just the
rules of the entries then in force.  Whatever the submission and the number of workers, in a run of
all rules one of them fails exactly when a table it reads is absent or a column it reads has no
match there up to ASCII case; the failure is the text of the first item that is missing.  Its
check never asks for an unknown field and never breaks down, and the rows that it flags are rows of
its own table, each once and in order. -/
theorem cycles_fail_only_on_missing (first : ℕ) :
    ∃ p, publications first = .ok p ∧ p.rulesets.keys = cycles.keys ∧
      (∀ cycle ∈ cycles.keys, ∃ r, p.resolve cycle = .ok r) ∧
      ∀ cycle r, p.resolve cycle = .ok r → ∃ es, cycles.get? (Text.trim cycle) = some es ∧
        (∀ code, code ∈ r.codes ↔ ∃ e ∈ es, e.code = code) ∧
        ∀ code rule, r.rule? code = some rule →
          ∃ e ∈ es, (∃ number, rule = e.made number) ∧ rule.code = code ∧
            ∀ o s, rule.FailsOnMissing e.check s (r.run o none s) := by
  obtain ⟨p, hp, hkeeps⟩ := keeps_publications first
  refine ⟨p, hp, hkeeps.keys_eq, fun cycle hcycle => ?_, fun cycle r hr => ?_⟩
  · obtain ⟨hformed, htrim⟩ := cycles_wellFormed cycle hcycle
    exact hkeeps.exists_resolve hcycle hformed htrim
  · obtain ⟨-, ruleset, hget, rfl⟩ := Publications.resolve_eq_ok_iff.mp hr
    obtain ⟨es, hes, hlists⟩ := hkeeps.exists_entries hget
    refine ⟨es, hes, fun code => hlists.mem_codes_iff, fun code rule hrule => ?_⟩
    obtain ⟨e, he, rfl, number, rfl⟩ := hlists.eq_made hrule
    refine ⟨e, he, ⟨number, rfl⟩, rfl, fun o s => ?_⟩
    exact ((hlists.plain e he).carriedOutBy number).failsOnMissing
      (outcome?_run hlists.byCode hrule rfl)

end Census.Catalog
