/-
Registries and builders, whatever was done to make them.

* `Rule.Normal`, `Registry.Normal`: texts in normal form, and rules under their own codes;
* `Rule.Drafted.normal`, `Registry.Built.normal`: what drafts and the operations give is normal;
* `Workshop`, `Workshop.Step`, `Workshop.step`: registries, builders and publications side by side,
  and what can be done with them;
* `Workshop.Sound`: everything is made of drafted rules, with `Sound.step` and `sound_after`;
* `Workshop.Extends`: no registry is edited, with `extends_step`;
* `Workshop.registries_normal`: what holds after any steps.
-/
import Census.Proofs.Draft
import Census.Proofs.Publications

namespace Census

/-! ### Normal form -/

/-- Code, table and fields are trimmed and not empty, and the table is in lower case. -/
structure Rule.Normal (rule : Rule) : Prop where
  code : rule.code ≠ "" ∧ Text.trim rule.code = rule.code
  table : rule.table ≠ "" ∧ Text.trim rule.table = rule.table ∧ Text.lower rule.table = rule.table
  fields : rule.fields ≠ [] ∧
    ∀ field ∈ rule.fields, ¬Text.Blank field ∧ Text.trim field = field

/-- Every rule stands under its own code, the codes ascend, and the rules are in normal form. -/
structure Registry.Normal (r : Registry) : Prop where
  own : ∀ e ∈ r.rules.entries, e.1 = e.2.code
  ascending : r.codes.Pairwise (· < ·)
  rules : ∀ rule ∈ r.toList, rule.Normal

/-- What a draft gives is in normal form. -/
lemma Rule.Drafted.normal {rule : Rule} (h : rule.Drafted) : rule.Normal := by
  obtain ⟨d, hcode, hcode', htable, htable', hfields, hfields'⟩ := h.exists_draft
  refine ⟨⟨hcode', h.trim_code⟩, ⟨htable', ?_, ?_⟩, hfields', fun field hfield => ?_⟩
  · rw [htable, Text.identifier, Text.trim_lower, Text.trim_trim]
  · rw [htable, Text.identifier, Text.lower_lower]
  · rw [hfields, Draft.trimmedFields_eq] at hfield
    obtain ⟨given, hgiven, rfl⟩ := List.mem_map.mp hfield
    have hfilled := of_decide_eq_true (List.mem_filter.mp hgiven).2
    exact ⟨Text.not_blank_trim hfilled, Text.trim_trim given⟩

/-- What the operations make is in normal form. -/
lemma Registry.Built.normal {r : Registry} (h : r.Built) : r.Normal := by
  have hrule : ∀ e ∈ r.rules.entries, e.2.code = e.1 ∧ e.2.Drafted :=
    fun e he => h.byCode e.1 e.2 (Keyed.mem_entries_iff.mp he)
  refine ⟨fun e he => (hrule e he).1.symm, r.rules.pairwise_keys, fun rule hmem => ?_⟩
  obtain ⟨e, he, rfl⟩ := List.mem_map.mp hmem
  exact (hrule e he).2.normal

/-! ### Steps -/

/-- A rule that some draft gives. -/
abbrev DraftedRule := {rule : Rule // rule.Drafted}

/-- An amendment made of such rules. -/
abbrev BuiltAmendment := {a : Amendment // a.Built}

/-- Registries, builders and publications, each kind numbered in the order in which they were
made.  A builder is a registry that is still edited. -/
structure Workshop where
  registries : List Registry
  builders : List Registry
  publications : List Publications

namespace Workshop

/-- What can be done.  Registries, builders and publications are named by their numbers, and rules
are those that drafts give. -/
inductive Step
  /-- An empty builder. -/
  | start
  /-- A builder with the rules of a registry. -/
  | edit (registry : ℕ)
  | add (builder : ℕ) (rule : DraftedRule)
  | put (builder : ℕ) (rule : DraftedRule)
  | erase (builder : ℕ) (code : String)
  /-- A registry with the rules of a builder. -/
  | build (builder : ℕ)
  /-- The registry of a list of rules. -/
  | discover (rules : List DraftedRule)
  | amend (policy : Policy) (base : ℕ) (amendment : BuiltAmendment)
  /-- Publications without any ruleset. -/
  | found (policy : Policy)
  | publishBase (publications : ℕ) (cycle : String) (registry : ℕ)
  | publish (publications : ℕ) (cycle prior : String) (amendment : BuiltAmendment)
  /-- The registry of a published cycle. -/
  | resolve (publications : ℕ) (cycle : String)

/-- Nothing made yet. -/
def empty : Workshop :=
  ⟨[], [], []⟩

/-- Keeps a registry, if one was made. -/
def keep (w : Workshop) : Except RegistryError Registry → Workshop
  | .ok r => { w with registries := w.registries ++ [r] }
  | .error _ => w

/-- Edits a builder in place.  It stays as it is when the edit is refused. -/
def change (w : Workshop) (builder : ℕ) (f : Registry → Except RegistryError Registry) : Workshop :=
  match w.builders[builder]? with
  | some b =>
    match f b with
    | .ok b' => { w with builders := w.builders.set builder b' }
    | .error _ => w
  | none => w

/-- Adds to publications what a call publishes. -/
def ask (w : Workshop) (publications : ℕ) (call : Publication) : Workshop :=
  match w.publications[publications]? with
  | some p => { w with publications := w.publications.set publications (p.ask call) }
  | none => w

/-- The workshop after a step, as it was when the step names what is not there. -/
def step (w : Workshop) : Step → Workshop
  | .start => { w with builders := w.builders ++ [.empty] }
  | .edit n => { w with builders := w.builders ++ w.registries[n]?.toList }
  | .add n rule => w.change n fun b => b.add rule
  | .put n rule => w.change n fun b => .ok (b.put rule)
  | .erase n code => w.change n fun b => .ok (b.erase code)
  | .build n => { w with registries := w.registries ++ w.builders[n]?.toList }
  | .discover rules => w.keep (Registry.ofList (rules.map (·.1)))
  | .amend policy n a =>
    match w.registries[n]? with
    | some base => w.keep (base.amend policy a)
    | none => w
  | .found policy => { w with publications := w.publications ++ [.start policy] }
  | .publishBase n cycle k =>
    match w.registries[k]? with
    | some r => w.ask n (.base cycle r)
    | none => w
  | .publish n cycle prior a => w.ask n (.revision cycle prior a)
  | .resolve n cycle =>
    match w.publications[n]? with
    | some p => w.keep (p.resolve cycle)
    | none => w

/-- The workshop after steps one after another. -/
def after (steps : List Step) : Workshop :=
  steps.foldl step empty

variable {w : Workshop}

lemma after_append (steps later : List Step) :
    after (steps ++ later) = later.foldl step (after steps) :=
  List.foldl_append

/-! ### What is made -/

/-- Registries, builders and published registries are what the operations make of drafted rules. -/
structure Sound (w : Workshop) : Prop where
  registries : ∀ r ∈ w.registries, r.Built
  builders : ∀ b ∈ w.builders, b.Built
  published : ∀ p ∈ w.publications, ∀ id rs, p.rulesets.get? id = some rs → rs.registry.Built

namespace Sound

lemma registry (h : Sound w) {n : ℕ} {r : Registry} (hr : w.registries[n]? = some r) : r.Built :=
  h.registries r (List.mem_of_getElem? hr)

lemma builder (h : Sound w) {n : ℕ} {b : Registry} (hb : w.builders[n]? = some b) : b.Built :=
  h.builders b (List.mem_of_getElem? hb)

lemma keep (h : Sound w) {made : Except RegistryError Registry}
    (hmade : ∀ r, made = .ok r → r.Built) : Sound (w.keep made) := by
  cases made with
  | error e => exact h
  | ok r =>
      refine ⟨fun r' hr' => ?_, h.builders, h.published⟩
      rcases List.mem_append.mp hr' with hold | hnew
      · exact h.registries r' hold
      · exact List.mem_singleton.mp hnew ▸ hmade r rfl

lemma change (h : Sound w) (n : ℕ) {f : Registry → Except RegistryError Registry}
    (hf : ∀ b b', b.Built → f b = .ok b' → b'.Built) : Sound (w.change n f) := by
  rw [Workshop.change]
  split
  · next b hb =>
    split
    · next b' hb' =>
      refine ⟨h.registries, fun b'' hb'' => ?_, h.published⟩
      rcases List.mem_or_eq_of_mem_set hb'' with hold | rfl
      · exact h.builders b'' hold
      · exact hf b _ (h.builder hb) hb'
    · exact h
  · exact h

/-- A call that publishes a registry, or amends a published one, adds another that is made. -/
lemma ask (h : Sound w) (n : ℕ) {call : Publication}
    (hbase : ∀ cycle r, call = .base cycle r → r.Built)
    (hrevision : ∀ cycle prior a, call = .revision cycle prior a → a.Built) :
    Sound (w.ask n call) := by
  rw [Workshop.ask]
  split
  · next p hp =>
    refine ⟨h.registries, h.builders, fun p' hp' id rs hrs => ?_⟩
    have hbefore := h.published p (List.mem_of_getElem? hp)
    rcases List.mem_or_eq_of_mem_set hp' with hold | rfl
    · exact h.published p' hold id rs hrs
    rcases Publications.ask_cases p call with ⟨e, -, hask⟩ | ⟨new, hnew, -, hask⟩
    · exact hbefore id rs (hask ▸ hrs)
    · rw [hask, Publications.get?_add] at hrs
      split at hrs
      · cases hrs
        cases hnew with
        | base _ _ => exact hbase _ _ rfl
        | revision _ _ _ hprior hamend =>
            exact .amend (hbefore _ _ hprior) (hrevision _ _ _ rfl) hamend
      · exact hbefore id rs hrs
  · exact h

/-- **One step**: whatever is done, everything is still made of drafted rules. -/
theorem step (h : Sound w) (s : Step) : Sound (w.step s) := by
  cases s with
  | start =>
      refine ⟨h.registries, fun b hb => ?_, h.published⟩
      rcases List.mem_append.mp hb with hold | hnew
      · exact h.builders b hold
      · exact List.mem_singleton.mp hnew ▸ .empty
  | edit n =>
      refine ⟨h.registries, fun b hb => ?_, h.published⟩
      rcases List.mem_append.mp hb with hold | hnew
      · exact h.builders b hold
      · exact h.registry (Option.mem_toList.mp hnew)
  | add n rule => exact h.change n fun b b' hb hb' => .add hb rule.2 hb'
  | put n rule => exact h.change n fun b b' hb hb' => Except.ok.inj hb' ▸ .put hb rule.2
  | erase n code => exact h.change n fun b b' hb hb' => Except.ok.inj hb' ▸ .erase code hb
  | build n =>
      refine ⟨fun r hr => ?_, h.builders, h.published⟩
      rcases List.mem_append.mp hr with hold | hnew
      · exact h.registries r hold
      · exact h.builder (Option.mem_toList.mp hnew)
  | discover rules =>
      refine h.keep fun r hr => .ofList (fun rule hrule => ?_) hr
      obtain ⟨drafted, -, rfl⟩ := List.mem_map.mp hrule
      exact drafted.2
  | amend policy n a =>
      rw [Workshop.step]
      split
      · next base hbase => exact h.keep fun r hr => .amend (h.registry hbase) a.2 hr
      · exact h
  | found policy =>
      refine ⟨h.registries, h.builders, fun p hp => ?_⟩
      rcases List.mem_append.mp hp with hold | hnew
      · exact h.published p hold
      · rw [List.mem_singleton.mp hnew]
        exact fun id rs hrs => absurd hrs (by simp [Publications.start])
  | publishBase n cycle k =>
      rw [Workshop.step]
      split
      · next r hr =>
        refine h.ask n (fun _ r' hcall => ?_) (fun _ _ _ hcall => by cases hcall)
        cases hcall
        exact h.registry hr
      · exact h
  | publish n cycle prior a =>
      refine h.ask n (fun _ _ hcall => by cases hcall) (fun _ _ a' hcall => ?_)
      cases hcall
      exact a.2
  | resolve n cycle =>
      rw [Workshop.step]
      split
      · next p hp =>
        refine h.keep fun r hr => ?_
        obtain ⟨-, rs, hrs, rfl⟩ := Publications.resolve_eq_ok_iff.mp hr
        exact h.published p (List.mem_of_getElem? hp) _ rs hrs
      · exact h

end Sound

lemma sound_foldl (h : Sound w) (steps : List Step) : Sound (steps.foldl step w) := by
  induction steps generalizing w with
  | nil => exact h
  | cons s steps ih => exact ih (h.step s)

lemma sound_after (steps : List Step) : Sound (after steps) :=
  sound_foldl ⟨by simp [empty], by simp [empty], by simp [empty]⟩ steps

/-! ### What stays -/

/-- All registries are still there as they were. -/
def Extends (w w' : Workshop) : Prop :=
  w.registries <+: w'.registries

lemma extends_keep (w : Workshop) (made : Except RegistryError Registry) :
    w.Extends (w.keep made) := by
  cases made with
  | error e => exact List.prefix_rfl
  | ok r => exact List.prefix_append ..

/-- No step edits a registry. -/
lemma extends_step (w : Workshop) (s : Step) : w.Extends (w.step s) := by
  have hchange : ∀ n f, w.Extends (w.change n f) := by
    intro n f
    rw [change]
    split
    · split <;> exact List.prefix_rfl
    · exact List.prefix_rfl
  have hask : ∀ n call, w.Extends (w.ask n call) := by
    intro n call
    rw [ask]
    split <;> exact List.prefix_rfl
  cases s with
  | start | edit | found => exact List.prefix_rfl
  | add | put | erase => exact hchange _ _
  | build => exact List.prefix_append ..
  | discover => exact extends_keep _ _
  | amend | resolve =>
      rw [step]
      split
      · exact extends_keep _ _
      · exact List.prefix_rfl
  | publishBase =>
      rw [step]
      split
      · exact hask _ _
      · exact List.prefix_rfl
  | publish => exact hask _ _

lemma extends_foldl (w : Workshop) (steps : List Step) : w.Extends (steps.foldl step w) := by
  induction steps generalizing w with
  | nil => exact List.prefix_rfl
  | cons s steps ih => exact (extends_step w s).trans (ih (w.step s))

/-- A rule whose code is there is refused, and a refused addition changes nothing at all. -/
lemma step_add (w : Workshop) {n : ℕ} {b : Registry} (hb : w.builders[n]? = some b)
    (rule : DraftedRule) :
    (b.contains rule.1.code = true →
      b.add rule = .error (.codeTaken rule.1.code) ∧ w.step (.add n rule) = w) ∧
    (b.contains rule.1.code = false →
      b.add rule = .ok (b.put rule) ∧
        w.step (.add n rule) = { w with builders := w.builders.set n (b.put rule) }) := by
  have hstep : w.step (.add n rule) = w.change n fun b => b.add rule := rfl
  constructor
  · intro hthere
    have hadd : b.add rule = .error (.codeTaken rule.1.code) := by
      rw [Registry.add, Registry.add?, if_pos hthere]
    refine ⟨hadd, ?_⟩
    rw [hstep, change, hb]
    simp only [hadd]
  · intro hfree
    have hadd : b.add rule = .ok (b.put rule) := by
      rw [Registry.add, Registry.add?, if_neg (by simp [hfree])]
    refine ⟨hadd, ?_⟩
    rw [hstep, change, hb]
    simp only [hadd]

/-- **Registries in normal form.**  After any steps, in every registry, every builder and every
published ruleset each rule stands under its own code, the codes ascend, and codes, tables and
fields are in normal form.  An addition is refused just where the code is there, and then nothing
changes.  Whatever is done later, to builders that were made of them or otherwise, the registries
are still there as they are. -/
theorem registries_normal (steps : List Step) :
    let w := after steps
    (∀ r ∈ w.registries, r.Normal) ∧ (∀ b ∈ w.builders, b.Normal) ∧
    (∀ p ∈ w.publications, ∀ id rs, p.rulesets.get? id = some rs → rs.registry.Normal) ∧
    (∀ (n : ℕ) (b : Registry) (rule : DraftedRule), w.builders[n]? = some b →
      (b.contains rule.1.code = true →
        b.add rule = .error (.codeTaken rule.1.code) ∧ w.step (.add n rule) = w) ∧
      (b.contains rule.1.code = false →
        b.add rule = .ok (b.put rule) ∧
          w.step (.add n rule) = { w with builders := w.builders.set n (b.put rule) })) ∧
    ∀ (later : List Step) (n : ℕ) (r : Registry), w.registries[n]? = some r →
      (after (steps ++ later)).registries[n]? = some r := by
  intro w
  have hsound := sound_after steps
  refine ⟨fun r hr => (hsound.registries r hr).normal, fun b hb => (hsound.builders b hb).normal,
    fun p hp id rs hrs => (hsound.published p hp id rs hrs).normal,
    fun n b rule hb => step_add w hb rule, fun later n r hr => ?_⟩
  have hextends : w.Extends (after (steps ++ later)) := by
    rw [after_append]
    exact extends_foldl w later
  obtain ⟨more, hmore⟩ := hextends
  obtain ⟨hlt, -⟩ := List.getElem?_eq_some_iff.mp hr
  rw [← hmore, List.getElem?_append_left hlt, hr]

end Workshop

end Census
