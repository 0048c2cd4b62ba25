/-
Histories of publications.

* `Publication`, `perform`, `ask`, `after`: calls that publish, one after another;
* `Publishes`: what a call publishes, with `perform_eq_ok_iff`;
* `publishBase_eq`, `publish_eq`: in which order a call is checked;
* `get?_after_append`: what is published stays published;
* `exists_publishes`: every ruleset was published by some call;
* `Chain`: a ruleset followed up to its root, with the amendments on the way;
* `Chain.foldlM_amend`: the registry of a ruleset is its root, amended along its chain;
* `publication_history`: what holds after any calls.
-/
import Census.Publications
import Census.Proofs.Keyed

namespace Census

/-! ### Texts of cycles -/

/-- The text identifies no cycle: trimmed it is empty, or there is a blank in it. -/
def Cycle.malformed (text : String) : Bool :=
  Text.trim text == "" || (Text.trim text).toList.any Text.isBlank

lemma Cycle.parse_eq (text : String) :
    Cycle.parse text =
      if malformed text then .error (.invalidCycle text) else .ok ⟨Text.trim text⟩ := by
  rw [parse, malformed]
  simp only [Bool.or_eq_true, beq_iff_eq]

/-- What identifies a cycle is not empty when trimmed, and has no blank in it. -/
lemma Cycle.not_malformed {text : String} (h : malformed text = false) :
    Text.trim text ≠ "" ∧ ∀ c ∈ (Text.trim text).toList, Text.isBlank c = false := by
  rw [malformed, Bool.or_eq_false_iff, beq_eq_false_iff_ne, List.any_eq_false] at h
  exact ⟨h.1, fun c hc => Bool.eq_false_iff.mpr (h.2 c hc)⟩

/-- A text identifies a cycle exactly when its trimmed form does. -/
lemma Cycle.malformed_trim (text : String) : malformed (Text.trim text) = malformed text := by
  rw [malformed, malformed, Text.trim_trim]

/-! ### Calls -/

/-- A call that publishes: a registry for a cycle, or an amendment of a prior cycle. -/
inductive Publication
  | base (cycle : String) (registry : Registry)
  | revision (cycle prior : String) (amendment : Amendment)

namespace Publications

/-- Carries out a call. -/
def perform (p : Publications) : Publication → Except RegistryError Publications
  | .base cycle registry => p.publishBase cycle registry
  | .revision cycle prior a => p.publish cycle prior a

/-- The publications after a call, the same ones when it fails. -/
def ask (p : Publications) (call : Publication) : Publications :=
  match p.perform call with
  | .ok p' => p'
  | .error _ => p

/-- The publications after calls one after another, when nothing was published before. -/
def after (policy : Policy) (calls : List Publication) : Publications :=
  calls.foldl ask (start policy)

/-- What a call publishes when it does not fail. -/
inductive Publishes (p : Publications) : Publication → Ruleset → Prop
  | base {cycle : String} {registry : Registry} :
      Cycle.malformed cycle = false → p.rulesets.get? (Text.trim cycle) = none →
      Publishes p (.base cycle registry) ⟨⟨Text.trim cycle⟩, none, registry⟩
  | revision {cycle prior : String} {a : Amendment} {base : Ruleset} {registry : Registry} :
      Cycle.malformed cycle = false → p.rulesets.get? (Text.trim cycle) = none →
      Cycle.malformed prior = false → p.rulesets.get? (Text.trim prior) = some base →
      base.registry.amend p.policy a = .ok registry →
      Publishes p (.revision cycle prior a)
        ⟨⟨Text.trim cycle⟩, some ⟨Text.trim prior⟩, registry⟩

/-! ### One call -/

variable {p p' : Publications} {call : Publication} {r : Ruleset}

/-- There is no ruleset where none is found. -/
lemma not_contains {id : String} : ¬p.rulesets.contains id = true ↔ p.rulesets.get? id = none := by
  rw [Keyed.contains_iff, Keyed.get?_eq_none_iff]

lemma unpublished_eq (p : Publications) (cycle : String) :
    p.unpublished cycle =
      if Cycle.malformed cycle then .error (.invalidCycle cycle)
      else if p.rulesets.contains (Text.trim cycle) then .error (.cycleTaken (Text.trim cycle))
      else .ok ⟨Text.trim cycle⟩ := by
  rw [unpublished, Cycle.parse_eq]
  split <;> rfl

/-- How a publication without a predecessor is checked. -/
theorem publishBase_eq (p : Publications) (cycle : String) (registry : Registry) :
    p.publishBase cycle registry =
      if Cycle.malformed cycle then .error (.invalidCycle cycle)
      else if p.rulesets.contains (Text.trim cycle) then .error (.cycleTaken (Text.trim cycle))
      else .ok (p.add ⟨⟨Text.trim cycle⟩, none, registry⟩) := by
  rw [publishBase, unpublished_eq]
  split
  · rfl
  · split <;> rfl

/-- How a publication with a predecessor is checked: first its own cycle, then the prior one, then
the amendment. -/
theorem publish_eq (p : Publications) (cycle prior : String) (a : Amendment) :
    p.publish cycle prior a =
      if Cycle.malformed cycle then .error (.invalidCycle cycle)
      else if p.rulesets.contains (Text.trim cycle) then .error (.cycleTaken (Text.trim cycle))
      else if Cycle.malformed prior then .error (.invalidCycle prior)
      else match p.rulesets.get? (Text.trim prior) with
        | none => .error (.unknownCycle (Text.trim prior))
        | some base =>
          match base.registry.amend p.policy a with
          | .error e => .error e
          | .ok registry =>
            .ok (p.add ⟨⟨Text.trim cycle⟩, some ⟨Text.trim prior⟩, registry⟩) := by
  rw [publish, unpublished_eq, Cycle.parse_eq]
  split
  · rfl
  · split
    · rfl
    · split
      · rfl
      · show (p.find ⟨Text.trim prior⟩ >>= fun base => base.registry.amend p.policy a >>= _) = _
        rw [find]
        cases p.rulesets.get? (Text.trim prior) with
        | none => rfl
        | some base =>
            show (base.registry.amend p.policy a >>= _) = _
            dsimp only
            cases base.registry.amend p.policy a with
            | error e => rfl
            | ok registry => rfl

/-- A call does not fail exactly when it publishes something, and then this is added. -/
theorem perform_eq_ok_iff : p.perform call = .ok p' ↔ ∃ r, Publishes p call r ∧ p' = p.add r := by
  constructor
  · intro h
    cases call with
    | base cycle registry =>
        rw [perform, publishBase_eq] at h
        split at h
        · cases h
        · next hc =>
          split at h
          · cases h
          · next hfree =>
            cases h
            exact ⟨_, .base (Bool.eq_false_iff.mpr hc) (not_contains.mp hfree), rfl⟩
    | revision cycle prior a =>
        rw [perform, publish_eq] at h
        split at h
        · cases h
        · next hc =>
          split at h
          · cases h
          · next hfree =>
            split at h
            · cases h
            · next hp =>
              split at h
              · cases h
              · next base hbase =>
                split at h
                · cases h
                · next registry ha =>
                  cases h
                  exact ⟨_, .revision (Bool.eq_false_iff.mpr hc) (not_contains.mp hfree)
                    (Bool.eq_false_iff.mpr hp) hbase ha, rfl⟩
  · rintro ⟨r, hr, rfl⟩
    cases hr with
    | base hc hfree =>
        rw [perform, publishBase_eq, hc, Keyed.contains, hfree]
        rfl
    | revision hc hfree hp hbase ha =>
        rw [perform, publish_eq, hc, Keyed.contains, hfree, hp, hbase]
        simp [ha]

/-! ### What a call publishes -/

namespace Publishes

/-- The cycle has no ruleset before. -/
lemma get?_eq_none (h : Publishes p call r) : p.rulesets.get? r.cycle.id = none := by
  cases h with
  | base _ hfree => exact hfree
  | revision _ hfree _ _ _ => exact hfree

lemma malformed_id (h : Publishes p call r) : Cycle.malformed r.cycle.id = false := by
  cases h with
  | base hc _ => exact (Cycle.malformed_trim _).trans hc
  | revision hc _ _ _ _ => exact (Cycle.malformed_trim _).trans hc

lemma trim_id (h : Publishes p call r) : Text.trim r.cycle.id = r.cycle.id := by
  cases h with
  | base _ _ => exact Text.trim_trim _
  | revision _ _ _ _ _ => exact Text.trim_trim _

/-- The parent has a ruleset before. -/
lemma exists_parent (h : Publishes p call r) {q : Cycle} (hq : r.parent = some q) :
    ∃ base, p.rulesets.get? q.id = some base := by
  cases h with
  | base _ _ => cases hq
  | revision _ _ _ hbase _ => cases hq; exact ⟨_, hbase⟩

/-- No cycle is its own parent. -/
lemma parent_ne (h : Publishes p call r) {q : Cycle} (hq : r.parent = some q) : q ≠ r.cycle := by
  rintro rfl
  obtain ⟨base, hbase⟩ := h.exists_parent hq
  rw [h.get?_eq_none] at hbase
  cases hbase

end Publishes

lemma get?_add (p : Publications) (r : Ruleset) (id : String) :
    (p.add r).rulesets.get? id = if id = r.cycle.id then some r else p.rulesets.get? id :=
  Keyed.get?_insert ..

/-- A call fails and changes nothing, or adds what it publishes. -/
lemma ask_cases (p : Publications) (call : Publication) :
    (∃ e, p.perform call = .error e ∧ p.ask call = p) ∨
      ∃ r, Publishes p call r ∧ p.perform call = .ok (p.ask call) ∧ p.ask call = p.add r := by
  rw [ask]
  cases hcall : p.perform call with
  | error e => exact Or.inl ⟨e, rfl, rfl⟩
  | ok p' =>
      obtain ⟨r, hr, rfl⟩ := perform_eq_ok_iff.mp hcall
      exact Or.inr ⟨r, hr, rfl, rfl⟩

lemma policy_ask (p : Publications) (call : Publication) : (p.ask call).policy = p.policy := by
  rcases ask_cases p call with ⟨e, -, hask⟩ | ⟨r, -, -, hask⟩
  · rw [hask]
  · rw [hask]
    rfl

/-- What is published is not replaced by a call. -/
lemma get?_ask {id : String} (h : p.rulesets.get? id = some r) (call : Publication) :
    (p.ask call).rulesets.get? id = some r := by
  rcases ask_cases p call with ⟨e, -, hask⟩ | ⟨r', hr', -, hask⟩
  · rw [hask, h]
  · have hne : id ≠ r'.cycle.id := by
      rintro rfl
      rw [hr'.get?_eq_none] at h
      cases h
    rw [hask, get?_add, if_neg hne, h]

/-! ### Calls one after another -/

variable {policy : Policy} {calls later : List Publication}

lemma after_append (policy : Policy) (calls later : List Publication) :
    after policy (calls ++ later) = later.foldl ask (after policy calls) :=
  List.foldl_append

lemma after_concat (policy : Policy) (calls : List Publication) (call : Publication) :
    after policy (calls ++ [call]) = (after policy calls).ask call :=
  after_append policy calls [call]

lemma policy_after (policy : Policy) (calls : List Publication) :
    (after policy calls).policy = policy := by
  induction calls using List.reverseRecOn with
  | nil => rfl
  | append_singleton calls call ih => rw [after_concat, policy_ask, ih]

/-- What is published stays published, and the same. -/
lemma get?_after_append {id : String} (h : (after policy calls).rulesets.get? id = some r)
    (later : List Publication) : (after policy (calls ++ later)).rulesets.get? id = some r := by
  induction later using List.reverseRecOn with
  | nil => rw [List.append_nil, h]
  | append_singleton later call ih =>
      rw [← List.append_assoc, after_concat]
      exact get?_ask ih call

/-- Every ruleset was published by some call, under the identifier of its cycle. -/
theorem exists_publishes {id : String} (h : (after policy calls).rulesets.get? id = some r) :
    r.cycle.id = id ∧ ∃ earlier call later, calls = earlier ++ call :: later ∧
      Publishes (after policy earlier) call r := by
  induction calls using List.reverseRecOn with
  | nil => cases h
  | append_singleton calls call ih =>
      rw [after_concat] at h
      -- the last call has published it, or it was there before
      have hbefore : (after policy calls).rulesets.get? id = some r →
          r.cycle.id = id ∧ ∃ earlier call' later, calls ++ [call] = earlier ++ call' :: later ∧
            Publishes (after policy earlier) call' r := by
        intro hr
        obtain ⟨hid, earlier, call', later, rfl, hcall⟩ := ih hr
        exact ⟨hid, earlier, call', later ++ [call], by simp, hcall⟩
      rcases ask_cases (after policy calls) call with ⟨e, -, hask⟩ | ⟨r', hr', -, hask⟩
      · rw [hask] at h
        exact hbefore h
      · rw [hask, get?_add] at h
        split at h
        · next hid =>
          cases h
          exact ⟨hid.symm, calls, call, [], rfl, hr'⟩
        · exact hbefore h

/-! ### Chains -/

/-- A ruleset followed from parent to parent up to one that was published without a predecessor:
the registry of that one, and the amendments on the way down. -/
inductive Chain (policy : Policy) (calls : List Publication) :
    Ruleset → Registry → List Amendment → Prop
  | root {earlier later : List Publication} {cycle : String} {registry : Registry} {r : Ruleset} :
      calls = earlier ++ .base cycle registry :: later →
      Publishes (after policy earlier) (.base cycle registry) r →
      Chain policy calls r registry []
  | link {earlier later : List Publication} {cycle prior : String} {a : Amendment}
      {r parent : Ruleset} {q : Cycle} {root : Registry} {as : List Amendment} :
      calls = earlier ++ .revision cycle prior a :: later →
      Publishes (after policy earlier) (.revision cycle prior a) r →
      r.parent = some q → (after policy calls).rulesets.get? q.id = some parent →
      Chain policy calls parent root as →
      Chain policy calls r root (as ++ [a])

variable {root : Registry} {as : List Amendment}

/-- Later calls leave a chain as it is. -/
lemma Chain.append (h : Chain policy calls r root as) (later : List Publication) :
    Chain policy (calls ++ later) r root as := by
  have hmore : ∀ {earlier rest : List Publication} {call : Publication},
      calls = earlier ++ call :: rest → calls ++ later = earlier ++ call :: (rest ++ later) := by
    rintro earlier rest call rfl
    rw [List.append_assoc, List.cons_append]
  induction h with
  | root hcalls hcall => exact .root (hmore hcalls) hcall
  | link hcalls hcall hq hparent _ ih =>
      exact .link (hmore hcalls) hcall hq (get?_after_append hparent later) ih

/-- Every ruleset has a chain. -/
lemma exists_chain {id : String} (h : (after policy calls).rulesets.get? id = some r) :
    ∃ root as, Chain policy calls r root as := by
  induction calls using List.reverseRecOn generalizing id r with
  | nil => cases h
  | append_singleton calls call ih =>
      have hbefore : ∀ {id r}, (after policy calls).rulesets.get? id = some r →
          ∃ root as, Chain policy (calls ++ [call]) r root as := by
        intro id r hr
        obtain ⟨root, as, hchain⟩ := ih hr
        exact ⟨root, as, hchain.append [call]⟩
      have hcalls : calls ++ [call] = calls ++ call :: [] := rfl
      rw [after_concat] at h
      rcases ask_cases (after policy calls) call with ⟨e, -, hask⟩ | ⟨r', hr', -, hask⟩
      · rw [hask] at h
        exact hbefore h
      · rw [hask, get?_add] at h
        split at h
        · cases h
          cases hr' with
          | base hc hfree => exact ⟨_, [], .root hcalls (.base hc hfree)⟩
          | revision hc hfree hp hbase ha =>
              obtain ⟨root, as, hchain⟩ := hbefore hbase
              exact ⟨root, _, .link hcalls (.revision hc hfree hp hbase ha) rfl
                (get?_after_append hbase [_]) hchain⟩
        · exact hbefore h

/-- **Chains**: the registry of a ruleset is that of its root, amended along the chain. -/
theorem Chain.foldlM_amend (h : Chain policy calls r root as) :
    as.foldlM (Registry.amend policy) root = .ok r.registry := by
  induction h with
  | root _ hcall => cases hcall; rfl
  | @link earlier later cycle prior a r parent q root as hcalls hcall hq hparent _ ih =>
      cases hcall with
      | @revision _ _ _ base registry _ _ _ hbase ha =>
          cases hq
          -- the parent is what the prior cycle had when the call was made
          have hsame : base = parent := by
            have hlate := get?_after_append hbase (.revision cycle prior a :: later)
            rw [← hcalls, hparent] at hlate
            exact (Option.some.inj hlate).symm
          subst hsame
          rw [policy_after] at ha
          rw [List.foldlM_append, ih]
          show (Registry.amend policy base.registry a >>= pure) = _
          rw [ha]
          rfl

/-! ### Histories -/

/-- A cycle has a ruleset when the text identifies one that is published. -/
lemma ruleset_eq_ok_iff {p : Publications} {cycle : String} {r : Ruleset} :
    p.ruleset cycle = .ok r ↔
      Cycle.malformed cycle = false ∧ p.rulesets.get? (Text.trim cycle) = some r := by
  rw [ruleset, Cycle.parse_eq]
  cases Cycle.malformed cycle with
  | true => simp [bind, Except.bind]
  | false =>
      show p.find ⟨Text.trim cycle⟩ = _ ↔ _
      rw [find]
      cases p.rulesets.get? (Text.trim cycle) with
      | none => simp
      | some r => simp

/-- A cycle is resolved when the text identifies one that is published. -/
lemma resolve_eq_ok_iff {cycle : String} {registry : Registry} :
    p.resolve cycle = .ok registry ↔ Cycle.malformed cycle = false ∧
      ∃ r, p.rulesets.get? (Text.trim cycle) = some r ∧ r.registry = registry := by
  have hruleset : p.resolve cycle = .ok registry ↔
      ∃ r, p.ruleset cycle = .ok r ∧ r.registry = registry := by
    rw [resolve]
    cases p.ruleset cycle <;> simp [bind, Except.bind, pure, Except.pure]
  simp only [hruleset, ruleset_eq_ok_iff, and_assoc, exists_and_left]

/-- A resolved cycle stays resolved, with the same registry. -/
lemma resolve_after_append {cycle : String} {registry : Registry}
    (h : (after policy calls).resolve cycle = .ok registry) (later : List Publication) :
    (after policy (calls ++ later)).resolve cycle = .ok registry := by
  obtain ⟨hc, r, hr, hreg⟩ := resolve_eq_ok_iff.mp h
  exact resolve_eq_ok_iff.mpr ⟨hc, r, get?_after_append hr later, hreg⟩

/-- **Histories of publications.**  After any calls, the next one fails and changes nothing, or adds
one ruleset for a cycle that had none and changes no other.  A cycle that can be resolved is
resolved to the same registry after any later calls.  Every ruleset is found under the identifier of
its cycle, which is not empty and has no blank in it.  Its parent is another cycle, published before
the call that published the ruleset itself.  It has a chain, and along every chain of it its
registry is that of the root, amended step by step.  A call is checked for its own cycle, which must
be well formed and new, then for the prior one, which must be well formed and published, and last
the amendment may be refused; if none of this fails, it publishes. -/
theorem publication_history (policy : Policy) (calls : List Publication) :
    let p := after policy calls
    (∀ call, (∃ e, p.perform call = .error e ∧ p.ask call = p) ∨
      ∃ r, Publishes p call r ∧ p.perform call = .ok (p.ask call) ∧
        p.rulesets.get? r.cycle.id = none ∧
        (p.ask call).size = p.size + 1 ∧
        ∀ id, (p.ask call).rulesets.get? id =
          if id = r.cycle.id then some r else p.rulesets.get? id) ∧
    (∀ cycle registry later, p.resolve cycle = .ok registry →
      (after policy (calls ++ later)).resolve cycle = .ok registry) ∧
    (∀ id r, p.rulesets.get? id = some r →
      r.cycle.id = id ∧ id ≠ "" ∧ (∀ c ∈ id.toList, Text.isBlank c = false) ∧
      p.resolve id = .ok r.registry ∧
      (∃ earlier call later, calls = earlier ++ call :: later ∧
        Publishes (after policy earlier) call r ∧
        ∀ q, r.parent = some q → q ≠ r.cycle ∧
          ∃ parent, (after policy earlier).rulesets.get? q.id = some parent ∧
            p.rulesets.get? q.id = some parent) ∧
      (∃ root as, Chain policy calls r root as) ∧
      ∀ root as, Chain policy calls r root as →
        as.foldlM (Registry.amend policy) root = .ok r.registry) ∧
    (∀ cycle registry, p.publishBase cycle registry =
      if Cycle.malformed cycle then .error (.invalidCycle cycle)
      else if p.rulesets.contains (Text.trim cycle) then .error (.cycleTaken (Text.trim cycle))
      else .ok (p.add ⟨⟨Text.trim cycle⟩, none, registry⟩)) ∧
    ∀ cycle prior a, p.publish cycle prior a =
      if Cycle.malformed cycle then .error (.invalidCycle cycle)
      else if p.rulesets.contains (Text.trim cycle) then .error (.cycleTaken (Text.trim cycle))
      else if Cycle.malformed prior then .error (.invalidCycle prior)
      else match p.rulesets.get? (Text.trim prior) with
        | none => .error (.unknownCycle (Text.trim prior))
        | some base =>
          match base.registry.amend policy a with
          | .error e => .error e
          | .ok registry =>
            .ok (p.add ⟨⟨Text.trim cycle⟩, some ⟨Text.trim prior⟩, registry⟩) := by
  intro p
  refine ⟨fun call => ?_, fun cycle registry later h => resolve_after_append h later, ?_,
    publishBase_eq p, fun cycle prior a => ?_⟩
  · rcases ask_cases p call with hfail | ⟨r, hr, hok, hask⟩
    · exact Or.inl hfail
    · refine Or.inr ⟨r, hr, hok, hr.get?_eq_none, ?_, fun id => ?_⟩
      · rw [hask]
        exact Keyed.size_insert hr.get?_eq_none r
      · rw [hask, get?_add]
  · intro id r hget
    obtain ⟨rfl, earlier, call, later, hcalls, hcall⟩ := exists_publishes hget
    have hid := Cycle.not_malformed hcall.malformed_id
    rw [hcall.trim_id] at hid
    have hparent : ∀ q, r.parent = some q → q ≠ r.cycle ∧
        ∃ parent, (after policy earlier).rulesets.get? q.id = some parent ∧
          p.rulesets.get? q.id = some parent := by
      intro q hq
      obtain ⟨parent, hearly⟩ := hcall.exists_parent hq
      refine ⟨hcall.parent_ne hq, parent, hearly, ?_⟩
      have hlate := get?_after_append hearly (call :: later)
      rwa [← hcalls] at hlate
    refine ⟨rfl, hid.1, hid.2, ?_, ⟨earlier, call, later, hcalls, hcall, hparent⟩,
      exists_chain hget, fun root as hchain => hchain.foldlM_amend⟩
    refine resolve_eq_ok_iff.mpr ⟨hcall.malformed_id, r, ?_, rfl⟩
    rw [hcall.trim_id]
    exact hget
  · rw [publish_eq]
    simp only [p, policy_after]

end Publications

end Census
