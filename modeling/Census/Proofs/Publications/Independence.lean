/-
Publications that do not concern each other.

* `Publication.cycle`, `Publication.prior?`: the cycles that a call names;
* `Publications.answer`: the ruleset that a call gives back, or why it fails;
* `SeenAlike`, `answer_eq`: a call reads the rulesets of the cycles that it names and no other;
* `get?_ask_of_ne`: a call writes the ruleset of its own cycle and no other;
* `Publication.Independent`: two calls, neither of which reads or writes what the other one writes;
* `ask_comm`: such calls may be made in either order.
-/
import Census.Proofs.Publications
import Census.Proofs.Registry

namespace Census

lemma Cycle.eq_of_id {c c' : Cycle} (h : c.id = c'.id) : c = c' := by
  cases c
  cases c'
  exact congrArg Cycle.mk h

/-! ### What a call names -/

namespace Publication

/-- The text of the cycle that a call publishes. -/
def cycle : Publication → String
  | base cycle _ => cycle
  | revision cycle _ _ => cycle

/-- The text of the prior cycle, if the call amends one. -/
def prior? : Publication → Option String
  | base _ _ => none
  | revision _ prior _ => some prior

/-- The cycles of two calls differ, and neither has the cycle of the other as its prior one.  Texts
that identify no cycle do not matter. -/
structure Independent (a b : Publication) : Prop where
  cycles : ∀ c, Cycle.parse a.cycle = .ok c → Cycle.parse b.cycle ≠ .ok c
  prior_left : ∀ prior ∈ a.prior?, ∀ c, Cycle.parse prior = .ok c → Cycle.parse b.cycle ≠ .ok c
  prior_right : ∀ prior ∈ b.prior?, ∀ c, Cycle.parse prior = .ok c → Cycle.parse a.cycle ≠ .ok c

lemma Independent.symm {a b : Publication} (h : a.Independent b) : b.Independent a where
  cycles := fun c hb ha => h.cycles c ha hb
  prior_left := h.prior_right
  prior_right := h.prior_left

/-- Texts that differ when trimmed identify no common cycle. -/
lemma parse_ne_of_trim_ne {text text' : String} (h : Text.trim text ≠ Text.trim text') (c : Cycle)
    (hc : Cycle.parse text = .ok c) : Cycle.parse text' ≠ .ok c := by
  have hid : ∀ {text : String}, Cycle.parse text = .ok c → c.id = Text.trim text := by
    intro text htext
    rw [Cycle.parse_eq] at htext
    split at htext
    · cases htext
    · cases htext
      rfl
  exact fun hc' => h ((hid hc).symm.trans (hid hc'))

lemma Independent.of_trim_ne {a b : Publication} (h : Text.trim a.cycle ≠ Text.trim b.cycle)
    (ha : ∀ prior ∈ a.prior?, Text.trim prior ≠ Text.trim b.cycle)
    (hb : ∀ prior ∈ b.prior?, Text.trim prior ≠ Text.trim a.cycle) : a.Independent b where
  cycles := parse_ne_of_trim_ne h
  prior_left := fun prior hprior => parse_ne_of_trim_ne (ha prior hprior)
  prior_right := fun prior hprior => parse_ne_of_trim_ne (hb prior hprior)

end Publication

namespace Publications

variable {p q : Publications} {call a b : Publication} {r : Ruleset}

/-! ### What a call gives back -/

/-- The ruleset that a call publishes, or why it fails. -/
def answer (p : Publications) (call : Publication) : Except RegistryError Ruleset :=
  match p.perform call with
  | .ok p' => p'.ruleset call.cycle
  | .error e => .error e

/-- What is added is found under every text of its cycle. -/
lemma ruleset_add {text : String} (h : Cycle.parse text = .ok r.cycle) (p : Publications) :
    (p.add r).ruleset text = .ok r := by
  have hget : (p.add r).rulesets.get? r.cycle.id = some r := by rw [get?_add, if_pos rfl]
  rw [ruleset, h]
  show (p.add r).find r.cycle = _
  rw [find, hget]

lemma parse_of_not_malformed {text : String} (h : Cycle.malformed text = false) :
    Cycle.parse text = .ok ⟨Text.trim text⟩ := by
  rw [Cycle.parse_eq, h]
  rfl

lemma Publishes.parse_cycle (h : Publishes p call r) : Cycle.parse call.cycle = .ok r.cycle := by
  cases h with
  | base hc _ => exact parse_of_not_malformed hc
  | revision hc _ _ _ _ => exact parse_of_not_malformed hc

lemma answer_base (p : Publications) (cycle : String) (registry : Registry) :
    p.answer (.base cycle registry) =
      if Cycle.malformed cycle then .error (.invalidCycle cycle)
      else if p.rulesets.contains (Text.trim cycle) then .error (.cycleTaken (Text.trim cycle))
      else .ok ⟨⟨Text.trim cycle⟩, none, registry⟩ := by
  rw [answer, perform, publishBase_eq]
  split_ifs with hc htaken
  · rfl
  · rfl
  · exact ruleset_add (parse_of_not_malformed (Bool.eq_false_iff.mpr hc)) p

lemma answer_revision (p : Publications) (cycle prior : String) (a : Amendment) :
    p.answer (.revision cycle prior a) =
      if Cycle.malformed cycle then .error (.invalidCycle cycle)
      else if p.rulesets.contains (Text.trim cycle) then .error (.cycleTaken (Text.trim cycle))
      else if Cycle.malformed prior then .error (.invalidCycle prior)
      else match p.rulesets.get? (Text.trim prior) with
        | none => .error (.unknownCycle (Text.trim prior))
        | some base => (base.registry.amend p.policy a).map fun registry =>
            ⟨⟨Text.trim cycle⟩, some ⟨Text.trim prior⟩, registry⟩ := by
  rw [answer, perform, publish_eq]
  split_ifs with hc htaken hp
  · rfl
  · rfl
  · rfl
  · cases p.rulesets.get? (Text.trim prior) with
    | none => rfl
    | some base =>
        dsimp only
        cases base.registry.amend p.policy a with
        | error e => rfl
        | ok registry =>
            exact ruleset_add (parse_of_not_malformed (Bool.eq_false_iff.mpr hc)) p

lemma Publishes.answer_eq (h : Publishes p call r) : p.answer call = .ok r := by
  rw [answer, perform_eq_ok_iff.mpr ⟨r, h, rfl⟩]
  exact ruleset_add h.parse_cycle p

/-- A ruleset that is given back is that of the cycle which the call names. -/
lemma parse_of_answer (h : p.answer call = .ok r) : Cycle.parse call.cycle = .ok r.cycle := by
  rcases ask_cases p call with ⟨e, he, -⟩ | ⟨r', hr', -, -⟩
  · rw [answer, he] at h
    cases h
  · rw [hr'.answer_eq] at h
    cases h
    exact hr'.parse_cycle

/-- A call adds the ruleset that it gives back. -/
lemma ask_eq (p : Publications) (call : Publication) :
    p.ask call = match p.answer call with
      | .ok r => p.add r
      | .error _ => p := by
  rcases ask_cases p call with ⟨e, he, hask⟩ | ⟨r, hr, -, hask⟩
  · rw [hask, answer, he]
  · rw [hask, hr.answer_eq]

/-! ### What a call reads -/

/-- The policy is the same, and so are the rulesets of the cycles that a call names. -/
structure SeenAlike (call : Publication) (p q : Publications) : Prop where
  policy : p.policy = q.policy
  own : ∀ c, Cycle.parse call.cycle = .ok c → p.rulesets.get? c.id = q.rulesets.get? c.id
  prior : ∀ prior ∈ call.prior?, ∀ c, Cycle.parse prior = .ok c →
    p.rulesets.get? c.id = q.rulesets.get? c.id

/-- A call gives back the same where it sees the same. -/
lemma SeenAlike.answer_eq (h : SeenAlike call p q) : p.answer call = q.answer call := by
  have hown : ∀ cycle, call.cycle = cycle → Cycle.malformed cycle = false →
      p.rulesets.contains (Text.trim cycle) = q.rulesets.contains (Text.trim cycle) := by
    rintro cycle rfl hc
    exact congrArg Option.isSome (h.own _ (parse_of_not_malformed hc))
  cases call with
  | base cycle registry =>
      rw [answer_base, answer_base]
      cases hc : Cycle.malformed cycle with
      | true => rfl
      | false => rw [hown cycle rfl hc]
  | revision cycle prior a =>
      rw [answer_revision, answer_revision]
      cases hc : Cycle.malformed cycle with
      | true => rfl
      | false =>
          rw [hown cycle rfl hc]
          cases hp : Cycle.malformed prior with
          | true => rfl
          | false => rw [h.prior prior rfl _ (parse_of_not_malformed hp), h.policy]

/-! ### What a call writes -/

/-- A call leaves the rulesets of all cycles but its own as they are. -/
lemma get?_ask_of_ne {c : Cycle} (h : Cycle.parse call.cycle ≠ .ok c) (p : Publications) :
    (p.ask call).rulesets.get? c.id = p.rulesets.get? c.id := by
  rcases ask_cases p call with ⟨e, -, hask⟩ | ⟨r, hr, -, hask⟩
  · rw [hask]
  · have hne : c.id ≠ r.cycle.id := fun hid => h (Cycle.eq_of_id hid ▸ hr.parse_cycle)
    rw [hask, get?_add, if_neg hne]

/-- What is added for different cycles may be added in either order. -/
lemma add_comm {r r' : Ruleset} (h : r.cycle.id ≠ r'.cycle.id) (p : Publications) :
    (p.add r).add r' = (p.add r').add r :=
  congrArg (Publications.mk p.policy) (Keyed.insert_comm h p.rulesets r r')

/-- A call does not see another one that it is independent of. -/
lemma seenAlike_ask (h : a.Independent b) (p : Publications) :
    SeenAlike a (p.ask b) p where
  policy := policy_ask p b
  own := fun c hc => get?_ask_of_ne (h.cycles c hc) p
  prior := fun prior hprior c hc => get?_ask_of_ne (h.prior_left prior hprior c hc) p

/-! ### Calls in either order -/

/-- **Independent calls.**  Whatever is published already, two calls whose cycles differ, and
neither of which amends the cycle of the other, publish the same in either order: the rulesets are
the same in the end, and each call gives back the same ruleset or fails in the same way. -/
theorem ask_comm (h : a.Independent b) (p : Publications) :
    (p.ask a).ask b = (p.ask b).ask a ∧
    (p.ask b).answer a = p.answer a ∧
    (p.ask a).answer b = p.answer b := by
  have ha : (p.ask b).answer a = p.answer a := (seenAlike_ask h p).answer_eq
  have hb : (p.ask a).answer b = p.answer b := (seenAlike_ask h.symm p).answer_eq
  refine ⟨?_, ha, hb⟩
  rw [ask_eq (p.ask a), hb, ask_eq (p.ask b), ha, ask_eq p, ask_eq p]
  cases hansa : p.answer a with
  | error e => cases p.answer b <;> rfl
  | ok r =>
      cases hansb : p.answer b with
      | error e => rfl
      | ok r' =>
          have hne : r.cycle.id ≠ r'.cycle.id := fun hid =>
            h.cycles _ (parse_of_answer hansa) (Cycle.eq_of_id hid ▸ parse_of_answer hansb)
          exact add_comm hne p

/-- Two cycles derived from one, the second with a deletion that the strict policy refuses. -/
theorem ask_comm_forked :
    let p := (start .strict).add ⟨⟨"2023"⟩, none, mixedRegistry⟩
    let a := Publication.revision " 2024" "2023" .empty
    let b := Publication.revision "2025" "2023 " (Amendment.empty.delete "C")
    a.Independent b ∧ (p.ask a).ask b = (p.ask b).ask a ∧
    (p.ask b).answer a = .ok ⟨⟨"2024"⟩, some ⟨"2023"⟩, mixedRegistry⟩ ∧
    (p.ask a).answer b = .error (.absentDeletion "C") := by
  intro p a b
  have h : a.Independent b := by
    refine .of_trim_ne (by decide) ?_ ?_
    · rintro prior ⟨⟩
      decide
    · rintro prior ⟨⟩
      decide
  obtain ⟨hsame, hansa, hansb⟩ := ask_comm h p
  have hpublishes : Publishes p a ⟨⟨"2024"⟩, some ⟨"2023"⟩, mixedRegistry⟩ :=
    .revision rfl rfl rfl rfl rfl
  exact ⟨h, hsame, hansa.trans hpublishes.answer_eq, hansb.trans rfl⟩

end Publications

end Census
