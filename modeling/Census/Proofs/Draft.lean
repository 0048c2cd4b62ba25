/-
Rules in the making.

* `Text.Blank`, with `trim_eq_empty_iff` and `identifier_eq_empty_iff`: texts of which trimming
  leaves nothing;
* `Draft.Call`, `Draft.after`: calls on a draft, one after another;
* `Draft.last?`, `Draft.named`: what is given last, and all the fields that are given;
* `Draft.after_eq`: the draft that calls make;
* `Draft.Refuses`: why a draft is no rule, in the order in which it counts;
* `Draft.rule_after_eq`: the rule that calls make, or what is missing;
* `Draft.rule_of_calls`: which calls make a rule, which rule it is, and the same rule made again of
  its parts.
-/
import Census.Proofs.Changes
import Census.Proofs.Submission

namespace Census

/-! ### Blank texts -/

namespace Text

/-- All characters of the text are blank, if there are any. -/
def Blank (s : String) : Prop :=
  ∀ c ∈ s.toList, isBlank c = true

instance (s : String) : Decidable (Blank s) :=
  inferInstanceAs (Decidable (∀ c ∈ s.toList, isBlank c = true))

/-- Only of blank texts does trimming leave nothing. -/
lemma trim_eq_empty_iff {s : String} : trim s = "" ↔ Blank s := by
  rw [← String.toList_inj, toList_trim]
  exact trimChars_eq_nil_iff

/-- Lower case leaves no more and no less. -/
lemma identifier_eq_empty_iff {s : String} : identifier s = "" ↔ Blank s := by
  rw [← trim_eq_empty_iff, identifier, ← String.toList_inj, ← String.toList_inj, toList_lower]
  exact List.map_eq_nil_iff

/-- What trimming leaves has a character that is not blank. -/
lemma not_blank_trim {s : String} (h : ¬Blank s) : ¬Blank (trim s) := by
  rwa [← trim_eq_empty_iff, trim_trim, trim_eq_empty_iff]

end Text

namespace Draft

/-! ### Calls -/

/-- A call on a draft. -/
inductive Call
  | message (text : String)
  | field (name : String)
  | fields (names : List String)
  | severity (severity : Severity)
  /-- A function as a check of its own, which has an identity of its own. -/
  | function (identity : ℕ) (body : Submission → Findings → Findings × Ending)
  /-- A check that rules may share. -/
  | check (check : Check)

namespace Call

/-- The message that a call gives. -/
def message? : Call → Option String
  | message text => some text
  | _ => none

/-- The fields that a call gives. -/
def names : Call → List String
  | field name => [name]
  | fields names => names
  | _ => []

/-- The severity that a call gives. -/
def severity? : Call → Option Severity
  | severity s => some s
  | _ => none

/-- The check that a call gives. -/
def check? : Call → Option Check
  | function identity body => some ⟨identity, body⟩
  | check c => some c
  | _ => none

end Call

/-- The draft after a call. -/
def enact (d : Draft) : Call → Draft
  | .message text => d.withMessage text
  | .field name => d.withField name
  | .fields names => d.withFields names
  | .severity s => d.withSeverity s
  | .function identity body => d.withCheck ⟨identity, body⟩
  | .check c => d.withCheck c

/-- The draft of a code and a table after calls one after another. -/
def after (code table : String) (calls : List Call) : Draft :=
  calls.foldl enact (start code table)

/-- What the calls give last, of those that give something. -/
def last? {α : Type} (given : Call → Option α) (calls : List Call) : Option α :=
  (calls.filterMap given).getLast?

/-- All fields that the calls give, in order. -/
def named (calls : List Call) : List String :=
  calls.flatMap Call.names

variable {code table : String} {calls : List Call} {edition : ℕ}

/-- A later gift takes the place of an earlier one. -/
lemma last?_concat {α : Type} (given : Call → Option α) (calls : List Call) (call : Call) :
    last? given (calls ++ [call]) = (given call).or (last? given calls) := by
  rw [last?, List.filterMap_append, List.getLast?_append, last?]
  cases h : given call <;> simp [h]

/-- Nothing is given last when no call gives anything. -/
lemma last?_eq_none_iff {α : Type} {given : Call → Option α} :
    last? given calls = none ↔ ∀ call ∈ calls, given call = none := by
  rw [last?, List.getLast?_eq_none_iff, List.filterMap_eq_nil_iff]

lemma named_concat (calls : List Call) (call : Call) :
    named (calls ++ [call]) = named calls ++ call.names := by
  rw [named, List.flatMap_append, List.flatMap_singleton, named]

/-- **Drafts**: message, severity and check are the last ones given, the fields all that are
given. -/
theorem after_eq (code table : String) (calls : List Call) :
    after code table calls =
      ⟨code, table, (last? Call.message? calls).getD "", named calls,
        (last? Call.severity? calls).getD .error, last? Call.check? calls⟩ := by
  induction calls using List.reverseRecOn with
  | nil => rfl
  | append_singleton calls call ih =>
      have hstep : after code table (calls ++ [call]) = (after code table calls).enact call :=
        List.foldl_concat ..
      rw [hstep, ih, last?_concat, last?_concat, last?_concat, named_concat]
      cases call <;> simp [enact, withMessage, withField, withFields, withSeverity, withCheck,
        Call.message?, Call.names, Call.severity?, Call.check?]

/-! ### The rule of a draft -/

/-- The fields of a rule are those that are not blank, trimmed. -/
lemma trimmedFields_eq (d : Draft) :
    d.trimmedFields = (d.fields.filter fun name => ¬Text.Blank name).map Text.trim := by
  rw [trimmedFields, List.filter_map]
  refine congrArg _ (List.filter_congr fun name _ => ?_)
  exact decide_eq_decide.mpr (not_congr Text.trim_eq_empty_iff)

/-- What is trimmed and not blank stays as it is. -/
lemma map_trim_filter_map_trim (names : List String) :
    (((names.filter fun name => ¬Text.Blank name).map Text.trim).filter
      fun name => ¬Text.Blank name).map Text.trim =
        (names.filter fun name => ¬Text.Blank name).map Text.trim := by
  have hkept : ∀ name ∈ (names.filter fun name => ¬Text.Blank name).map Text.trim,
      ¬Text.Blank name ∧ Text.trim name = name := by
    intro name hname
    obtain ⟨given, hgiven, rfl⟩ := List.mem_map.mp hname
    have hfilled := of_decide_eq_true (List.mem_filter.mp hgiven).2
    exact ⟨Text.not_blank_trim hfilled, Text.trim_trim given⟩
  rw [List.filter_eq_self.mpr fun name hname => decide_eq_true (hkept name hname).1]
  exact (List.map_congr_left fun name hname => (hkept name hname).2).trans (List.map_id _)

lemma trimmedFields_eq_nil_iff {d : Draft} :
    d.trimmedFields = [] ↔ ∀ name ∈ d.fields, Text.Blank name := by
  rw [trimmedFields_eq, List.map_eq_nil_iff, List.filter_eq_nil_iff]
  simp

/-- Why calls make no rule: the first that applies of a blank code, a blank table, no field that is
not blank, and no check. -/
inductive Refuses (code table : String) (calls : List Call) : DraftError → Prop
  | blankCode (hcode : Text.Blank code) : Refuses code table calls .blankCode
  | blankTable (hcode : ¬Text.Blank code) (htable : Text.Blank table) :
      Refuses code table calls (.blankTable (Text.trim code))
  | noFields (hcode : ¬Text.Blank code) (htable : ¬Text.Blank table)
      (hnames : ∀ name ∈ named calls, Text.Blank name) :
      Refuses code table calls (.noFields (Text.trim code))
  | noCheck (hcode : ¬Text.Blank code) (htable : ¬Text.Blank table)
      (hname : ∃ name ∈ named calls, ¬Text.Blank name)
      (hcheck : ∀ call ∈ calls, call.check? = none) :
      Refuses code table calls (.noCheck (Text.trim code))

/-- The rule that calls make as one edition, once they give a check. -/
def made (code table : String) (calls : List Call) (check : Check) (edition : ℕ) : Rule :=
  ⟨Text.trim code, Text.identifier table, (last? Call.message? calls).getD "",
    ((named calls).filter fun name => ¬Text.Blank name).map Text.trim,
    (last? Call.severity? calls).getD .error, check, edition⟩

/-- What a draft is looked at for, in this order. -/
lemma rule_after_eq (code table : String) (calls : List Call) (edition : ℕ) :
    (after code table calls).rule edition =
      if Text.Blank code then .error .blankCode
      else if Text.Blank table then .error (.blankTable (Text.trim code))
      else if ∀ name ∈ named calls, Text.Blank name then .error (.noFields (Text.trim code))
      else match last? Call.check? calls with
        | none => .error (.noCheck (Text.trim code))
        | some check => .ok (made code table calls check edition) := by
  have hnone : (after code table calls).trimmedFields = [] ↔
      ∀ name ∈ named calls, Text.Blank name := by
    rw [trimmedFields_eq_nil_iff, after_eq]
  have hfields : (after code table calls).trimmedFields =
      ((named calls).filter fun name => ¬Text.Blank name).map Text.trim := by
    rw [trimmedFields_eq, after_eq]
  have hcode : (after code table calls).code = code := by rw [after_eq]
  have htable : (after code table calls).table = table := by rw [after_eq]
  have hcheck : (after code table calls).check = last? Call.check? calls := by rw [after_eq]
  rw [rule, hcode, htable, hcheck]
  refine if_congr Text.trim_eq_empty_iff rfl (if_congr Text.identifier_eq_empty_iff rfl
    (if_congr hnone rfl ?_))
  rw [hfields]
  cases last? Call.check? calls with
  | none => rfl
  | some check => simp only [after_eq, made]

/-- Calls are refused, or make a rule. -/
lemma refuses_or_makes (code table : String) (calls : List Call) :
    (∃ e, Refuses code table calls e) ∨
      ¬Text.Blank code ∧ ¬Text.Blank table ∧ (∃ name ∈ named calls, ¬Text.Blank name) ∧
        ∃ check, last? Call.check? calls = some check := by
  by_cases hcode : Text.Blank code
  · exact Or.inl ⟨_, .blankCode hcode⟩
  by_cases htable : Text.Blank table
  · exact Or.inl ⟨_, .blankTable hcode htable⟩
  by_cases hnames : ∀ name ∈ named calls, Text.Blank name
  · exact Or.inl ⟨_, .noFields hcode htable hnames⟩
  have hname : ∃ name ∈ named calls, ¬Text.Blank name := by
    simpa only [not_forall, exists_prop] using hnames
  cases hcheck : last? Call.check? calls with
  | none => exact Or.inl ⟨_, .noCheck hcode htable hname (last?_eq_none_iff.mp hcheck)⟩
  | some check => exact Or.inr ⟨hcode, htable, hname, check, rfl⟩

lemma Refuses.rule_after {e : DraftError} (h : Refuses code table calls e) (edition : ℕ) :
    (after code table calls).rule edition = .error e := by
  rw [rule_after_eq]
  cases h with
  | blankCode hcode => rw [if_pos hcode]
  | blankTable hcode htable => rw [if_neg hcode, if_pos htable]
  | noFields hcode htable hnames => rw [if_neg hcode, if_neg htable, if_pos hnames]
  | noCheck hcode htable hname hcheck =>
      obtain ⟨name, hname, hfilled⟩ := hname
      rw [if_neg hcode, if_neg htable, if_neg fun h => hfilled (h name hname),
        last?_eq_none_iff.mpr hcheck]

lemma rule_after_of_makes {check : Check} (hcode : ¬Text.Blank code) (htable : ¬Text.Blank table)
    (hname : ∃ name ∈ named calls, ¬Text.Blank name) (hcheck : last? Call.check? calls = some check)
    (edition : ℕ) :
    (after code table calls).rule edition = .ok (made code table calls check edition) := by
  obtain ⟨name, hname, hfilled⟩ := hname
  rw [rule_after_eq, if_neg hcode, if_neg htable, if_neg fun h => hfilled (h name hname), hcheck]

/-- Which calls make a rule, and which one. -/
lemma rule_after_eq_ok_iff {rule : Rule} :
    (after code table calls).rule edition = .ok rule ↔
      ¬Text.Blank code ∧ ¬Text.Blank table ∧ (∃ name ∈ named calls, ¬Text.Blank name) ∧
        ∃ check, last? Call.check? calls = some check ∧
          rule = made code table calls check edition := by
  constructor
  · intro h
    rcases refuses_or_makes code table calls with ⟨e, he⟩ | ⟨hcode, htable, hname, check, hcheck⟩
    · rw [he.rule_after] at h
      cases h
    · rw [rule_after_of_makes hcode htable hname hcheck] at h
      exact ⟨hcode, htable, hname, check, hcheck, (Except.ok.inj h).symm⟩
  · rintro ⟨hcode, htable, hname, check, hcheck, rfl⟩
    exact rule_after_of_makes hcode htable hname hcheck edition

lemma rule_after_eq_error_iff {e : DraftError} :
    (after code table calls).rule edition = .error e ↔ Refuses code table calls e := by
  refine ⟨fun h => ?_, fun h => h.rule_after edition⟩
  rcases refuses_or_makes code table calls with ⟨e', he'⟩ | ⟨hcode, htable, hname, check, hcheck⟩
  · rw [he'.rule_after, Except.error.injEq] at h
    exact h ▸ he'
  · rw [rule_after_of_makes hcode htable hname hcheck] at h
    cases h

/-- A check is given last where any is given. -/
lemma exists_last?_iff {α : Type} {given : Call → Option α} :
    (∃ a, last? given calls = some a) ↔ ∃ call ∈ calls, (given call).isSome = true := by
  rw [← Option.ne_none_iff_exists', ne_eq, last?_eq_none_iff]
  simp [Option.isSome_iff_ne_none]

/-- The parts of a rule that was made are left as they are when it is made again. -/
lemma made_made (edition' : ℕ) {calls' : List Call} {check : Check}
    (hnames : named calls' = (made code table calls check edition).fields)
    (hmessage : (last? Call.message? calls').getD "" =
      (made code table calls check edition).message)
    (hseverity : (last? Call.severity? calls').getD .error =
      (made code table calls check edition).severity) :
    made (Text.trim code) (Text.identifier table) calls' check edition' =
      { made code table calls check edition with edition := edition' } := by
  have hfields : ((named calls').filter fun name => ¬Text.Blank name).map Text.trim =
      named calls' := by
    rw [hnames]
    exact map_trim_filter_map_trim (named calls)
  rw [made, hfields, hnames, hmessage, hseverity, Text.trim_trim, Text.identifier_identifier]
  rfl

/-- **Rules of calls.**  Calls on a draft make a rule exactly when code and table are not blank,
some field that they give is not blank, and they give a check.  Its code is trimmed, its table
trimmed and in lower case, its fields are those that are not blank, trimmed and in order, and
message, severity and check are the last ones given, where without any the message is empty and the
severity is that of errors.  Otherwise the first thing that is missing is reported.  Calls that give
the parts of a rule make the same rule again. -/
theorem rule_of_calls (code table : String) (calls : List Call) (edition : ℕ) :
    ((∃ rule, (after code table calls).rule edition = .ok rule) ↔
      ¬Text.Blank code ∧ ¬Text.Blank table ∧ (∃ name ∈ named calls, ¬Text.Blank name) ∧
        ∃ call ∈ calls, call.check?.isSome = true) ∧
    (∀ rule, (after code table calls).rule edition = .ok rule →
      rule.code = Text.trim code ∧ rule.table = Text.lower (Text.trim table) ∧
      rule.fields = ((named calls).filter fun name => ¬Text.Blank name).map Text.trim ∧
      rule.message = (last? Call.message? calls).getD "" ∧
      rule.severity = (last? Call.severity? calls).getD .error ∧
      some rule.check = last? Call.check? calls ∧
      rule.edition = edition ∧
      ∀ calls' edition', named calls' = rule.fields →
        (last? Call.message? calls').getD "" = rule.message →
        (last? Call.severity? calls').getD .error = rule.severity →
        last? Call.check? calls' = some rule.check →
        ∃ rule', (after rule.code rule.table calls').rule edition' = .ok rule' ∧
          rule'.same rule = true ∧ rule' = { rule with edition := edition' }) ∧
    ∀ e, (after code table calls).rule edition = .error e ↔ Refuses code table calls e := by
  refine ⟨?_, fun rule hrule => ?_, fun e => rule_after_eq_error_iff⟩
  · rw [← exists_last?_iff]
    constructor
    · rintro ⟨rule, hrule⟩
      obtain ⟨hcode, htable, hname, check, hcheck, -⟩ := rule_after_eq_ok_iff.mp hrule
      exact ⟨hcode, htable, hname, check, hcheck⟩
    · rintro ⟨hcode, htable, hname, check, hcheck⟩
      exact ⟨_, rule_after_of_makes hcode htable hname hcheck edition⟩
  · obtain ⟨hcode, htable, hname, check, hcheck, rfl⟩ := rule_after_eq_ok_iff.mp hrule
    refine ⟨rfl, rfl, rfl, rfl, rfl, hcheck.symm, rfl,
      fun calls' edition' hnames hmessage hseverity hcheck' => ?_⟩
    have hmade := made_made edition' hnames hmessage hseverity
    refine ⟨_, rule_after_of_makes (Text.not_blank_trim hcode) ?_ ?_ hcheck' edition', ?_, hmade⟩
    · rwa [← Text.identifier_eq_empty_iff, made, Text.identifier_identifier,
        Text.identifier_eq_empty_iff]
    · obtain ⟨name, hname, hfilled⟩ := hname
      refine ⟨Text.trim name, ?_, Text.not_blank_trim hfilled⟩
      rw [hnames]
      exact List.mem_map_of_mem (List.mem_filter.mpr ⟨hname, decide_eq_true hfilled⟩)
    · exact (congrArg (Rule.same · _) hmade).trans (Rule.same_refl _)

/-- Of two messages the later one counts, of the fields all that are not blank. -/
example :
    ((after " 10 " "Pupils\t" [.message "a", .fields ["Id ", " "], .function 0 fun _ f =>
      (f, .finished), .message "b", .field "Id"]).rule 0).toOption.map
        (fun rule => (rule.code, rule.table, rule.message, rule.fields)) =
      some ("10", "pupils", "b", ["Id", "Id"]) := by
  decide

end Draft

end Census
