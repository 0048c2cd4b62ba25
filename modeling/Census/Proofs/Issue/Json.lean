/-
Which documents are issues.

* `Json.perm_iff_filter_name`: members of given names, each of them once;
* `Issue.parts`, `Issue.Fits`: the members of an issue, and rows of the unsigned 64-bit range;
* `Issue.Form`: the values that are read as an issue;
* `Issue.ofJson?_eq_some_iff`: a value is read as the issue of which it is a form;
* `Issue.parse?_eq_some_iff`: the documents of an issue are those of its forms;
* `Issue.documents_read`: an issue is read back from what is written of it, and neither the order of
  members nor the ones passed over matter;
* `Issue.further_members`: the names of the ones passed over matter, and their depth does not.
-/
import Census.Issue.Json
import Census.Proofs.Json.Grammar

namespace Census

namespace Json

/-! ### Members of given names -/

variable {members parts : List (String × Json)}

/-- Of parts of different names, each is the only one of its name. -/
lemma filter_name_of_nodup (hnodup : (parts.map Prod.fst).Nodup) {part : String × Json}
    (hpart : part ∈ parts) : parts.filter (fun m => m.1 == part.1) = [part] := by
  induction parts with
  | nil => cases hpart
  | cons first parts ih =>
      obtain ⟨hfirst, hnodup⟩ := List.nodup_cons.mp hnodup
      have hother : ∀ m ∈ parts, m.1 ≠ first.1 := fun m hm heq =>
        hfirst (heq ▸ List.mem_map_of_mem hm)
      rcases List.mem_cons.mp hpart with rfl | hpart
      · have hnone : parts.filter (fun m => m.1 == part.1) = [] := by simpa using hother
        rw [List.filter_cons_of_pos (by simp), hnone]
      · have hne : (first.1 == part.1) = false := by simpa using (hother part hpart).symm
        rw [List.filter_cons_of_neg (by simp [hne]), ih hnodup hpart]

/-- Among the members of some names, those of one of these names are all that have it. -/
lemma filter_filter_name {name : String} {names : List String} (h : name ∈ names) :
    (members.filter fun m => m.1 ∈ names).filter (fun m => m.1 == name) =
      members.filter fun m => m.1 == name := by
  rw [List.filter_filter]
  refine List.filter_congr fun m _ => ?_
  by_cases hm : m.1 = name
  · simp [hm, h]
  · simp [hm]

/-- Among the members of one name and of others, those that do not have the first have another. -/
lemma filter_filter_not_name {name : String} {names : List String} (h : name ∉ names) :
    (members.filter fun m => m.1 ∈ name :: names).filter (fun m => !(m.1 == name)) =
      members.filter fun m => m.1 ∈ names := by
  rw [List.filter_filter]
  refine List.filter_congr fun m _ => ?_
  by_cases hm : m.1 = name
  · simp [hm, h]
  · simp [hm]

/-- Members that have the names of given parts are these parts in some order where each part is the
only member of its name. -/
lemma perm_iff_filter_name (hnodup : (parts.map Prod.fst).Nodup) :
    (members.filter fun m => m.1 ∈ parts.map Prod.fst).Perm parts ↔
      ∀ part ∈ parts, members.filter (fun m => m.1 == part.1) = [part] := by
  constructor
  · intro h part hpart
    have hperm := h.filter fun m => m.1 == part.1
    rw [filter_filter_name (List.mem_map_of_mem hpart), filter_name_of_nodup hnodup hpart] at hperm
    exact List.perm_singleton.mp hperm
  · intro h
    induction parts with
    | nil => simp
    | cons part parts ih =>
        obtain ⟨hfirst, hnodup⟩ := List.nodup_cons.mp hnodup
        obtain ⟨hpart, hparts⟩ := List.forall_mem_cons.mp h
        have hsplit := List.filter_append_perm (fun m => m.1 == part.1)
          (members.filter fun m => m.1 ∈ (part :: parts).map Prod.fst)
        rw [List.map_cons, filter_filter_name List.mem_cons_self, filter_filter_not_name hfirst,
          hpart] at hsplit
        exact hsplit.symm.trans ((ih hnodup hparts).cons part)

end Json

namespace Issue

open Json

variable {i : Issue} {j : Json} {members : List (String × Json)}

/-! ### Parts of an issue -/

/-- The names of the members of an issue. -/
def names : List String :=
  ["rule_code", "table", "fields", "rows"]

/-- The members of an issue. -/
def parts (i : Issue) : List (String × Json) :=
  [("rule_code", .text i.rule), ("table", .text i.table),
    ("fields", .array (i.fields.map .text)), ("rows", .array (i.rows.map .nat))]

/-- The rows are of the unsigned 64-bit range. -/
def Fits (i : Issue) : Prop :=
  ∀ row ∈ i.rows, row < 2 ^ 64

/-- The values of an issue: an object that has each of its members once, whatever other members it
has, and the array of what its members hold. -/
inductive Form (i : Issue) : Json → Prop
  | members {members : List (String × Json)}
      (h : (members.filter fun m => m.1 ∈ names).Perm i.parts) : Form i (.ofMembers members)
  | items : Form i (.array (i.parts.map Prod.snd))

lemma formed_nats (ns : List ℕ) : (Json.array (ns.map .nat)).Formed :=
  .array (List.forall_mem_map.mpr fun _ _ => formed_nat _)

lemma formed_parts (i : Issue) : ∀ part ∈ i.parts, part.2.Formed := by
  have hfields : (Json.array (i.fields.map .text)).Formed :=
    .array (List.forall_mem_map.mpr fun _ _ => formed_text _)
  simp [parts, formed_text, hfields, formed_nats]

lemma formed_toJson (i : Issue) : i.toJson.Formed :=
  formed_ofMembers i.formed_parts

lemma form_toJson (i : Issue) : i.Form i.toJson :=
  .members (.of_eq (rfl : i.parts.filter (fun m => m.1 ∈ names) = i.parts))

/-! ### Values that are read -/

lemma text?_eq_some_iff {s : String} : text? j = some s ↔ j = .text s := by
  cases j <;> simp [text?, Json.text]

/-- A row is read from the numeral in which it is written, and from no other. -/
lemma row?_eq_some_iff (h : j.Formed) {n : ℕ} : row? j = some n ↔ j = .nat n ∧ n < 2 ^ 64 := by
  constructor
  · intro hrow
    cases h with
    | @number spelling hscan =>
        obtain ⟨hdenotes, hfits⟩ := Option.filter_eq_some_iff.mp hrow
        have hspelling := (scanNumber?_eq_self_iff.mp hscan).eq_toString
          (Number.natural?_eq_some_iff.mp hdenotes)
        refine ⟨congrArg Json.number (String.toList_inj.mp hspelling), ?_⟩
        have hle : n ≤ 18446744073709551615 := by simpa [Number.fitsUnsigned64] using hfits
        omega
    | _ => cases hrow
  · rintro ⟨rfl, hn⟩
    have htext : (toString n).toList = Nat.toDigits 10 n := Nat.toList_repr
    have hread : Number.natural? (toString n).toList = some n := by
      rw [htext]
      exact Number.natural?_eq_some_iff.mpr (Number.denotes_toDigits n)
    refine Option.filter_eq_some_iff.mpr ⟨hread, ?_⟩
    simp only [Number.fitsUnsigned64, decide_eq_true_eq]
    omega

/-- A list is read item by item. -/
lemma mapM_eq_some_iff {α β : Type} {read : α → Option β} {write : β → α} {Good : β → Prop}
    {as : List α} (h : ∀ a ∈ as, ∀ b, read a = some b ↔ a = write b ∧ Good b) {bs : List β} :
    as.mapM read = some bs ↔ as = bs.map write ∧ ∀ b ∈ bs, Good b := by
  induction as generalizing bs with
  | nil =>
      cases bs <;> simp
  | cons a as ih =>
      obtain ⟨hfirst, hrest⟩ := List.forall_mem_cons.mp h
      simp only [List.mapM_cons, Option.bind_eq_bind, Option.bind_eq_some_iff, Option.pure_def,
        Option.some.injEq, hfirst, ih hrest]
      constructor
      · rintro ⟨b, ⟨rfl, hb⟩, bs, ⟨rfl, hbs⟩, rfl⟩
        exact ⟨rfl, List.forall_mem_cons.mpr ⟨hb, hbs⟩⟩
      · cases bs with
        | nil => simp
        | cons b bs =>
            rintro ⟨hwritten, hgood⟩
            obtain ⟨rfl, rfl⟩ := List.cons.inj hwritten
            obtain ⟨hb, hbs⟩ := List.forall_mem_cons.mp hgood
            exact ⟨b, ⟨rfl, hb⟩, bs, ⟨rfl, hbs⟩, rfl⟩

lemma texts?_eq_some_iff {texts : List String} :
    texts? j = some texts ↔ j = .array (texts.map .text) := by
  cases j with
  | array items =>
      have hitem : ∀ item ∈ items, ∀ s, text? item = some s ↔ item = .text s ∧ True :=
        fun _ _ s => by rw [text?_eq_some_iff, and_true]
      simpa [texts?] using mapM_eq_some_iff hitem
  | _ => simp [texts?]

lemma rows?_eq_some_iff (h : j.Formed) {rows : List ℕ} :
    rows? j = some rows ↔ j = .array (rows.map .nat) ∧ ∀ row ∈ rows, row < 2 ^ 64 := by
  cases h with
  | array hitems =>
      rw [rows?, mapM_eq_some_iff fun item hitem n => row?_eq_some_iff (hitems item hitem),
        Json.array.injEq]
  | _ => simp [rows?]

/-- The four parts of an issue are read as it. -/
lemma ofParts?_eq_some_iff {rule table fields rows : Json} (h : rows.Formed) :
    ofParts? rule table fields rows = some i ↔
      [rule, table, fields, rows] = i.parts.map Prod.snd ∧ i.Fits := by
  simp only [ofParts?, Option.bind_eq_bind, Option.bind_eq_some_iff, Option.pure_def,
    Option.some.injEq, text?_eq_some_iff, texts?_eq_some_iff, rows?_eq_some_iff h]
  constructor
  · rintro ⟨rule, rfl, table, rfl, fields, rfl, rows, ⟨rfl, hrows⟩, rfl⟩
    exact ⟨rfl, hrows⟩
  · rintro ⟨hparts, hfits⟩
    simp only [parts, List.map_cons, List.map_nil, List.cons.injEq, and_true] at hparts
    obtain ⟨rfl, rfl, rfl, rfl⟩ := hparts
    exact ⟨_, rfl, _, rfl, _, rfl, _, ⟨rfl, hfits⟩, rfl⟩

/-- The value of a name is that of its only member. -/
lemma only?_eq_some_iff {name : String} {value : Json} :
    only? (members.map fun (name, value) => (some name, value)) name = some value ↔
      members.filter (fun m => m.1 == name) = [(name, value)] := by
  have hfilter : (members.map fun (name, value) => (some name, value)).filter
      (fun m => m.1 == some name) =
        (members.filter fun m => m.1 == name).map fun (name, value) => (some name, value) := by
    rw [List.filter_map]
    rfl
  have hname : ∀ m ∈ members.filter fun m => m.1 == name, m.1 = name := fun m hm => by
    simpa using (List.mem_filter.mp hm).2
  rw [only?, hfilter]
  generalize members.filter (fun m => m.1 == name) = found at hname
  match found with
  | [] => simp
  | [(other, value')] =>
      obtain rfl : other = name := hname (other, value') List.mem_cons_self
      simp
  | _ :: _ :: _ => simp

/-- No two parts of an issue have one name. -/
lemma nodup_names : names.Nodup := by
  decide

lemma all_named (members : List (String × Json)) :
    (members.map fun m => (some m.1, m.2)).all (·.1.isSome) = true := by
  simp

/-- An object is read by its members of the names of an issue. -/
lemma ofJson?_ofMembers {rule table fields rows : Json}
    (h : (members.filter fun m => m.1 ∈ names).Perm (names.zip [rule, table, fields, rows])) :
    ofJson? (.ofMembers members) = ofParts? rule table fields rows := by
  have hperm := @perm_iff_filter_name members (names.zip [rule, table, fields, rows]) nodup_names
  have honly : ∀ part ∈ names.zip [rule, table, fields, rows],
      only? (members.map fun m => (some m.1, m.2)) part.1 = some part.2 := fun part hpart =>
    only?_eq_some_iff.mpr (hperm.mp h part hpart)
  simp only [names, List.zip_cons_cons, List.zip_nil_right, List.forall_mem_cons] at honly
  obtain ⟨hrule, htable, hfields, hrows, -⟩ := honly
  simp only [ofJson?, Json.ofMembers, all_named, if_true, hrule, htable, hfields, hrows,
    Option.bind_eq_bind, Option.bind_some]

/-- What is read of an object are its members of the names of an issue, and each of them stands
once. -/
lemma exists_of_ofJson?_ofMembers (h : ofJson? (.ofMembers members) = some i) :
    ∃ rule table fields rows,
      (members.filter fun m => m.1 ∈ names).Perm (names.zip [rule, table, fields, rows]) ∧
        ofParts? rule table fields rows = some i := by
  simp only [ofJson?, Json.ofMembers, all_named, if_true, Option.bind_eq_bind,
    Option.bind_eq_some_iff, only?_eq_some_iff] at h
  obtain ⟨rule, hrule, table, htable, fields, hfields, rows, hrows, hread⟩ := h
  refine ⟨rule, table, fields, rows, ?_, hread⟩
  refine (@perm_iff_filter_name members (names.zip [rule, table, fields, rows]) nodup_names).mpr ?_
  simp [names, hrule, htable, hfields, hrows]

/-- An object one of whose names is no text is not read. -/
lemma ofJson?_object_eq_none {members : List (Option String × Json)} {value : Json}
    (h : (none, value) ∈ members) : ofJson? (.object members) = none := by
  have hall : members.all (·.1.isSome) = false :=
    List.all_eq_false.mpr ⟨_, h, by simp⟩
  simp [ofJson?, hall]

/-- The names of the members of a read object are texts. -/
lemma exists_named {members : List (Option String × Json)}
    (h : ofJson? (.object members) = some i) :
    ∃ named : List (String × Json),
      members = named.map fun (name, value) => (some name, value) := by
  rw [ofJson?] at h
  split at h
  · next hall =>
    have hrange : members ∈ Set.range (List.map fun m : String × Json => (some m.1, m.2)) := by
      rw [Set.range_list_map]
      rintro ⟨name, value⟩ hm
      obtain ⟨name, rfl⟩ := Option.isSome_iff_exists.mp (List.all_eq_true.mp hall _ hm)
      exact ⟨(name, value), rfl⟩
    obtain ⟨named, rfl⟩ := hrange
    exact ⟨named, rfl⟩
  · cases h

/-- **Values that are read**: as an issue are read its forms, where its rows fit, and nothing
else. -/
theorem ofJson?_eq_some_iff (h : j.Formed) : ofJson? j = some i ↔ i.Form j ∧ i.Fits := by
  constructor
  · intro hread
    cases h with
    | object hmembers =>
        obtain ⟨members, rfl⟩ := exists_named hread
        obtain ⟨rule, table, fields, rows, hperm, hread⟩ := exists_of_ofJson?_ofMembers hread
        have hmem : ("rows", rows) ∈ members :=
          List.mem_of_mem_filter (hperm.mem_iff.mpr (by simp [names]))
        have hrows : rows.Formed := hmembers _ (List.mem_map_of_mem hmem)
        obtain ⟨hparts, hfits⟩ := (ofParts?_eq_some_iff hrows).mp hread
        rw [hparts] at hperm
        exact ⟨.members hperm, hfits⟩
    | @array items hitems =>
        match items with
        | [rule, table, fields, rows] =>
            have hrows : rows.Formed := hitems rows (by simp)
            obtain ⟨hparts, hfits⟩ := (ofParts?_eq_some_iff hrows).mp hread
            rw [hparts]
            exact ⟨.items, hfits⟩
    | _ => cases hread
  · rintro ⟨hform, hfits⟩
    have hrows : (Json.array (i.rows.map .nat)).Formed := formed_nats i.rows
    have hread := (ofParts?_eq_some_iff hrows).mpr ⟨rfl, hfits⟩
    cases hform with
    | members hperm => rw [ofJson?_ofMembers hperm, hread]
    | items => exact hread

/-! ### Documents -/

/-- **Documents of an issue**: they are the documents of its forms, where its rows fit. -/
theorem parse?_eq_some_iff {document : String} :
    parse? document = some i ↔ i.Fits ∧ ∃ j, Writes document j ∧ i.Form j := by
  simp only [parse?, Option.bind_eq_bind, Option.bind_eq_some_iff, Json.parse?_eq_some_iff]
  constructor
  · rintro ⟨j, hwrites, hread⟩
    obtain ⟨hform, hfits⟩ := (ofJson?_eq_some_iff hwrites.formed).mp hread
    exact ⟨hfits, j, hwrites, hform⟩
  · rintro ⟨hfits, j, hwrites, hform⟩
    exact ⟨j, hwrites, (ofJson?_eq_some_iff hwrites.formed).mpr ⟨hform, hfits⟩⟩

lemma parse?_of_writes {document : String} (h : Writes document j) :
    parse? document = ofJson? j := by
  rw [parse?, Json.parse?_eq_some_iff.mpr h]
  rfl

lemma Form.members_iff : i.Form (.ofMembers members) ↔
    (members.filter fun m => m.1 ∈ names).Perm i.parts := by
  constructor
  · generalize hvalue : Json.ofMembers members = value
    rintro (@⟨members', h⟩ | _)
    · have hinj : Function.Injective fun m : String × Json => (some m.1, m.2) := by
        rintro ⟨name, value⟩ ⟨name', value'⟩ heq
        simpa using heq
      have hmembers := List.map_injective_iff.mpr hinj (Json.object.inj hvalue)
      rwa [hmembers]
    · cases hvalue
  · exact .members

/-- **Documents that are read.**  What is written of an issue is read as this issue.  A document is
read as an issue where it is one of an object that has each of the four members once, holding the
parts of the issue, or of the array of these parts.  Neither the order of the members nor those of
other names matter, and the object is read as the array of its parts is. -/
theorem documents_read :
    (∀ i : Issue, i.Fits → parse? i.toJson.compact = some i ∧ parse? i.toJson.pretty = some i) ∧
      (∀ (document : String) (i : Issue),
        parse? document = some i ↔ i.Fits ∧ ∃ j, Writes document j ∧ i.Form j) ∧
      (∀ (document document' : String) (members members' : List (String × Json)),
        Writes document (.ofMembers members) → Writes document' (.ofMembers members') →
          (members.filter fun m => m.1 ∈ names).Perm (members'.filter fun m => m.1 ∈ names) →
            parse? document = parse? document') ∧
      ∀ (document document' : String) (members : List (String × Json))
        (rule table fields rows : Json),
        Writes document (.ofMembers members) →
          Writes document' (.array [rule, table, fields, rows]) →
            (members.filter fun m => m.1 ∈ names).Perm (names.zip [rule, table, fields, rows]) →
              parse? document = parse? document' := by
  refine ⟨fun i hfits => ?_, fun document i => parse?_eq_some_iff, ?_, ?_⟩
  · have hcompact := writes_compact i.formed_toJson
    have hpretty := writes_pretty i.formed_toJson
    exact ⟨parse?_eq_some_iff.mpr ⟨hfits, _, hcompact, i.form_toJson⟩,
      parse?_eq_some_iff.mpr ⟨hfits, _, hpretty, i.form_toJson⟩⟩
  · intro document document' members members' hwrites hwrites' hperm
    refine Option.ext fun i => ?_
    rw [parse?_of_writes hwrites, parse?_of_writes hwrites', ofJson?_eq_some_iff hwrites.formed,
      ofJson?_eq_some_iff hwrites'.formed, Form.members_iff, Form.members_iff]
    exact and_congr_left fun _ => ⟨hperm.symm.trans, hperm.trans⟩
  · intro document document' members rule table fields rows hwrites hwrites' hperm
    rw [parse?_of_writes hwrites, parse?_of_writes hwrites', ofJson?_ofMembers hperm]
    rfl

/-- Members in another order, with one passed over and a repeated row, and the array of their
values. -/
theorem documents_read_reordered :
    parse? (Json.ofMembers [("rows", .array ([2, 2].map .nat)), ("rule_code", .text "1"),
      ("z", .null), ("table", .text "t"), ("fields", .array (["f"].map .text))]).compact =
        parse? (Json.array [.text "1", .text "t", .array (["f"].map .text),
          .array ([2, 2].map .nat)]).compact := by
  have hfields : (Json.array (["f"].map .text)).Formed :=
    .array (List.forall_mem_singleton.mpr (formed_text "f"))
  refine documents_read.2.2.2 _ _ _ _ _ _ _ (writes_compact (formed_ofMembers ?_))
    (writes_compact (.array ?_))
    (List.perm_append_comm : ([_] ++ [_, _, _]).Perm ([_, _, _] ++ [_]))
  · simp only [List.forall_mem_cons, formed_text, hfields, formed_nats, Formed.null, true_and]
    exact List.forall_mem_nil _
  · simp only [List.forall_mem_cons, formed_text, hfields, formed_nats, true_and]
    exact List.forall_mem_nil _

/-- The issue of no fields and no rows. -/
def bare : Issue :=
  ⟨"1", "t", [], []⟩

/-- A document that names a further member by half of a surrogate pair. -/
def unpairedName : String :=
  "\x7b\"rule_code\":\"1\",\"table\":\"t\",\"fields\":[],\"rows\":[],\"\\ud800\":0\x7d"

/-- Arrays within each other, around a null. -/
def nested : ℕ → Json
  | 0 => .null
  | depth + 1 => .array [nested depth]

lemma formed_nested (depth : ℕ) : (nested depth).Formed := by
  induction depth with
  | zero => exact .null
  | succ depth ih => exact .array (by simpa using ih)

/-- The members of an issue, each of them once, and one further member do not make an object that
is read, where the name of the further member is no text.  What it holds may be as deep as it will:
two hundred arrays within each other are passed over. -/
theorem further_members :
    (Writes unpairedName
        (.object ((bare.parts.map fun (name, value) => (some name, value)) ++ [(none, .nat 0)])) ∧
      parse? unpairedName = none) ∧
      Writes (Json.ofMembers (bare.parts ++ [("x", nested 200)])).compact
        (.ofMembers (bare.parts ++ [("x", nested 200)])) ∧
      parse? (Json.ofMembers (bare.parts ++ [("x", nested 200)])).compact = some bare := by
  have hmembers : ∀ m ∈ (bare.parts.map fun (name, value) => (some name, value)) ++
      [(none, .nat 0)], m.2.Formed :=
    List.forall_mem_append.mpr ⟨List.forall_mem_map.mpr bare.formed_parts,
      List.forall_mem_singleton.mpr (formed_nat 0)⟩
  have hunpaired := writes_compact (.object hmembers)
  have hdocument : (Json.object ((bare.parts.map fun (name, value) => (some name, value)) ++
      [(none, .nat 0)])).compact = unpairedName := by
    decide
  rw [hdocument] at hunpaired
  have hparts : ∀ m ∈ bare.parts ++ [("x", nested 200)], m.2.Formed :=
    List.forall_mem_append.mpr ⟨bare.formed_parts,
      List.forall_mem_singleton.mpr (formed_nested 200)⟩
  have hdeep := writes_compact (formed_ofMembers hparts)
  refine ⟨⟨hunpaired, ?_⟩, hdeep, parse?_eq_some_iff.mpr ⟨?_, _, hdeep, .members ?_⟩⟩
  · rw [parse?_of_writes hunpaired]
    exact ofJson?_object_eq_none (List.mem_append_right _ List.mem_cons_self)
  · exact List.forall_mem_nil _
  · exact .of_eq rfl

end Issue

end Census
