/-
Which texts are JSON documents.

* `SpellsToken`, `Spells`: the spelling of a token, and tokens with blanks anywhere between them;
* `scanToken?_sound`, `tokens?_sound`, `Spells.tokens?`: these are the tokens that are read, where
  no two numbers touch;
* `Json.ind`: induction on a value by its items and the values of its members;
* `isChain_tokensOf`: no two numbers touch in the tokens of a value;
* `Recognised.of_fuel`: what is read as a value are the tokens of this value;
* `Writes`, `parse?_eq_some_iff`: the documents of a value, and the value of a document;
* `Writes.formed`, `writes_compact`: numbers of documents, and values written without blanks.
-/
import Census.Proofs.Json.Literal

namespace Census.Json

variable {c : Char} {cs ds rest w : List Char} {t : Token} {ts us more : List Token} {j : Json}

/-! ### Tokens -/

/-- How a token is spelled. -/
inductive SpellsToken : List Char → Token → Prop
  | openBrace : SpellsToken ['\x7b'] .openBrace
  | closeBrace : SpellsToken ['\x7d'] .closeBrace
  | openBracket : SpellsToken ['['] .openBracket
  | closeBracket : SpellsToken [']'] .closeBracket
  | colon : SpellsToken [':'] .colon
  | comma : SpellsToken [','] .comma
  | null : SpellsToken ['n', 'u', 'l', 'l'] .null
  | true : SpellsToken ['t', 'r', 'u', 'e'] (.bool true)
  | false : SpellsToken ['f', 'a', 'l', 's', 'e'] (.bool false)
  | number {spelling : String} (h : Numeral spelling.toList) :
      SpellsToken spelling.toList (.number spelling)
  | string {inner : List Char} {units : List ℕ} {s : Option String} (hunits : Units inner units)
      (hs : IsTextOf units s) : SpellsToken ('"' :: inner ++ ['"']) (.string s)

/-- The characters spell the tokens one after another, with blanks anywhere between them. -/
inductive Spells : List Char → List Token → Prop
  | nil : Spells [] []
  | blank {c : Char} {cs : List Char} {ts : List Token} (hc : isSpace c = true) (h : Spells cs ts) :
      Spells (c :: cs) ts
  | token {w cs : List Char} {t : Token} {ts : List Token} (hw : SpellsToken w t)
      (h : Spells cs ts) : Spells (w ++ cs) (t :: ts)

/-- What is read as a token is its spelling. -/
lemma scanToken?_sound (h : scanToken? cs = some (t, rest)) :
    ∃ w, cs = w ++ rest ∧ SpellsToken w t := by
  unfold scanToken? at h
  split at h
  case h_10 rest' =>
    obtain ⟨⟨items, rest''⟩, hscan, hsome⟩ := Option.map_eq_some_iff.mp h
    obtain ⟨rfl, rfl⟩ : .string (textOf? items) = t ∧ rest'' = rest := by simpa using hsome
    obtain ⟨inner, rfl, hunits, hrange⟩ := scanString?_sound hscan
    exact ⟨'"' :: inner ++ ['"'], by simp, .string hunits (isTextOf_textOf? hrange)⟩
  case h_11 =>
    obtain ⟨⟨spelling, rest''⟩, hscan, hsome⟩ := Option.map_eq_some_iff.mp h
    obtain ⟨rfl, rfl⟩ : .number (String.ofList spelling) = t ∧ rest'' = rest := by simpa using hsome
    obtain ⟨hnumeral, rfl⟩ := scanNumber?_sound hscan
    rw [← String.toList_ofList (l := spelling)] at hnumeral
    exact ⟨_, by rw [String.toList_ofList], .number hnumeral⟩
  all_goals
    cases h
    exact ⟨_, rfl, by constructor⟩

/-- What is read as tokens spells them. -/
lemma tokens?_sound (h : tokens? cs = some ts) : Spells cs ts := by
  have key : ∀ (fuel : ℕ) (cs : List Char) (ts : List Token), tokensFrom? fuel cs = some ts →
      Spells cs ts := by
    intro fuel
    induction fuel with
    | zero =>
        intro cs ts h
        cases cs with
        | nil =>
            cases h
            exact .nil
        | cons c cs => cases h
    | succ fuel ih =>
        intro cs ts h
        cases cs with
        | nil =>
            cases h
            exact .nil
        | cons c cs =>
            rw [tokensFrom?] at h
            split at h
            · next hc => exact .blank hc (ih cs ts h)
            · simp only [Option.bind_eq_bind, Option.bind_eq_some_iff, Prod.exists] at h
              obtain ⟨t, rest, hscan, more, hmore, hts⟩ := h
              obtain ⟨w, hw, htoken⟩ := scanToken?_sound hscan
              obtain rfl := Option.some.inj hts
              rw [hw]
              exact .token htoken (ih rest more hmore)
  exact key _ cs ts h

/-! ### Tokens that are read as they are spelled -/

/-- Of two tokens next to each other one is no number. -/
def Apart : Token → Token → Prop
  | .number _, .number _ => False
  | _, _ => True

/-- No number goes on where a token starts that is none. -/
lemma Spells.endsNumber (h : Spells cs ts)
    (hfirst : ∀ spelling, ts.head? ≠ some (.number spelling)) : EndsNumber cs := by
  cases h with
  | nil => exact endsNumber_nil
  | blank hc _ =>
      simp only [isSpace, Bool.or_eq_true, beq_iff_eq] at hc
      rcases hc with ((rfl | rfl) | rfl) | rfl <;> exact endsNumber_cons rfl _
  | token hw _ =>
      cases hw with
      | number _ => exact absurd rfl (hfirst _)
      | _ => exact endsNumber_cons rfl _

/-- Tokens that are spelled are read, where no two numbers touch. -/
lemma Spells.tokens? (h : Spells cs ts) (hapart : ts.IsChain Apart) :
    Json.tokens? cs = some ts := by
  induction h with
  | nil => rfl
  | blank hc _ ih => rw [tokens?_cons_of_isSpace hc, ih hapart]
  | @token w cs t ts hw h ih =>
      obtain ⟨hnext, hapart⟩ := List.isChain_cons.mp hapart
      have hread := ih hapart
      cases hw with
      | number hnumeral =>
          have hends : EndsNumber cs := h.endsNumber fun spelling hspelling =>
            hnext _ hspelling
          exact Reads.number (scanNumber?_eq_self_iff.mpr hnumeral) hends hread
      | @string inner units s hunits hs =>
          obtain ⟨items, hscan, rfl⟩ := hunits.scan cs
          obtain ⟨inner', hinner, hunits', hrange⟩ := scanString?_sound hscan
          have htext : textOf? items = s := (isTextOf_textOf? hrange).unique hs
          have htoken : scanToken? ('"' :: ((inner ++ ['"']) ++ cs)) = some (.string s, cs) := by
            rw [List.append_assoc, List.singleton_append, scanToken?.eq_10, hscan, ← htext]
            rfl
          exact tokens?_of_scanToken? (inner ++ ['"']) rfl htoken hread
      | null => exact tokens?_of_scanToken? ['u', 'l', 'l'] rfl rfl hread
      | true => exact tokens?_of_scanToken? ['r', 'u', 'e'] rfl rfl hread
      | false => exact tokens?_of_scanToken? ['a', 'l', 's', 'e'] rfl rfl hread
      | _ => exact tokens?_of_scanToken? [] rfl rfl hread

/-! ### Tokens of values -/

/-- Induction on a value: over the items of an array, and over the values of the members of an
object. -/
@[elab_as_elim]
lemma ind {P : Json → Prop} (null : P null) (bool : ∀ b, P (bool b))
    (number : ∀ spelling, P (number spelling)) (string : ∀ s, P (string s))
    (array : ∀ items, (∀ item ∈ items, P item) → P (array items))
    (object : ∀ members, (∀ m ∈ members, P m.2) → P (object members)) (j : Json) : P j :=
  Json.rec (motive_1 := P) (motive_2 := fun items => ∀ item ∈ items, P item)
    (motive_3 := fun members => ∀ m ∈ members, P m.2) (motive_4 := fun m => P m.2)
    null bool number string array object
    (List.forall_mem_nil _) (fun _ _ hitem hitems => List.forall_mem_cons.mpr ⟨hitem, hitems⟩)
    (List.forall_mem_nil _) (fun _ _ hm hmembers => List.forall_mem_cons.mpr ⟨hm, hmembers⟩)
    (fun _ _ hvalue => hvalue) j

lemma itemTokens_eq (items : List Json) : itemTokens items = items.map tokensOf := by
  induction items with
  | nil => rfl
  | cons item items ih => rw [itemTokens, ih, List.map_cons]

lemma memberTokens_eq (members : List (Option String × Json)) :
    memberTokens members = members.map fun m => .string m.1 :: .colon :: tokensOf m.2 := by
  induction members with
  | nil => rfl
  | cons m members ih => rw [memberTokens, ih, List.map_cons]

/-- Any token is apart from one that is no number. -/
lemma apart_of_ne_number (ht : ∀ spelling, t ≠ .number spelling) (u : Token) :
    Apart t u ∧ Apart u t := by
  cases t with
  | number spelling => exact absurd rfl (ht spelling)
  | _ => cases u <;> exact ⟨trivial, trivial⟩

/-- No two numbers touch at a token that is none. -/
lemma isChain_append_cons (ht : ∀ spelling, t ≠ .number spelling) (hts : ts.IsChain Apart)
    (hus : us.IsChain Apart) : (ts ++ t :: us).IsChain Apart := by
  refine List.isChain_append.mpr ⟨hts,
    List.isChain_cons.mpr ⟨fun u _ => (apart_of_ne_number ht u).1, hus⟩, fun u _ v hv => ?_⟩
  cases hv
  exact (apart_of_ne_number ht u).2

lemma isChain_intercalate {parts : List (List Token)} (h : ∀ part ∈ parts, part.IsChain Apart) :
    ([Token.comma].intercalate parts).IsChain Apart := by
  induction parts with
  | nil => exact .nil
  | cons part parts ih =>
      obtain ⟨hpart, hparts⟩ := List.forall_mem_cons.mp h
      cases parts with
      | nil => rwa [List.intercalate_singleton]
      | cons next parts =>
          rw [List.intercalate_cons_cons, List.append_assoc]
          exact isChain_append_cons nofun hpart (ih hparts)

/-- Tokens between two that are no numbers. -/
lemma isChain_enclosed {first last : Token} (hfirst : ∀ spelling, first ≠ .number spelling)
    (hlast : ∀ spelling, last ≠ .number spelling) (h : ts.IsChain Apart) :
    (first :: (ts ++ [last])).IsChain Apart :=
  isChain_append_cons hfirst .nil (isChain_append_cons hlast h .nil)

/-- **Apart**: in the tokens of a value no two numbers touch. -/
theorem isChain_tokensOf (j : Json) : (tokensOf j).IsChain Apart := by
  induction j using ind with
  | null | bool | number | string => exact .singleton _
  | array items ih =>
      refine isChain_enclosed nofun nofun (isChain_intercalate fun part hpart => ?_)
      rw [itemTokens_eq] at hpart
      obtain ⟨item, hitem, rfl⟩ := List.mem_map.mp hpart
      exact ih item hitem
  | object members ih =>
      refine isChain_enclosed nofun nofun (isChain_intercalate fun part hpart => ?_)
      rw [memberTokens_eq] at hpart
      obtain ⟨m, hm, rfl⟩ := List.mem_map.mp hpart
      exact isChain_append_cons (t := .colon) nofun (.singleton (.string m.1)) (ih m hm)

/-! ### Values that are read -/

/-- With this fuel, what is read as a value are its tokens, what is read as items are theirs up to
the closing bracket, and what is read as members those of the members up to the closing brace. -/
structure Recognised (fuel : ℕ) : Prop where
  value : ∀ (ts : List Token) (j : Json) (rest : List Token), value? fuel ts = some (j, rest) →
    ts = tokensOf j ++ rest
  items : ∀ (ts : List Token) (items : List Json) (rest : List Token),
    items? fuel ts = some (items, rest) →
      items ≠ [] ∧ ts = [Token.comma].intercalate (itemTokens items) ++ .closeBracket :: rest
  members : ∀ (ts : List Token) (members : List (Option String × Json)) (rest : List Token),
    members? fuel ts = some (members, rest) →
      members ≠ [] ∧ ts = [Token.comma].intercalate (memberTokens members) ++ .closeBrace :: rest

namespace Recognised

variable {fuel : ℕ}

lemma zero : Recognised 0 where
  value := fun _ _ _ h => by cases h
  items := fun _ _ _ h => by cases h
  members := fun _ _ _ h => by cases h

lemma value_succ (h : Recognised fuel) (ts : List Token) (j : Json) (rest : List Token)
    (hread : value? (fuel + 1) ts = some (j, rest)) : ts = tokensOf j ++ rest := by
  unfold value? at hread
  split at hread
  case h_7 fuel' more _ heq =>
    obtain rfl := Nat.succ.inj heq
    obtain ⟨⟨items, rest'⟩, hitems, hsome⟩ := Option.map_eq_some_iff.mp hread
    obtain ⟨rfl, rfl⟩ : array items = j ∧ rest' = rest := by simpa using hsome
    obtain ⟨-, rfl⟩ := h.items _ _ _ hitems
    simp [tokensOf]
  case h_9 fuel' more _ heq =>
    obtain rfl := Nat.succ.inj heq
    obtain ⟨⟨members, rest'⟩, hmembers, hsome⟩ := Option.map_eq_some_iff.mp hread
    obtain ⟨rfl, rfl⟩ : object members = j ∧ rest' = rest := by simpa using hsome
    obtain ⟨-, rfl⟩ := h.members _ _ _ hmembers
    simp [tokensOf]
  all_goals
    cases hread
    try rfl

lemma items_succ (h : Recognised fuel) (ts : List Token) (items : List Json) (rest : List Token)
    (hread : items? (fuel + 1) ts = some (items, rest)) :
    items ≠ [] ∧ ts = [Token.comma].intercalate (itemTokens items) ++ .closeBracket :: rest := by
  rw [items?] at hread
  split at hread
  · next item rest' hvalue =>
    cases hread
    refine ⟨List.cons_ne_nil _ _, ?_⟩
    rw [h.value _ _ _ hvalue]
    simp [itemTokens]
  · next item rest' hvalue =>
    obtain ⟨⟨more, rest''⟩, hmore, hsome⟩ := Option.map_eq_some_iff.mp hread
    obtain ⟨rfl, rfl⟩ : item :: more = items ∧ rest'' = rest := by simpa using hsome
    obtain ⟨hne, rfl⟩ := h.items _ _ _ hmore
    obtain ⟨next, more, rfl⟩ := List.exists_cons_of_ne_nil hne
    refine ⟨List.cons_ne_nil _ _, ?_⟩
    rw [h.value _ _ _ hvalue]
    simp [itemTokens, List.intercalate_cons_cons]
  · cases hread

lemma members_succ (h : Recognised fuel) (ts : List Token)
    (members : List (Option String × Json)) (rest : List Token)
    (hread : members? (fuel + 1) ts = some (members, rest)) :
    members ≠ [] ∧
      ts = [Token.comma].intercalate (memberTokens members) ++ .closeBrace :: rest := by
  unfold members? at hread
  split at hread
  · cases hread
  · next fuel' name tokens heq =>
    obtain rfl := Nat.succ.inj heq
    split at hread
    · next value rest' hvalue =>
      cases hread
      refine ⟨List.cons_ne_nil _ _, ?_⟩
      rw [h.value _ _ _ hvalue]
      simp [memberTokens]
    · next value rest' hvalue =>
      obtain ⟨⟨more, rest''⟩, hmore, hsome⟩ := Option.map_eq_some_iff.mp hread
      obtain ⟨rfl, rfl⟩ : (name, value) :: more = members ∧ rest'' = rest := by simpa using hsome
      obtain ⟨hne, rfl⟩ := h.members _ _ _ hmore
      obtain ⟨next, more, rfl⟩ := List.exists_cons_of_ne_nil hne
      refine ⟨List.cons_ne_nil _ _, ?_⟩
      rw [h.value _ _ _ hvalue]
      simp [memberTokens, List.intercalate_cons_cons]
    · cases hread
  · cases hread

/-- Whatever the fuel, what is read is what it stands for. -/
lemma of_fuel (fuel : ℕ) : Recognised fuel := by
  induction fuel with
  | zero => exact zero
  | succ fuel ih => exact ⟨ih.value_succ, ih.items_succ, ih.members_succ⟩

end Recognised

/-! ### Documents -/

/-- The document is one of the value: its characters spell the tokens of the value. -/
def Writes (document : String) (j : Json) : Prop :=
  Spells document.toList (tokensOf j)

/-- **Documents**: the value that is read is the one of which the document is a document, and
nothing else is read. -/
theorem parse?_eq_some_iff {document : String} : parse? document = some j ↔ Writes document j := by
  rw [parse?, parseChars?]
  constructor
  · intro h
    simp only [Option.bind_eq_bind, Option.bind_eq_some_iff] at h
    obtain ⟨ts, hts, hvalue⟩ := h
    split at hvalue
    · next j' hread =>
      cases hvalue
      have htokens := (Recognised.of_fuel _).value _ _ _ hread
      rw [List.append_nil] at htokens
      rw [Writes, ← htokens]
      exact tokens?_sound hts
    · cases hvalue
  · intro h
    have hvalue := (Rebuilds.of_fuel (2 * j.tokensOf.length + 1)).value j [] (by omega)
    rw [List.append_nil] at hvalue
    simp only [h.tokens? (isChain_tokensOf j), Option.bind_eq_bind, Option.bind_some, hvalue]

/-- The numbers among tokens that are spelled are numerals. -/
lemma Spells.numeral (h : Spells cs ts) {spelling : String} (hmem : .number spelling ∈ ts) :
    Numeral spelling.toList := by
  induction h with
  | nil => cases hmem
  | blank _ _ ih => exact ih hmem
  | token hw _ ih =>
      rcases List.mem_cons.mp hmem with rfl | hmem
      · cases hw with
        | number h => exact h
      · exact ih hmem

/-- The tokens of a part are among those of all parts. -/
lemma mem_intercalate {parts : List (List Token)} {part : List Token} (hpart : part ∈ parts)
    (ht : t ∈ part) : t ∈ [Token.comma].intercalate parts := by
  induction parts with
  | nil => cases hpart
  | cons first parts ih =>
      cases parts with
      | nil =>
          rw [List.intercalate_singleton]
          rwa [List.mem_singleton.mp hpart] at ht
      | cons next parts =>
          rw [List.intercalate_cons_cons]
          rcases List.mem_cons.mp hpart with rfl | hpart
          · exact List.mem_append_left _ (List.mem_append_left _ ht)
          · exact List.mem_append_right _ (ih hpart)

/-- A value whose numbers are numerals is formed as values are. -/
lemma formed_of_numerals
    (h : ∀ spelling, .number spelling ∈ tokensOf j → Numeral spelling.toList) : j.Formed := by
  induction j using ind with
  | null => exact .null
  | bool b => exact .bool b
  | number spelling =>
      exact .number (scanNumber?_eq_self_iff.mpr (h spelling List.mem_cons_self))
  | string s => exact .string s
  | array items ih =>
      refine .array fun item hitem => ih item hitem fun spelling hmem => h spelling ?_
      have hpart : tokensOf item ∈ itemTokens items := by
        rw [itemTokens_eq]
        exact List.mem_map_of_mem hitem
      exact List.mem_cons_of_mem _ (List.mem_append_left _ (mem_intercalate hpart hmem))
  | object members ih =>
      refine .object fun m hm => ih m hm fun spelling hmem => h spelling ?_
      have hpart : .string m.1 :: .colon :: tokensOf m.2 ∈ memberTokens members := by
        rw [memberTokens_eq]
        exact List.mem_map_of_mem hm
      exact List.mem_cons_of_mem _ (List.mem_append_left _ (mem_intercalate hpart
        (List.mem_cons_of_mem _ (List.mem_cons_of_mem _ hmem))))

/-- The value of a document is formed as values are. -/
lemma Writes.formed {document : String} (h : Writes document j) : j.Formed :=
  formed_of_numerals fun _ hmem => Spells.numeral h hmem

/-! ### Values without blanks -/

lemma Spells.append (h : Spells cs ts) (h' : Spells ds us) : Spells (cs ++ ds) (ts ++ us) := by
  induction h with
  | nil => exact h'
  | blank hc _ ih => exact .blank hc ih
  | token hw _ ih =>
      rw [List.append_assoc]
      exact .token hw ih

lemma SpellsToken.spells (h : SpellsToken w t) : Spells w [t] := by
  have htoken := Spells.token h .nil
  rwa [List.append_nil] at htoken

/-- A written literal spells what it denotes. -/
lemma spellsToken_literal (s : Option String) : SpellsToken (literal s) (.string s) := by
  obtain ⟨w, hw, htoken⟩ := scanToken?_sound (scanToken?_literal s [])
  rw [List.append_nil, List.append_nil] at hw
  exact hw ▸ htoken

/-- Parts with commas between them. -/
lemma spells_joined {parts : List (List Char)} {tokens : List (List Token)}
    (h : List.Forall₂ Spells parts tokens) :
    Spells (joined [','] parts) ([.comma].intercalate tokens) := by
  induction h with
  | nil => exact .nil
  | @cons part first parts tokens hpart hparts ih =>
      cases hparts with
      | nil => simpa [Json.joined] using hpart
      | cons hnext hmore =>
          have hall := (hpart.append SpellsToken.comma.spells).append ih
          simpa [Json.joined, List.intercalate_cons_cons] using hall

lemma forall₂_compactItems {items : List Json}
    (h : ∀ item ∈ items, Spells item.compactChars item.tokensOf) :
    List.Forall₂ Spells (compactItems items) (itemTokens items) := by
  induction items with
  | nil => exact .nil
  | cons item items ih =>
      obtain ⟨hitem, hitems⟩ := List.forall_mem_cons.mp h
      exact .cons hitem (ih hitems)

lemma forall₂_compactMembers {members : List (Option String × Json)}
    (h : ∀ m ∈ members, Spells m.2.compactChars m.2.tokensOf) :
    List.Forall₂ Spells (compactMembers members) (memberTokens members) := by
  induction members with
  | nil => exact .nil
  | cons m members ih =>
      obtain ⟨hvalue, hmembers⟩ := List.forall_mem_cons.mp h
      have hbehind := (spellsToken_literal m.1).spells.append (.token .colon hvalue)
      exact .cons hbehind (ih hmembers)

lemma Formed.spells_compact (h : j.Formed) : Spells j.compactChars j.tokensOf := by
  induction h with
  | null => exact SpellsToken.null.spells
  | bool b =>
      cases b with
      | false => exact SpellsToken.false.spells
      | true => exact SpellsToken.true.spells
  | number h => exact (SpellsToken.number (scanNumber?_eq_self_iff.mp h)).spells
  | string s => exact (spellsToken_literal s).spells
  | array h ih =>
      exact SpellsToken.openBracket.spells.append
        ((spells_joined (forall₂_compactItems ih)).append SpellsToken.closeBracket.spells)
  | object h ih =>
      exact SpellsToken.openBrace.spells.append
        ((spells_joined (forall₂_compactMembers ih)).append SpellsToken.closeBrace.spells)

/-- **A value without blanks** is a document of the value. -/
theorem writes_compact (h : j.Formed) : Writes j.compact j := by
  rw [Writes, compact, String.toList_ofList]
  exact h.spells_compact

/-- So is the value on several lines. -/
lemma writes_pretty (h : j.Formed) : Writes j.pretty j := by
  have hread := parse?_pretty h (by simp : ∀ d ∈ "".toList, isSpace d = true)
  rw [String.append_empty] at hread
  exact parse?_eq_some_iff.mp hread

end Census.Json
