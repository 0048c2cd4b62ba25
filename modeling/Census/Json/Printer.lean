/-
Written JSON.

* `Json.escape`, `Json.quoted`: a text as a string literal;
* `Json.compact`: a value without blanks;
* `Json.pretty`: a value on several lines, each level two spaces further in.
-/
import Census.Json.Basic

namespace Census.Json

/-- One character of a string literal.  Quotation mark, backslash and controls are escaped; all
else stands for itself. -/
def escape (c : Char) : List Char :=
  match c with
  | '"' => ['\\', '"']
  | '\\' => ['\\', '\\']
  | '\x08' => ['\\', 'b']
  | '\x0c' => ['\\', 'f']
  | '\n' => ['\\', 'n']
  | '\r' => ['\\', 'r']
  | '\t' => ['\\', 't']
  | c =>
    if c.toNat < 0x20 then
      ['\\', 'u', '0', '0', Nat.digitChar (c.toNat / 16), Nat.digitChar (c.toNat % 16)]
    else [c]

/-- A text as a string literal. -/
def quoted (s : String) : List Char :=
  '"' :: s.toList.flatMap escape ++ ['"']

/-- A string literal; the one that denotes no text escapes half of a surrogate pair. -/
def literal : Option String → List Char
  | some s => quoted s
  | none => ['"', '\\', 'u', 'd', '8', '0', '0', '"']

/-- Texts with a separator between them. -/
def joined (separator : List Char) : List (List Char) → List Char
  | [] => []
  | [x] => x
  | x :: xs => x ++ separator ++ joined separator xs

/-! ### Without blanks -/

mutual

/-- A value without blanks. -/
def compactChars : Json → List Char
  | null => ['n', 'u', 'l', 'l']
  | bool true => ['t', 'r', 'u', 'e']
  | bool false => ['f', 'a', 'l', 's', 'e']
  | number spelling => spelling.toList
  | string s => literal s
  | array items => '[' :: joined [','] (compactItems items) ++ [']']
  | object members => '\x7b' :: joined [','] (compactMembers members) ++ ['\x7d']

/-- The items of an array without blanks. -/
def compactItems : List Json → List (List Char)
  | [] => []
  | item :: items => compactChars item :: compactItems items

/-- The members of an object without blanks. -/
def compactMembers : List (Option String × Json) → List (List Char)
  | [] => []
  | (name, value) :: members =>
    (literal name ++ ':' :: compactChars value) :: compactMembers members

end

/-- A value without blanks. -/
def compact (j : Json) : String :=
  String.ofList j.compactChars

/-! ### On several lines -/

/-- A new line, `depth` levels in. -/
def newLine (depth : Nat) : List Char :=
  '\n' :: List.replicate (2 * depth) ' '

/-- Parts between brackets, each on a line one level further in than the brackets; nothing between
the brackets when there is no part. -/
def block (depth : Nat) (opening closing : Char) (parts : List (List Char)) : List Char :=
  if parts = [] then [opening, closing]
  else opening :: newLine (depth + 1) ++ joined (',' :: newLine (depth + 1)) parts ++
    newLine depth ++ [closing]

mutual

/-- A value on several lines, its brackets `depth` levels in. -/
def prettyChars (depth : Nat) : Json → List Char
  | null => ['n', 'u', 'l', 'l']
  | bool true => ['t', 'r', 'u', 'e']
  | bool false => ['f', 'a', 'l', 's', 'e']
  | number spelling => spelling.toList
  | string s => literal s
  | array items => block depth '[' ']' (prettyItems (depth + 1) items)
  | object members => block depth '\x7b' '\x7d' (prettyMembers (depth + 1) members)

/-- The items of an array, `depth` levels in. -/
def prettyItems (depth : Nat) : List Json → List (List Char)
  | [] => []
  | item :: items => prettyChars depth item :: prettyItems depth items

/-- The members of an object, `depth` levels in. -/
def prettyMembers (depth : Nat) : List (Option String × Json) → List (List Char)
  | [] => []
  | (name, value) :: members =>
    (literal name ++ ':' :: ' ' :: prettyChars depth value) :: prettyMembers depth members

end

/-- A value on several lines. -/
def pretty (j : Json) : String :=
  String.ofList (j.prettyChars 0)

end Census.Json
