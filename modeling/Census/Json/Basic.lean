/-
Values of the JSON data format.

* `Json`: the values, an object as the list of its members and a number as it is spelled;
* `Json.nat`: the value of a whole number;
* `Json.Token`: the tokens that a document is made of.

A string literal denotes no text when it escapes half of a surrogate pair; it stands as `none`.
-/

namespace Census

/-- A value of the JSON data format.  Members keep their order and their repetitions. -/
inductive Json
  | null
  | bool (value : Bool)
  | number (spelling : String)
  | string (text : Option String)
  | array (items : List Json)
  | object (members : List (Option String × Json))
  deriving Repr

namespace Json

instance : Inhabited Json :=
  ⟨null⟩

/-- The value of a text. -/
def text (s : String) : Json :=
  string (some s)

/-- The value of a whole number. -/
def nat (n : Nat) : Json :=
  number (toString n)

/-- The value of a text or of none. -/
def textOrNull (s : Option String) : Json :=
  (s.map text).getD null

/-- The object of members whose names are texts. -/
def ofMembers (members : List (String × Json)) : Json :=
  object (members.map fun (name, value) => (some name, value))

/-- A token of a document. -/
inductive Token
  | openBrace
  | closeBrace
  | openBracket
  | closeBracket
  | colon
  | comma
  | null
  | bool (value : Bool)
  | number (spelling : String)
  | string (text : Option String)
  deriving DecidableEq, Repr

end Json

end Census
