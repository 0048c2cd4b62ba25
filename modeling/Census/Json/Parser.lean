/-
JSON documents read back.

* `value?`: the value at the front of a list of tokens, and what follows;
* `Json.parse?`: the value of a document.
-/
import Census.Json.Lexer

namespace Census.Json

/-! ### Values of tokens

Every call is one token shorter than the call that makes it, so the number of tokens bounds the
depth. -/

mutual

/-- The value at the front of the tokens, and what follows. -/
def value? : Nat → List Token → Option (Json × List Token)
  | 0, _ => none
  | _, .null :: rest => some (.null, rest)
  | _, .bool b :: rest => some (.bool b, rest)
  | _, .number spelling :: rest => some (.number spelling, rest)
  | _, .string s :: rest => some (.string s, rest)
  | _, .openBracket :: .closeBracket :: rest => some (.array [], rest)
  | fuel + 1, .openBracket :: rest => (items? fuel rest).map fun (is, rest) => (.array is, rest)
  | _, .openBrace :: .closeBrace :: rest => some (.object [], rest)
  | fuel + 1, .openBrace :: rest => (members? fuel rest).map fun (ms, rest) => (.object ms, rest)
  | _, _ => none

/-- One or more items up to the closing bracket, and what follows it. -/
def items? : Nat → List Token → Option (List Json × List Token)
  | 0, _ => none
  | fuel + 1, tokens =>
    match value? fuel tokens with
    | some (item, .closeBracket :: rest) => some ([item], rest)
    | some (item, .comma :: rest) => (items? fuel rest).map fun (is, rest) => (item :: is, rest)
    | _ => none

/-- One or more members up to the closing brace, and what follows it. -/
def members? : Nat → List Token → Option (List (Option String × Json) × List Token)
  | 0, _ => none
  | fuel + 1, .string name :: .colon :: tokens =>
    match value? fuel tokens with
    | some (value, .closeBrace :: rest) => some ([(name, value)], rest)
    | some (value, .comma :: rest) =>
      (members? fuel rest).map fun (ms, rest) => ((name, value) :: ms, rest)
    | _ => none
  | _ + 1, _ => none

end

/-- The value of a document that is one value and nothing else. -/
def parseChars? (cs : List Char) : Option Json := do
  let tokens ← tokens? cs
  match value? (2 * tokens.length + 1) tokens with
  | some (j, []) => some j
  | _ => none

/-- The value of a document. -/
def parse? (s : String) : Option Json :=
  parseChars? s.toList

end Census.Json
