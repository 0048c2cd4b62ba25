/-
The tokens of a JSON document.

* `StringItem`, `scanString?`: what a string literal is made of, up to its closing mark;
* `textOf?`: the text that a string literal denotes;
* `scanNumber?`: the longest number at the front;
* `tokens?`: the tokens of a document, blanks between them skipped.
-/
import Census.Json.Basic

namespace Census.Json

/-- The blanks between tokens. -/
def isSpace (c : Char) : Bool :=
  c == ' ' || c == '\n' || c == '\r' || c == '\t'

/-! ### String literals -/

/-- One item of a string literal: a character, or half of a surrogate pair. -/
inductive StringItem
  | char (c : Char)
  | high (unit : Nat)
  | low (unit : Nat)
  deriving DecidableEq, Repr

/-- The value of a hexadecimal digit. -/
def hexValue? (c : Char) : Option Nat :=
  if c.isDigit then some (c.toNat - '0'.toNat)
  else if 'a' ≤ c ∧ c ≤ 'f' then some (c.toNat - 'a'.toNat + 10)
  else if 'A' ≤ c ∧ c ≤ 'F' then some (c.toNat - 'A'.toNat + 10)
  else none

/-- The value of four hexadecimal digits. -/
def hexValue4? (a b c d : Char) : Option Nat := do
  return 4096 * (← hexValue? a) + 256 * (← hexValue? b) + 16 * (← hexValue? c) + (← hexValue? d)

/-- The item of a UTF-16 unit. -/
def itemOfUnit (n : Nat) : StringItem :=
  if 0xD800 ≤ n ∧ n ≤ 0xDBFF then .high n
  else if 0xDC00 ≤ n ∧ n ≤ 0xDFFF then .low n
  else .char (Char.ofNat n)

/-- The character of an escape of one letter. -/
def escaped? : Char → Option Char
  | '"' => some '"'
  | '\\' => some '\\'
  | '/' => some '/'
  | 'b' => some '\x08'
  | 'f' => some '\x0c'
  | 'n' => some '\n'
  | 'r' => some '\r'
  | 't' => some '\t'
  | _ => none

/-- The items of a string literal after its opening mark, and what follows its closing mark.
Controls have to be escaped. -/
def scanString? : List Char → Option (List StringItem × List Char)
  | [] => none
  | '"' :: rest => some ([], rest)
  | '\\' :: 'u' :: a :: b :: c :: d :: rest => do
    let unit ← hexValue4? a b c d
    let (items, rest) ← scanString? rest
    return (itemOfUnit unit :: items, rest)
  | '\\' :: e :: rest => do
    let c ← escaped? e
    let (items, rest) ← scanString? rest
    return (.char c :: items, rest)
  | c :: rest =>
    if c.toNat < 0x20 ∨ c = '\\' then none
    else do
      let (items, rest) ← scanString? rest
      return (.char c :: items, rest)

/-- The characters of a string literal, if no half of a surrogate pair stands alone. -/
def charsOf? : List StringItem → Option (List Char)
  | [] => some []
  | .char c :: items => (charsOf? items).map (c :: ·)
  | .high h :: .low l :: items =>
    (charsOf? items).map (Char.ofNat (0x10000 + (h - 0xD800) * 0x400 + (l - 0xDC00)) :: ·)
  | .high _ :: _ => none
  | .low _ :: _ => none

/-- The text that a string literal denotes, if it denotes one. -/
def textOf? (items : List StringItem) : Option String :=
  (charsOf? items).map String.ofList

/-! ### Numbers -/

/-- The longest run of digits at the front, and what follows; there has to be one. -/
def scanDigits? (cs : List Char) : Option (List Char × List Char) :=
  match cs.span Char.isDigit with
  | ([], _) => none
  | found => some found

/-- A whole part: a zero, or digits that start with another. -/
def scanWhole? : List Char → Option (List Char × List Char)
  | '0' :: rest => some (['0'], rest)
  | cs => scanDigits? cs

/-- A fraction, if there is a point. -/
def scanFraction? : List Char → Option (List Char × List Char)
  | '.' :: rest => do
    let (ds, rest) ← scanDigits? rest
    return ('.' :: ds, rest)
  | cs => some ([], cs)

/-- An optional sign of an exponent. -/
def scanSign : List Char → List Char × List Char
  | '+' :: rest => (['+'], rest)
  | '-' :: rest => (['-'], rest)
  | cs => ([], cs)

/-- An exponent, if there is its mark. -/
def scanExponent? : List Char → Option (List Char × List Char)
  | c :: rest =>
    if c = 'e' ∨ c = 'E' then do
      let (sign, rest) := scanSign rest
      let (ds, rest) ← scanDigits? rest
      return (c :: sign ++ ds, rest)
    else some ([], c :: rest)
  | [] => some ([], [])

/-- The spelling of a number without sign, and what follows. -/
def scanUnsigned? (cs : List Char) : Option (List Char × List Char) := do
  let (whole, rest) ← scanWhole? cs
  let (fraction, rest) ← scanFraction? rest
  let (exponent, rest) ← scanExponent? rest
  return (whole ++ fraction ++ exponent, rest)

/-- The spelling of a number, and what follows. -/
def scanNumber? : List Char → Option (List Char × List Char)
  | '-' :: rest => do
    let (spelling, rest) ← scanUnsigned? rest
    return ('-' :: spelling, rest)
  | cs => scanUnsigned? cs

/-! ### Documents -/

/-- The token at the front, which is no blank, and what follows it. -/
def scanToken? : List Char → Option (Token × List Char)
  | '\x7b' :: rest => some (.openBrace, rest)
  | '\x7d' :: rest => some (.closeBrace, rest)
  | '[' :: rest => some (.openBracket, rest)
  | ']' :: rest => some (.closeBracket, rest)
  | ':' :: rest => some (.colon, rest)
  | ',' :: rest => some (.comma, rest)
  | 'n' :: 'u' :: 'l' :: 'l' :: rest => some (.null, rest)
  | 't' :: 'r' :: 'u' :: 'e' :: rest => some (.bool true, rest)
  | 'f' :: 'a' :: 'l' :: 's' :: 'e' :: rest => some (.bool false, rest)
  | '"' :: rest => (scanString? rest).map fun (items, rest) => (.string (textOf? items), rest)
  | cs => (scanNumber? cs).map fun (spelling, rest) => (.number (String.ofList spelling), rest)

/-- The tokens of a document of at most `fuel` characters. -/
def tokensFrom? : Nat → List Char → Option (List Token)
  | _, [] => some []
  | 0, _ :: _ => none
  | fuel + 1, c :: cs =>
    if isSpace c then tokensFrom? fuel cs
    else do
      let (token, rest) ← scanToken? (c :: cs)
      return token :: (← tokensFrom? fuel rest)

/-- The tokens of a document. -/
def tokens? (cs : List Char) : Option (List Token) :=
  tokensFrom? cs.length cs

end Census.Json
