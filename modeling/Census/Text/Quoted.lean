/-
Text in quotation marks, as it is shown in a description.

* `isHidden`: characters that a reader would not see as themselves;
* `quote`: the text between quotation marks, hidden characters as escapes.
-/
import Census.Text.Mark
import Census.Text.Unseen

namespace Census.Text

/-- The character is not seen as itself where it stands alone. -/
def isHidden (c : Char) : Bool :=
  if ' ' ≤ c ∧ c ≤ '~' then false else isMark c || isUnseen c

/-- One character between quotation marks. -/
def quoteChar (c : Char) : List Char :=
  match c with
  | '"' => ['\\', '"']
  | '\\' => ['\\', '\\']
  | '\n' => ['\\', 'n']
  | '\r' => ['\\', 'r']
  | '\t' => ['\\', 't']
  | '\x00' => ['\\', '0']
  | c =>
    if isHidden c then ['\\', 'u', '\x7b'] ++ Nat.toDigits 16 c.toNat ++ ['\x7d'] else [c]

/-- The text between quotation marks. -/
def quote (s : String) : String :=
  String.ofList ('"' :: s.toList.flatMap quoteChar ++ ['"'])

end Census.Text
