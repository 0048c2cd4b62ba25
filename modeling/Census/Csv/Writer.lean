/-
Comma-separated values, written.

* `Csv.needsQuotes`: a field that could not be told from its surroundings without quotes;
* `Csv.fieldChars`: a field, quoted where needed, quotes inside doubled;
* `Csv.write`: rows of fields, each row ended by a line feed.
-/

namespace Census.Csv

/-- The field holds a comma, a quote or the end of a line. -/
def needsQuotes (cs : List Char) : Bool :=
  cs.any fun c => c == ',' || c == '"' || c == '\n' || c == '\r'

/-- Every quote twice. -/
def doubleQuotes (cs : List Char) : List Char :=
  cs.flatMap fun c => if c = '"' then ['"', '"'] else [c]

/-- A field, in quotes where it needs them. -/
def fieldChars (cs : List Char) : List Char :=
  if needsQuotes cs then '"' :: doubleQuotes cs ++ ['"'] else cs

/-- The fields of a row with commas between them and a line feed at the end. -/
def rowChars : List (List Char) → List Char
  | [] => ['\n']
  | [field] => fieldChars field ++ ['\n']
  | field :: fields => fieldChars field ++ ',' :: rowChars fields

/-- Rows of fields. -/
def write (rows : List (List String)) : String :=
  String.ofList (rows.flatMap fun row => rowChars (row.map String.toList))

end Census.Csv
