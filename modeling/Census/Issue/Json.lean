/-
Issues as JSON.

* `Issue.toJson`: an issue as an object of four members;
* `Issue.ofJson?`: the issue of an object that has each of the four members once, or of an array of
  the four in order;
* `Issue.parse?`: the issue of a document.

Rows are whole numbers of the unsigned 64-bit range.  Other members of the object are passed over.
-/
import Census.Issue
import Census.Json.Parser
import Census.Json.Printer
import Census.Number.Integer

namespace Census.Issue

/-- An issue as an object. -/
def toJson (i : Issue) : Json :=
  .ofMembers
    [("rule_code", .text i.rule), ("table", .text i.table),
      ("fields", .array (i.fields.map .text)), ("rows", .array (i.rows.map .nat))]

/-- A text. -/
def text? : Json → Option String
  | .string s => s
  | _ => none

/-- A row: a whole number without sign, of the unsigned 64-bit range. -/
def row? : Json → Option Nat
  | .number spelling => (Number.natural? spelling.toList).filter Number.fitsUnsigned64
  | _ => none

/-- A list of texts. -/
def texts? : Json → Option (List String)
  | .array items => items.mapM text?
  | _ => none

/-- A list of rows. -/
def rows? : Json → Option (List Nat)
  | .array items => items.mapM row?
  | _ => none

/-- The value of the only member of a name. -/
def only? (members : List (Option String × Json)) (name : String) : Option Json :=
  match members.filter fun m => m.1 == some name with
  | [(_, value)] => some value
  | _ => none

/-- The four parts of an issue. -/
def ofParts? (rule table fields rows : Json) : Option Issue := do
  return ⟨← text? rule, ← text? table, ← texts? fields, ← rows? rows⟩

/-- The issue of a value.  In an object all names have to be texts. -/
def ofJson? : Json → Option Issue
  | .object members =>
    if members.all (·.1.isSome) then do
      ofParts? (← only? members "rule_code") (← only? members "table")
        (← only? members "fields") (← only? members "rows")
    else none
  | .array [rule, table, fields, rows] => ofParts? rule table fields rows
  | _ => none

/-- The issue of a document. -/
def parse? (document : String) : Option Issue := do
  ofJson? (← Json.parse? document)

end Census.Issue
