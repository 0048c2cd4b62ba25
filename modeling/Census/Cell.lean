/-
The values of a table's cells and the text that checks compare.

* `Cell`: no value, a number, text, a truth value, a day or an instant;
* `Cell.render`: the value as text, no value as the empty text;
* `Cell.key`: that text trimmed.
-/
import Census.Calendar.Date
import Census.Number.Binary64
import Census.Text.Blank

namespace Census

/-- The value of one cell.  A day counts from 1970-01-01, an instant in milliseconds from then.
Days and instants before the year -262143 or after the year 262142 are outside the program: they
have no text that could be shown or compared. -/
inductive Cell
  | none
  | integer (value : Int)
  | real (value : Number.Binary64)
  | text (value : String)
  | flag (value : Bool)
  | day (number : Int)
  | instant (milliseconds : Int)
  deriving DecidableEq, Repr

namespace Cell

/-- The value as text.  It means nothing for days and instants outside the years of `Cell`. -/
def render : Cell → String
  | none => ""
  | integer n => toString n
  | real x => x.text
  | text s => s
  | flag b => if b then "Y" else "N"
  | day n => (Date.ofDayNumber n).text
  | instant ms => instantText ms

/-- The text of the value without blanks at its ends, which is what checks compare. -/
def key (c : Cell) : String :=
  Text.trim c.render

end Cell

end Census
