/-
Events of a run, and the lines of a log.

* `Event`: level, message, fields and the spans that it happened in;
* `Format`: the three forms of a line;
* `Event.line`: the line of an event;
* `Event.line?`: the same for an event that the threshold lets through.
-/
import Census.Json.Printer
import Census.Log.Level
import Census.Text.Quoted

namespace Census.Log

/-- The value of a field: a number, text, or text that is shown between quotation marks. -/
inductive Value
  | number (n : Nat)
  | text (s : String)
  | quoted (s : String)
  deriving DecidableEq, Repr

namespace Value

/-- The value in a line of text. -/
def shown : Value → String
  | number n => toString n
  | text s => s
  | quoted s => Text.quote s

/-- The value in a line of JSON. -/
def toJson : Value → Json
  | number n => .nat n
  | text s => .text s
  | quoted s => .text s

end Value

/-- A field with its name. -/
abbrev Field := String × Value

/-- What an event happened in. -/
structure Span where
  name : String
  fields : List Field
  deriving DecidableEq, Repr

/-- An event, the outermost of its spans first. -/
structure Event where
  level : Level
  message : String
  fields : List Field
  spans : List Span := []
  deriving DecidableEq, Repr

/-- The event inside one more span. -/
def Event.within (span : Span) (e : Event) : Event :=
  { e with spans := span :: e.spans }

/-- The form of a line: spans with their fields in front, the fields of spans at the end, or one
JSON object. -/
inductive Format
  | pretty
  | compact
  | json
  deriving DecidableEq, Repr

namespace Format

/-- The format as a setting. -/
def name : Format → String
  | pretty => "pretty"
  | compact => "compact"
  | json => "json"

/-- The format of a setting. -/
def named? (s : String) : Option Format :=
  [pretty, compact, json].find? fun f => f.name == s

end Format

/-! ### Lines -/

/-- A field as name and value. -/
def shownField (f : Field) : String :=
  f.1 ++ "=" ++ f.2.shown

/-- Fields as an object. -/
def fieldsJson (fields : List Field) : List (String × Json) :=
  fields.map fun (name, value) => (name, value.toJson)

namespace Span

/-- The span in front of a message. -/
def shown (s : Span) : String :=
  if s.fields = [] then s.name ++ ":"
  else s.name ++ "\x7b" ++ " ".intercalate (s.fields.map shownField) ++ "\x7d:"

/-- The span as an object. -/
def toJson (s : Span) : Json :=
  .ofMembers (fieldsJson s.fields ++ [("name", .text s.name)])

end Span

namespace Event

/-- The message and the fields that follow it. -/
def body (message : String) (fields : List Field) : String :=
  " ".intercalate (message :: fields.map shownField)

/-- The event at some time as an object. -/
def toJson (e : Event) (time : String) : Json :=
  .ofMembers
    [("timestamp", .text time), ("level", .text e.level.label),
      ("fields", .ofMembers (("message", .text e.message) :: fieldsJson e.fields)),
      ("spans", .array (e.spans.map Span.toJson))]

/-- The line of an event.  Only a line of JSON has the time. -/
def line (e : Event) (format : Format) (time : String) : String :=
  let spans := fun shown : Span → String =>
    if e.spans = [] then "" else String.join (e.spans.map shown) ++ " "
  match format with
  | .pretty =>
    e.level.heading ++ " " ++ spans Span.shown ++ body e.message e.fields ++ "\n"
  | .compact =>
    e.level.heading ++ " " ++ spans (fun s => s.name ++ ":") ++
      body e.message (e.fields ++ e.spans.flatMap Span.fields) ++ "\n"
  | .json => (e.toJson time).compact ++ "\n"

/-- The line of an event that a threshold lets through.  Spans are shown where the threshold lets
information through. -/
def line? (e : Event) (t : Threshold) (format : Format) (time : String) : Option String :=
  if t.admits e.level then
    let e := if t.admits .info then e else { e with spans := [] }
    some (e.line format time)
  else none

end Event

end Census.Log
