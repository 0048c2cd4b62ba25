/-
Comma-separated values, read.

* `rawField`, `fieldValue?`: the field at the front of a text as it stands, and what it holds;
* `readRow?`, `readRows?`: the cells of rows;
* `headerLine`, `headerNames`: the first line and the names of the columns;
* `lastLine`, `readLines?`, `readBody?`: the lines below it, and the table;
* `readText?`, `readBytes?`, `read?`: the table of a text, of bytes, and of a file.

A quote at the start of a field opens a quoted part, in which commas and line feeds are text; any
other quote is text itself.  A field in which nothing stands has no value; two quotes are the empty
text.  A row may be short, but not long.  Lines are counted apart from rows,
and for them every quote opens or closes a quoted part: a text is refused where the two disagree.
-/
import Census.Distinct
import Census.Table
import Census.Text.Utf8

namespace Census.Csv

/-! ### Fields -/

/-- Ends an unquoted field. -/
def isDelimiter (c : Char) : Bool :=
  c == ',' || c == '\n'

/-- Splits at the first delimiter that is not between quotes. -/
def splitQuoted (inside : Bool) (passed : List Char) : List Char → List Char × List Char
  | [] => (passed.reverse, [])
  | c :: cs =>
    let inside := if c = '"' then !inside else inside
    if !inside && isDelimiter c then (passed.reverse, c :: cs)
    else splitQuoted inside (c :: passed) cs

/-- The field at the front as it stands, and the delimiter with what follows. -/
def rawField (cs : List Char) : List Char × List Char :=
  match cs with
  | '"' :: _ => splitQuoted false [] cs
  | _ => cs.span fun c => !isDelimiter c

/-- The text without one carriage return at its end. -/
def dropReturn (cs : List Char) : List Char :=
  if cs.getLast? = some '\r' then cs.dropLast else cs

/-- Of each pair of quotes one; a quote that is not doubled is left out. -/
def undoubleQuotes : List Char → List Char
  | [] => []
  | '"' :: '"' :: cs => '"' :: undoubleQuotes cs
  | '"' :: cs => undoubleQuotes cs
  | c :: cs => c :: undoubleQuotes cs

/-- What a field holds: no value, or a text.  A field that starts with a quote has to end with
another. -/
def fieldValue? (raw : List Char) : Option Cell :=
  match dropReturn raw with
  | [] => some .none
  | '"' :: cs =>
    if cs.getLast? = some '"' then some (.text (String.ofList (undoubleQuotes cs.dropLast)))
    else none
  | cs => some (.text (String.ofList cs))

/-! ### Rows -/

/-- The cells of a row that has room for `more` fields after the first, and the rows that follow.
There may be a comma too much only where the text ends. -/
def readRow? (more : Nat) (cs : List Char) : Option (List Cell × List Char) := do
  let (raw, rest) := rawField cs
  let value ← fieldValue? raw
  match more, rest with
  | _, [] => return ([value], [])
  | _, '\n' :: rest => return ([value], rest)
  | 0, _ :: rest => if rest = [] then return ([value], []) else none
  | more + 1, _ :: rest => do
    let (values, rest) ← readRow? more rest
    return (value :: values, rest)

/-- The rows of a text of at most `fuel` characters, put after those read already. -/
def readRows? (more : Nat) : Nat → List (Array Cell) → List Char → Option (List (Array Cell))
  | _, done, [] => some done.reverse
  | 0, _, _ :: _ => none
  | fuel + 1, done, cs => do
    let (values, rest) ← readRow? more cs
    readRows? more fuel (values.toArray :: done) rest

/-! ### The first line -/

/-- Splits at the first line feed that is not between quotes, wherever these stand.  The line feed
belongs to neither part. -/
def headerLine (inside : Bool) (passed : List Char) : List Char → List Char × List Char
  | [] => (passed.reverse, [])
  | c :: cs =>
    let inside := if c = '"' then !inside else inside
    if !inside && c = '\n' then (passed.reverse, cs) else headerLine inside (c :: passed) cs

/-- The name that a field of the first line gives.  Quotes around it are left out, quotes inside it
stand as they are. -/
def headerName (raw : List Char) : String :=
  match raw with
  | '"' :: c :: cs => String.ofList (c :: cs).dropLast
  | cs => String.ofList cs

/-- The names of a first line of at most `fuel` characters. -/
def headerFields : Nat → List Char → List String
  | 0, cs => [headerName (rawField cs).1]
  | fuel + 1, cs =>
    let (raw, rest) := rawField cs
    match rest with
    | ',' :: rest => headerName raw :: headerFields fuel rest
    | _ => [headerName raw]

/-- Numbers the repetitions of a name: the first one after it has the number 0. -/
def numberRepetitions (earlier : List String) : List String → List String
  | [] => []
  | name :: names =>
    let count := earlier.count name
    let unique := if count = 0 then name else s!"{name}_duplicated_{count - 1}"
    unique :: numberRepetitions (name :: earlier) names

/-- The names of the columns, all different. -/
def headerNames (line : List Char) : List String :=
  let line := if 1 < line.length then dropReturn line else line
  distinct (numberRepetitions [] (headerFields line.length line))

/-- The text with a line feed at its end. -/
def closeLine (cs : List Char) : List Char :=
  if cs.getLast? = some '\n' then cs else cs ++ ['\n']

/-! ### Lines -/

/-- The number of line feeds that are not between quotes, wherever these stand, added to `count`,
and what follows the last of them; `last` where there is none. -/
def lastLine (inside : Bool) (count : Nat) (last : List Char) : List Char → Nat × List Char
  | [] => (count, last)
  | c :: cs =>
    let inside := if c = '"' then !inside else inside
    if !inside && c = '\n' then lastLine inside (count + 1) cs cs
    else lastLine inside count last cs

/-- The rows of a text, if there are as many as it has lines. -/
def readLines? (more count : Nat) (cs : List Char) : Option (List (Array Cell)) := do
  let rows ← readRows? more cs.length [] cs
  if rows.length = count then return rows else none

/-- The table of the names of its columns and the text of its rows.  What follows the last line feed
is read apart from what is in front of it. -/
def readBody? (names : List String) (body : List Char) : Option Table := do
  let (count, last) := lastLine false 0 body body
  let rows ← readLines? (names.length - 1) count (body.take (body.length - last.length))
  let more ← readLines? (names.length - 1) (if last = [] then 0 else 1) last
  return Table.ofRows names (rows ++ more)

/-! ### Tables -/

/-- The end of a line. -/
def isLineEnd (c : Char) : Bool :=
  c == '\n' || c == '\r'

/-- The table of a text.  The names are in the first line that is not blank.  Blank lines in front
of it do not count; only where there is a single column, the first of them stands for the line of
names, and the rows follow it. -/
def readText? (cs : List Char) : Option Table :=
  let front := cs.dropWhile isLineEnd
  if front = [] then none
  else
    let names := headerNames (headerLine false [] (closeLine front)).1
    readBody? names (headerLine false [] (if 1 < names.length then front else cs)).2

/-- The text without a byte order mark at its front. -/
def dropMark : List Char → List Char
  | '\uFEFF' :: cs => cs
  | cs => cs

/-- The bytes without a byte order mark at their front. -/
def dropMarkBytes : List UInt8 → List UInt8
  | 0xEF :: 0xBB :: 0xBF :: bs => bs
  | bs => bs

/-- Splits bytes as `headerLine` splits text. -/
def headerBytes (inside : Bool) (passed : List UInt8) : List UInt8 → List UInt8 × List UInt8
  | [] => (passed.reverse, [])
  | b :: bs =>
    let inside := if b = 0x22 then !inside else inside
    if !inside && b == 0x0A then (passed.reverse, bs) else headerBytes inside (b :: passed) bs

/-- Bytes with a line feed at their end. -/
def closeBytes (bs : List UInt8) : List UInt8 :=
  if bs.getLast? = some 0x0A then bs else bs ++ [0x0A]

/-- The table of bytes that are not UTF-8.  Below the first line they have to be; in it, what is not
stands as replacement characters. -/
def readBytes? (bs : List UInt8) : Option Table := do
  let front := bs.dropWhile fun b => b == 0x0A || b == 0x0D
  let names := headerNames (Text.decodeLossy (headerBytes false [] (closeBytes front)).1)
  let body := (headerBytes false [] (if 1 < names.length then front else bs)).2
  let body ← String.fromUTF8? ⟨body.toArray⟩
  readBody? names body.toList

/-- The bytes start as compressed data do. -/
def isCompressed : List UInt8 → Bool
  | 0x1F :: 0x8B :: _ :: _ :: _ => true
  | 0x78 :: b :: _ :: _ :: _ => b == 0x01 || b == 0x5E || b == 0x9C || b == 0xDA
  | 0x28 :: 0xB5 :: 0x2F :: 0xFD :: _ => true
  | _ => false

/-- The table of the bytes of a file.  Compressed data are no table. -/
def read? (bytes : ByteArray) : Option Table :=
  if isCompressed bytes.toList then none
  else match String.fromUTF8? bytes with
    | some s => readText? (dropMark s.toList)
    | none => readBytes? (dropMarkBytes bytes.toList)

end Census.Csv
