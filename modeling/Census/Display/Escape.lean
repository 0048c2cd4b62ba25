/-
Escape sequences of a terminal in a text.

* `escapeLength`: the length of a sequence that a terminal takes in;
* `visible`: the text that it shows;
* `styleLength`, `styles`: the sequences of a text that set a style;
* `restyle`: lines that each have the style which the lines above leave on.
-/
namespace Census.Display

/-- Starts a sequence. -/
def escape : Char :=
  '\x1b'

/-! ### What is shown -/

/-- The length of a list up to its first member with a property, or up to an escape in front of it,
which belongs to what follows. -/
def lengthThrough (p : Char → Bool) (cs : List Char) : Option Nat :=
  (cs.findIdx? fun c => p c || c == escape).map fun i =>
    if cs[i]? = some escape then i else i + 1

/-- The length of the sequence that follows its first character, if it is complete.  A control ends
with its final character, a command with a bell; other texts and all that is broken off end in front
of an escape. -/
def escapeLength : List Char → Option Nat
  | [] => none
  | c :: cs =>
    let rest :=
      if c = '[' then lengthThrough (fun c => '@' ≤ c && c ≤ '~') cs
      else if c = ']' then lengthThrough (· == '\x07') cs
      else if ['P', 'X', '^', '_'].contains c then lengthThrough (fun _ => false) cs
      else if ' ' ≤ c ∧ c ≤ '/' then lengthThrough (fun c => '0' ≤ c && c ≤ '~') cs
      else if '0' ≤ c ∧ c ≤ '~' then some 0
      else none
    if c = escape then some 0 else rest.map (· + 1)

/-- The text without sequences, where as many characters as `skip` belong to one already. -/
def visibleFrom : Nat → List Char → List Char
  | _, [] => []
  | skip + 1, _ :: cs => visibleFrom skip cs
  | 0, c :: cs =>
    match (if c = escape then escapeLength cs else none) with
    | some n => visibleFrom n cs
    | none => c :: visibleFrom 0 cs

/-- The text that a terminal shows. -/
def visible (s : String) : String :=
  String.ofList (visibleFrom 0 s.toList)

/-! ### Styles -/

/-- Ends a sequence that sets a style. -/
def endsStyle (c : Char) : Bool :=
  c.isDigit || ('A' ≤ c && c ≤ 'P') || c == 'R' || c == 'Z' || c == 'c' || ('f' ≤ c && c ≤ 'n') ||
    ['q', 'r', 'y', '=', '>', '<'].contains c

/-- The greatest length of numbers and an end, where the first number has room for some digits more.
A semicolon comes between numbers only. -/
def numbersLength (started : Bool) (room : Nat) : List Char → Option Nat
  | [] => none
  | c :: cs =>
    let longer :=
      if c.isDigit then if room = 0 then none else numbersLength true (room - 1) cs
      else if started && c == ';' then numbersLength true 4 cs
      else none
    match longer with
    | some n => some (n + 1)
    | none => if endsStyle c then some 1 else none

/-- The length of a command that follows its first character: up to a bell, or to an escape and a
backslash. -/
def commandLength (cs : List Char) : Option Nat :=
  (cs.findIdx? fun c => c == '\x07' || c == escape).bind fun i =>
    if cs[i]? = some '\x07' then some (i + 1)
    else if cs[i + 1]? = some '\\' then some (i + 2)
    else none

/-- The length of the sequence for a style that follows a first character, if it is one. -/
def styleLength (first : Char) (cs : List Char) : Option Nat :=
  if first = escape ∧ cs.head? = some ']' then (commandLength cs.tail).map (· + 1)
  else if first = escape ∨ first = '\u009b' then
    let intro := cs.takeWhile fun c => ['[', '(', ')', '#', ';', '?'].contains c
    (numbersLength false 4 (cs.drop intro.length)).map (intro.length + ·)
  else none

/-- The sequences for styles of a text, where as many characters as `skip` belong to one already. -/
def stylesFrom : Nat → List Char → List String
  | _, [] => []
  | skip + 1, _ :: cs => stylesFrom skip cs
  | 0, c :: cs =>
    match styleLength c cs with
    | some n => String.ofList (c :: cs.take n) :: stylesFrom n cs
    | none => stylesFrom 0 cs

/-- The sequences for styles of a text. -/
def styles (s : String) : List String :=
  stylesFrom 0 s.toList

/-- Takes back all styles. -/
def resetStyle : String :=
  "\x1b[0m"

/-- The styles that are on after one more sequence. -/
def applyStyle (active : List String) (style : String) : List String :=
  if style = resetStyle then [] else active ++ [style]

/-- Lines with the styles that are on in front of them; they are taken back at the end of each
line. -/
def restyle (active : List String) : List String → List String
  | [] => []
  | line :: rest =>
    let after := (styles line).foldl applyStyle active
    let restyled := String.join active ++ line ++ (if after = [] then "" else resetStyle)
    restyled :: restyle after rest

end Census.Display
