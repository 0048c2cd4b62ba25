/-
The options and words of a command line.

* `Key`: the options, with their spellings and the values they take;
* `Scope`: the options and the number of words that are understood in some place;
* `Given`: the options and words found so far;
* `scan`: options and words in order, up to the first that is not understood.

An option is spelled `--name`, with its value after `=` or as the next argument, or with one letter.
Letters may share a hyphen; the last of them may be followed by its value.  After `--` all is words.
-/
import Census.Log.Event
import Census.Number.Integer
import Census.Validation

namespace Census.CommandLine

/-! ### Options -/

/-- An option. -/
inductive Key
  | verbose
  | quiet
  | color
  | logLevel
  | logFormat
  | logFile
  | cycle
  | rule
  | outputDir
  | format
  | jobs
  | help
  | version
  deriving DecidableEq, Repr

namespace Key

/-- The name after two hyphens. -/
def long : Key → String
  | verbose => "verbose"
  | quiet => "quiet"
  | color => "color"
  | logLevel => "log-level"
  | logFormat => "log-format"
  | logFile => "log-file"
  | cycle => "cycle"
  | rule => "rule"
  | outputDir => "output-dir"
  | format => "format"
  | jobs => "jobs"
  | help => "help"
  | version => "version"

/-- The letter after one hyphen. -/
def letter? : Key → Option Char
  | verbose => some 'v'
  | quiet => some 'q'
  | jobs => some 'j'
  | help => some 'h'
  | version => some 'V'
  | _ => none

/-- The option has a value. -/
def takesValue : Key → Bool
  | verbose | quiet | help | version => false
  | _ => true

/-- The option may be given more than once. -/
def repeats : Key → Bool
  | verbose | quiet | rule => true
  | _ => false

/-- The option admits a value. -/
def accepts (k : Key) (value : String) : Bool :=
  match k with
  | color => ["auto", "always", "never"].contains value
  | logLevel => (Log.Level.named? value).isSome
  | logFormat => (Log.Format.named? value).isSome
  | format => (ReportFormat.named? value).isSome
  | jobs => (Number.unsigned64? value).isSome
  | logFile | outputDir => value ≠ ""
  | verbose | quiet | cycle | rule | help | version => true

end Key

/-- The options that are understood everywhere. -/
def globalKeys : List Key :=
  [.verbose, .quiet, .color, .logLevel, .logFormat, .logFile, .help]

/-- The options and the number of words that are understood in some place.  Words may be required
not to be empty. -/
structure Scope where
  keys : List Key
  most : Nat
  emptyWords : Bool
  deriving DecidableEq, Repr

/-- Why scanning ends early. -/
inductive Stop
  | help
  | version
  /-- Something is not understood. -/
  | refused
  deriving DecidableEq, Repr

/-- The options with their values, and the words, in order. -/
structure Given where
  options : List (Key × String)
  words : List String
  deriving DecidableEq, Repr

namespace Given

/-- Nothing found so far. -/
def empty : Given :=
  ⟨[], []⟩

/-- The values of an option, in order. -/
def values (g : Given) (k : Key) : List String :=
  (g.options.filter fun o => o.1 == k).map (·.2)

/-- The option is given. -/
def has (g : Given) (k : Key) : Bool :=
  !(g.values k).isEmpty

/-- One more option. -/
def addOption (g : Given) (k : Key) (value : String) : Except Stop Given :=
  match k with
  | .help => .error .help
  | .version => .error .version
  | k =>
    if (k.repeats || !g.has k) && k.accepts value then
      .ok { g with options := g.options ++ [(k, value)] }
    else .error .refused

/-- One more word. -/
def addWord (g : Given) (s : Scope) (word : String) : Except Stop Given :=
  if g.words.length < s.most ∧ (s.emptyWords ∨ word ≠ "") then
    .ok { g with words := g.words ++ [word] }
  else .error .refused

/-- Words in order. -/
def addWords (g : Given) (s : Scope) : List String → Except Stop Given
  | [] => .ok g
  | word :: rest => do addWords (← g.addWord s word) s rest

/-- It is asked for more and for less to be logged. -/
def contradicts (g : Given) : Bool :=
  g.has .verbose && g.has .quiet

end Given

/-! ### Scanning -/

/-- The options of letters that share a hyphen, and the last of them if it still lacks its value. -/
def scanLetters (s : Scope) (g : Given) : List Char → Except Stop (Given × Option Key)
  | [] => .ok (g, none)
  | c :: cs =>
    match s.keys.find? fun k => k.letter? == some c with
    | none => .error .refused
    | some k =>
      if k.takesValue then
        match cs with
        | [] => .ok (g, some k)
        | '=' :: value | value => do return (← g.addOption k (String.ofList value), none)
      else do scanLetters s (← g.addOption k "") cs

/-- The option of a name, which may carry its value after `=`; and the option again if it still
lacks its value. -/
def scanName (s : Scope) (g : Given) (cs : List Char) : Except Stop (Given × Option Key) :=
  let (name, tail) := cs.span (· != '=')
  match s.keys.find? fun k => k.long == String.ofList name with
  | none => .error .refused
  | some k =>
    match k.takesValue, tail with
    | true, [] => .ok (g, some k)
    | true, _ :: value => do return (← g.addOption k (String.ofList value), none)
    | false, [] => do return (← g.addOption k "", none)
    | false, _ :: _ => .error .refused

/-- An argument by its form. -/
inductive Form
  | word
  | name (cs : List Char)
  | letters (cs : List Char)
  /-- All that follows is words. -/
  | separator
  deriving DecidableEq, Repr

/-- The form of an argument.  A lone hyphen is a word. -/
def form (arg : String) : Form :=
  match arg.toList with
  | ['-', '-'] => .separator
  | '-' :: '-' :: cs => .name cs
  | '-' :: c :: cs => .letters (c :: cs)
  | _ => .word

/-- Options and words in order.  In a scope without words the first word ends the scanning; it is
given back with what follows. -/
def scan (s : Scope) (g : Given) (args : List String) : Except Stop (Given × List String) := do
  match args with
  | [] => return (g, [])
  | arg :: rest =>
    let found : Given × Option Key ← match form arg with
      | .word =>
        if s.most = 0 then return (g, args)
        pure (← g.addWord s arg, none)
      | .separator => return (← g.addWords s rest, [])
      | .name cs => scanName s g cs
      | .letters cs => scanLetters s g cs
    match found, rest with
    | (g, none), rest => scan s g rest
    | (g, some k), value :: rest =>
      if form value = .word then scan s (← g.addOption k value) rest else throw .refused
    | (_, some _), [] => throw .refused
termination_by args.length

end Census.CommandLine
