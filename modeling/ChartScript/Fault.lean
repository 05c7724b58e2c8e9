import ChartScript.QualifiedName

/-!
# What can be wrong with a command file

A fault is the cause of a refusal, with the parts of the line that its message quotes.  A
syntax error adds the column, counted in characters from 1, where the reader knows it, and
an expansion error adds the line.  A chart error arises later, when a well-formed statement
asks for a series that no chart can take, and a load error when there is no file to read.
-/

namespace ChartScript

inductive ErrorKind where
  | form
  | name
  | range
  | file
  deriving DecidableEq, Repr

def ErrorKind.text : ErrorKind → String
  | .form => "syntax"
  | .name => "name"
  | .range => "range"
  | .file => "io"

inductive Fault where
  | emptyReference
  | openReference
  | openRange
  | rangeBounds (found : Text)
  | rangeBoundSize (bound : Text)
  | rangeLength
  | noRange
  | openLoop
  | nestedLoop
  | strayNext
  | shortList
  | listOperation (found : Text)
  | loopHeader
  | loopSource
  | openListReference (reference : Text)
  | emptyListReference
  | markerName (found : Text)
  | blockKeyword (word : Text)
  | shortSeries
  | datasetNumber (found : Text)
  | axisNumber (found : Text)
  | addition (found : Text)
  | noDefine
  | noName
  | variableName (found : Text)
  | nameNumber (found : Text)
  | noUnit (name : QualifiedName)
  | noEquals (unit : Text)
  | noExpression (name : QualifiedName)
  | stated (message : String)
  deriving DecidableEq, Repr

namespace Fault

def message : Fault → String
  | .emptyReference => "empty variable reference"
  | .openReference => "missing closing '\x7d' in variable reference"
  | .openRange => "missing closing ')' in RANGE"
  | .rangeBounds found => s!"RANGE expects two integers 'a,b', found '{found.str}'"
  | .rangeBoundSize bound => s!"RANGE bound '{bound.str}' is out of range"
  | .rangeLength => "RANGE spans more than 100000 values"
  | .noRange => "expected a RANGE(a,b) expression"
  | .openLoop => "FOR block has no matching NEXT"
  | .nestedLoop => "nested FOR blocks are not supported"
  | .strayNext => "NEXT without a matching FOR"
  | .shortList => "LIST needs NEW or ADD, a list name and at least one value"
  | .listOperation found => s!"first argument of LIST must be NEW or ADD, found '{found.str}'"
  | .loopHeader => "expected 'FOR <var> IN <list>'"
  | .loopSource => "FOR takes a single list reference"
  | .openListReference reference => s!"unterminated list reference '{reference.str}'"
  | .emptyListReference => "empty list reference"
  | .markerName found => s!"wildcard DEFINE name must look like '*:<name>', found '{found.str}'"
  | .blockKeyword word => s!"{word.str} is not allowed inside a FOR block"
  | .shortSeries => "expected 'ADD SERIES <dataset> <quantity> [axis]'"
  | .datasetNumber found =>
    s!"dataset number must be a non-negative integer, found '{found.str}'"
  | .axisNumber found => s!"axis index must be an integer, found '{found.str}'"
  | .addition found => s!"ADD must be followed by CHART or SERIES, found '{found.str}'"
  | .noDefine => "expected DEFINE"
  | .noName => "DEFINE needs a name"
  | .variableName found => s!"unresolved variable '{found.str}' in DEFINE name"
  | .nameNumber found => s!"dataset number out of range in DEFINE name '{found.str}'"
  | .noUnit name => s!"DEFINE {name.text.str} needs '=' and an expression"
  | .noEquals unit => s!"expected '=' after unit '{unit.str}'"
  | .noExpression name => s!"DEFINE {name.text.str} has an empty expression"
  | .stated message => message

end Fault

/-- A fault and the column it was found at, where that is known. -/
structure SyntaxError where
  column : Option Nat
  fault : Fault
  deriving DecidableEq, Repr

namespace SyntaxError

/-- The column for an offset at which no character begins: the offset itself, counted from 1
as a 64-bit number. -/
def columnOff (offset : Nat) : Nat := (offset + 1) % Decimal.wordLimit

/-- The column of the character that begins at a byte offset, counted from 1. -/
def columnAt (text : Text) (offset : Nat) : Nat := go 0 0 text
where
  go (chars bytes : Nat) : Text → Nat
    | [] => if bytes == offset then chars + 1 else columnOff offset
    | c :: rest =>
      if bytes == offset then chars + 1
      else if bytes > offset then columnOff offset
      else go (chars + 1) (bytes + c.utf8Size) rest

/-- The same error, found in a text that begins `count` characters further to the right. -/
def shifted (count : Nat) (e : SyntaxError) : SyntaxError :=
  { e with column := e.column.map (· + count) }

def message (e : SyntaxError) : String :=
  match e.column with
  | some column => s!"column {column}: {e.fault.message}"
  | none => e.fault.message

end SyntaxError

/-- Why a statement cannot be expanded. -/
inductive ExpandError where
  | malformed (line : Nat) (error : SyntaxError)
  | unknownList (line : Nat) (name : Text)
  deriving DecidableEq, Repr

namespace ExpandError

def ofFault (line : Nat) (fault : Fault) : ExpandError := .malformed line ⟨none, fault⟩

def line : ExpandError → Nat
  | .malformed line _ => line
  | .unknownList line _ => line

def column? : ExpandError → Option Nat
  | .malformed _ error => error.column
  | .unknownList _ _ => none

def kind : ExpandError → ErrorKind
  | .malformed _ _ => .form
  | .unknownList _ _ => .name

def message : ExpandError → String
  | .malformed line error => s!"line {line}: {error.message}"
  | .unknownList line name => s!"line {line}: list '{name.str}' not found"

end ExpandError

/-- Why a series cannot be added to a chart. -/
inductive ChartError where
  | noChart (line : Nat)
  | noDataset (line requested available : Nat)
  deriving DecidableEq, Repr

namespace ChartError

def line : ChartError → Nat
  | .noChart line => line
  | .noDataset line _ _ => line

def kind : ChartError → ErrorKind
  | .noChart _ => .form
  | .noDataset _ _ _ => .range

def message : ChartError → String
  | .noChart line => s!"line {line}: ADD CHART must come before adding a SERIES"
  | .noDataset line requested available =>
    s!"line {line}: dataset {requested} requested but only {available} loaded"

end ChartError

/-- Why a file cannot be read or written. -/
inductive FileError where
  | notFound
  | notADirectory
  | isADirectory
  | nameTooLong
  | nulInPath
  | other (reason : String)
  deriving DecidableEq, Repr

def FileError.message : FileError → String
  | .notFound => "No such file or directory (os error 2)"
  | .notADirectory => "Not a directory (os error 20)"
  | .isADirectory => "Is a directory (os error 21)"
  | .nameTooLong => "File name too long (os error 36)"
  | .nulInPath => "file name contained an unexpected NUL byte"
  | .other reason => reason

/-- A command file that cannot be read. -/
structure LoadError where
  path : Text
  cause : FileError
  deriving DecidableEq, Repr

namespace LoadError

def kind (_ : LoadError) : ErrorKind := .file

def message (error : LoadError) : String :=
  s!"cannot read command file '{error.path.str}': {error.cause.message}"

end LoadError

end ChartScript
