import ChartScript.Text.Decimal

/-!
# The command line

    [-q] lines   FILE [-n N] [--skip-errors]
    [-q] expand  FILE [-n N] [--skip-errors] [--json]
    [-q] defines FILE [-n N] [--skip-errors]
    [-q] charts  FILE [-n N] [--skip-errors] [-x RANGE] [-o FILE]
    [-q] help    [COMMAND]

An option has a long name and may have a short one.  Short flags may share a dash.  The
value of an option is glued to its short name, or follows an equals sign, or is the next
argument, which must then not begin with a dash unless it is a single one.  After `--`
every argument is taken as it is.  No option may be given twice; `-q` may stand before the
command and after it.  Arguments count one after the other: `-h` asks for help whatever comes
after it, unless something before it will not do.
-/

namespace ChartScript

inductive Command where
  | lines
  | expand (json : Bool)
  | defines
  | charts (xRange? output? : Option Text)
  deriving DecidableEq, Repr

/-- What a run is asked to do. -/
structure Invocation where
  command : Command
  input : Text
  cases? : Option Nat
  skipErrors : Bool
  quiet : Bool
  deriving DecidableEq, Repr

inductive Request where
  | help
  | run (invocation : Invocation)
  deriving DecidableEq, Repr

namespace CommandLine

inductive Flag where
  | quiet
  | skipErrors
  | json
  | help
  deriving DecidableEq, Repr

inductive Setting where
  | cases
  | xRange
  | output
  deriving DecidableEq, Repr

/-- What a name on the command line means. -/
inductive Meaning where
  | flag (flag : Flag)
  | setting (setting : Setting)
  deriving DecidableEq, Repr

structure OptionRule where
  short? : Option Char
  long : Text
  meaning : Meaning
  deriving DecidableEq, Repr

/-- What an argument, or a part of one, says. -/
inductive Item where
  | flag (flag : Flag)
  | setting (setting : Setting) (value : Text)
  | file (path : Text)
  | unknown
  deriving DecidableEq, Repr

inductive CommandName where
  | lines
  | expand
  | defines
  | charts
  deriving DecidableEq, Repr

namespace CommandName

def all : List CommandName := [lines, expand, defines, charts]

def text : CommandName → Text
  | .lines => "lines".toList
  | .expand => "expand".toList
  | .defines => "defines".toList
  | .charts => "charts".toList

def ofText? (text : Text) : Option CommandName := all.find? fun name => name.text = text

end CommandName

def globalRules : List OptionRule :=
  [⟨some 'q', "quiet".toList, .flag .quiet⟩, ⟨some 'h', "help".toList, .flag .help⟩]

def rulesOf (name : CommandName) : List OptionRule :=
  globalRules
    ++ [⟨some 'n', "cases".toList, .setting .cases⟩,
        ⟨none, "skip-errors".toList, .flag .skipErrors⟩]
    ++ (if name = .expand then [⟨none, "json".toList, .flag .json⟩] else [])
    ++ (if name = .charts then
          [⟨some 'x', "xrange".toList, .setting .xRange⟩,
           ⟨some 'o', "output".toList, .setting .output⟩]
        else [])

def meaningOfLong? (rules : List OptionRule) (name : Text) : Option Meaning :=
  (rules.find? fun rule => rule.long = name).map (·.meaning)

def meaningOfShort? (rules : List OptionRule) (c : Char) : Option Meaning :=
  (rules.find? fun rule => rule.short? = some c).map (·.meaning)

/-- What an argument that begins with a dash comes to: items, and a setting whose value is
the next argument. -/
structure Dashed where
  items : List Item
  waiting? : Option Setting
  deriving DecidableEq, Repr

/-- Reads an argument after its two dashes. -/
def readLong (rules : List OptionRule) (body : Text) : Dashed :=
  let value? := (body.dropWhile (· != '=')).tail?
  match meaningOfLong? rules (body.takeWhile (· != '=')), value? with
  | some (.flag flag), none => ⟨[.flag flag], none⟩
  | some (.setting setting), some value => ⟨[.setting setting value], none⟩
  | some (.setting setting), none => ⟨[], some setting⟩
  | _, _ => ⟨[.unknown], none⟩

/-- Reads an argument after its dash. -/
def readShort (rules : List OptionRule) : Text → Dashed
  | [] => ⟨[], none⟩
  | c :: rest =>
    match meaningOfShort? rules c with
    | none => ⟨[.unknown], none⟩
    | some (.flag flag) =>
      let dashed := readShort rules rest
      { dashed with items := .flag flag :: dashed.items }
    | some (.setting setting) =>
      match rest with
      | [] => ⟨[], some setting⟩
      | '=' :: value => ⟨[.setting setting value], none⟩
      | value => ⟨[.setting setting value], none⟩

/-- Reads an argument that begins with a dash, after that dash. -/
def readDashed (rules : List OptionRule) : Text → Dashed
  | '-' :: body => readLong rules body
  | body => readShort rules body

/-- An argument that may be the value of an option before it. -/
def isValue (argument : Text) : Bool := argument.head? != some '-' || argument == ['-']

/-- What the arguments of a command say, one after the other.  Nothing counts after
something that cannot be understood. -/
def readItems (rules : List OptionRule) : List Text → List Item
  | [] => []
  | argument :: arguments =>
    match argument with
    | ['-', '-'] => arguments.map .file
    | '-' :: c :: rest =>
      match readDashed rules (c :: rest), arguments with
      | ⟨items, none⟩, arguments => items ++ readItems rules arguments
      | ⟨items, some _⟩, [] => items ++ [.unknown]
      | ⟨items, some setting⟩, value :: arguments =>
        if isValue value then items ++ .setting setting value :: readItems rules arguments
        else items ++ [.unknown]
    | path => .file path :: readItems rules arguments

/-- What the items so far come to. -/
structure Draft where
  quiet : Bool
  skipErrors : Bool
  json : Bool
  help : Bool
  cases? : Option Nat
  xRange? : Option Text
  output? : Option Text
  input? : Option Text
  deriving DecidableEq, Repr

namespace Draft

def empty : Draft := ⟨false, false, false, false, none, none, none, none⟩

/-- Adds an item, unless there is one like it or its value will not do. -/
def add (draft : Draft) : Item → Option Draft
  | .flag .quiet => if draft.quiet then none else some { draft with quiet := true }
  | .flag .skipErrors => if draft.skipErrors then none else some { draft with skipErrors := true }
  | .flag .json => if draft.json then none else some { draft with json := true }
  | .flag .help => some { draft with help := true }
  | .setting .cases value =>
    match draft.cases?, Decimal.below? Decimal.wordLimit value with
    | none, some cases => some { draft with cases? := some cases }
    | _, _ => none
  | .setting .xRange value =>
    if draft.xRange?.isSome then none else some { draft with xRange? := some value }
  | .setting .output path =>
    if draft.output?.isSome || path.isEmpty then none else some { draft with output? := some path }
  | .file path =>
    if draft.input?.isSome || path.isEmpty then none else some { draft with input? := some path }
  | .unknown => none

/-- Adds items up to a call for help. -/
def addAll (draft : Draft) : List Item → Option Draft
  | [] => some draft
  | item :: items =>
    match draft.add item with
    | none => none
    | some draft => if draft.help then some draft else addAll draft items

def command (name : CommandName) (draft : Draft) : Command :=
  match name with
  | .lines => .lines
  | .expand => .expand draft.json
  | .defines => .defines
  | .charts => .charts draft.xRange? draft.output?

/-- What the items of a command ask for; it needs a file. -/
def request? (quiet : Bool) (name : CommandName) (draft : Draft) : Option Request :=
  if draft.help then some .help
  else
    draft.input?.map fun input =>
      .run
        { command := draft.command name, input, cases? := draft.cases?
          skipErrors := draft.skipErrors, quiet := quiet || draft.quiet }

end Draft

def helpWord : Text := "help".toList

/-- What the arguments after the word for help ask for: at most one command is named. -/
def readHelp : List Text → Option Request
  | [] => some .help
  | [word] => if word = helpWord || (CommandName.ofText? word).isSome then some .help else none
  | _ => none

def readCommand (quiet : Bool) (word : Text) (arguments : List Text) : Option Request :=
  if word = helpWord then readHelp arguments
  else
    match CommandName.ofText? word with
    | none => none
    | some name =>
      match Draft.empty.addAll (readItems (rulesOf name) arguments) with
      | none => none
      | some draft => draft.request? quiet name

/-- Reads the arguments of the program, after items that stand before the command. -/
def readFrom (draft : Draft) : List Text → Option Request
  | [] => none
  | argument :: arguments =>
    match argument with
    | ['-', '-'] => none
    | '-' :: c :: rest =>
      match draft.addAll (readDashed globalRules (c :: rest)).items with
      | none => none
      | some draft => if draft.help then some .help else readFrom draft arguments
    | word => readCommand draft.quiet word arguments

/-- What the arguments of the program ask for; none if they cannot be understood. -/
def read (arguments : List Text) : Option Request := readFrom .empty arguments

end CommandLine

end ChartScript
