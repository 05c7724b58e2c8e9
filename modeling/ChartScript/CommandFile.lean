import ChartScript.Chart
import ChartScript.Expansion
import ChartScript.LoadedFile

/-!
# Command files

A command file that has been loaded and expanded: its lines with the number of datasets put
in, the statements and lists that they come to, the table of definitions, and the errors
that were skipped on the way.
-/

namespace ChartScript

structure CommandFile where
  options : Options
  encoding : Text
  lines : List SourceLine
  statements : List Statement
  lists : Registry
  derived : DefinitionTable
  skipped : List ExpandError
  deriving DecidableEq

/-- Why a command file comes to nothing. -/
inductive Failure where
  | load (error : LoadError)
  | expand (error : ExpandError)
  deriving DecidableEq, Repr

namespace Failure

def kind : Failure → ErrorKind
  | .load error => error.kind
  | .expand error => error.kind

def message : Failure → String
  | .load error => error.message
  | .expand error => error.message

end Failure

namespace CommandFile

/-- The number of errors is reported if there are any. -/
def countEvents (event : Nat → Event) (count : Nat) : List Event :=
  if count = 0 then [] else [event count]

def ofLoaded (options : Options) (loaded : LoadedFile) : Report ExpandError CommandFile :=
  let lines := loaded.lines.map (SourceLine.withCases options.datasets)
  let report := Expansion.ofLines options lines
  match report.result with
  | .error error => ⟨report.events, .error error⟩
  | .ok expansion =>
    let derived := DefinitionTable.ofStatements expansion.statements
    { events :=
        report.events ++ .expanded expansion.statements.length derived.size ::
          countEvents .statementsSkipped expansion.skipped.length
      result :=
        .ok
          { options, encoding := loaded.encoding, lines, derived,
            statements := expansion.statements, lists := expansion.lists,
            skipped := expansion.skipped } }

def ofSource (options : Options) (source : Text) : Report ExpandError CommandFile :=
  ofLoaded options (LoadedFile.ofSource source)

/-- Expands the file at a path, given its bytes or the reason why there are none. -/
def ofFile (options : Options) (charset path : Text) (bytes : Except FileError (List UInt8)) :
    Report Failure CommandFile :=
  match bytes with
  | .error cause => ⟨[], .error (.load { path, cause })⟩
  | .ok bytes =>
    let loaded := LoadedFile.ofBytes charset bytes
    let report := ofLoaded options loaded
    ⟨.loaded loaded.lines.length path loaded.encoding :: report.events,
      report.result.mapError .expand⟩

/-- The statements as lines in their canonical form. -/
def processedLines (file : CommandFile) : List Text :=
  file.statements.map (·.directive.text)

/-- The position in the table of definitions of the name that is written `key`. -/
def derivedIndex? (file : CommandFile) (key : Text) : Option Nat :=
  file.derived.positionOf? key

/-- The charts of the file, all with one x-range. -/
def charts (xRange : Text) (file : CommandFile) : Report ChartError ChartSet :=
  let report := ChartSet.ofStatements file.options file.derived xRange file.statements
  match report.result with
  | .error error => ⟨report.events, .error error⟩
  | .ok set =>
    { events :=
        report.events ++ .chartsBuilt set.charts.length set.seriesCount ::
          countEvents .chartStatementsSkipped set.skipped.length
      result := .ok set }

end CommandFile

end ChartScript
