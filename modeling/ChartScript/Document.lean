import ChartScript.CommandFile
import ChartScript.Json.Record

/-!
# Documents

What a chart renderer receives: the charts, the table of definitions and, if there are any,
the messages of the chart statements that were skipped.  This module gives the domain its
JSON forms and reads back those that stand on their own.
-/

namespace ChartScript

open Json (field field? required)

namespace SourceLine

def toJson (line : SourceLine) : Json :=
  .object (field "number" (.ofNat line.number) ++ field "text" (.string line.text))

def ofJson? (value : Json) : Option SourceLine :=
  match Json.fieldValues? [required "number", required "text"] value with
  | some [some number, some text] => do
    let number ← Json.nat? Decimal.wordLimit number
    let text ← Json.text? text
    some { number, text }
  | _ => none

end SourceLine

namespace QualifiedName

def toJson (name : QualifiedName) : Json := .string name.text

def ofJson? (value : Json) : Option QualifiedName := value.text?.bind parse?

end QualifiedName

namespace Definition

def toJson (definition : Definition) : Json :=
  .object
    (field "name" definition.name.toJson ++ field "expression" (.string definition.expression)
      ++ field "unit" (.string definition.unit))

def ofJson? (value : Json) : Option Definition :=
  match Json.fieldValues? [required "name", required "expression", required "unit"] value with
  | some [some name, some expression, some unit] => do
    let name ← QualifiedName.ofJson? name
    let expression ← Json.text? expression
    let unit ← Json.text? unit
    some { name, expression, unit }
  | _ => none

end Definition

namespace Series

def toJson (series : Series) : Json :=
  .object
    (field "datasetIndex" (.ofNat series.dataset) ++ field "quantity" (.string series.quantity)
      ++ field? "axis" (series.axis.map .ofInt) ++ field "isDerived" (.bool series.isDerived))

/-- An axis that is given may also be given as null. -/
def axisOfJson? : Option Json → Option (Option Int)
  | none | some .null => some none
  | some value => (Json.int? Directive.minAxis Directive.maxAxis value).map some

def rules : List Json.FieldRule :=
  [required "datasetIndex", required "quantity", ⟨"axis".toList, .fromObject⟩,
    required "isDerived"]

def ofJson? (value : Json) : Option Series :=
  match Json.fieldValues? rules value with
  | some [some dataset, some quantity, axis?, some isDerived] => do
    let dataset ← Json.nat? Decimal.wordLimit dataset
    let quantity ← Json.text? quantity
    let axis ← axisOfJson? axis?
    let isDerived ← Json.bool? isDerived
    some { dataset, quantity, axis, isDerived }
  | _ => none

end Series

namespace Chart

def toJson (chart : Chart) : Json :=
  .object
    (field "series" (.array (chart.series.map Series.toJson))
      ++ field "xRange" (.string chart.xRange))

def ofJson? (value : Json) : Option Chart :=
  match Json.fieldValues? [required "series", required "xRange"] value with
  | some [some series, some xRange] => do
    let series ← Json.list? Series.ofJson? series
    let xRange ← Json.text? xRange
    some { series, xRange }
  | _ => none

end Chart

namespace ErrorPolicy

def toJson (policy : ErrorPolicy) : Json := .string policy.text

def ofJson? (value : Json) : Option ErrorPolicy := value.word?.bind ofName?

end ErrorPolicy

namespace Options

def toJson (options : Options) : Json :=
  .object (field "num_datasets" (.ofNat options.datasets) ++
    field "on_error" options.onError.toJson)

/-- Without a policy an error ends the run. -/
def ofJson? (value : Json) : Option Options :=
  match Json.fieldValues? [required "num_datasets", ⟨"on_error".toList, .always⟩] value with
  | some [some datasets, policy?] => do
    let datasets ← Json.nat? Decimal.wordLimit datasets
    let onError ← (policy?.map ErrorPolicy.ofJson?).getD (some .abort)
    some { datasets, onError }
  | _ => none

end Options

namespace ListOperation

def toJson (operation : ListOperation) : Json := .string operation.word

def ofJson? (value : Json) : Option ListOperation := value.word?.bind ofWord?

end ListOperation

namespace LogEntry

def toJson (entry : LogEntry) : Json :=
  .object
    (field "level" (.ofString entry.level.text) ++ field "message" (.ofString entry.message)
      ++ field "indent" (.ofNat entry.indent))

/-- One more than the deepest indent. -/
def indentLimit : Nat := 256

/-- Without an indent the entry is not nested. -/
def ofJson? (value : Json) : Option LogEntry :=
  match Json.fieldValues?
    [required "level", required "message", ⟨"indent".toList, .always⟩] value with
  | some [some level, some message, indent?] => do
    let word ← level.word?
    let level ← LogLevel.ofText? word.str
    let message ← message.text?
    let indent ← (indent?.map (Json.nat? indentLimit)).getD (some 0)
    some { level, message := message.str, indent }
  | _ => none

end LogEntry

namespace Statement

def toJson (statement : Statement) : Json :=
  let fields : List (Text × Json) :=
    match statement.directive with
    | .define definition =>
      field "kind" (.ofString "define") ++ field "name" definition.name.toJson
        ++ field "unit" (.string definition.unit)
        ++ field "expr" (.string definition.expression)
    | .addChart => field "kind" (.ofString "addChart")
    | .addSeries dataset quantity axis =>
      field "kind" (.ofString "addSeries") ++ field "dataset" (.ofNat dataset)
        ++ field "quantity" (.string quantity) ++ field? "axis" (axis.map .ofInt)
    | .passthrough text => field "kind" (.ofString "passthrough") ++ field "text" (.string text)
  .object (field "line" (.ofNat statement.line) ++ fields)

end Statement

/-- What a chart renderer receives. -/
structure Document where
  charts : List Chart
  derived : DefinitionTable
  skipped : List String
  deriving DecidableEq

namespace Document

def toJson (document : Document) : Json :=
  let messages := document.skipped.map Json.ofString
  .object
    (field "charts" (.array (document.charts.map Chart.toJson))
      ++ field "derived" (.array (document.derived.entries.map Definition.toJson))
      ++ if messages.isEmpty then [] else field "skipped" (.array messages))

end Document

namespace CommandFile

/-- The document for a renderer, with the x-range of all charts. -/
def document (xRange : Text) (file : CommandFile) : Report ChartError Document :=
  let report := file.charts xRange
  { events := report.events
    result :=
      report.result.map fun set =>
        { charts := set.charts, derived := file.derived, skipped := set.skipped.map (·.message) } }

end CommandFile

end ChartScript
