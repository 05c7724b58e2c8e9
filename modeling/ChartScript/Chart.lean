import ChartScript.DefinitionTable
import ChartScript.Options

/-!
# Charts

`ADD CHART` opens a chart, and every `ADD SERIES` adds to the chart that was opened last.
All charts share one x-range, which comes from outside.  A series belongs to a loaded
dataset: a line counts the datasets from 1, a chart from 0.

A series without a chart to take it is refused, and so is one whose dataset is not loaded;
without a chart the number of the dataset does not matter.
-/

namespace ChartScript

structure Series where
  /-- The number of the dataset, counted from 0. -/
  dataset : Nat
  quantity : Text
  axis : Option Int
  isDerived : Bool
  deriving DecidableEq, Repr

structure Chart where
  series : List Series
  xRange : Text
  deriving DecidableEq, Repr

/-- Charts in the making: the series of the charts that are finished, and those of the
chart that is open.  The latest chart and the latest series come first. -/
structure ChartDraft where
  finished : List (List Series)
  current? : Option (List Series)
  deriving DecidableEq, Repr

/-- The index of the axis of a series, where -1 stands for none. -/
def Series.axisIndex (series : Series) : Int := series.axis.getD (-1)

namespace ChartDraft

def empty : ChartDraft := ⟨[], none⟩

def charts (xRange : Text) (draft : ChartDraft) : List Chart :=
  ((draft.current?.toList ++ draft.finished).map fun series =>
    { series := series.reverse, xRange }).reverse

def add (datasets : Nat) (table : DefinitionTable) (statement : Statement)
    (draft : ChartDraft) : Except ChartError ChartDraft :=
  match statement.directive with
  | .addChart => .ok ⟨draft.current?.toList ++ draft.finished, some []⟩
  | .addSeries dataset quantity axis =>
    match draft.current? with
    | none => .error (.noChart statement.line)
    | some current =>
      if 1 ≤ dataset ∧ dataset ≤ datasets then
        let isDerived := table.contains { dataset, name := quantity }
        let series : Series := { dataset := dataset - 1, quantity, axis, isDerived }
        .ok { draft with current? := some (series :: current) }
      else .error (.noDataset statement.line dataset datasets)
  | _ => .ok draft

end ChartDraft

/-- The charts of a file, and the errors that were skipped. -/
structure ChartSet where
  charts : List Chart
  skipped : List ChartError
  deriving DecidableEq, Repr

namespace ChartSet

def seriesCount (set : ChartSet) : Nat := (set.charts.flatMap (·.series)).length

/-- The set with the error of an earlier statement in front. -/
def prependSkipped (error : ChartError) (set : ChartSet) : ChartSet :=
  { set with skipped := error :: set.skipped }

/-- Carries out statements, beginning with a draft. -/
def ofDraft (options : Options) (table : DefinitionTable) (xRange : Text) (draft : ChartDraft) :
    List Statement → Report ChartError ChartSet
  | [] => ⟨[], .ok { charts := draft.charts xRange, skipped := [] }⟩
  | statement :: rest =>
    match draft.add options.datasets table statement with
    | .ok draft => ofDraft options table xRange draft rest
    | .error error =>
      match options.onError with
      | .abort => ⟨[], .error error⟩
      | .skip =>
        let others := ofDraft options table xRange draft rest
        ⟨.seriesSkipped error :: others.events, others.result.map (prependSkipped error)⟩

/-- The charts that statements describe. -/
def ofStatements (options : Options) (table : DefinitionTable) (xRange : Text)
    (statements : List Statement) : Report ChartError ChartSet :=
  ofDraft options table xRange .empty statements

end ChartSet

end ChartScript
