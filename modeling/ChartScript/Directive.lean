import ChartScript.Definition

/-!
# Directives

A directive is what a line asks for once lists, loops and dataset markers are resolved: a
definition, a new chart, or a series on the current chart.  A line with another keyword is
passed through as it stands, without the white space in front of it.

`Directive.read` reads a line and `Directive.text` writes its canonical form.
-/

namespace ChartScript

inductive Directive where
  | define (definition : Definition)
  | addChart
  /-- A quantity of a dataset, which is counted from 1, and the index of an axis. -/
  | addSeries (dataset : Nat) (quantity : Text) (axis : Option Int)
  | passthrough (text : Text)
  deriving DecidableEq, Repr

namespace Directive

def addWord : Text := ['A', 'D', 'D']

def chartWord : Text := ['C', 'H', 'A', 'R', 'T']

def seriesWord : Text := ['S', 'E', 'R', 'I', 'E', 'S']

/-- The least index of an axis, a signed number of 32 bits. -/
def minAxis : Int := -2147483648

def maxAxis : Int := 2147483647

def text : Directive → Text
  | .define definition => definition.text
  | .addChart => Text.joinTokens [addWord, chartWord]
  | .addSeries dataset quantity axis =>
    Text.joinTokens ([addWord, seriesWord, Decimal.ofNat dataset, quantity]
      ++ (axis.map Decimal.ofInt).toList)
  | .passthrough text => text

def isPassthrough : Directive → Bool
  | .passthrough _ => true
  | _ => false

/-- The axis is the token after the quantity, if there is one. -/
def axisOfTokens : List Text → Except Fault (Option Int)
  | [] => .ok none
  | token :: _ =>
    match Decimal.between? minAxis maxAxis token with
    | some axis => .ok (some axis)
    | none => .error (.axisNumber token)

/-- Reads the tokens after `ADD SERIES`. -/
def ofSeriesTokens : List Text → Except Fault Directive
  | number :: quantity :: more =>
    match Decimal.below? Decimal.wordLimit number with
    | none => .error (.datasetNumber number)
    | some dataset =>
      match axisOfTokens more with
      | .error fault => .error fault
      | .ok axis => .ok (.addSeries dataset quantity axis)
  | _ => .error .shortSeries

/-- Reads the tokens after `ADD`. -/
def ofAddTokens : List Text → Except Fault Directive
  | [] => .error (.addition [])
  | word :: more =>
    if word = chartWord then .ok .addChart
    else if word = seriesWord then ofSeriesTokens more
    else .error (.addition word)

/-- Reads a line in which nothing is left to expand, so that the keywords of lists and
loops are out of place. -/
def read (line : SourceLine) : Except ExpandError Directive :=
  match Keyword.ofLine line.text with
  | .define => (Definition.read line).map .define
  | .add =>
    match ofAddTokens ((Text.tokens .blanks line.text).drop 1) with
    | .error fault => .error (.ofFault line.number fault)
    | .ok directive => .ok directive
  | .list | .loop | .next =>
    .error (.ofFault line.number (.blockKeyword (line.text.firstToken?.getD [])))
  | .other => .ok (.passthrough line.text.trimStart)

end Directive

/-- A directive and the number of the line it comes from. -/
structure Statement where
  line : Nat
  directive : Directive
  deriving DecidableEq, Repr

namespace Statement

def read (line : SourceLine) : Except ExpandError Statement :=
  match Directive.read line with
  | .error error => .error error
  | .ok directive => .ok { line := line.number, directive }

end Statement

end ChartScript
