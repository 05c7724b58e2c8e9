import ChartScript.Marker
import ChartScript.Segment

/-!
# Unrolling loops

A loop is unrolled by writing its body once for every value, the values in order and for
each of them the lines of the body in order.  Markers are resolved before the values are
put in.

The loop variable is replaced first where it is written `${name}` and then where it is
written `$name`.
-/

namespace ChartScript.Loop

def bracedForm (var : Text) : Text := '$' :: '{' :: var ++ ['}']

def bareForm (var : Text) : Text := '$' :: var

def substitute (var value text : Text) : Text :=
  Text.replaceAll (bareForm var) value (Text.replaceAll (bracedForm var) value text)

def instantiate (var value : Text) (line : SourceLine) : SourceLine :=
  { line with text := (substitute var value line.text).trimStart }

/-- The lines that a loop with the given values stands for. -/
def unroll (datasets : Nat) (values : List Text) (loop : Loop) :
    Except ExpandError (List SourceLine) :=
  (SourceLine.resolveMarkers datasets loop.body).map fun lines =>
    values.flatMap fun value => lines.map (instantiate loop.var value)

/-- The values of a loop, given the lists defined so far. -/
def values (registry : Registry) (loop : Loop) : Except ExpandError (List Text) :=
  match loop.source with
  | .range values => .ok values
  | .list name =>
    match registry.get? name with
    | some values => .ok values
    | none => .error (.unknownList loop.line name)

end ChartScript.Loop
