import ChartScript.Loop.Unroll
import ChartScript.Options

/-!
# Expansion

Expansion turns the lines of a file into statements.  Its segments are taken in order: a
list statement changes the registry, a loop is unrolled with the lists defined so far, and
the markers of a plain line are resolved.  The lines that result are read as directives.

A segment that fails contributes nothing.  Under the policy `abort` its error ends the
expansion; under `skip` the error is kept and the next segment follows with the registry as
it was.
-/

namespace ChartScript

/-- The statements of a file, the errors that were skipped, and the lists at the end. -/
structure Expansion where
  statements : List Statement
  skipped : List ExpandError
  lists : Registry
  deriving DecidableEq

namespace Statement

/-- A line that is passed through is an event. -/
def event? (statement : Statement) : Option Event :=
  if statement.directive.isPassthrough then
    some (.passedThrough statement.line statement.directive.text)
  else none

/-- Reads lines one after the other, up to the first error. -/
def readAll (lines : List SourceLine) : Report ExpandError (List Statement) :=
  let found := lines.map read
  { events :=
      (found.takeWhile (·.isOk)).filterMap fun
        | .ok statement => statement.event?
        | .error _ => none
    result := found.mapM id }

end Statement

namespace Loop

/-- The lines that a loop stands for, given the lists defined so far. -/
def resolve (datasets : Nat) (registry : Registry) (loop : Loop) :
    Report ExpandError (List SourceLine) :=
  match loop.values registry with
  | .error error => ⟨[], .error error⟩
  | .ok values =>
    ⟨[.loop loop.line loop.var values.length loop.body.length], loop.unroll datasets values⟩

end Loop

namespace Block

/-- The lines that a block stands for, with nothing left to expand. -/
def resolve (datasets : Nat) (registry : Registry) :
    Block → Report ExpandError (List SourceLine)
  | .list _ => ⟨[], .ok []⟩
  | .loop block => block.resolve datasets registry
  | .plain line => ⟨[], line.resolveMarker datasets⟩

def updateLists (registry : Registry) : Block → Except ExpandError Registry
  | .list statement => registry.apply statement
  | _ => .ok registry

def read (datasets : Nat) (registry : Registry) (block : Block) :
    Report ExpandError (List Statement) :=
  let lines := block.resolve datasets registry
  match lines.result with
  | .error error => ⟨lines.events, .error error⟩
  | .ok found =>
    let statements := Statement.readAll found
    ⟨lines.events ++ statements.events, statements.result⟩

/-- What a block does: the lists after it, and its statements. -/
def run (datasets : Nat) (registry : Registry) (block : Block) :
    Report ExpandError (Registry × List Statement) :=
  match block.updateLists registry with
  | .error error => ⟨[], .error error⟩
  | .ok lists =>
    let statements := block.read datasets registry
    ⟨statements.events, statements.result.map fun statements => (lists, statements)⟩

end Block

namespace Segment

def run (datasets : Nat) (registry : Registry) (segment : Segment) :
    Report ExpandError (Registry × List Statement) :=
  match segment.block with
  | .error error => ⟨[], .error error⟩
  | .ok block => block.run datasets registry

end Segment

namespace Expansion

def prepend (statements : List Statement) (expansion : Expansion) : Expansion :=
  { expansion with statements := statements ++ expansion.statements }

/-- The expansion with the error of an earlier segment in front. -/
def prependSkipped (error : ExpandError) (expansion : Expansion) : Expansion :=
  { expansion with skipped := error :: expansion.skipped }

def ofSegments (options : Options) (registry : Registry) :
    List Segment → Report ExpandError Expansion
  | [] => ⟨[], .ok { statements := [], skipped := [], lists := registry }⟩
  | segment :: rest =>
    let first := segment.run options.datasets registry
    match first.result with
    | .ok (registry, statements) =>
      let others := ofSegments options registry rest
      ⟨first.events ++ others.events, others.result.map (prepend statements)⟩
    | .error error =>
      match options.onError with
      | .abort => ⟨first.events, .error error⟩
      | .skip =>
        let others := ofSegments options registry rest
        ⟨first.events ++ .statementSkipped error :: others.events,
          others.result.map (prependSkipped error)⟩

def ofLines (options : Options) (lines : List SourceLine) : Report ExpandError Expansion :=
  ofSegments options .empty (segments lines)

end Expansion

end ChartScript
