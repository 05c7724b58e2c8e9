import ChartScript.Event
import ChartScript.Text.Decimal
import ChartScript.Text.Lowercase

/-!
# Options

A run depends on the number of loaded datasets and on what to do with a statement that
fails: stop there, or report it and go on.  Settings that come from outside as text are
laid over the options; one that cannot be read is reported and left out.
-/

namespace ChartScript

inductive ErrorPolicy where
  | abort
  | skip
  deriving DecidableEq, Repr

namespace ErrorPolicy

def text : ErrorPolicy → Text
  | .abort => ['a', 'b', 'o', 'r', 't']
  | .skip => ['s', 'k', 'i', 'p']

def ofName? (name : Text) : Option ErrorPolicy :=
  if name = ErrorPolicy.abort.text then some .abort
  else if name = ErrorPolicy.skip.text then some .skip
  else none

/-- Reads a name without regard to case and surrounding white space.  The error is the name
that was understood. -/
def read (text : Text) : Except Text ErrorPolicy :=
  let name := text.trim.lowercase
  match ofName? name with
  | some policy => .ok policy
  | none => .error name

end ErrorPolicy

structure Options where
  datasets : Nat
  onError : ErrorPolicy
  deriving DecidableEq, Repr

namespace Options

/-- One dataset, and an error ends the run. -/
def standard : Options := { datasets := 1, onError := .abort }

/-- The options with a number of datasets that is given as text. -/
def overlayCases (raw : Text) (options : Options) : List Event × Options :=
  match Decimal.below? Decimal.wordLimit raw.trim with
  | some datasets => ([], { options with datasets })
  | none => ([.casesIgnored raw], options)

def overlayPolicy (raw : Text) (options : Options) : List Event × Options :=
  match ErrorPolicy.read raw with
  | .ok onError => ([], { options with onError })
  | .error name => ([.policyIgnored name], options)

/-- The options with the settings that are present laid over them. -/
def overlay (cases? policy? : Option Text) (options : Options) : List Event × Options :=
  let (casesEvents, options) := (cases?.map (overlayCases · options)).getD ([], options)
  let (policyEvents, options) := (policy?.map (overlayPolicy · options)).getD ([], options)
  (casesEvents ++ policyEvents, options)

end Options

end ChartScript
