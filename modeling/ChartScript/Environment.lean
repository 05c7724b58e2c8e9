import ChartScript.Options
import ChartScript.Text.Search

/-!
# Settings from the environment

The environment maps names to values.  Three names are settings: the number of datasets,
the error policy and the x-range of the charts.

An entry is written `NAME=VALUE`, and a reference is resolved in the entries as they are
written.  So a name with an equals sign in it reaches into a value: where `A` is `b=c`, the
name `A=b` means `c`.  For every other name a reference means the value of the name.
-/

namespace ChartScript

/-- The value of every name; the first one counts. -/
abbrev Environment := List (Text × Text)

def casesSetting : Text := "CMDF_NUM_CASES".toList

def policySetting : Text := "CMDF_ON_ERROR".toList

def xRangeSetting : Text := "CMDF_XRANGE".toList

namespace Environment

def entryText (entry : Text × Text) : Text := entry.1 ++ '=' :: entry.2

/-- What a reference means: the rest of the first entry that begins with the name and an
equals sign.  A reference needs a name. -/
def referenced? (environment : Environment) (name : Text) : Option Text :=
  if name.isEmpty then none
  else environment.findSome? fun entry => Text.after? (name ++ ['=']) (entryText entry)

end Environment

/-- The options with the settings of an environment laid over them. -/
def Options.overlayAll (environment : Environment) (options : Options) : List Event × Options :=
  options.overlay (environment.lookup casesSetting) (environment.lookup policySetting)

end ChartScript
