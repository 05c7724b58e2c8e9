import ChartScript.CommandLine.Run

/-!
# The program

Reads the arguments, the environment and the files, lets the library do the work, and
prints what the run prints.
-/

namespace ChartScript.Program

def usage : String :=
  "Usage: [-q] (lines|expand|defines|charts) FILE [-n N] [--skip-errors]\n" ++
  "       expand: [--json]   charts: [-x RANGE] [-o FILE]"

/-- The character set that bytes seem to be in if they are no UTF-8. -/
def presumedCharset : Text := "ISO-8859-1".toList

def fileError : IO.Error → FileError
  | .noFileOrDirectory _ _ _ => .notFound
  | .inappropriateType _ _ details =>
    if details.toLower == "is a directory" then .isADirectory else .notADirectory
  | error => .other error.toString

def readFile (path : String) : IO (Except FileError (List UInt8)) := do
  try
    return .ok (← IO.FS.readBinFile path).toList
  catch error =>
    return .error (fileError error)

def writeFile (path content : String) : IO (Except FileError Unit) := do
  try
    IO.FS.writeFile path content
    return .ok ()
  catch error =>
    return .error (fileError error)

def readEntries (names : List Text) : IO Environment :=
  names.filterMapM fun name => do
    return (← IO.getEnv name.str).map fun value => (name, value.toList)

/-- The settings of the environment, completed from the settings file. -/
def readEnvironment : IO Environment := do
  let names := [casesSetting, policySetting, xRangeSetting]
  match ← readFile FileTree.settingsPath.str with
  | .ok bytes =>
    let entries ← readEntries (names ++ SettingsFile.namesIn bytes)
    return SettingsFile.load bytes entries
  | .error _ => readEntries names

/-- Carries out what the arguments ask for, and the exit status. -/
def run (arguments : List String) : IO UInt32 := do
  match CommandLine.read (arguments.map String.toList) with
  | none =>
    IO.eprintln usage
    return 2
  | some .help =>
    IO.println usage
    return 0
  | some (.run invocation) =>
    let environment ← readEnvironment
    let bytes ← readFile invocation.input.str
    let run := invocation.run environment presumedCharset bytes
    let transcript ←
      match run.saving? with
      | none => pure run.transcript
      | some saving => do
        let written ← writeFile saving.path.str saving.content.str
        pure (run.transcript.afterSaving saving written)
    IO.print (Transcript.printed transcript.output)
    IO.eprint (Transcript.printed transcript.messages)
    return transcript.status.toUInt32

end ChartScript.Program

def main (arguments : List String) : IO UInt32 := ChartScript.Program.run arguments
