import ChartScript.CommandLine
import ChartScript.Document
import ChartScript.FileTree
import ChartScript.SettingsFile

/-!
# Runs

A run prints lines as its output and lines as messages.  The log is among the messages,
unless the run is to be quiet, and so is the error that ends a run.  The document of the
charts may go to a file; then the messages say whether that file could be written.
-/

namespace ChartScript

/-- What a run prints, and its exit status. -/
structure Transcript where
  output : List String
  messages : List String
  status : Nat
  deriving DecidableEq, Repr

/-- A file that a run is to write, and what it prints once the file is written. -/
structure Saving where
  path : Text
  content : Text
  messages : List String
  deriving DecidableEq, Repr

/-- A run up to its end, or up to the file that it writes. -/
structure Run where
  transcript : Transcript
  saving? : Option Saving
  deriving DecidableEq, Repr

namespace Transcript

def fail (message : String) (transcript : Transcript) : Transcript :=
  { transcript with messages := transcript.messages ++ [s!"❌ Error: {message}"], status := 1 }

/-- The run goes on after its file. -/
def afterSaving (saving : Saving) (written : Except FileError Unit) (transcript : Transcript) :
    Transcript :=
  match written with
  | .error error => transcript.fail error.message
  | .ok () =>
    let messages := s!"💾 Output written to: {saving.path.str}" :: saving.messages
    { transcript with messages := transcript.messages ++ messages }

def printed (lines : List String) : String := String.join (lines.map (· ++ "\n"))

end Transcript

def alignRight (width n : Nat) : String :=
  let digits := Decimal.ofNat n
  String.ofList (List.replicate (width - digits.length) ' ' ++ digits)

namespace CommandFile

def numberedLines (file : CommandFile) : List String :=
  file.lines.map fun line => s!"{alignRight 5 line.number}  {line.text.str}"

def statementLines (json : Bool) (file : CommandFile) : List String :=
  if json then [(Json.array (file.statements.map Statement.toJson)).print.str]
  else file.processedLines.map Text.str

def definitionLines (file : CommandFile) : List String :=
  file.derived.entries.zipIdx.map fun (definition, position) =>
    let name := definition.name.text.str
    let expression := definition.expression.str
    s!"{alignRight 4 position}  {name}  {expression}  {definition.unit.str}"

end CommandFile

namespace Invocation

/-- The options that the environment and then the arguments give. -/
def options (environment : Environment) (invocation : Invocation) : List Event × Options :=
  let (events, options) := Options.standard.overlayAll environment
  (events,
    { datasets := invocation.cases?.getD options.datasets
      onError := if invocation.skipErrors then .skip else options.onError })

/-- The lines that the log of some events prints. -/
def echo (invocation : Invocation) (events : List Event) : List String :=
  if invocation.quiet then [] else events.map (·.entry.line)

/-- A count of skipped statements is worth a message. -/
def skippedMessage (count : Nat) (what : String) : List String :=
  if count = 0 then [] else [s!"⚠️  {count} {what} skipped"]

/-- Builds the charts of a file and prints or saves the document. -/
def runCharts (environment : Environment) (xRange? output? : Option Text)
    (messages : List String) (file : CommandFile) (invocation : Invocation) : Run :=
  let xRange := (xRange?.or (environment.lookup xRangeSetting)).getD []
  let report := file.document xRange
  let messages := messages ++ invocation.echo report.events
  match report.result with
  | .error error => ⟨Transcript.fail error.message ⟨[], messages, 0⟩, none⟩
  | .ok document =>
    let content := document.toJson.print
    let skipped := skippedMessage document.skipped.length "chart statement(s)"
    match output? with
    | none => ⟨⟨[content.str], messages ++ skipped, 0⟩, none⟩
    | some path => ⟨⟨[], messages, 0⟩, some { path, content, messages := skipped }⟩

/-- Carries out the command, given the bytes of its file and the character set that they
seem to be in. -/
def run (environment : Environment) (charset : Text) (bytes : Except FileError (List UInt8))
    (invocation : Invocation) : Run :=
  let (events, options) := invocation.options environment
  let report := CommandFile.ofFile options charset invocation.input bytes
  let messages := invocation.echo (events ++ report.events)
  match report.result with
  | .error failure => ⟨Transcript.fail failure.message ⟨[], messages, 0⟩, none⟩
  | .ok file =>
    match invocation.command with
    | .lines => ⟨⟨file.numberedLines, messages, 0⟩, none⟩
    | .expand json =>
      let skipped := skippedMessage file.skipped.length "statement(s)"
      ⟨⟨file.statementLines json, messages ++ skipped, 0⟩, none⟩
    | .defines => ⟨⟨file.definitionLines, messages, 0⟩, none⟩
    | .charts xRange? output? =>
      invocation.runCharts environment xRange? output? messages file

end Invocation

namespace FileTree

def settingsPath : Text := ".env".toList

def environment (given : Environment) (tree : FileTree) : Environment :=
  match tree.read settingsPath with
  | .ok bytes => SettingsFile.load bytes given
  | .error _ => given

/-- Carries out a command in a tree, and the tree after it. -/
def run (given : Environment) (charset : Text) (invocation : Invocation) (tree : FileTree) :
    Transcript × FileTree :=
  let run := invocation.run (tree.environment given) charset (tree.read invocation.input)
  match run.saving? with
  | none => (run.transcript, tree)
  | some saving =>
    match tree.write saving.path saving.content.str.toUTF8.toList with
    | .error error => (run.transcript.afterSaving saving (.error error), tree)
    | .ok tree => (run.transcript.afterSaving saving (.ok ()), tree)

end FileTree

end ChartScript
